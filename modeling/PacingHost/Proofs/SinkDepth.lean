import PacingHost.Proofs.SinkOverrun

/-! # Counting what waits

The depth of a queue is counted in 32 bits, and so are the depths a burst is told. The thresholds of
a sink have to fit these counts, but a queue may stand one buffer above the max threshold. So the
counts of a sink with a software queue are those of its bytes in every run exactly when the max
threshold and one buffer fit together. Where they do not, a queue filled to the threshold takes one
more buffer, its count starts over, and the next burst is queued on top of that.
-/

namespace PacingHost

namespace Sink

/-- A sink that was opened with a software queue has an empty one, whose buffers hold eight bytes
for each frame that was asked for. -/
theorem wrap_of_software {request : Request} {thresholds : Thresholds} {sink : Sink}
    (opened : (ofRequest .software request thresholds).result = .ok sink) :
    ∃ format : Format, format.channels = stereo ∧
      format.bufferSize.toNat = 8 * request.frames.toNat ∧
      (wrap (.ofFormat format) thresholds).result = .ok sink := by
  obtain ⟨queue, found, wrapped⟩ := Report.result_bind_eq_ok_iff.mp opened
  have found := Report.result_mapFailure_eq_ok_iff.mp found
  obtain ⟨format, granted, told⟩ := Report.result_bind_eq_ok_iff.mp found
  cases told
  obtain ⟨_, _, _, two, size⟩ := (request.negotiate_eq_ok_iff format).mp granted
  exact ⟨format, two, size, wrapped⟩

variable {sink next final : Sink} {steps : List SinkStep}

/-- The counts of a run are those of its bytes: in the end, for every burst that was queued, and so
in the choice which bursts to queue. -/
structure Counted (steps : List SinkStep) (final : Sink) : Prop where
  depth : final.depth = final.queue.bytes.length
  after : ∀ step ∈ steps, ∀ first last started,
    step.answer = .rendered (.queued first last started) → last = step.after.queue.bytes.length
  room : ∀ step ∈ steps, ∀ first last started,
    step.answer = .rendered (.queued first last started) →
    step.before.queue.bytes.length < step.before.gate.maxBytes

/-- No count of a run can be trusted: not the one in the end, not the one a burst was told, and a
burst was queued although the queue stood at the max threshold. -/
structure Miscounted (steps : List SinkStep) (final : Sink) : Prop where
  depth : final.depth ≠ final.queue.bytes.length
  after : ∃ step ∈ steps, ∃ first last started,
    step.answer = .rendered (.queued first last started) ∧ last ≠ step.after.queue.bytes.length
  room : ∃ step ∈ steps, ∃ first last started,
    step.answer = .rendered (.queued first last started) ∧
    step.before.gate.maxBytes ≤ step.before.queue.bytes.length

/-- Only bursts are rendered. -/
theorem Handles.offered {call : SinkCall} {answer : SinkAnswer} {outcome : Drained}
    (handled : sink.Handles call answer next) (rendered : answer = .rendered outcome) :
    ∃ burst, call = .render burst := by
  cases handled with
  | dropped | waited | started => exact ⟨_, rfl⟩
  | flushed | read | consumed => cases rendered

/-- While nothing is cut off a count, a run is counted. -/
theorem Bounded.counted (bounded : Bounded sink) (run : Run Handles sink steps final) :
    Counted steps final := by
  obtain ⟨ends, each⟩ := run.invariant Bounded.handles bounded
  have metered : ∀ step ∈ steps, ∀ first last started,
      step.answer = .rendered (.queued first last started) →
      step.before.queue.bytes.length < step.before.gate.maxBytes ∧
        last = step.after.queue.bytes.length := by
    intro step member first last started answered
    obtain ⟨kept, handled⟩ := each step member
    obtain ⟨burst, offered⟩ := handled.offered answered
    obtain ⟨same, room, exact, _⟩ :=
      (kept.metered handled offered answered).queued first last started rfl
    exact ⟨same ▸ room, exact⟩
  exact {
    depth := ends.depth_eq
    after := fun step member first last started answered =>
      (metered step member first last started answered).2
    room := fun step member first last started answered =>
      (metered step member first last started answered).1 }

/-- A burst that finds room is queued in full. -/
theorem Handles.queued_of_room {call : SinkCall} {answer : SinkAnswer} {burst : Burst}
    (handled : sink.Handles call answer next) (offered : call = .render burst)
    (room : sink.depth < sink.gate.maxBytes) :
    (∃ started, answer = .rendered (.queued sink.depth (sink.depthWith burst) started)) ∧
      next.queue.bytes.length = sink.queue.bytes.length + (sink.widen burst).length := by
  cases handled with
  | dropped full => exact absurd room (Nat.not_lt.mpr full)
  | waited =>
    cases offered
    exact ⟨⟨false, rfl⟩, List.length_append⟩
  | started =>
    cases offered
    exact ⟨⟨true, rfl⟩, List.length_append⟩
  | flushed | read | consumed => cases offered

theorem Regular.length_widen_ofFrames (regular : Regular sink) (count : Nat) :
    (sink.widen (.ofFrames count)).length = 4 * min count (sink.format.bufferSize.toNat / 4) := by
  rw [length_widen, Burst.fitting_ofFrames, regular.capacity, stereoFrame_eq]

/-- Frame by frame up to the max threshold, one buffer on top, and a frame more. -/
def overfilling (frames bufferSize : Nat) : List SinkCall :=
  List.replicate frames (.render (.ofFrames 1)) ++
    [.render (.ofFrames (bufferSize / 4)), .render (.ofFrames 1)]

/-- A run that miscounts goes on miscounting with a step before it. -/
theorem Miscounted.cons (miscounted : Miscounted steps final) (step : SinkStep) :
    Miscounted (step :: steps) final where
  depth := miscounted.depth
  after := by
    obtain ⟨other, member, wrong⟩ := miscounted.after
    exact ⟨other, List.mem_cons_of_mem _ member, wrong⟩
  room := by
    obtain ⟨other, member, wrong⟩ := miscounted.room
    exact ⟨other, List.mem_cons_of_mem _ member, wrong⟩

section Overfilling

variable {maxBytes bufferSize : Nat}

/-- One frame below the max threshold, a buffer that does not fit the count starts it over. -/
theorem Regular.miscounted_at_top (regular : Regular sink)
    (level : sink.gate.maxBytes = maxBytes) (size : sink.format.bufferSize.toNat = bufferSize)
    (even : maxBytes % 8 = 0 ∧ bufferSize % 8 = 0) (exceeds : Word.limit < maxBytes + bufferSize)
    (top : sink.queue.bytes.length + 4 = maxBytes) (run : Run Handles sink steps final)
    (made : steps.map Step.call = overfilling 0 bufferSize) : Miscounted steps final := by
  have limit : Word.limit = 4294967296 := rfl
  have counted := regular.counted
  have word : bufferSize < Word.limit := size ▸ sink.format.bufferSize.toNat_lt
  obtain ⟨answer, middle, rest, rfl, first, run, made⟩ := run.uncons made
  obtain ⟨answer', last, rest, rfl, second, run, made⟩ := run.uncons made
  cases List.map_eq_nil_iff.mp made
  cases run
  obtain ⟨format, _, _, same⟩ := first.frame
  have kept := regular.handles first
  -- The buffer finds room, and the queue stands above the limit with it.
  have depth : sink.depth = sink.queue.bytes.length := Nat.mod_eq_of_lt (by omega)
  obtain ⟨⟨started, queued⟩, grown⟩ := first.queued_of_room rfl (by omega)
  have long := regular.length_widen_ofFrames (bufferSize / 4)
  rw [size] at long
  -- Its count has started over, so one more frame finds room.
  have wrapped : middle.depth = middle.queue.bytes.length - Word.limit := by
    change middle.queue.bytes.length % Word.limit = _
    rw [Nat.mod_eq_sub_mod (by omega), Nat.mod_eq_of_lt (by omega)]
  obtain ⟨⟨started', queued'⟩, grown'⟩ := second.queued_of_room rfl (by omega)
  have short := kept.length_widen_ofFrames 1
  rw [format, size] at short
  exact {
    depth := by
      change final.queue.bytes.length % Word.limit ≠ _
      have := Nat.mod_lt final.queue.bytes.length (show 0 < Word.limit by omega)
      omega
    after := by
      refine ⟨_, List.mem_cons_self, _, _, started, queued, ?_⟩
      change Gate.depthAfter _ _ ≠ middle.queue.bytes.length
      rw [Gate.depthAfter]
      omega
    room := by
      refine ⟨_, List.mem_cons_of_mem _ List.mem_cons_self, _, _, started', queued', ?_⟩
      change middle.gate.maxBytes ≤ middle.queue.bytes.length
      omega }

/-- Where the max threshold and one buffer do not fit together, such a run miscounts. -/
theorem Regular.miscounted_of_overfilling (regular : Regular sink) {frames : Nat}
    (level : sink.gate.maxBytes = maxBytes) (size : sink.format.bufferSize.toNat = bufferSize)
    (even : maxBytes % 8 = 0 ∧ bufferSize % 8 = 0) (exceeds : Word.limit < maxBytes + bufferSize)
    (below : sink.queue.bytes.length + 4 * frames + 4 = maxBytes)
    (run : Run Handles sink steps final)
    (made : steps.map Step.call = overfilling frames bufferSize) : Miscounted steps final := by
  induction frames generalizing sink steps with
  | zero => exact regular.miscounted_at_top level size even exceeds below run made
  | succ frames ih =>
    have limit : Word.limit = 4294967296 := rfl
    have counted := regular.counted
    obtain ⟨answer, next, rest, rfl, first, later, made⟩ := run.uncons made
    obtain ⟨format, _, _, same⟩ := first.frame
    have depth : sink.depth = sink.queue.bytes.length := Nat.mod_eq_of_lt (by omega)
    have grown := (first.queued_of_room rfl (by omega)).2
    have short := regular.length_widen_ofFrames 1
    refine (ih (regular.handles first) (same.trans level) ?_ (by omega) later made).cons _
    rw [format, size]

end Overfilling

variable {request : Request} {thresholds : Thresholds}

/-- The max threshold of a software queue, in bytes, and the size of its buffers. -/
theorem Regular.of_software
    (opened : (ofRequest .software request thresholds).result = .ok sink) :
    Regular sink ∧ sink.queue.bytes = [] ∧ sink.format.bufferSize.toNat = 8 * request.frames.toNat ∧
      sink.gate.maxBytes = thresholds.max.toNat * (8 * request.frames.toNat) := by
  obtain ⟨format, two, size, wrapped⟩ := wrap_of_software opened
  have regular := Regular.of_wrap rfl two wrapped
  obtain ⟨_, gate, levels, rfl⟩ := eq_of_wrap_eq_ok wrapped
  obtain ⟨_, _, _, rfl⟩ := (Gate.ofThresholds_eq_ok_iff _ _ _).mp levels
  exact ⟨regular, rfl, size, congrArg _ size⟩

theorem counted_of_software
    (opened : (ofRequest .software request thresholds).result = .ok sink)
    (fits : (thresholds.max.toNat + 1) * (8 * request.frames.toNat) ≤ Word.limit)
    (calls : List SinkCall) :
    ∃ steps final, (performAll perform sink calls).result = .ok (steps, final) ∧
      steps.map Step.call = calls ∧ Counted steps final := by
  obtain ⟨regular, empty, size, level⟩ := Regular.of_software opened
  have positive := regular.positive
  have ordered := regular.ordered
  rw [Nat.succ_mul, ← level, ← size] at fits
  have bounded : Bounded sink := ⟨regular, fits, by rw [empty, List.length_nil]; omega⟩
  obtain ⟨steps, final, ran, made, run⟩ := performAll_runs regular.channels calls
  exact ⟨steps, final, ran, made, bounded.counted run⟩

theorem miscounted_of_software
    (opened : (ofRequest .software request thresholds).result = .ok sink)
    (exceeds : Word.limit < (thresholds.max.toNat + 1) * (8 * request.frames.toNat)) :
    ∃ steps final,
      (performAll perform sink (overfilling (sink.gate.maxBytes / 4 - 1)
        sink.format.bufferSize.toNat)).result = .ok (steps, final) ∧ Miscounted steps final := by
  obtain ⟨regular, empty, size, level⟩ := Regular.of_software opened
  have positive := regular.positive
  have ordered := regular.ordered
  rw [Nat.succ_mul, ← level, ← size] at exceeds
  have even : sink.gate.maxBytes % 8 = 0 ∧ sink.format.bufferSize.toNat % 8 = 0 := by
    rw [level, size, Nat.mul_left_comm]
    exact ⟨Nat.mul_mod_right 8 _, Nat.mul_mod_right 8 _⟩
  have below : sink.queue.bytes.length + 4 * (sink.gate.maxBytes / 4 - 1) + 4 =
      sink.gate.maxBytes := by
    rw [empty, List.length_nil]
    omega
  obtain ⟨steps, final, ran, made, run⟩ := performAll_runs regular.channels
    (overfilling (sink.gate.maxBytes / 4 - 1) sink.format.bufferSize.toNat)
  exact ⟨steps, final, ran, regular.miscounted_of_overfilling rfl rfl even exceeds below run made⟩

/-- The counts of a sink with a software queue are those of its bytes in every run if its max
threshold and one buffer more fit 32 bits together, and otherwise there is a run of bursts that
miscounts. -/
theorem counts_exactly_while_fitting
    (opened : (ofRequest .software request thresholds).result = .ok sink) :
    ((thresholds.max.toNat + 1) * (8 * request.frames.toNat) ≤ Word.limit →
      ∀ calls, ∃ steps final, (performAll perform sink calls).result = .ok (steps, final) ∧
        steps.map Step.call = calls ∧ Counted steps final) ∧
    (Word.limit < (thresholds.max.toNat + 1) * (8 * request.frames.toNat) →
      ∃ calls steps final, (performAll perform sink calls).result = .ok (steps, final) ∧
        Miscounted steps final) :=
  ⟨counted_of_software opened, fun exceeds => ⟨_, miscounted_of_software opened exceeds⟩⟩

/-- A run with small buffers that is flushed on the way. -/
theorem counts_exactly_while_fitting_small :
    (ofRequest .software ⟨44100, 1⟩ {}).result =
        .ok ⟨.ofFormat ⟨44100, stereo, 8⟩, .blank 8, ⟨false, 16, 40⟩⟩ ∧
      ∃ steps final,
        (performAll perform ⟨.ofFormat ⟨44100, stereo, 8⟩, .blank 8, ⟨false, 16, 40⟩⟩
            [.render (.ofFrames 2), .reset, .render (.ofFrames 5), .read [0, 0]]).result =
          .ok (steps, final) ∧
        steps.map Step.call =
          [.render (.ofFrames 2), .reset, .render (.ofFrames 5), .read [0, 0]] ∧
        Counted steps final :=
  ⟨rfl, (counts_exactly_while_fitting
    (rfl : (ofRequest .software ⟨44100, 1⟩ {}).result = .ok _)).1 (by decide) _⟩

/-- A sink is opened for the largest buffer there is, and a run of bursts miscounts. -/
theorem counts_start_over :
    (ofRequest .software ⟨44100, 536870911⟩ ⟨1, 1⟩).result =
        .ok ⟨.ofFormat ⟨44100, stereo, 4294967288⟩, .blank 4294967288,
          ⟨false, 4294967288, 4294967288⟩⟩ ∧
      ∃ steps final,
        (performAll perform ⟨.ofFormat ⟨44100, stereo, 4294967288⟩, .blank 4294967288,
            ⟨false, 4294967288, 4294967288⟩⟩ (overfilling 1073741821 4294967288)).result =
          .ok (steps, final) ∧
        Miscounted steps final :=
  ⟨rfl, miscounted_of_software
    (rfl : (ofRequest .software ⟨44100, 536870911⟩ ⟨1, 1⟩).result = .ok _) (by decide)⟩

end Sink

end PacingHost
