import PacingHost.Proofs.SinkRegular

/-! # The queue does not overrun

A burst is queued only while the queue stands below the max threshold, and it is never longer than
one device buffer. So the queue stays below the max threshold and one buffer, and where that still
fits a 32-bit count, every depth a burst is told is the real one: `Sink.Metered` says so of a single
burst, `Sink.queue_never_overruns` of every burst of every run.
-/

namespace PacingHost

namespace Sink

/-- A sink whose queue stays within the max threshold and one buffer, and whose buffers fit beside
the threshold into a 32-bit count. -/
structure Bounded (sink : Sink) : Prop where
  regular : Regular sink
  fits : sink.gate.maxBytes + sink.format.bufferSize.toNat ≤ Word.limit
  below : sink.queue.bytes.length < sink.gate.maxBytes + sink.format.bufferSize.toNat

/-- What a burst is told is what is there: it is dropped exactly when the queue stands at the max
threshold, and then nothing changes; otherwise the queue grows by the frames that fit a buffer. -/
structure Metered (maxBytes bufferSize : Nat) (before : Sink) (burst : Burst) (outcome : Drained)
    (after : Sink) : Prop where
  dropped_iff : (∃ depth, outcome = .dropped depth) ↔ maxBytes ≤ before.queue.bytes.length
  dropped : ∀ depth, outcome = .dropped depth →
    depth = before.queue.bytes.length ∧ after.queue = before.queue ∧ after.gate = before.gate
  queued : ∀ first last started, outcome = .queued first last started →
    first = before.queue.bytes.length ∧ first < maxBytes ∧ last = after.queue.bytes.length ∧
      last = first + 4 * min burst.frames (min (burst.data.length / 2) (bufferSize / 4))

variable {sink next : Sink} {call : SinkCall} {answer : SinkAnswer}

/-- Nothing is cut off a count of waiting bytes. -/
theorem Bounded.depth_eq (bounded : Bounded sink) : sink.depth = sink.queue.bytes.length := by
  have fits := bounded.fits
  have below := bounded.below
  exact Nat.mod_eq_of_lt (by omega)

theorem Regular.length_widen_eq (regular : Regular sink) (burst : Burst) :
    (sink.widen burst).length =
      4 * min burst.frames (min (burst.data.length / 2) (sink.format.bufferSize.toNat / 4)) := by
  rw [length_widen, Burst.fitting, regular.capacity, toNat_stereo, stereoFrame_eq,
    Nat.min_comm (burst.data.length / 2)]

/-- A burst is never longer than one device buffer. -/
theorem Regular.length_widen_le (regular : Regular sink) (burst : Burst) :
    (sink.widen burst).length ≤ sink.format.bufferSize.toNat := by
  rw [regular.length_widen_eq]
  omega

/-- Below the max threshold a burst can be counted in full. -/
theorem Bounded.depthWith_eq (bounded : Bounded sink) (room : sink.depth < sink.gate.maxBytes)
    (burst : Burst) : sink.depthWith burst = (sink.pushed burst).queue.bytes.length := by
  have size := length_widen_lt bounded.regular.capacity burst
  have short := bounded.regular.length_widen_le burst
  have fits := bounded.fits
  have exact := bounded.depth_eq
  rw [depthWith, Gate.depthAfter, Nat.mod_eq_of_lt size, pushed, List.length_append, ← exact]
  omega

/-- The queue that a burst was pushed to below the max threshold keeps the bound. -/
theorem Bounded.pushed_below (bounded : Bounded sink) (room : sink.depth < sink.gate.maxBytes)
    (burst : Burst) :
    (sink.pushed burst).queue.bytes.length <
      sink.gate.maxBytes + sink.format.bufferSize.toNat := by
  have short := bounded.regular.length_widen_le burst
  have exact := bounded.depth_eq
  rw [pushed, List.length_append]
  omega

/-- A sink opened around an empty queue whose counts fit is bounded. -/
theorem Bounded.of_wrap {queue : Queue} {thresholds : Thresholds} (empty : queue.bytes = [])
    (two : queue.format.channels = stereo) (opened : (wrap queue thresholds).result = .ok sink)
    (fits : sink.gate.maxBytes + queue.format.bufferSize.toNat ≤ Word.limit) :
    Bounded sink ∧ sink.format = queue.format := by
  have regular := Regular.of_wrap empty two opened
  have positive := regular.positive
  have ordered := regular.ordered
  obtain ⟨_, gate, _, rfl⟩ := eq_of_wrap_eq_ok opened
  refine ⟨⟨regular, fits, ?_⟩, rfl⟩
  dsimp only at positive ordered ⊢
  rw [empty, List.length_nil]
  omega

/-- Every call keeps the bound. -/
theorem Bounded.handles (bounded : Bounded sink) (handled : sink.Handles call answer next) :
    Bounded next := by
  obtain ⟨format, _, _, level⟩ := handled.frame
  refine ⟨bounded.regular.handles handled, ?_, ?_⟩
  · rw [level, format]
    exact bounded.fits
  · rw [level, format]
    have below := bounded.below
    cases handled with
    | dropped full => exact below
    | waited room waits => exact bounded.pushed_below room _
    | started room closed reached => exact bounded.pushed_below room _
    | flushed =>
      change 0 < _
      omega
    | read slots =>
      dsimp only
      rw [(sink.queue.consume_spec _).2.1, List.length_drop]
      omega
    | consumed wanted =>
      dsimp only
      rw [(sink.queue.consume_spec _).2.1, List.length_drop]
      omega

/-- Bursts have an outcome. -/
theorem Handles.rendered {burst : Burst} (handled : sink.Handles call answer next)
    (offered : call = .render burst) : ∃ outcome, answer = .rendered outcome := by
  cases handled with
  | dropped | waited | started => exact ⟨_, rfl⟩
  | flushed | read | consumed => cases offered

/-- A burst that finds room is told the depths before and after it. -/
theorem Bounded.metered_of_room (bounded : Bounded sink) (room : sink.depth < sink.gate.maxBytes)
    (burst : Burst) (started : Bool) {after : Sink}
    (pushed : after.queue.bytes = (sink.pushed burst).queue.bytes) :
    Metered sink.gate.maxBytes sink.format.bufferSize.toNat sink burst
      (.queued sink.depth (sink.depthWith burst) started) after where
  dropped_iff := by
    rw [← bounded.depth_eq]
    constructor
    · rintro ⟨depth, impossible⟩
      cases impossible
    · intro full
      omega
  dropped := by
    intro depth impossible
    cases impossible
  queued := by
    intro first last started same
    cases same
    have grown := bounded.depthWith_eq room burst
    refine ⟨bounded.depth_eq, room, ?_, ?_⟩
    · rw [pushed, grown]
    · rw [grown, ← bounded.regular.length_widen_eq, bounded.depth_eq, Sink.pushed,
        List.length_append]

theorem Bounded.metered (bounded : Bounded sink) {burst : Burst} {outcome : Drained}
    (handled : sink.Handles call answer next) (offered : call = .render burst)
    (rendered : answer = .rendered outcome) :
    Metered sink.gate.maxBytes sink.format.bufferSize.toNat sink burst outcome next := by
  cases handled with
  | dropped full =>
    cases offered
    cases rendered
    have exact := bounded.depth_eq
    exact {
      dropped_iff := ⟨fun _ => exact ▸ full, fun _ => ⟨_, rfl⟩⟩
      dropped := by
        intro depth same
        cases same
        exact ⟨exact, rfl, rfl⟩
      queued := by
        intro first last started impossible
        cases impossible }
  | waited room waits =>
    cases offered
    cases rendered
    exact bounded.metered_of_room room burst false rfl
  | started room closed reached =>
    cases offered
    cases rendered
    exact bounded.metered_of_room room burst true rfl
  | flushed | read | consumed => cases offered

/-- Where the max threshold and one buffer fit a 32-bit count, the queue holds less than both
together after every run, and every burst of the run is told the truth. -/
theorem queue_never_overruns {queue : Queue} {thresholds : Thresholds} {sink : Sink}
    (empty : queue.bytes = []) (two : queue.format.channels = stereo)
    (opened : (wrap queue thresholds).result = .ok sink)
    (fits : sink.gate.maxBytes + queue.format.bufferSize.toNat ≤ Word.limit)
    (calls : List SinkCall) :
    ∃ steps final, (performAll perform sink calls).result = .ok (steps, final) ∧
      steps.map Step.call = calls ∧
      final.queue.bytes.length < sink.gate.maxBytes + queue.format.bufferSize.toNat ∧
      ∀ step ∈ steps,
        step.before.queue.bytes.length < sink.gate.maxBytes + queue.format.bufferSize.toNat ∧
        ∀ burst, step.call = .render burst → ∃ outcome, step.answer = .rendered outcome ∧
          Metered sink.gate.maxBytes queue.format.bufferSize.toNat step.before burst outcome
            step.after := by
  obtain ⟨start, same⟩ := Bounded.of_wrap empty two opened fits
  obtain ⟨steps, final, ran, made, run⟩ := performAll_runs start.regular.channels calls
  -- The threshold and the size of a buffer are those the sink was opened with.
  obtain ⟨⟨ends, level, format⟩, each⟩ := run.invariant
    (fun {before _ _ _} (known : Bounded before ∧ before.gate.maxBytes = sink.gate.maxBytes ∧
        before.format = queue.format) handled =>
      ⟨known.1.handles handled, handled.frame.2.2.2.trans known.2.1,
        handled.frame.1.trans known.2.2⟩) ⟨start, rfl, same⟩
  refine ⟨steps, final, ran, made, ?_, ?_⟩
  · have below := ends.below
    rwa [level, format] at below
  · intro step member
    obtain ⟨⟨bounded, level, format⟩, handled⟩ := each step member
    rw [← level, ← format]
    refine ⟨bounded.below, ?_⟩
    intro burst offered
    obtain ⟨outcome, rendered⟩ := handled.rendered offered
    exact ⟨outcome, rendered, bounded.metered handled offered rendered⟩

/-- A burst of more frames than fit carries the queue over the max threshold, three more are
dropped, and there is room again once a frame was read. -/
theorem queue_never_overruns_full :
    (wrap (.ofFormat ⟨44100, stereo, 10⟩) ⟨1, 1⟩).result =
        .ok ⟨.ofFormat ⟨44100, stereo, 10⟩, .blank 10, ⟨false, 10, 10⟩⟩ ∧
      10 + 10 ≤ Word.limit ∧
      ∃ steps final,
        (performAll perform ⟨.ofFormat ⟨44100, stereo, 10⟩, .blank 10, ⟨false, 10, 10⟩⟩
            [.render ⟨[1, 2, 3, 4, 5, 6], 9⟩, .render ⟨[1, 2], 1⟩, .render ⟨[3, 4, 5, 6], 2⟩,
              .render ⟨[7, 8], 1⟩, .render ⟨[], 3⟩, .read [0, 0, 0],
              .render ⟨[9, 10], 1⟩]).result = .ok (steps, final) ∧
          steps.map Step.call =
            [.render ⟨[1, 2, 3, 4, 5, 6], 9⟩, .render ⟨[1, 2], 1⟩, .render ⟨[3, 4, 5, 6], 2⟩,
              .render ⟨[7, 8], 1⟩, .render ⟨[], 3⟩, .read [0, 0, 0], .render ⟨[9, 10], 1⟩] ∧
          final.queue.bytes.length < 10 + 10 ∧
          ∀ step ∈ steps, step.before.queue.bytes.length < 10 + 10 ∧
            ∀ burst, step.call = .render burst → ∃ outcome, step.answer = .rendered outcome ∧
              Metered 10 10 step.before burst outcome step.after :=
  ⟨rfl, by decide, queue_never_overruns rfl rfl
    (rfl : (wrap (.ofFormat ⟨44100, stereo, 10⟩) ⟨1, 1⟩).result = _) (by decide) _⟩

end Sink

end PacingHost
