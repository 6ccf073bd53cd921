import PacingHost.Proofs.SinkRegular

/-! # The formats a sink can drive

A sink widens bursts into stereo frames, but it counts the bytes to queue by the frames of its
device. Both agree for stereo devices, and for buffers that hold no stereo frame at all. With any
other format that a sink accepts, a burst that fills one buffer runs out of the staging buffer, or
is queued with fewer or more bytes than it was widened to; and a format without channels stops the
sink from being built.
-/

namespace PacingHost

/-- Draining a queue keeps its format. A burst that is queued stands behind what waited, and below
the max threshold every burst is queued. -/
theorem Gate.drain_queue (gate : Gate) (bytes : List UInt8) (queue : Queue) :
    (gate.drain bytes queue).value.2.2.format = queue.format ∧
      (∀ first last started, (gate.drain bytes queue).value.1 = .queued first last started →
        (gate.drain bytes queue).value.2.2.bytes = queue.bytes ++ bytes) ∧
      (Device.depth queue < gate.maxBytes →
        ∃ first last started, (gate.drain bytes queue).value.1 = .queued first last started) := by
  rcases gate.drops_waits_or_starts (Device.depth queue)
      (depthAfter (Device.depth queue) bytes.length) with
    full | ⟨room, waits⟩ | ⟨room, closed, reached⟩
  · rw [drain_full bytes full]
    refine ⟨rfl, ?_, fun room => absurd full (Nat.not_le.mpr room)⟩
    intro first last started impossible
    cases impossible
  · rw [drain_waiting bytes room waits]
    exact ⟨rfl, fun _ _ _ _ => rfl, fun _ => ⟨_, _, _, rfl⟩⟩
  · rw [drain_starting bytes room closed reached]
    exact ⟨rfl, fun _ _ _ _ => rfl, fun _ => ⟨_, _, _, rfl⟩⟩

/-- Draining adds the bytes to a queue or leaves it alone. -/
theorem Gate.drain_bytes (gate : Gate) (bytes : List UInt8) (queue : Queue) :
    (gate.drain bytes queue).value.2.2.bytes = queue.bytes ∨
      (gate.drain bytes queue).value.2.2.bytes = queue.bytes ++ bytes := by
  rcases gate.drops_waits_or_starts (Device.depth queue)
      (depthAfter (Device.depth queue) bytes.length) with
    full | ⟨room, waits⟩ | ⟨room, closed, reached⟩
  · rw [drain_full bytes full]
    exact .inl rfl
  · rw [drain_waiting bytes room waits]
    exact .inr rfl
  · rw [drain_starting bytes room closed reached]
    exact .inr rfl

namespace Sink

variable {sink next final : Sink} {burst : Burst}

/-- Bytes of a burst that a sink offers to its queue: its frames, as the device counts them. -/
def offered (sink : Sink) (burst : Burst) : Nat :=
  burst.fitting sink.staging.capacity * sink.format.frameSize

/-- Rendering drains what stands at the front of the staging buffer. -/
theorem render_of_front {bytes : List UInt8}
    (front : (sink.staging.write burst).front (sink.offered burst) = .ok bytes) :
    (sink.render burst).result =
      .ok ((sink.gate.drain bytes sink.queue).value.1,
        { queue := (sink.gate.drain bytes sink.queue).value.2.2
          staging := sink.staging.write burst
          gate := (sink.gate.drain bytes sink.queue).value.2.1 }) := by
  unfold offered at front
  unfold render
  dsimp only
  split <;> rw [front] <;> rfl

/-- A burst that comes to more bytes than the staging buffer holds is a fault. -/
theorem render_of_overrun (exceeds : sink.staging.capacity < sink.offered burst) :
    (sink.render burst).result =
      .error (.stagingOverrun (sink.offered burst) sink.staging.capacity) := by
  have front : (sink.staging.write burst).front (sink.offered burst) =
      .error (.stagingOverrun (sink.offered burst) sink.staging.capacity) :=
    if_neg (Nat.not_le.mpr exceeds)
  unfold offered at front ⊢
  unfold render
  dsimp only
  split <;> rw [front] <;> rfl

/-- A burst is rendered, and if it is queued, the queue grows by all bytes it was widened to. -/
def Plays (sink : Sink) (burst : Burst) : Prop :=
  ∃ outcome next, (sink.render burst).result = .ok (outcome, next) ∧
    ∀ first last started, outcome = .queued first last started →
      next.queue.bytes = sink.queue.bytes ++ sink.widen burst

/-- A burst is played when the device counts its frames as they were widened. -/
theorem plays_of_agrees (agrees : sink.offered burst = (sink.widen burst).length) :
    sink.Plays burst := by
  have front := sink.staging.front_write burst
  rw [← length_widen, ← agrees] at front
  have ran := render_of_front front
  exact ⟨_, _, ran, (sink.gate.drain_queue (sink.widen burst) sink.queue).2.1⟩

/-- A queue with room plays a burst only then. -/
theorem Plays.agrees (plays : sink.Plays burst) (room : sink.depth < sink.gate.maxBytes) :
    sink.offered burst = (sink.widen burst).length := by
  obtain ⟨outcome, next, ran, grows⟩ := plays
  rcases Nat.lt_or_ge sink.staging.capacity (sink.offered burst) with exceeds | within
  · rw [render_of_overrun exceeds] at ran
    cases ran
  · have front : (sink.staging.write burst).front (sink.offered burst) = _ :=
      Staging.front_eq_ok within
    rw [render_of_front front] at ran
    cases ran
    obtain ⟨_, appended, queues⟩ := sink.gate.drain_queue _ sink.queue
    obtain ⟨first, last, started, queued⟩ := queues room
    have grown := grows first last started queued
    rw [appended first last started queued] at grown
    rw [← List.append_cancel_left grown, List.length_take, Staging.length_contents]
    exact (Nat.min_eq_left within).symm

/-- No call changes the format or the size of the staging buffer, whatever the format is. -/
theorem perform_frame {call : SinkCall} {answer : SinkAnswer}
    (ran : (sink.perform call).result = .ok (answer, next)) :
    next.format = sink.format ∧ next.staging.capacity = sink.staging.capacity := by
  cases call with
  | render burst =>
    obtain ⟨⟨outcome, after⟩, rendered, told⟩ := Report.result_bind_eq_ok_iff.mp ran
    cases told
    rcases Nat.lt_or_ge sink.staging.capacity (sink.offered burst) with exceeds | within
    · rw [render_of_overrun exceeds] at rendered
      cases rendered
    · have front : (sink.staging.write burst).front (sink.offered burst) = _ :=
        Staging.front_eq_ok within
      rw [render_of_front front] at rendered
      cases rendered
      exact ⟨(sink.gate.drain_queue _ sink.queue).1, rfl⟩
  | reset =>
    cases ran
    exact ⟨rfl, rfl⟩
  | read slots =>
    have taken := sink.queue.consume_spec (2 * slots.length)
    rw [← sink.queue.queue_read] at taken
    cases ran
    exact ⟨taken.2.2.2, rfl⟩
  | consume wanted =>
    cases ran
    exact ⟨(sink.queue.consume_spec wanted).2.2.2, rfl⟩

/-- The format and the size of the staging buffer stay the same in a whole run. -/
theorem performAll_frame {calls : List SinkCall} {steps : List SinkStep}
    (ran : (performAll perform sink calls).result = .ok (steps, final)) :
    final.format = sink.format ∧ final.staging.capacity = sink.staging.capacity := by
  obtain ⟨_, run⟩ := Run.of_performAll perform_frame ran
  exact (run.invariant
    (fun {before _ _ _} (known : before.format = sink.format ∧
        before.staging.capacity = sink.staging.capacity) kept =>
      ⟨kept.1.trans known.1, kept.2.trans known.2⟩) ⟨rfl, rfl⟩).1

end Sink

/-- Frames of the device are stereo frames, or no stereo frame fits its buffer. -/
def Format.Drivable (format : Format) : Prop :=
  format.channels = stereo ∨ format.channels = 1 ∧ format.bufferSize.toNat < stereoFrame

/-- The buffers of a drivable format take as many bytes of a burst as it is widened to. Of all other
formats whose buffers hold a frame, a burst that fills one buffer tells them apart. -/
theorem Format.drivable_iff {format : Format} (channels : format.channels ≠ 0)
    (room : format.frameSize ≤ format.bufferSize.toNat) :
    format.Drivable ↔ ∀ burst : Burst,
      burst.fitting format.bufferSize.toNat * format.frameSize =
        burst.fitting format.bufferSize.toNat * stereoFrame := by
  have positive : 0 < format.channels.toNat :=
    Nat.pos_of_ne_zero fun zero => channels (UInt8.toNat_inj.mp zero)
  have size : format.frameSize = 2 * format.channels.toNat := rfl
  rw [Drivable, stereoFrame_eq, ← UInt8.toNat_inj, ← UInt8.toNat_inj, toNat_stereo,
    UInt8.toNat_one]
  constructor
  · rintro (two | ⟨_, small⟩) burst
    · rw [size, two]
    · have fits := burst.stereoFrame_mul_fitting_le format.bufferSize.toNat
      rw [stereoFrame_eq] at fits
      have none : burst.fitting format.bufferSize.toNat = 0 := by omega
      rw [none, Nat.zero_mul, Nat.zero_mul]
  · intro agrees
    have full := agrees (.ofFrames (format.bufferSize.toNat / 4))
    rw [Burst.fitting_ofFrames, Nat.min_self] at full
    rcases Nat.eq_zero_or_pos (format.bufferSize.toNat / 4) with none | some
    · omega
    · have := Nat.eq_of_mul_eq_mul_left some full
      omega

namespace Sink

variable {queue : Queue} {thresholds : Thresholds}

/-- Formats without channels have no frames to look for, unless their buffers are empty. -/
theorem hasFrames_eq (format : Format) :
    hasFrames format =
      if format.bufferSize = 0 then .ok false
      else if format.channels = 0 then .error .noChannels
      else .ok (format.bufferSize.toNat / format.frameSize ≠ 0) := by
  unfold hasFrames
  by_cases channels : format.channels = 0
  · have none : format.bufferFrames = .error .noChannels := by
      rw [Format.bufferFrames, if_pos (by rw [Format.frameSize, channels]; rfl)]
    rw [none, if_pos channels]
    rfl
  · rw [(format.bufferFrames_eq_ok_iff _).mpr ⟨channels, rfl⟩, if_neg channels]
    rfl

/-- A sink is built only for formats whose buffers hold a frame. -/
theorem frame_of_wrap (opened : (wrap queue thresholds).result = .ok sink) :
    queue.format.channels ≠ 0 ∧ queue.format.frameSize ≤ queue.format.bufferSize.toNat := by
  obtain ⟨usable, checked, opened⟩ := Report.result_bind_eq_ok_iff.mp opened
  have found : hasFrames queue.format = .ok usable := Report.result_mapFailure_eq_ok_iff.mp checked
  rw [hasFrames_eq] at found
  split at found
  · cases found
    cases opened
  · split at found
    · cases found
    · next channels =>
      cases found
      refine ⟨channels, ?_⟩
      rcases Nat.lt_or_ge queue.format.bufferSize.toNat queue.format.frameSize with short | fits
      · rw [Nat.div_eq_of_lt short] at opened
        cases opened
      · exact fits

/-- Building a sink is a fault exactly where a format has no channels, but a buffer. -/
theorem wrap_eq_fault_iff (fault : Fault) :
    (wrap queue thresholds).result = .error (.fault fault) ↔
      fault = .noChannels ∧ queue.format.channels = 0 ∧ queue.format.bufferSize ≠ 0 := by
  constructor
  · intro stopped
    rcases Report.result_bind_eq_error_iff.mp stopped with looked | ⟨usable, _, stopped⟩
    · obtain ⟨cause, found, same⟩ := Report.result_mapFailure_eq_error_iff.mp looked
      cases same
      have found : hasFrames queue.format = .error fault := found
      rw [hasFrames_eq] at found
      split at found
      · cases found
      · next buffer =>
        split at found
        · next none =>
          cases found
          exact ⟨rfl, none, buffer⟩
        · cases found
    -- Everything behind the search for frames ends in an error or a sink.
    · cases usable with
      | false => cases stopped
      | true =>
        rcases Report.result_bind_eq_error_iff.mp stopped with setUp | ⟨gate, _, stopped⟩
        · obtain ⟨_, _, impossible⟩ := Report.result_mapFailure_eq_error_iff.mp setUp
          cases impossible
        · cases stopped
  · rintro ⟨rfl, none, buffer⟩
    refine Report.result_bind_eq_error_iff.mpr (.inl ?_)
    refine Report.result_mapFailure_eq_error_iff.mpr ⟨.noChannels, ?_, rfl⟩
    change hasFrames queue.format = _
    rw [hasFrames_eq, if_neg buffer, if_pos none]

/-- A sink that was flushed has room. -/
theorem room_of_reset (opened : (wrap queue thresholds).result = .ok sink) :
    sink.reset.value.depth < sink.reset.value.gate.maxBytes := by
  obtain ⟨buffer, gate, levels, rfl⟩ := eq_of_wrap_eq_ok opened
  obtain ⟨least, ordered, _, rfl⟩ := (Gate.ofThresholds_eq_ok_iff _ _ _).mp levels
  have most := Nat.lt_of_lt_of_le (UInt32.lt_iff_toNat_lt.mp least)
    (UInt32.le_iff_toNat_le.mp ordered)
  have size : 0 < queue.format.bufferSize.toNat :=
    Nat.pos_of_ne_zero fun zero => buffer (UInt32.toNat_inj.mp zero)
  exact Nat.mul_pos most size

/-- Building a sink is a fault exactly for formats that have a buffer but no channels. A sink that
was built plays every burst in every state it reaches exactly when its format is drivable. -/
theorem plays_every_burst_iff_drivable (queue : Queue) (thresholds : Thresholds) :
    (∀ fault, (wrap queue thresholds).result = .error (.fault fault) ↔
      fault = .noChannels ∧ queue.format.channels = 0 ∧ queue.format.bufferSize ≠ 0) ∧
    ∀ sink, (wrap queue thresholds).result = .ok sink →
      ((∀ calls steps final, (performAll perform sink calls).result = .ok (steps, final) →
        ∀ burst, final.Plays burst) ↔ queue.format.Drivable) := by
  refine ⟨wrap_eq_fault_iff, ?_⟩
  intro sink opened
  obtain ⟨channels, fits⟩ := frame_of_wrap opened
  have room := room_of_reset opened
  obtain ⟨_, gate, _, rfl⟩ := eq_of_wrap_eq_ok opened
  rw [Format.drivable_iff channels fits]
  constructor
  · intro plays burst
    have agrees := (plays [.reset] _ _ rfl burst).agrees room
    rwa [length_widen, Nat.mul_comm stereoFrame] at agrees
  · intro agrees calls steps final ran burst
    obtain ⟨format, capacity⟩ := performAll_frame ran
    apply plays_of_agrees
    rw [length_widen, offered, format, capacity, Nat.mul_comm stereoFrame]
    exact agrees burst

/-- A stereo buffer is played in full. A mono buffer of three bytes takes no stereo frame, so no
burst is cut; a burst for one of four bytes is cut in half. -/
theorem plays_every_burst_iff_drivable_stereo_mono :
    (wrap (.ofFormat ⟨44100, 2, 16⟩) ⟨2, 5⟩).result =
        .ok ⟨.ofFormat ⟨44100, 2, 16⟩, .blank 16, ⟨false, 32, 80⟩⟩ ∧
      (∀ calls steps final,
        (performAll perform ⟨.ofFormat ⟨44100, 2, 16⟩, .blank 16, ⟨false, 32, 80⟩⟩ calls).result =
          .ok (steps, final) → ∀ burst, final.Plays burst) ∧
      (wrap (.ofFormat ⟨44100, 1, 3⟩) ⟨1, 1⟩).result =
        .ok ⟨.ofFormat ⟨44100, 1, 3⟩, .blank 3, ⟨false, 3, 3⟩⟩ ∧
      (∀ calls steps final,
        (performAll perform ⟨.ofFormat ⟨44100, 1, 3⟩, .blank 3, ⟨false, 3, 3⟩⟩ calls).result =
          .ok (steps, final) → ∀ burst, final.Plays burst) ∧
      (wrap (.ofFormat ⟨44100, 1, 4⟩) ⟨1, 1⟩).result =
        .ok ⟨.ofFormat ⟨44100, 1, 4⟩, .blank 4, ⟨false, 4, 4⟩⟩ ∧
      ¬∀ calls steps final,
        (performAll perform ⟨.ofFormat ⟨44100, 1, 4⟩, .blank 4, ⟨false, 4, 4⟩⟩ calls).result =
          .ok (steps, final) → ∀ burst, final.Plays burst :=
  ⟨rfl, ((plays_every_burst_iff_drivable (.ofFormat ⟨44100, 2, 16⟩) ⟨2, 5⟩).2 _ rfl).mpr
      (.inl rfl), rfl,
    ((plays_every_burst_iff_drivable (.ofFormat ⟨44100, 1, 3⟩) ⟨1, 1⟩).2 _ rfl).mpr
      (.inr (by decide)), rfl,
    fun plays => absurd
      (((plays_every_burst_iff_drivable (.ofFormat ⟨44100, 1, 4⟩) ⟨1, 1⟩).2 _ rfl).mp plays)
      (not_or.mpr (by decide))⟩

/-- A format without channels stops the sink from being built; one of four channels is accepted, and
the first burst that fills a buffer overruns the staging buffer. -/
theorem accepts_what_it_cannot_drive :
    (wrap (.ofFormat ⟨44100, 0, 16⟩) {}).result = .error (.fault .noChannels) ∧
      (wrap (.ofFormat ⟨44100, 4, 16⟩) {}).result =
        .ok ⟨.ofFormat ⟨44100, 4, 16⟩, .blank 16, ⟨false, 32, 80⟩⟩ ∧
      (render ⟨.ofFormat ⟨44100, 4, 16⟩, .blank 16, ⟨false, 32, 80⟩⟩
        ⟨[1, 2, 3, 4, 5, 6, 7, 8], 4⟩).result = .error (.stagingOverrun 32 16) :=
  ⟨rfl, rfl, rfl⟩

end Sink

end PacingHost
