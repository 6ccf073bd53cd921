import PacingHost.Proofs.SinkRun

/-! # The invariant of an opened sink

A sink opened around an empty stereo queue stays `Sink.Regular` whatever is asked of it. The gate is
open exactly while the device plays, and behind a closed gate the queue stays below the start
threshold: it starts empty there, only rendering lets it grow, and rendering opens the gate at the
threshold. Since the start threshold is at most the max threshold, a closed gate never drops sound.
-/

namespace PacingHost

namespace Sink

structure Regular (sink : Sink) : Prop where
  channels : sink.format.channels = stereo
  capacity : sink.staging.capacity = sink.format.bufferSize.toNat
  positive : 0 < sink.gate.startBytes
  ordered : sink.gate.startBytes ≤ sink.gate.maxBytes
  counted : sink.gate.maxBytes < Word.limit
  playing : sink.gate.ready = !sink.queue.paused
  /-- Behind a closed gate less waits than would open it. -/
  waiting : sink.gate.ready = false → sink.queue.bytes.length < sink.gate.startBytes
  whole : sink.queue.bytes.length % stereoFrame = 0

/-- A sink is opened with its gate closed, its staging buffer blank and its device paused. -/
theorem eq_of_wrap_eq_ok {queue : Queue} {thresholds : Thresholds} {sink : Sink}
    (opened : (wrap queue thresholds).result = .ok sink) :
    queue.format.bufferSize ≠ 0 ∧
      ∃ gate, Gate.ofThresholds thresholds queue.format.bufferSize = .ok gate ∧
        sink = ⟨{ queue with paused := true }, .blank queue.format.bufferSize.toNat, gate⟩ := by
  unfold wrap at opened
  obtain ⟨usable, checked, opened⟩ := Report.result_bind_eq_ok_iff.mp opened
  have frames : hasFrames queue.format = .ok usable := Report.result_mapFailure_eq_ok_iff.mp checked
  cases usable with
  | false => cases opened
  | true =>
    obtain ⟨gate, setUp, opened⟩ := Report.result_bind_eq_ok_iff.mp opened
    have setUp := Report.result_mapFailure_eq_ok_iff.mp setUp
    obtain ⟨gate', levels, told⟩ := Report.result_bind_eq_ok_iff.mp setUp
    cases told
    cases opened
    refine ⟨?_, gate, levels, rfl⟩
    intro zero
    rw [hasFrames, if_pos zero] at frames
    cases frames

/-- What a stereo sink is built with, and what no call changes. -/
structure Built (sink : Sink) : Prop where
  channels : sink.format.channels = stereo
  capacity : sink.staging.capacity = sink.format.bufferSize.toNat
  positive : 0 < sink.gate.startBytes
  ordered : sink.gate.startBytes ≤ sink.gate.maxBytes
  counted : sink.gate.maxBytes < Word.limit

theorem Built.of_wrap {queue : Queue} {thresholds : Thresholds} {sink : Sink}
    (two : queue.format.channels = stereo) (opened : (wrap queue thresholds).result = .ok sink) :
    Built sink := by
  obtain ⟨nonzero, gate, levels, rfl⟩ := eq_of_wrap_eq_ok opened
  obtain ⟨least, ordered, counted, rfl⟩ := (Gate.ofThresholds_eq_ok_iff _ _ _).mp levels
  have size : 0 < queue.format.bufferSize.toNat := by
    rcases Nat.eq_zero_or_pos queue.format.bufferSize.toNat with zero | positive
    · exact absurd (UInt32.toNat_inj.mp zero) nonzero
    · exact positive
  exact {
    channels := two
    capacity := rfl
    positive := Nat.mul_pos (UInt32.lt_iff_toNat_lt.mp least) size
    ordered := Nat.mul_le_mul_right _ (UInt32.le_iff_toNat_le.mp ordered)
    counted := counted }

theorem Built.handles {sink next : Sink} {call : SinkCall} {answer : SinkAnswer}
    (built : Built sink) (handled : sink.Handles call answer next) : Built next := by
  obtain ⟨format, capacity, start, max⟩ := handled.frame
  exact {
    channels := format ▸ built.channels
    capacity := by rw [capacity, format, built.capacity]
    positive := start ▸ built.positive
    ordered := by rw [start, max]; exact built.ordered
    counted := max ▸ built.counted }

theorem Regular.of_wrap {queue : Queue} {thresholds : Thresholds} {sink : Sink}
    (empty : queue.bytes = []) (two : queue.format.channels = stereo)
    (opened : (wrap queue thresholds).result = .ok sink) : Regular sink := by
  have built := Built.of_wrap two opened
  obtain ⟨_, gate, levels, rfl⟩ := eq_of_wrap_eq_ok opened
  obtain ⟨_, _, _, rfl⟩ := (Gate.ofThresholds_eq_ok_iff _ _ _).mp levels
  exact { built with
    playing := rfl
    waiting := by
      intro _
      rw [empty]
      exact built.positive
    whole := by rw [empty]; rfl }

theorem length_widen (sink : Sink) (burst : Burst) :
    (sink.widen burst).length = stereoFrame * burst.fitting sink.staging.capacity := by
  rw [widen, length_widened, Burst.length_fittingData, stereoFrame_eq]
  omega

/-- A burst that was staged fits a 32-bit count. -/
theorem length_widen_lt {sink : Sink}
    (capacity : sink.staging.capacity = sink.format.bufferSize.toNat) (burst : Burst) :
    (sink.widen burst).length < Word.limit := by
  have room := burst.stereoFrame_mul_fitting_le sink.staging.capacity
  have bound : sink.format.bufferSize.toNat < Word.limit := sink.format.bufferSize.toNat_lt
  rw [length_widen]
  omega

/-- Behind a closed gate the count of waiting bytes is exact. -/
theorem Regular.depth_of_closed {sink : Sink} (regular : Regular sink)
    (closed : sink.gate.ready = false) : sink.depth = sink.queue.bytes.length := by
  have below := regular.waiting closed
  have ordered := regular.ordered
  have counted := regular.counted
  exact Nat.mod_eq_of_lt (by omega)

/-- Of an exact count with a burst more nothing has been cut off where it stays below a level. -/
theorem length_pushed_lt {sink : Sink} {burst : Burst} {level : Nat}
    (capacity : sink.staging.capacity = sink.format.bufferSize.toNat)
    (exact : sink.depth = sink.queue.bytes.length) (counted : level < Word.limit)
    (short : sink.depthWith burst < level) :
    (sink.pushed burst).queue.bytes.length < level := by
  have size := length_widen_lt capacity burst
  rw [depthWith, Gate.depthAfter, exact, Nat.mod_eq_of_lt size] at short
  simp only [pushed, List.length_append]
  omega

/-- Pushing keeps the queue at whole frames. -/
theorem Regular.pushed_whole {sink : Sink} (regular : Regular sink) (burst : Burst) :
    (sink.pushed burst).queue.bytes.length % stereoFrame = 0 := by
  have whole := regular.whole
  have size := sink.length_widen burst
  simp only [pushed, List.length_append, stereoFrame_eq] at *
  omega

/-- A take from the queue of a closed gate takes nothing, and any take leaves whole frames. -/
theorem Regular.taken {sink : Sink} (regular : Regular sink) (wanted : Nat) :
    Regular { sink with queue := (sink.queue.consume wanted).value.2 } := by
  obtain ⟨_, bytes, paused, format⟩ := sink.queue.consume_spec wanted
  have within := sink.queue.due_le wanted
  have whole := regular.whole
  have taken := sink.queue.due_mod wanted
  have channels := regular.channels
  have capacity := regular.capacity
  rw [Sink.format] at channels capacity
  exact { regular with
    channels := by rw [Sink.format, format, channels]
    capacity := by rw [Sink.format, format, capacity]
    playing := by rw [paused]; exact regular.playing
    waiting := by
      intro closed
      have below := regular.waiting closed
      rw [bytes, List.length_drop]
      change _ < sink.gate.startBytes
      omega
    whole := by
      rw [bytes, List.length_drop]
      rw [stereoFrame_eq] at *
      omega }

/-- Every call keeps the invariant. -/
theorem Regular.handles {sink next : Sink} {call : SinkCall} {answer : SinkAnswer}
    (regular : Regular sink) (handled : sink.Handles call answer next) : Regular next := by
  cases handled with
  | dropped full => exact { regular with }
  | @waited burst room waits =>
    exact { regular with
      waiting := by
        intro closed
        have closed : sink.gate.ready = false := closed
        have counted := Nat.lt_of_le_of_lt regular.ordered regular.counted
        have exact := regular.depth_of_closed closed
        rcases waits with ready | short
        · rw [closed] at ready
          cases ready
        · exact length_pushed_lt regular.capacity exact counted short
      whole := regular.pushed_whole burst }
  | @started burst room closed reached =>
    exact { regular with
      playing := rfl
      waiting := by
        intro impossible
        cases impossible
      whole := regular.pushed_whole burst }
  | flushed =>
    exact { regular with
      playing := rfl
      waiting := fun _ => regular.positive
      whole := rfl }
  | read slots => exact regular.taken _
  | consumed wanted => exact regular.taken _

end Sink

end PacingHost
