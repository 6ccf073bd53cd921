import PacingHost.Proofs.SinkStream

/-! # Widening is exact and bounded

What a burst is widened into can be read off place by place: the samples of its frames stand at the
odd places of the front, zeros at the even ones, and behind them the buffer is as it was. No frame
is lost on the way: whoever reads the front as device samples finds the samples of the burst in the
high bytes.
-/

namespace PacingHost

/-- Zeros and samples take turns. -/
theorem getElem?_widened (samples : List UInt8) (place : Nat) :
    (widened samples)[2 * place]? = samples[place]?.map (fun _ => 0) ∧
      (widened samples)[2 * place + 1]? = samples[place]? := by
  induction samples generalizing place with
  | nil => exact ⟨rfl, rfl⟩
  | cons sample samples ih =>
    cases place with
    | zero => exact ⟨rfl, rfl⟩
    | succ place =>
      have double : 2 * (place + 1) = 2 * place + 1 + 1 := by omega
      rw [widened, double, List.getElem?_cons_succ, List.getElem?_cons_succ,
        List.getElem?_cons_succ, List.getElem?_cons_succ, List.getElem?_cons_succ]
      exact ih place

/-- The high byte of a widened sample is the sample. -/
theorem shiftRight_widened (sample : UInt8) : (sample.toUInt16 * 256) >>> 8 = sample.toUInt16 := by
  have bound := sample.toNat_lt
  have page : (256 : UInt16).toNat = 256 := rfl
  have byte : (8 : UInt16).toNat % 16 = 8 := rfl
  apply UInt16.toNat_inj.mp
  rw [UInt16.toNat_shiftRight, UInt16.toNat_mul, UInt8.toNat_toUInt16, page, byte,
    Nat.mod_eq_of_lt (by omega), Nat.shiftRight_eq_div_pow]
  exact Nat.mul_div_cancel _ (by decide)

namespace Burst

/-- So many frames of a burst fit as it says it has, as it has data for, and as the buffer holds. No
other byte is read or written: the samples of these frames stand at the odd places of the front,
with zeros before them, and the buffer keeps its length and everything behind them. Read as device
samples, the front gives the samples back in its high bytes. -/
theorem widens_exactly (burst : Burst) (buffer : List UInt8) :
    ∃ frames after, burst.widenInto buffer = (frames, after) ∧
      frames = min burst.frames (min (buffer.length / 4) (burst.data.length / 2)) ∧
      2 * frames ≤ burst.data.length ∧ 4 * frames ≤ buffer.length ∧
      after.length = buffer.length ∧
      (∀ place < 2 * frames, ∃ sample, burst.data[place]? = some sample ∧
        after[2 * place]? = some 0 ∧ after[2 * place + 1]? = some sample) ∧
      (∀ place, 4 * frames ≤ place → after[place]? = buffer[place]?) ∧
      (samplesOf (after.take (4 * frames))).map (fun sample : UInt16 => sample >>> 8) =
        (burst.data.take (2 * frames)).map UInt8.toUInt16 := by
  have read := burst.two_mul_fitting_le buffer.length
  have written := burst.stereoFrame_mul_fitting_le buffer.length
  have length := burst.length_widenInto buffer
  have size := length_widened (burst.fittingData buffer.length)
  rw [burst.length_fittingData] at size
  rw [stereoFrame_eq] at written
  have same := burst.widenInto_eq buffer
  rw [stereoFrame_eq] at same
  refine ⟨burst.fitting buffer.length, (burst.widenInto buffer).2, by rw [same], rfl, read,
    written, length, ?_, ?_, ?_⟩
  · intro place within
    have there : place < burst.data.length := by omega
    obtain ⟨zero, sample⟩ := getElem?_widened (burst.fittingData buffer.length) place
    have kept : (burst.fittingData buffer.length)[place]? = some burst.data[place] := by
      rw [fittingData, toNat_stereo, List.getElem?_take_of_lt within,
        List.getElem?_eq_getElem there]
    rw [kept] at zero sample
    refine ⟨burst.data[place], List.getElem?_eq_getElem there, ?_, ?_⟩
    · rw [same, List.getElem?_append_left (by omega)]
      exact zero
    · rw [same, List.getElem?_append_left (by omega)]
      exact sample
  · intro place behind
    have rest : 4 * burst.fitting buffer.length + (place - 4 * burst.fitting buffer.length) =
        place := by omega
    have front : (widened (burst.fittingData buffer.length)).length =
        4 * burst.fitting buffer.length := by omega
    rw [same, List.getElem?_append_right (by omega), front, List.getElem?_drop, rest]
  · have front : ((burst.widenInto buffer).2.take (4 * burst.fitting buffer.length)) =
        widened (burst.fittingData buffer.length) := by
      rw [same]
      exact List.take_left' (by omega)
    rw [front, samplesOf_widened, List.map_map, fittingData, toNat_stereo]
    apply List.map_congr_left
    intro sample _
    exact shiftRight_widened sample

/-- Five samples make two frames, of which a buffer of nine bytes takes both and keeps its last
byte; a third frame was promised but has no data. -/
example :
    Burst.widenInto ⟨[16, 32, 48, 64, 80], 3⟩ [9, 9, 9, 9, 9, 9, 9, 9, 9] =
      (2, [0, 16, 0, 32, 0, 48, 0, 64, 9]) := by decide

end Burst

end PacingHost
