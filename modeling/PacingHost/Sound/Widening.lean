import PacingHost.Sound.Format

/-! # Widening engine sound

An engine hands over interleaved unsigned 8-bit stereo samples. Each becomes a 16-bit sample whose
high byte it is and whose low byte is zero. A burst overwrites the front of a buffer with as many
whole frames as its frame count, its data and the buffer allow; `widenInto_eq` says that the rest of
the buffer stays as it was.
-/

namespace PacingHost

/-- Sound an engine hands over at once: samples, left first, and how many frames they are said to
be. -/
structure Burst where
  data : List UInt8
  frames : Nat
deriving DecidableEq, Repr

namespace Burst

/-- The burst of some samples, counted by their number. -/
def ofData (data : List UInt8) : Burst := ⟨data, data.length / stereo.toNat⟩

/-- Frames of the burst that a buffer of so many bytes takes. -/
def fitting (burst : Burst) (capacity : Nat) : Nat :=
  min burst.frames (min (capacity / stereoFrame) (burst.data.length / stereo.toNat))

theorem stereoFrame_mul_fitting_le (burst : Burst) (capacity : Nat) :
    stereoFrame * burst.fitting capacity ≤ capacity := by
  unfold fitting
  rw [stereoFrame_eq]
  omega

theorem two_mul_fitting_le (burst : Burst) (capacity : Nat) :
    2 * burst.fitting capacity ≤ burst.data.length := by
  unfold fitting
  rw [toNat_stereo]
  omega

/-- The samples of the frames that a buffer of so many bytes takes. -/
def fittingData (burst : Burst) (capacity : Nat) : List UInt8 :=
  burst.data.take (stereo.toNat * burst.fitting capacity)

theorem length_fittingData (burst : Burst) (capacity : Nat) :
    (burst.fittingData capacity).length = 2 * burst.fitting capacity := by
  rw [fittingData, List.length_take]
  exact Nat.min_eq_left (burst.two_mul_fitting_le capacity)

end Burst

/-- The device bytes of some samples. -/
def widened : List UInt8 → List UInt8
  | [] => []
  | sample :: samples => 0 :: sample :: widened samples

@[simp] theorem length_widened (samples : List UInt8) :
    (widened samples).length = 2 * samples.length := by
  induction samples with
  | nil => rfl
  | cons sample samples ih => simp only [widened, List.length_cons, ih]; omega

theorem widened_append (first second : List UInt8) :
    widened (first ++ second) = widened first ++ widened second := by
  induction first with
  | nil => rfl
  | cons sample samples ih => simp only [widened, List.cons_append, ih]

theorem take_widened (samples : List UInt8) (count : Nat) :
    (widened samples).take (2 * count) = widened (samples.take count) := by
  induction count generalizing samples with
  | zero => rfl
  | succ count ih =>
    cases samples with
    | nil => rfl
    | cons sample samples => exact congrArg (0 :: sample :: ·) (ih samples)

theorem drop_widened (samples : List UInt8) (count : Nat) :
    (widened samples).drop (2 * count) = widened (samples.drop count) := by
  induction count generalizing samples with
  | zero => rfl
  | succ count ih =>
    cases samples with
    | nil => rfl
    | cons sample samples => exact ih samples

/-- Write widened samples over the front of a buffer, as long as both last. -/
def overwrite : List UInt8 → List UInt8 → List UInt8
  | sample :: samples, _ :: _ :: rest => 0 :: sample :: overwrite samples rest
  | _, buffer => buffer

theorem overwrite_eq {samples buffer : List UInt8} (fits : 2 * samples.length ≤ buffer.length) :
    overwrite samples buffer = widened samples ++ buffer.drop (2 * samples.length) := by
  induction samples generalizing buffer with
  | nil => simp only [overwrite, widened, List.length_nil, List.nil_append, Nat.mul_zero,
      List.drop_zero]
  | cons sample samples ih =>
    match buffer, fits with
    | [], fits | [_], fits => simp only [List.length_cons, List.length_nil] at fits; omega
    | _ :: _ :: rest, fits =>
      have shorter : 2 * samples.length ≤ rest.length := by
        simp only [List.length_cons] at fits; omega
      have double : 2 * (samples.length + 1) = 2 * samples.length + 1 + 1 := by omega
      simp only [overwrite, widened, ih shorter, List.cons_append, List.length_cons, double,
        List.drop_succ_cons]

namespace Burst

/-- Widen a burst over the front of a buffer; the result is the number of frames written and the
buffer after it. -/
def widenInto (burst : Burst) (buffer : List UInt8) : Nat × List UInt8 :=
  (burst.fitting buffer.length, overwrite (burst.fittingData buffer.length) buffer)

theorem widenInto_eq (burst : Burst) (buffer : List UInt8) :
    burst.widenInto buffer =
      (burst.fitting buffer.length,
        widened (burst.fittingData buffer.length) ++
          buffer.drop (stereoFrame * burst.fitting buffer.length)) := by
  have size := burst.length_fittingData buffer.length
  have room := burst.stereoFrame_mul_fitting_le buffer.length
  rw [stereoFrame_eq] at room
  have same : 2 * (2 * burst.fitting buffer.length) = 4 * burst.fitting buffer.length := by omega
  rw [widenInto, overwrite_eq (by omega), size, same, stereoFrame_eq]

theorem length_widenInto (burst : Burst) (buffer : List UInt8) :
    (burst.widenInto buffer).2.length = buffer.length := by
  have size := burst.length_fittingData buffer.length
  have room := burst.stereoFrame_mul_fitting_le buffer.length
  rw [widenInto_eq]
  simp only [List.length_append, length_widened, List.length_drop, size, stereoFrame_eq] at *
  omega

end Burst

end PacingHost
