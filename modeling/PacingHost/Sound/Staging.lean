import PacingHost.Sound.Widening

/-! # The staging buffer

Bursts are widened into a buffer of fixed size before they are queued. The buffer starts out with
zeros and is never cleaned, so bytes of earlier bursts stay behind the frames of a shorter one. Only
the part written so far is kept; `contents_write` says that this agrees with widening over the whole
buffer.
-/

namespace PacingHost

/-- A buffer of which some bytes at the front have been written; the others are zero. -/
structure Staging where
  capacity : Nat
  touched : List UInt8
  fits : touched.length ≤ capacity
deriving DecidableEq, Repr

namespace Staging

/-- A buffer of zeros. -/
def blank (capacity : Nat) : Staging := ⟨capacity, [], Nat.zero_le capacity⟩

/-- All bytes of the buffer. -/
def contents (staging : Staging) : List UInt8 :=
  staging.touched ++ List.replicate (staging.capacity - staging.touched.length) 0

@[simp] theorem length_contents (staging : Staging) :
    staging.contents.length = staging.capacity := by
  have := staging.fits
  simp only [contents, List.length_append, List.length_replicate]
  omega

/-- The first bytes of the buffer; more than it holds is a fault. -/
def front (staging : Staging) (count : Nat) : Except Fault (List UInt8) :=
  if count ≤ staging.capacity then
    .ok (staging.touched.take count ++ List.replicate (count - staging.touched.length) 0)
  else .error (.stagingOverrun count staging.capacity)

theorem front_eq_ok {staging : Staging} {count : Nat} (within : count ≤ staging.capacity) :
    staging.front count = .ok (staging.contents.take count) := by
  have := staging.fits
  rw [front, if_pos within, contents, List.take_append, List.take_replicate]
  congr
  omega

/-- Widen the fitting frames of a burst over the front of the buffer. -/
def write (staging : Staging) (burst : Burst) : Staging where
  capacity := staging.capacity
  touched :=
    widened (burst.fittingData staging.capacity) ++
      staging.touched.drop (stereoFrame * burst.fitting staging.capacity)
  fits := by
    have room := burst.stereoFrame_mul_fitting_le staging.capacity
    have size := burst.length_fittingData staging.capacity
    have := staging.fits
    rw [List.length_append, length_widened, List.length_drop, size, stereoFrame_eq]
    rw [stereoFrame_eq] at room
    omega

@[simp] theorem capacity_write (staging : Staging) (burst : Burst) :
    (staging.write burst).capacity = staging.capacity := rfl

theorem contents_write (staging : Staging) (burst : Burst) :
    (staging.write burst).contents = (burst.widenInto staging.contents).2 := by
  have room := burst.stereoFrame_mul_fitting_le staging.capacity
  have size := burst.length_fittingData staging.capacity
  have fits := staging.fits
  rw [stereoFrame_eq] at room
  rw [Burst.widenInto_eq, length_contents]
  simp only [contents, write, List.drop_append, List.drop_replicate, List.length_append,
    length_widened, List.length_drop, size, stereoFrame_eq, List.append_assoc]
  congr 3
  omega

/-- The frames of a burst that were just written stand at the front. -/
theorem front_write (staging : Staging) (burst : Burst) :
    (staging.write burst).front (stereoFrame * burst.fitting staging.capacity) =
      .ok (widened (burst.fittingData staging.capacity)) := by
  have room := burst.stereoFrame_mul_fitting_le staging.capacity
  have size := burst.length_fittingData staging.capacity
  have whole : (widened (burst.fittingData staging.capacity)).length =
      stereoFrame * burst.fitting staging.capacity := by
    rw [length_widened, size, stereoFrame_eq]; omega
  rw [front_eq_ok (by exact room), contents_write, Burst.widenInto_eq, length_contents,
    ← whole, List.take_left]

end Staging

end PacingHost
