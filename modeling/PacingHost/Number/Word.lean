/-! # Products and sums of 32-bit words

`Word.product?` multiplies two words and refuses a product that does not fit; `Word.cappedProduct`
stays at the largest word instead.
-/

namespace PacingHost.Word

/-- Numbers below this limit fit 32 bits. -/
def limit : Nat := 4294967296

/-- Numbers below this limit fit 64 bits. -/
def longLimit : Nat := 18446744073709551616

/-- The product, if it fits. -/
def product? (left right : UInt32) : Option UInt32 :=
  if left.toNat * right.toNat < limit then some (left * right) else none

theorem product?_eq_some_iff (left right result : UInt32) :
    product? left right = some result ↔ result.toNat = left.toNat * right.toNat := by
  unfold product? limit
  have bound := result.toNat_lt
  split
  · next small =>
    rw [Option.some.injEq, ← UInt32.toNat_inj, UInt32.toNat_mul, Nat.mod_eq_of_lt small, eq_comm]
  · next large =>
    constructor
    · intro impossible
      cases impossible
    · intro equal
      rw [← equal] at large
      exact absurd bound large

theorem product?_eq_none_iff (left right : UInt32) :
    product? left right = none ↔ limit ≤ left.toNat * right.toNat := by
  unfold product?
  split <;> simp only [reduceCtorEq, false_iff, true_iff] <;> omega

/-- The product of a word and a number, or the largest word. -/
def cappedProduct (number : Nat) (factor : UInt32) : UInt32 :=
  UInt32.ofNat (min (min number (limit - 1) * factor.toNat) (limit - 1))

theorem toNat_cappedProduct (number : Nat) (factor : UInt32) (positive : factor ≠ 0) :
    (cappedProduct number factor).toNat = min (number * factor.toNat) (limit - 1) := by
  have least : 0 < factor.toNat := by
    rcases Nat.eq_zero_or_pos factor.toNat with zero | positive'
    · exact absurd (UInt32.toNat_inj.mp zero) positive
    · exact positive'
  have small : min (min number (limit - 1) * factor.toNat) (limit - 1) < UInt32.size := by
    have : limit = UInt32.size := rfl
    have : 0 < limit := by decide
    omega
  rw [cappedProduct, UInt32.toNat_ofNat', Nat.mod_eq_of_lt small]
  rcases Nat.le_total number (limit - 1) with fits | exceeds
  · rw [Nat.min_eq_left fits]
  · have grown := Nat.mul_le_mul exceeds least
    have same := Nat.mul_le_mul_left (limit - 1) least
    rw [Nat.min_eq_right exceeds, Nat.min_eq_right (by omega), Nat.min_eq_right (by omega)]

end PacingHost.Word
