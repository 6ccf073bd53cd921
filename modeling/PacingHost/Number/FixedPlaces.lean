import PacingHost.Number.Binary64

/-! # Rounding to a fixed number of decimal places

`nearest` rounds a quotient of naturals to the nearest natural, a half going to the even
neighbour. A float is written with a set number of places by rounding its exact value once;
`nearest_le` and `le_nearest` bound the error by half a unit.
-/

namespace PacingHost.Number

/-- The natural nearest to `top / bottom`; a half goes to the even neighbour. -/
def nearest (top bottom : Nat) : Nat :=
  let below := top / bottom
  let rest := top % bottom
  if 2 * rest < bottom then below
  else if bottom < 2 * rest then below + 1
  else below + below % 2

theorem nearest_le (top bottom : Nat) (positive : 0 < bottom) :
    2 * (nearest top bottom * bottom) ≤ 2 * top + bottom := by
  have division := Nat.div_add_mod top bottom
  have small := Nat.mod_lt top positive
  have step : (top / bottom + 1) * bottom = bottom * (top / bottom) + bottom := by
    rw [Nat.add_mul, Nat.mul_comm, Nat.one_mul]
  have same : top / bottom * bottom = bottom * (top / bottom) := Nat.mul_comm ..
  simp only [nearest]
  split
  · omega
  · split
    · omega
    · rcases Nat.mod_two_eq_zero_or_one (top / bottom) with even | odd
      · rw [even, Nat.add_zero]; omega
      · rw [odd, step]; omega

theorem le_nearest (top bottom : Nat) (positive : 0 < bottom) :
    2 * top ≤ 2 * (nearest top bottom * bottom) + bottom := by
  have division := Nat.div_add_mod top bottom
  have small := Nat.mod_lt top positive
  have step : (top / bottom + 1) * bottom = bottom * (top / bottom) + bottom := by
    rw [Nat.add_mul, Nat.mul_comm, Nat.one_mul]
  have same : top / bottom * bottom = bottom * (top / bottom) := Nat.mul_comm ..
  simp only [nearest]
  split
  · omega
  · split
    · omega
    · rcases Nat.mod_two_eq_zero_or_one (top / bottom) with even | odd
      · rw [even, Nat.add_zero]; omega
      · rw [odd, step]; omega

/-- Write `digits` with a point before its last `places` digits. -/
def withPoint (places digits : Nat) : String :=
  let text := Nat.toDigits 10 digits
  let padded := List.replicate (places + 1 - text.length) '0' ++ text
  let (whole, fraction) := padded.splitAt (padded.length - places)
  String.ofList (if places = 0 then whole else whole ++ '.' :: fraction)

/-- A float with exactly `places` digits after the point, its exact value rounded once. -/
def fixedPlaces (places : Nat) (x : Float) : String :=
  match Binary64.ofFloat x with
  | .nan => "NaN"
  | .infinite negative => if negative then "-inf" else "inf"
  | .finite negative mantissa exponent =>
    let (top, bottom) := Binary64.quotients mantissa exponent
    (if negative then "-" else "") ++ withPoint places (nearest (top * Nat.pow 10 places) bottom)

example : fixedPlaces 3 16.0 = "16.000" := by decide +kernel
example : fixedPlaces 2 0.125 = "0.12" := by decide +kernel
example : fixedPlaces 3 (-0.0) = "-0.000" := by decide +kernel

end PacingHost.Number
