/-! # Exact values of 64-bit floats

A float is decoded from its bits into `m * 2 ^ q` over exact integers, or into one of the special
values. Whatever must agree to the last digit (cycle budgets, phases, durations, printed numbers)
is computed from this view, where every operation is exact and can be evaluated in a proof.
`quotients` and `wholePart` say how the view is read as a fraction.
-/

namespace PacingHost

/-- The value of a 64-bit float: `mantissa * 2 ^ exponent` with a sign, or a special value. -/
inductive Binary64 where
  | nan
  | infinite (negative : Bool)
  | finite (negative : Bool) (mantissa : Nat) (exponent : Int)
deriving DecidableEq, Repr

namespace Binary64

/-- Fractions are below this limit; the bits of the exponent stand above them. -/
def fractionLimit : Nat := 4503599627370496

/-- Exponents are below this limit; the sign stands above them. -/
def exponentLimit : Nat := 2048

/-- Split the bits into sign, exponent and fraction. -/
def ofFloat (x : Float) : Binary64 :=
  let bits := x.toBits.toNat
  let negative := decide (fractionLimit * exponentLimit ≤ bits)
  let exponent : Nat := bits / fractionLimit % exponentLimit
  let fraction : Nat := bits % fractionLimit
  if exponent + 1 = exponentLimit then
    if fraction = 0 then .infinite negative else .nan
  else if exponent = 0 then .finite negative fraction (-1074)
  else .finite negative (fractionLimit + fraction) ((exponent : Int) - 1075)

/-- `mantissa * 2 ^ exponent` as a quotient of two naturals. -/
def quotients (mantissa : Nat) (exponent : Int) : Nat × Nat :=
  (mantissa * Nat.pow 2 exponent.toNat, Nat.pow 2 (-exponent).toNat)

theorem quotients_pos (mantissa : Nat) (exponent : Int) : 0 < (quotients mantissa exponent).2 :=
  Nat.pow_pos (by decide)

/-- The largest natural at most `mantissa * 2 ^ exponent`. -/
def wholePart (mantissa : Nat) (exponent : Int) : Nat :=
  (quotients mantissa exponent).1 / (quotients mantissa exponent).2

theorem wholePart_le (mantissa : Nat) (exponent : Int) :
    wholePart mantissa exponent * (quotients mantissa exponent).2 ≤
      (quotients mantissa exponent).1 :=
  Nat.div_mul_le_self ..

theorem lt_wholePart_succ (mantissa : Nat) (exponent : Int) :
    (quotients mantissa exponent).1 <
      (wholePart mantissa exponent + 1) * (quotients mantissa exponent).2 := by
  rw [Nat.mul_comm]
  exact Nat.lt_mul_div_succ _ (quotients_pos mantissa exponent)

/-- The largest natural at most the value, kept between zero and `top`; NaN counts as zero. -/
def floorUpTo (top : Nat) : Binary64 → Nat
  | .nan => 0
  | .infinite negative => if negative then 0 else top
  | .finite negative mantissa exponent =>
    if negative then 0 else min (wholePart mantissa exponent) top

theorem floorUpTo_le (top : Nat) (x : Binary64) : floorUpTo top x ≤ top := by
  unfold floorUpTo
  split
  · exact Nat.zero_le _
  · split <;> omega
  · split <;> omega

/-- The part of the value after the point, taken toward zero, is below one half. -/
def fractionBelowHalf : Binary64 → Bool
  | .nan => false
  | .infinite _ => false
  | .finite negative mantissa exponent =>
    let (top, bottom) := quotients mantissa exponent
    negative || decide (2 * (top % bottom) < bottom)

end Binary64

/-- The largest natural at most `x`, kept between zero and `top`. -/
def floorUpTo (top : Nat) (x : Float) : Nat :=
  (Binary64.ofFloat x).floorUpTo top

theorem floorUpTo_le (top : Nat) (x : Float) : floorUpTo top x ≤ top :=
  Binary64.floorUpTo_le top _

end PacingHost
