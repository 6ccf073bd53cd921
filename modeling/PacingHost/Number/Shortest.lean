import PacingHost.Number.Binary64

/-! # The shortest decimal that identifies a float

`shortest` looks for the fewest digits that read back to the given value. A decimal reads back when
it lies among the reals that round to the value, an interval whose ends belong to it exactly when
the mantissa is even. For one digit, two digits and so on the two neighbours of the value on that
decimal grid are tested in exact arithmetic; the first grid with a hit wins, the nearer neighbour
is taken, and the upper one where both are equally near. `plainText` writes the result without an
exponent.
-/

namespace PacingHost.Number

/-- The number `digits * 10 ^ exponent`. -/
structure Decimal where
  digits : Nat
  exponent : Int
deriving DecidableEq, Repr

/-- Compare `digits * 10 ^ exponent` with `count * 2 ^ power`. -/
def Decimal.compareScaled (d : Decimal) (count : Nat) (power : Int) : Ordering :=
  compare (d.digits * Nat.pow 10 d.exponent.toNat * Nat.pow 2 (-power).toNat)
    (count * Nat.pow 2 power.toNat * Nat.pow 10 (-d.exponent).toNat)

/-- The decimal lies among the reals that round to `mantissa * 2 ^ exponent`. -/
def Decimal.readsBack (d : Decimal) (mantissa : Nat) (exponent : Int) : Bool :=
  let narrow := mantissa = Binary64.fractionLimit ∧ -1074 < exponent
  let lower := if narrow then 4 * mantissa - 1 else 4 * mantissa - 2
  let upper := 4 * mantissa + 2
  let closed := mantissa % 2 = 0
  let low := d.compareScaled lower (exponent - 2)
  let high := d.compareScaled upper (exponent - 2)
  (low == .gt || (closed && low == .eq)) && (high == .lt || (closed && high == .eq))

/-- The least `k` between `k` and `k + fuel` with `top / bottom < 10 ^ k`. -/
def scaleFrom (top bottom : Nat) (k : Int) : Nat → Int
  | 0 => k
  | fuel + 1 =>
    if top * Nat.pow 10 (-k).toNat < bottom * Nat.pow 10 k.toNat then k
    else scaleFrom top bottom (k + 1) fuel

/-- The neighbours of `top / bottom` on the grid of `10 ^ exponent`, below and above. -/
def neighbours (top bottom : Nat) (exponent : Int) : Decimal × Decimal :=
  let below := top * Nat.pow 10 (-exponent).toNat / (bottom * Nat.pow 10 exponent.toNat)
  (⟨below, exponent⟩, ⟨below + 1, exponent⟩)

/-- Of the two neighbours on a grid the one that reads back; of two, the nearer, or else the
upper one. -/
def hit? (mantissa : Nat) (exponent grid : Int) : Option Decimal :=
  let (top, bottom) := Binary64.quotients mantissa exponent
  let (below, above) := neighbours top bottom grid
  match below.readsBack mantissa exponent, above.readsBack mantissa exponent with
  | true, true =>
    let middle : Decimal := ⟨10 * below.digits + 5, grid - 1⟩
    some (if middle.compareScaled mantissa exponent == .gt then below else above)
  | true, false => some below
  | false, true => some above
  | false, false => none

/-- Move trailing zeros of the digits into the exponent, at most `fuel` of them. -/
def Decimal.strip (d : Decimal) : Nat → Decimal
  | 0 => d
  | fuel + 1 =>
    if d.digits ≠ 0 ∧ d.digits % 10 = 0 then strip ⟨d.digits / 10, d.exponent + 1⟩ fuel else d

/-- The fewest digits that read back to `mantissa * 2 ^ exponent`. -/
def shortest (mantissa : Nat) (exponent : Int) : Decimal :=
  if mantissa = 0 then ⟨0, 0⟩ else
    let (top, bottom) := Binary64.quotients mantissa exponent
    let bits : Int := mantissa.log2 + exponent
    let scale := scaleFrom top bottom (bits * 30103 / 100000 - 1) 4
    let found := (List.range 17).findSome? fun n => hit? mantissa exponent (scale - (n + 1 : Nat))
    let exact : Decimal :=
      if 0 ≤ exponent then ⟨mantissa * Nat.pow 2 exponent.toNat, 0⟩
      else ⟨mantissa * Nat.pow 5 (-exponent).toNat, exponent⟩
    (found.getD exact).strip 20

/-- Write a decimal without an exponent and without trailing zeros after the point. -/
def Decimal.plainText (d : Decimal) : String :=
  let text := Nat.toDigits 10 d.digits
  if 0 ≤ d.exponent then
    String.ofList (if d.digits = 0 then ['0'] else text ++ List.replicate d.exponent.toNat '0')
  else
    let places := (-d.exponent).toNat
    let padded := List.replicate (places + 1 - text.length) '0' ++ text
    let (whole, fraction) := padded.splitAt (padded.length - places)
    String.ofList (whole ++ '.' :: fraction)

/-- A float in plain notation with the fewest digits that identify it. -/
def plainFloat (x : Float) : String :=
  match Binary64.ofFloat x with
  | .nan => "NaN"
  | .infinite negative => if negative then "-inf" else "inf"
  | .finite negative mantissa exponent =>
    (if negative then "-" else "") ++ (shortest mantissa exponent).plainText

example : plainFloat 0.1 = "0.1" := by decide +kernel
example : plainFloat (-1.5e-7) = "-0.00000015" := by decide +kernel
example : plainFloat 1e23 = "100000000000000000000000" := by decide +kernel
example : plainFloat (-0.0) = "-0" := by decide +kernel

end PacingHost.Number
