import PacingHost.Number.Literal
import PacingHost.Number.Radix
import PacingHost.Toml.Text
import PacingHost.Toml.Value

/-! # Reading numbers

Integers have 64 bits and may be written with the bases 16, 8 and 2. A float has a fraction, an
exponent or both. A line may divide two digits, and a decimal number starts with a zero only if
that is its whole part. A float too large to hold is refused unless it is negative.
-/

namespace PacingHost.Toml

/-- The digits at the front, without the lines between them. A line with no digit after it is
refused. -/
def moreDigits (digit : Char → Bool) : List Char → Read (List Char)
  | '_' :: c :: rest => if digit c then (moreDigits digit rest).cons c else none
  | ['_'] => none
  | c :: rest => if digit c then (moreDigits digit rest).cons c else some ([], c :: rest)
  | [] => some ([], [])

/-- At least one digit. -/
def readDigits (digit : Char → Bool) : List Char → Read (List Char)
  | c :: rest => if digit c then (moreDigits digit rest).cons c else none
  | [] => none

/-- The digits of a whole number, which start with a zero only if that is all. -/
def readWhole : List Char → Read (List Char)
  | '0' :: rest => some (['0'], rest)
  | input => readDigits Char.isDigit input

/-- An integer that 64 bits hold. -/
def checkedInteger (value : Int) : Option Value :=
  if -9223372036854775808 ≤ value ∧ value ≤ 9223372036854775807 then some (.integer value)
  else none

/-- The digits of an integer in a base other than ten. -/
def readBased (base : Nat) (input : List Char) : Option (Value × List Char) := do
  let (digits, rest) ← readDigits (Number.isDigitOf base) input
  let value ← checkedInteger (Number.ofDigits base digits)
  some (value, rest)

/-- A float that is not too large. -/
def checkedFloat (x : Float) : Option Value :=
  match Binary64.ofFloat x with
  | .infinite false => none
  | value => some (.float value)

/-- A fraction, if a point follows. -/
def readFraction : List Char → Read (List Char)
  | '.' :: rest => readDigits Char.isDigit rest
  | rest => some ([], rest)

/-- An exponent, if its letter follows. -/
def readExponent (input : List Char) : Option (Option Int × List Char) :=
  match input with
  | 'e' :: rest | 'E' :: rest => do
    let (negative, unsigned) := Number.takeSign rest
    let (digits, rest) ← readDigits Char.isDigit unsigned
    let size : Int := Number.ofDigits 10 digits
    some (some (if negative then -size else size), rest)
  | rest => some (none, rest)

/-- A decimal number after its sign. -/
def readDecimal (negative : Bool) (input : List Char) : Option (Value × List Char) := do
  let (whole, rest) ← readWhole input
  let (fraction, rest) ← readFraction rest
  let (exponent, rest) ← readExponent rest
  let size := Number.ofDigits 10 (whole ++ fraction)
  if fraction.isEmpty ∧ exponent = none then
    let value ← checkedInteger (if negative then -(size : Int) else size)
    some (value, rest)
  else
    let x := Number.Decimal.toFloat ⟨size, exponent.getD 0 - fraction.length⟩
    let value ← checkedFloat (if negative then -x else x)
    some (value, rest)

/-- Infinity or NaN after the sign. -/
def readSpecial (negative : Bool) : List Char → Read Value
  | 'i' :: 'n' :: 'f' :: rest => some (.float (.infinite negative), rest)
  | 'n' :: 'a' :: 'n' :: rest => some (.float .nan, rest)
  | _ => none

/-- A number in any of its forms. -/
def readNumber (input : List Char) : Read Value :=
  match input with
  | '0' :: 'x' :: rest => readBased 16 rest
  | '0' :: 'o' :: rest => readBased 8 rest
  | '0' :: 'b' :: rest => readBased 2 rest
  | _ =>
    let (negative, unsigned) := Number.takeSign input
    readSpecial negative unsigned <|> readDecimal negative unsigned

end PacingHost.Toml
