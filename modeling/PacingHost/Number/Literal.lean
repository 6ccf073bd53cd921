import PacingHost.Number.Shortest
import PacingHost.Number.Word

/-! # Reading numbers

The decimal literals of the command line and of log filters, and the value of a decimal as a float.
A literal is an optional sign and then a word for infinity or NaN, in any case, or digits with an
optional point and an optional exponent, at least one digit standing beside the point.
`Decimal.toFloat` rounds the exact value once; exponents far outside the range of a float are
decided without writing out the power of ten.
-/

namespace PacingHost.Number

/-- The float nearest to a decimal. -/
def Decimal.toFloat (d : Decimal) : Float :=
  let magnitude : Int := (Nat.toDigits 10 d.digits).length + d.exponent
  if d.digits = 0 ∨ magnitude < -400 then 0.0
  else if 400 < magnitude then Float.ofBits 0x7FF0000000000000
  else Float.ofScientific d.digits (decide (d.exponent < 0)) d.exponent.natAbs

/-- A leading sign; `true` stands for a minus. -/
def takeSign : List Char → Bool × List Char
  | '-' :: rest => (true, rest)
  | '+' :: rest => (false, rest)
  | rest => (false, rest)

/-- The digits at the front and what follows them. -/
def takeDigits (text : List Char) : List Char × List Char :=
  text.span Char.isDigit

/-- A signed whole number in decimal digits. -/
def readInteger? (text : List Char) : Option Int :=
  let (negative, digits) := takeSign text
  if digits.isEmpty || !digits.all Char.isDigit then none
  else
    let value := Nat.ofDigitChars 10 digits 0
    some (if negative then -(value : Int) else value)

/-- A signed whole number of 64 bits that fits 32 unsigned bits. -/
def readWord? (text : List Char) : Option UInt32 :=
  (readInteger? text).bind fun value =>
    if 0 ≤ value ∧ value.toNat < Word.limit then some (UInt32.ofNat value.toNat) else none

/-- An exponent part: nothing, or a letter e and a signed whole number. -/
def readExponent? : List Char → Option Int
  | [] => some 0
  | 'e' :: rest => readInteger? rest
  | 'E' :: rest => readInteger? rest
  | _ => none

/-- Digits around an optional point, and an optional exponent. -/
def readDecimal? (text : List Char) : Option Decimal :=
  let (whole, rest) := takeDigits text
  let (fraction, rest) := match rest with
    | '.' :: rest => takeDigits rest
    | rest => ([], rest)
  if whole.isEmpty && fraction.isEmpty then none
  else (readExponent? rest).map fun exponent =>
    ⟨Nat.ofDigitChars 10 (whole ++ fraction) 0, exponent - fraction.length⟩

/-- A float literal. -/
def readFloat? (text : List Char) : Option Float :=
  let (negative, rest) := takeSign text
  let signed (x : Float) : Float := if negative then -x else x
  let word := String.ofList (rest.map Char.toLower)
  if word = "inf" ∨ word = "infinity" then some (signed (Float.ofBits 0x7FF0000000000000))
  else if word = "nan" then some (Float.ofBits 0x7FF8000000000000)
  else (readDecimal? rest).map fun d => signed d.toFloat

example : (readFloat? "-.5e1".toList).map Float.toBits = some (-5.0 : Float).toBits := by
  decide +kernel
example : (readFloat? "1e".toList).isNone = true := by decide +kernel
example : readWord? "+0042".toList = some 42 := by decide +kernel
example : readWord? "-1".toList = none := by decide +kernel

end PacingHost.Number
