import PacingHost.Number.Radix
import PacingHost.Toml.Text

/-! # Reading dates and times

A date is a day of the Gregorian calendar, a time has hours, minutes and seconds, and a moment is a
date, a time, or a date and a time with an optional offset from universal time. A leap second may be
written.
-/

namespace PacingHost.Toml

/-- A year with a twenty-ninth of February. -/
def isLeapYear (year : Nat) : Bool := year % 4 = 0 && (year % 100 ≠ 0 || year % 400 = 0)

def daysInMonth (year month : Nat) : Nat :=
  match month with
  | 2 => if isLeapYear year then 29 else 28
  | 4 | 6 | 9 | 11 => 30
  | _ => 31

/-- A number of exactly so many digits within some bounds. -/
def readField (width least most : Nat) (input : List Char) : Read Nat :=
  let digits := input.take width
  let value := Number.ofDigits 10 digits
  if digits.length = width ∧ digits.all Char.isDigit ∧ least ≤ value ∧ value ≤ most then
    some (value, input.drop width)
  else none

/-- The text after a character that has to stand at its front. -/
def expect (c : Char) : List Char → Option (List Char)
  | first :: rest => if first = c then some rest else none
  | [] => none

/-- The text after a date. -/
def skipDate? (input : List Char) : Option (List Char) := do
  let (year, rest) ← readField 4 0 9999 input
  let (month, rest) ← readField 2 1 12 (← expect '-' rest)
  let (_, rest) ← readField 2 1 (daysInMonth year month) (← expect '-' rest)
  some rest

/-- The text after a fraction of a second, if there is one. -/
def skipFraction : List Char → List Char
  | '.' :: c :: rest => if c.isDigit then rest.dropWhile Char.isDigit else '.' :: c :: rest
  | input => input

/-- The text after hours and minutes. -/
def skipMinutes? (input : List Char) : Option (List Char) := do
  let (_, rest) ← readField 2 0 23 input
  let (_, rest) ← readField 2 0 59 (← expect ':' rest)
  some rest

/-- The text after a time. -/
def skipTime? (input : List Char) : Option (List Char) := do
  let (_, rest) ← readField 2 0 60 (← expect ':' (← skipMinutes? input))
  some (skipFraction rest)

/-- The text after an offset, if there is one. -/
def skipOffset? : List Char → Option (List Char)
  | 'Z' :: rest | 'z' :: rest => some rest
  | '+' :: rest | '-' :: rest => skipMinutes? rest
  | rest => some rest

/-- The text after a time that belongs to a date, if there is one. -/
def skipTimeOfDay? (input : List Char) : Option (List Char) :=
  match input with
  | c :: rest =>
    if c = 'T' || c = 't' || c = ' ' then
      match skipTime? rest with
      | some after => skipOffset? after
      | none => some input
    else some input
  | [] => some []

/-- The text after a moment. -/
def skipMoment? (input : List Char) : Option (List Char) :=
  match skipDate? input with
  | some rest => skipTimeOfDay? rest
  | none => skipTime? input

/-- A moment as it is written. -/
def readMoment (input : List Char) : Read (List Char) :=
  (skipMoment? input).map fun rest => (input.take (input.length - rest.length), rest)

end PacingHost.Toml
