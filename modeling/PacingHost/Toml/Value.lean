import PacingHost.Number.Binary64

/-! # Values

What stands after a key: a string, a number, a truth value, a moment, or a collection of values. A
table remembers how it came to be, for that decides which keys may still be added to it.
-/

namespace PacingHost.Toml

/-- How a table came to be. -/
inductive Origin where
  /-- A header names it. -/
  | header
  /-- A header names a table below it. -/
  | implied
  /-- A dotted key names something in it. -/
  | dotted
  /-- It was written as a value. -/
  | inline
deriving DecidableEq, Repr

inductive Value where
  | string (text : String)
  | integer (value : Int)
  | float (value : Binary64)
  | boolean (value : Bool)
  /-- A date, a time or both, as written. -/
  | moment (text : String)
  | array (items : List Value)
  | table (origin : Origin) (entries : List (String × Value))
  /-- Tables that headers in double brackets have added. -/
  | tables (items : List (List (String × Value)))
deriving Repr

/-- Keys with their values, in the order in which they were added. -/
abbrev Entries := List (String × Value)

end PacingHost.Toml
