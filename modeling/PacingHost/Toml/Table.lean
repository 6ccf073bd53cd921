import PacingHost.Toml.Value

/-! # Building tables

A key may be added once, and a table may be opened once. What may still be added to a table depends
on its origin: dotted keys reach into tables that only dotted keys have made, headers into all that
were not written as values, and a header may open a table that so far is only implied.
-/

namespace PacingHost.Toml

/-- A key below some dotted keys, and its value. -/
structure Pair where
  path : List String
  key : String
  value : Value
deriving Repr

namespace Entries

/-- Set the value of a key, in place if the key is there. -/
def set (key : String) (value : Value) : Entries → Entries
  | [] => [(key, value)]
  | (other, old) :: rest =>
    if other = key then (key, value) :: rest else (other, old) :: set key value rest

/-- Add a value below dotted keys; the tables on the way are made or were made by dotted keys. -/
def add (key : String) (value : Value) : List String → Entries → Option Entries
  | [], entries =>
    if (entries.lookup key).isSome then none else some (entries ++ [(key, value)])
  | step :: path, entries =>
    match entries.lookup step with
    | none => do
      let below ← add key value path []
      some (entries ++ [(step, .table .dotted below)])
    | some (.table .dotted below) => do
      let below ← add key value path below
      some (set step (.table .dotted below) entries)
    | some (.table .implied below) =>
      if path.isEmpty then none
      else do
        let below ← add key value path below
        some (set step (.table .implied below) entries)
    | some (.tables items) =>
      if path.isEmpty then none
      else do
        let last ← items.getLast?
        let last ← add key value path last
        some (set step (.tables (items.dropLast ++ [last])) entries)
    | some _ => none

/-- Add pairs in order. -/
def addAll (pairs : List Pair) (entries : Entries) : Option Entries :=
  pairs.foldlM (fun entries pair => add pair.key pair.value pair.path entries) entries

/-- Change what stands below the keys of a header; the tables on the way are implied if they are
not there yet. -/
def change (update : Option Value → Option Value) (key : String) :
    List String → Entries → Option Entries
  | [], entries => do
    let value ← update (entries.lookup key)
    some (set key value entries)
  | step :: path, entries =>
    match entries.lookup step with
    | none => do
      let below ← change update key path []
      some (set step (.table .implied below) entries)
    | some (.table origin below) =>
      if origin = .inline then none
      else do
        let below ← change update key path below
        some (set step (.table origin below) entries)
    | some (.tables items) => do
      let last ← items.getLast?
      let last ← change update key path last
      some (set step (.tables (items.dropLast ++ [last])) entries)
    | some _ => none

/-- Open a table and add pairs to it. -/
def openTable (pairs : List Pair) : Option Value → Option Value
  | none => (addAll pairs []).map (Value.table .header)
  | some (.table .implied below) => (addAll pairs below).map (Value.table .header)
  | some _ => none

/-- Append a table with some pairs to the tables of its name. -/
def appendTable (pairs : List Pair) : Option Value → Option Value
  | none => (addAll pairs []).map fun entries => .tables [entries]
  | some (.tables items) => (addAll pairs []).map fun entries => .tables (items ++ [entries])
  | some _ => none

/-- Adding distinct keys keeps their order. -/
theorem add_nil {key : String} {value : Value} {entries : Entries}
    (fresh : entries.lookup key = none) :
    add key value [] entries = some (entries ++ [(key, value)]) := by
  simp only [add, fresh, Option.isSome_none, Bool.false_eq_true, ↓reduceIte]

end Entries

end PacingHost.Toml
