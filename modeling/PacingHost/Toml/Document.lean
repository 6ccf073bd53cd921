import PacingHost.Toml.Statement

/-! # Documents

The meaning of a document is the table that its statements build. Pairs belong to the table opened
last; those before the first header belong to the document itself.
-/

namespace PacingHost.Toml

/-- Where the pairs of a section go. -/
inductive Place where
  | document
  | table (path : List String) (key : String)
  | element (path : List String) (key : String)
deriving DecidableEq, Repr

/-- A place, and the pairs that follow it. -/
structure Section where
  place : Place
  pairs : List Pair
deriving Repr

/-- Divide statements at the headers. -/
def sections (place : Place) : List Statement → List Section
  | [] => [⟨place, []⟩]
  | .pair pair :: rest =>
    match sections place rest with
    | first :: later => { first with pairs := pair :: first.pairs } :: later
    | [] => [⟨place, [pair]⟩]
  | .table path key :: rest => ⟨place, []⟩ :: sections (.table path key) rest
  | .element path key :: rest => ⟨place, []⟩ :: sections (.element path key) rest

/-- Add the pairs of a section to the document. -/
def Section.build (entries : Entries) (part : Section) : Option Entries :=
  match part.place with
  | .document => Entries.addAll part.pairs entries
  | .table path key => Entries.change (Entries.openTable part.pairs) key path entries
  | .element path key => Entries.change (Entries.appendTable part.pairs) key path entries

/-- The table that some statements build. -/
def build (statements : List Statement) : Option Entries :=
  (sections .document statements).foldlM Section.build []

/-- The table that a document describes. -/
def parse (text : List Char) : Option Entries := (readStatements text).bind build

end PacingHost.Toml
