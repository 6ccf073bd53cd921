import PacingHost.Pattern.Bracket
import PacingHost.Text.Letters

/-! # Patterns

Whether a text is a pattern, which is a text in the language of regular expressions. Branches stand
between bars, members of a branch behind each other; a member is a sign, a bracket, a group in
parentheses or a repetition. Counted repetitions are not in the language, for the texts that are
read here hold no closing braces. `problem?` gives the first thing that is wrong.
-/

namespace PacingHost.Pattern

/-- Groups, repetitions and the like lie within each other at most so deep. -/
def deepest : Nat := 250

/-- Branches that are read, and the members of the last of them. -/
structure Level where
  /-- The depth of the deepest branch before the last one, if there is one. -/
  branches : Option Nat := none
  members : Members := {}
  /-- The depth of the last member, if it can be repeated. -/
  last : Option Nat := none
deriving DecidableEq, Repr

namespace Level

def add (level : Level) (depth : Nat) : Level :=
  { level with members := level.members.add depth, last := some depth }

/-- Add flags, which are a member that cannot be repeated. -/
def addFlags (level : Level) : Level :=
  { level with members := level.members.add 0, last := none }

/-- Repeat the last member. -/
def repeat? (level : Level) : Option Level :=
  level.last.map fun depth =>
    { level with
      members := { level.members with deepest := max level.members.deepest (depth + 1) }
      last := some (depth + 1) }

/-- Begin another branch. -/
def branch (level : Level) : Level :=
  { branches := some (max (level.branches.getD 0) level.members.depth) }

def depth (level : Level) : Nat :=
  match level.branches with
  | none => level.members.depth
  | some depth => max depth level.members.depth + 1

end Level

/-- What is known of a pattern while it is read. -/
structure Reader where
  mode : Mode := {}
  level : Level := {}
  /-- The open groups, from the innermost on: the mode and the level before each of them. -/
  outer : List (Mode × Level) := []
  /-- The names of groups. -/
  names : List (List Char) := []
  /-- The pattern asks for edges of words of all scripts. -/
  wordEdges : Bool := false
deriving DecidableEq, Repr

namespace Reader

def add (reader : Reader) (depth : Nat) : Reader :=
  { reader with level := reader.level.add depth }

/-- Add a sign. -/
def addSign? (reader : Reader) (sign : Sign) : Option Reader :=
  if sign.isAdmitted reader.mode then
    some { reader.add 0 with
      wordEdges := reader.wordEdges || (sign = .wordEdge && reader.mode.unicode) }
  else none

/-- Open a group that is read in a mode. -/
def enter (reader : Reader) (mode : Mode) : Reader :=
  { reader with mode, level := {}, outer := (reader.mode, reader.level) :: reader.outer }

/-- Close a group; the mode before it holds again. -/
def leave? (reader : Reader) : Option Reader :=
  match reader.outer with
  | [] => none
  | (mode, level) :: outer =>
    some { reader with mode, level := level.add (reader.level.depth + 1), outer }

/-- Open a group with a name. A name begins with a letter or an underscore, goes on with those,
numerals, points and square brackets, and names one group only. -/
def enterNamed? (reader : Reader) (text : List Char) : Option (Reader × List Char) :=
  let name := text.takeWhile (· ≠ '>')
  match name, text.dropWhile (· ≠ '>') with
  | first :: more, '>' :: rest =>
    if (first = '_' || Text.isLetter first) &&
        more.all (fun c => "_.[]".toList.contains c || Text.isLetter c || Text.isNumeral c) &&
        !reader.names.contains name then
      some ({ reader.enter reader.mode with names := name :: reader.names }, rest)
    else none
  | _, _ => none

/-- What stands behind an opening parenthesis: a group, with a name or with flags, or flags for the
rest of the group around them. -/
def open? (reader : Reader) (text : List Char) : Option (Reader × List Char) :=
  match reader.mode.skip text with
  | '?' :: 'P' :: '<' :: rest => reader.enterNamed? rest
  | '?' :: '<' :: rest => reader.enterNamed? rest
  | '?' :: rest =>
    match readFlags? [] false false rest with
    | none => none
    | some (flags, sign, rest) =>
      let mode := reader.mode.setAll flags
      if sign = ':' then some (reader.enter mode, rest)
      else if flags.isEmpty then none
      else some ({ reader with mode, level := reader.level.addFlags }, rest)
  | rest => some (reader.enter reader.mode, rest)

/-- Read what a character begins; the result holds what follows. -/
def step? (reader : Reader) (c : Char) (rest : List Char) : Option (Reader × List Char) :=
  match c with
  | '(' => reader.open? rest
  | ')' => reader.leave?.map (·, rest)
  | '|' => some ({ reader with level := reader.level.branch }, rest)
  | '[' => (readWholeBracket? reader.mode rest).map fun (depth, rest) => (reader.add depth, rest)
  | '?' | '*' | '+' =>
    let rest := match rest with
      | '?' :: rest => rest
      | _ => rest
    reader.level.repeat?.map fun level => ({ reader with level }, rest)
  | '{' => none
  | '\\' => do
    let (sign, rest) ← readEscape? reader.mode rest
    return (← reader.addSign? sign, rest)
  | '.' => (reader.addSign? .any).map (·, rest)
  | '^' | '$' => (reader.addSign? .place).map (·, rest)
  | _ => (reader.addSign? (.character c false)).map (·, rest)

/-- Read a text to its end, in at most so many steps. -/
def readAll? : Nat → Reader → List Char → Option Reader
  | steps, reader, text =>
    match reader.mode.skip text, steps with
    | [], _ => some reader
    | _ :: _, 0 => none
    | c :: rest, steps + 1 =>
      match reader.step? c rest with
      | none => none
      | some (next, rest) => readAll? steps next rest

end Reader

/-- Why a text is no use as a pattern. -/
inductive Problem where
  | malformed
  /-- The edges of words of all scripts cannot be found without memory. -/
  | wordEdges
deriving DecidableEq, Repr

def Problem.message : Problem → String
  | .malformed => "error building NFA"
  | .wordEdges =>
    "unsupported regex feature for DFAs: cannot build DFAs for regexes with Unicode word " ++
      "boundaries; switch to ASCII word boundaries, or heuristically enable Unicode word " ++
      "boundaries or use a different regex engine"

/-- What is wrong with a text as a pattern. -/
def problem? (text : List Char) : Option Problem :=
  match Reader.readAll? text.length {} text with
  | none => some .malformed
  | some reader =>
    if !reader.outer.isEmpty || deepest < reader.level.depth then some .malformed
    else if reader.wordEdges then some .wordEdges
    else none

example : problem? "(?P<x>a|[b-d])*?".toList = none := by decide +kernel
example : problem? "(a".toList = some .malformed := by decide +kernel
example : problem? "\\bword".toList = some .wordEdges := by decide +kernel

end PacingHost.Pattern
