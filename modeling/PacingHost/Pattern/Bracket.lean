import PacingHost.Pattern.Sign

/-! # Brackets of patterns

Square brackets hold a set of characters: members, ranges, families by name, further brackets, and
operators between such sets. A set has a depth, which counts what lies within each other: brackets,
operators, and members that stand beside others.
-/

namespace PacingHost.Pattern

/-- Members beside each other. -/
structure Members where
  count : Nat := 0
  /-- The depth of the deepest member. -/
  deepest : Nat := 0
deriving DecidableEq, Repr

namespace Members

def add (members : Members) (depth : Nat) : Members :=
  ⟨members.count + 1, max members.deepest depth⟩

/-- Two or more members lie one deeper than each of them. -/
def depth (members : Members) : Nat :=
  if 1 < members.count then members.deepest + 1 else members.deepest

theorem deepest_le_depth (members : Members) : members.deepest ≤ members.depth := by
  unfold depth
  split <;> omega

end Members

/-- A bracket that is not closed yet. -/
structure Bracket where
  /-- The depth of what stands before the last operator, if there is one. -/
  left : Option Nat := none
  members : Members := {}
  /-- Nothing but minus signs stands behind the opening sign. -/
  opening : Bool := true
deriving DecidableEq, Repr

namespace Bracket

def add (bracket : Bracket) (depth : Nat) : Bracket :=
  { bracket with members := bracket.members.add depth, opening := false }

/-- The depth of the set inside. -/
def depth (bracket : Bracket) : Nat :=
  match bracket.left with
  | none => bracket.members.depth
  | some left => max left bracket.members.depth + 1

/-- Go on behind an operator. -/
def operate (bracket : Bracket) : Bracket := { left := some bracket.depth, opening := false }

end Bracket

/-- The families that have names. -/
def familyNames : List String :=
  ["alnum", "alpha", "ascii", "blank", "cntrl", "digit", "graph", "lower", "print", "punct",
    "space", "upper", "word", "xdigit"]

/-- A name between colons and a closing bracket, behind an opening bracket; a caret before the name
negates it, which the result tells. -/
def readFamily? : List Char → Option (Bool × List Char)
  | ':' :: text =>
    let (negated, text) := match text with
      | '^' :: text => (true, text)
      | _ => (false, text)
    match text.dropWhile (· ≠ ':') with
    | ':' :: ']' :: rest =>
      if familyNames.contains (String.ofList (text.takeWhile (· ≠ ':'))) then some (negated, rest)
      else none
    | _ => none
  | _ => none

/-- A family by name may be a member: it has no cases in all scripts, and negated it has members
beyond bytes of its own. -/
def isNamedMember (mode : Mode) (negated : Bool) : Bool :=
  if mode.unicode then !mode.foldCase else !negated

/-- The sign that a character begins, in a bracket. -/
def readMemberSign? (mode : Mode) (c : Char) (rest : List Char) : Option (Sign × List Char) :=
  if c = '\\' then readEscape? mode rest else some (.character c false, rest)

/-- One member, or a range from one character to another that is not less; the result is what
follows. A minus before a closing bracket or another minus makes no range. -/
def readMember? (mode : Mode) (c : Char) (rest : List Char) : Option (List Char) := do
  let (first, rest) ← readMemberSign? mode c rest
  let rest := mode.skip rest
  let isRange := match rest with
    | '-' :: behind => mode.peek behind ≠ some ']' && mode.peek behind ≠ some '-'
    | _ => false
  if isRange then
    match mode.skip (rest.drop 1) with
    | [] => none
    | c :: rest =>
      let (last, rest) ← readMemberSign? mode c rest
      match first, last with
      | .character low _, .character high _ =>
        if low ≤ high && first.isMember mode && last.isMember mode then some rest else none
      | _, _ => none
  else if first.isMember mode then some rest else none

/-- Open a bracket, behind its opening sign. A bracket that stands for all but its members holds
characters of all scripts. -/
def openBracket? (mode : Mode) (text : List Char) : Option (Bracket × List Char) :=
  match mode.skip text with
  | '^' :: rest => if mode.unicode then some ({}, rest) else none
  | rest => some ({}, rest)

/-- Read on in a bracket that lies in others, in at most so many steps. The result is the depth of
the outermost bracket, and what follows it. A closing sign that nothing stands before is a member,
and so are the minus signs behind an opening sign. -/
def readBracket? (mode : Mode) :
    Nat → Bracket → List Bracket → List Char → Option (Nat × List Char)
  | 0, _, _, _ => none
  | steps + 1, bracket, outer, text =>
    match mode.skip text with
    | [] => none
    | c :: rest =>
      if bracket.opening && (c = '-' || (c = ']' && bracket.members.count = 0)) then
        if (Sign.character c false).isMember mode then
          readBracket? mode steps { bracket.add 0 with opening := c = '-' } outer rest
        else none
      else if c = '[' then
        match readFamily? rest with
        | some (negated, rest) =>
          if isNamedMember mode negated then readBracket? mode steps (bracket.add 0) outer rest
          else none
        | none =>
          match openBracket? mode rest with
          | none => none
          | some (inner, rest) => readBracket? mode steps inner (bracket :: outer) rest
      else if c = ']' then
        match outer with
        | [] => some (bracket.depth + 1, rest)
        | around :: outer => readBracket? mode steps (around.add (bracket.depth + 1)) outer rest
      else if (c = '&' || c = '-' || c = '~') && rest.head? = some c then
        readBracket? mode steps bracket.operate outer (rest.drop 1)
      else
        match readMember? mode c rest with
        | none => none
        | some rest => readBracket? mode steps (bracket.add 0) outer rest

/-- A whole bracket, behind its opening sign: its depth, and what follows. -/
def readWholeBracket? (mode : Mode) (text : List Char) : Option (Nat × List Char) := do
  let (bracket, rest) ← openBracket? mode text
  readBracket? mode (rest.length + 1) bracket [] rest

example : readWholeBracket? {} "]a-z]b".toList = some (2, ['b']) := by decide +kernel
example : readWholeBracket? {} "^a[b-]&&[:digit:]]".toList = some (5, []) := by decide +kernel
example : readWholeBracket? {} "z-a]".toList = none := by decide +kernel

end PacingHost.Pattern
