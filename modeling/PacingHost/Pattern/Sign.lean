import PacingHost.Number.Radix
import PacingHost.Pattern.Mode

/-! # Signs of patterns

A sign of a pattern is a character, a family of characters, or a place between characters. Most
characters stand for themselves; a backslash makes a sign of what follows it. Patterns are read
without knowledge of the scripts: what would need the families or the cases of all scripts is
refused, and so is what would match a part of a character.
-/

namespace PacingHost.Pattern

inductive Sign where
  /-- One character; `isByte` if it is written as a code of two digits. -/
  | character (c : Char) (isByte : Bool)
  /-- Digits, blanks or the characters of words, or all but those. -/
  | family (negated : Bool)
  /-- Any character. -/
  | any
  /-- A place in the text. -/
  | place
  /-- A place that is, or is not, at the edge of a word. -/
  | wordEdge
deriving DecidableEq, Repr

namespace Sign

/-- The sign may stand by itself. -/
def isAdmitted (sign : Sign) (mode : Mode) : Bool :=
  match sign with
  | .character c isByte => if mode.unicode then !mode.foldCase else !isByte || c.toNat ≤ 0x7F
  | .family negated => !mode.unicode && !negated
  | .any => mode.unicode
  | .place | .wordEdge => true

/-- The sign may be a member of a bracket. -/
def isMember (sign : Sign) (mode : Mode) : Bool :=
  match sign with
  | .character c _ => if mode.unicode then !mode.foldCase else c.toNat ≤ 0x7F
  | .family negated => !mode.unicode && !negated
  | .any | .place | .wordEdge => false

end Sign

/-- The number that so many hexadecimal digits write, on top of a number before them. -/
def readDigits? (mode : Mode) : Nat → Nat → List Char → Option (Nat × List Char)
  | 0, value, rest => some (value, rest)
  | count + 1, value, rest =>
    match mode.skip rest with
    | [] => none
    | c :: rest =>
      if Number.isDigitOf 16 c then
        readDigits? mode count (16 * value + Number.digitValue c) rest
      else none

/-- The character with a code of so many digits. -/
def readCode? (mode : Mode) (count : Nat) (text : List Char) : Option (Sign × List Char) := do
  let (code, rest) ← readDigits? mode count 0 text
  if code.isValidChar then some (.character (Char.ofNat code) (count = 2), rest) else none

/-- The sign that a backslash makes of what follows it. Signs of the language lose their meaning,
and letters gain one. -/
def readEscape? (mode : Mode) : List Char → Option (Sign × List Char)
  | [] => none
  | c :: rest =>
    match c with
    | 'x' => readCode? mode 2 rest
    | 'u' => readCode? mode 4 rest
    | 'U' => readCode? mode 8 rest
    | 'd' | 's' | 'w' => some (.family false, rest)
    | 'D' | 'S' | 'W' => some (.family true, rest)
    | 'a' => some (.character '\x07' false, rest)
    | 'f' => some (.character '\x0c' false, rest)
    | 't' => some (.character '\t' false, rest)
    | 'n' => some (.character '\n' false, rest)
    | 'r' => some (.character '\r' false, rest)
    | 'v' => some (.character '\x0b' false, rest)
    | 'A' | 'z' => some (.place, rest)
    | 'b' | 'B' | '<' | '>' => some (.wordEdge, rest)
    | _ => if c.toNat ≤ 0x7F && !c.isAlphanum then some (.character c false, rest) else none

example : readEscape? {} "x4a!".toList = some (.character 'J' true, ['!']) := by decide +kernel

end PacingHost.Pattern
