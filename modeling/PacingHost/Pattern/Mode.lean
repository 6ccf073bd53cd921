import PacingHost.Text.Blank

/-! # Modes of patterns

A pattern is text in the language of regular expressions. Flags, one letter each, change how the
text behind them is read. A mode is what the flags say at a place, as far as it decides whether a
text is a pattern at all.
-/

namespace PacingHost.Pattern

inductive Flag where
  | foldCase
  | manyLines
  | dotIsAll
  | swapGreed
  | unicode
  | twoSignLines
  | spaced
deriving DecidableEq, Repr

def Flag.ofChar? : Char → Option Flag
  | 'i' => some .foldCase
  | 'm' => some .manyLines
  | 's' => some .dotIsAll
  | 'U' => some .swapGreed
  | 'u' => some .unicode
  | 'R' => some .twoSignLines
  | 'x' => some .spaced
  | _ => none

structure Mode where
  /-- A letter stands for itself in either case. -/
  foldCase : Bool := false
  /-- Signs stand for characters of all scripts rather than for bytes. -/
  unicode : Bool := true
  /-- Blanks and remarks mean nothing. -/
  spaced : Bool := false
deriving DecidableEq, Repr

namespace Mode

/-- Turn a flag on or off. -/
def set (mode : Mode) (flag : Flag) (on : Bool) : Mode :=
  match flag with
  | .foldCase => { mode with foldCase := on }
  | .unicode => { mode with unicode := on }
  | .spaced => { mode with spaced := on }
  | .manyLines | .dotIsAll | .swapGreed | .twoSignLines => mode

def setAll (mode : Mode) (flags : List (Flag × Bool)) : Mode :=
  flags.foldl (fun mode (flag, on) => mode.set flag on) mode

/-- The text after any blanks and remarks; a remark in hand goes on to the end of its line. -/
def skipRemarks : Bool → List Char → List Char
  | _, [] => []
  | true, c :: rest => skipRemarks (c ≠ '\n') rest
  | false, c :: rest =>
    if Text.isBlank c then skipRemarks false rest
    else if c = '#' then skipRemarks true rest
    else c :: rest

/-- The text from the next sign on. -/
def skip (mode : Mode) (text : List Char) : List Char :=
  if mode.spaced then skipRemarks false text else text

/-- The sign that a look ahead finds. It passes over blanks and one number sign, but not over what a
remark says, and falls back on the first character. -/
def peek (mode : Mode) (text : List Char) : Option Char :=
  if mode.spaced then
    let next := match text.dropWhile Text.isBlank with
      | '#' :: rest => rest.dropWhile Text.isBlank
      | rest => rest
    next.head? <|> text.head?
  else text.head?

theorem length_skipRemarks_le (remark : Bool) (text : List Char) :
    (skipRemarks remark text).length ≤ text.length := by
  fun_induction skipRemarks remark text with
  | case1 => exact Nat.le_refl _
  | case2 c rest ih => simp only [List.length_cons]; omega
  | case3 c rest _ ih => simp only [List.length_cons]; omega
  | case4 rest _ ih => simp only [List.length_cons]; omega
  | case5 => exact Nat.le_refl _

theorem length_skip_le (mode : Mode) (text : List Char) :
    (mode.skip text).length ≤ text.length := by
  unfold skip
  split
  · exact length_skipRemarks_le false text
  · exact Nat.le_refl _

end Mode

/-- The flags up to a colon or a closing parenthesis, with that sign and what follows. Flags behind
a minus are off, no flag comes twice, and a minus stands before a flag. -/
def readFlags? (flags : List (Flag × Bool)) (off bare : Bool) :
    List Char → Option (List (Flag × Bool) × Char × List Char)
  | [] => none
  | c :: rest =>
    if c = ':' || c = ')' then if bare then none else some (flags, c, rest)
    else if c = '-' then if off then none else readFlags? flags true true rest
    else
      match Flag.ofChar? c with
      | none => none
      | some flag =>
        if flags.any (·.1 = flag) then none
        else readFlags? (flags ++ [(flag, !off)]) off false rest

example : readFlags? [] false false "i-x:a".toList =
    some ([(.foldCase, true), (.spaced, false)], ':', ['a']) := by decide +kernel

end PacingHost.Pattern
