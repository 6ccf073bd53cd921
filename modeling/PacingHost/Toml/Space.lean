/-! # Space, line ends and comments

The parts of a document that carry no meaning. A line ends with a line feed, which a carriage return
may precede, or with the text.
-/

namespace PacingHost.Toml

/-- Blanks and tabs may stand between the parts of a line. -/
def isSpace (c : Char) : Bool := c = ' ' || c = '\t'

/-- Characters that text and comments may hold as they are: no controls but the tab. -/
def isPlain (c : Char) : Bool := c = '\t' || (' ' ≤ c && c != '\x7f')

/-- The text after any blanks and tabs. -/
def skipSpace (input : List Char) : List Char := input.dropWhile isSpace

/-- The text after a line end at its front. -/
def lineEnd? : List Char → Option (List Char)
  | '\n' :: rest => some rest
  | '\r' :: '\n' :: rest => some rest
  | _ => none

/-- The text after a comment, if it starts with one. -/
def skipComment : List Char → List Char
  | '#' :: rest => rest.dropWhile isPlain
  | input => input

/-- The text after the end of a line on which only a comment may follow. -/
def endLine? (input : List Char) : Option (List Char) :=
  match skipComment (skipSpace input) with
  | [] => some []
  | rest => lineEnd? rest

/-- The text after any blanks, tabs and line ends. -/
def skipBlank : List Char → List Char
  | '\r' :: '\n' :: rest => skipBlank rest
  | c :: rest => if isSpace c || c = '\n' then skipBlank rest else c :: rest
  | [] => []

/-- The text after any blanks, tabs, line ends and comments; a comment in hand goes on to the end
of its line. -/
def skipFiller : Bool → List Char → List Char
  | _, [] => []
  | _, '\n' :: rest => skipFiller false rest
  | _, '\r' :: '\n' :: rest => skipFiller false rest
  | true, c :: rest => if isPlain c then skipFiller true rest else c :: rest
  | false, c :: rest =>
    if isSpace c then skipFiller false rest
    else if c = '#' then skipFiller true rest
    else c :: rest

@[simp] theorem skipSpace_nil : skipSpace [] = [] := rfl

/-- Space is skipped up to the first character that is none. -/
theorem skipSpace_cons {c : Char} (solid : isSpace c = false) (rest : List Char) :
    skipSpace (c :: rest) = c :: rest := by
  rw [skipSpace, List.dropWhile_cons_of_neg (by simp only [solid, Bool.false_eq_true,
    not_false_eq_true])]

theorem length_skipSpace_le (input : List Char) : (skipSpace input).length ≤ input.length :=
  (List.dropWhile_suffix isSpace).length_le

theorem length_skipBlank_le (input : List Char) : (skipBlank input).length ≤ input.length := by
  fun_induction skipBlank input with
  | case1 rest ih => simp only [List.length_cons]; omega
  | case2 c rest _ _ ih => simp only [List.length_cons]; omega
  | case3 => exact Nat.le_refl _
  | case4 => exact Nat.le_refl _

/-- A line end is at least one character. -/
theorem length_lineEnd? {input rest : List Char} (ended : lineEnd? input = some rest) :
    rest.length < input.length := by
  unfold lineEnd? at ended
  split at ended
  · cases ended; exact Nat.lt_succ_self _
  · cases ended; simp only [List.length_cons]; omega
  · cases ended

end PacingHost.Toml
