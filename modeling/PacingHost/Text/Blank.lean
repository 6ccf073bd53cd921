/-! # Blank space

The characters that leave nothing on a page, and texts without those at their ends.
-/

namespace PacingHost.Text

/-- The blank characters that are no control characters and lie beyond ASCII. -/
def wideBlanks : List Nat :=
  [0x85, 0xA0, 0x1680, 0x2028, 0x2029, 0x202F, 0x205F, 0x3000]

/-- A character that is white space. -/
def isBlank (c : Char) : Bool :=
  c = ' ' || (0x09 ≤ c.toNat && c.toNat ≤ 0x0D) || (0x2000 ≤ c.toNat && c.toNat ≤ 0x200A) ||
    wideBlanks.contains c.toNat

theorem isBlank_of_isWhitespace {c : Char} (white : c.isWhitespace = true) : isBlank c = true := by
  simp only [Char.isWhitespace, Bool.or_eq_true, decide_eq_true_eq, or_assoc] at white
  rcases white with rfl | rfl | rfl | rfl <;> decide

/-- A text without the blanks at its ends. -/
def trim (text : List Char) : List Char :=
  ((text.dropWhile isBlank).reverse.dropWhile isBlank).reverse

example : trim "\t a b \u2003".toList = "a b".toList := by decide +kernel

end PacingHost.Text
