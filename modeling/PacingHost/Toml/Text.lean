import PacingHost.Number.Radix
import PacingHost.Toml.Space

/-! # Reading strings

A string stands between quotes, single or double, one or three at each end. Between double quotes a
backslash starts an escape; between single quotes every character stands for itself. Only the forms
with three quotes may hold line ends, and there each line end reads as a line feed. They may hold
quotes as well, and two of them may stand before the closing three.
-/

namespace PacingHost.Toml

/-- What a reader makes of the front of a text, and the text that follows. -/
abbrev Read (α : Type) := Option (α × List Char)

/-- Put a character before a string that was read. -/
def Read.cons (c : Char) (read : Read (List Char)) : Read (List Char) :=
  read.map fun (text, rest) => (c :: text, rest)

@[simp] theorem Read.cons_some (c : Char) (text rest : List Char) :
    Read.cons c (some (text, rest)) = some (c :: text, rest) := rfl

/-- The character with a code of so many hexadecimal digits. -/
def readCode (count : Nat) (input : List Char) : Read Char :=
  let digits := input.take count
  let code := Number.ofDigits 16 digits
  if digits.length = count ∧ digits.all (Number.isDigitOf 16) ∧ code.isValidChar then
    some (Char.ofNat code, input.drop count)
  else none

/-- The character an escape stands for, after its backslash. -/
def readEscape : List Char → Read Char
  | 'b' :: rest => some ('\x08', rest)
  | 'f' :: rest => some ('\x0c', rest)
  | 'n' :: rest => some ('\n', rest)
  | 'r' :: rest => some ('\r', rest)
  | 't' :: rest => some ('\t', rest)
  | '"' :: rest => some ('"', rest)
  | '\\' :: rest => some ('\\', rest)
  | 'u' :: rest => readCode 4 rest
  | 'U' :: rest => readCode 8 rest
  | _ => none

theorem length_readCode {count : Nat} {input rest : List Char} {c : Char}
    (read : readCode count input = some (c, rest)) : rest.length ≤ input.length := by
  simp only [readCode] at read
  split at read
  · cases read
    rw [List.length_drop]
    exact Nat.sub_le ..
  · cases read

theorem length_readEscape {input rest : List Char} {c : Char}
    (read : readEscape input = some (c, rest)) : rest.length < input.length := by
  unfold readEscape at read
  split at read
  all_goals first
    | cases read; exact Nat.lt_succ_self _
    | exact Nat.lt_succ_of_le (length_readCode read)
    | cases read

/-- The rest of a string between double quotes. -/
def readBasic : List Char → Read (List Char)
  | [] => none
  | '"' :: rest => some ([], rest)
  | '\\' :: rest =>
    match _ : readEscape rest with
    | none => none
    | some (c, after) => (readBasic after).cons c
  | c :: rest => if isPlain c then (readBasic rest).cons c else none
termination_by input => input.length
decreasing_by
  · have := length_readEscape ‹_›
    simp only [List.length_cons]
    omega
  · simp only [List.length_cons, Nat.lt_add_one]

/-- The rest of a string between single quotes. -/
def readLiteral : List Char → Read (List Char)
  | [] => none
  | '\'' :: rest => some ([], rest)
  | c :: rest => if isPlain c then (readLiteral rest).cons c else none

/-- The quotes that stand before the closing three, which have been read. -/
def readExtra (quote : Char) : List Char → List Char × List Char
  | first :: second :: rest =>
    if first = quote then
      if second = quote then ([quote, quote], rest) else ([quote], second :: rest)
    else ([], first :: second :: rest)
  | [first] => if first = quote then ([quote], []) else ([], [first])
  | [] => ([], [])

/-- The rest of a string between three double quotes. A backslash before a line end swallows all
space up to the next character. -/
def readLongBasic : List Char → Read (List Char)
  | [] => none
  | '"' :: '"' :: '"' :: rest => some (readExtra '"' rest)
  | '"' :: rest => (readLongBasic rest).cons '"'
  | '\r' :: '\n' :: rest => (readLongBasic rest).cons '\n'
  | '\n' :: rest => (readLongBasic rest).cons '\n'
  | '\\' :: rest =>
    match _ : lineEnd? (skipSpace rest) with
    | some next => readLongBasic (skipBlank next)
    | none =>
      match _ : readEscape rest with
      | none => none
      | some (c, after) => (readLongBasic after).cons c
  | c :: rest => if isPlain c then (readLongBasic rest).cons c else none
termination_by input => input.length
decreasing_by
  all_goals simp only [List.length_cons]
  all_goals try omega
  · have := length_lineEnd? ‹_›
    have := length_skipSpace_le rest
    have := length_skipBlank_le next
    omega
  · have := length_readEscape ‹_›
    omega

/-- The rest of a string between three single quotes. -/
def readLongLiteral : List Char → Read (List Char)
  | [] => none
  | '\'' :: '\'' :: '\'' :: rest => some (readExtra '\'' rest)
  | '\'' :: rest => (readLongLiteral rest).cons '\''
  | '\r' :: '\n' :: rest => (readLongLiteral rest).cons '\n'
  | '\n' :: rest => (readLongLiteral rest).cons '\n'
  | c :: rest => if isPlain c then (readLongLiteral rest).cons c else none

/-- A line end right after three opening quotes is not part of the string. -/
def dropFirstLineEnd (input : List Char) : List Char := (lineEnd? input).getD input

/-- A string in any of its forms. -/
def readText : List Char → Read (List Char)
  | '"' :: '"' :: '"' :: rest => readLongBasic (dropFirstLineEnd rest)
  | '"' :: rest => readBasic rest
  | '\'' :: '\'' :: '\'' :: rest => readLongLiteral (dropFirstLineEnd rest)
  | '\'' :: rest => readLiteral rest
  | _ => none

end PacingHost.Toml
