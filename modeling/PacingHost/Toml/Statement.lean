import PacingHost.Toml.Moment
import PacingHost.Toml.Number
import PacingHost.Toml.Table

/-! # Reading statements

A document is a list of statements, one a line: a key with its value, a header that opens a table,
or a header in double brackets that appends one. Values nest less than eighty deep, and so do keys.
Lists of items are read with a count of the characters that are left, which no list outlasts, for
each item takes at least one.
-/

namespace PacingHost.Toml

/-- Values and keys nest less deep than this. -/
def depthLimit : Nat := 80

/-- Characters of a key without quotes. -/
def isBare (c : Char) : Bool := c.isAlphanum || c = '-' || c = '_'

/-- One key between dots. -/
def readSimpleKey (input : List Char) : Option (String × List Char) :=
  match input with
  | '"' :: rest => (readBasic rest).map fun (text, rest) => (String.ofList text, rest)
  | '\'' :: rest => (readLiteral rest).map fun (text, rest) => (String.ofList text, rest)
  | _ =>
    let bare := input.takeWhile isBare
    if bare.isEmpty then none else some (String.ofList bare, input.dropWhile isBare)

/-- Keys with dots between them, at most so many. -/
def readKeys : Nat → List Char → Option (List String × List Char)
  | 0, _ => none
  | count + 1, input => do
    let (key, rest) ← readSimpleKey (skipSpace input)
    match skipSpace rest with
    | '.' :: rest => do
      let (keys, rest) ← readKeys count rest
      some (key :: keys, rest)
    | rest => some ([key], rest)

/-- A dotted key. -/
def readKey (input : List Char) : Option (List String × List Char) := do
  let (keys, rest) ← readKeys input.length input
  if keys.length < depthLimit then some (keys, rest) else none

/-- A dotted key with its value, from the key to the value's last character. -/
def readPair (readValue : List Char → Option (Value × List Char)) (input : List Char) :
    Option (Pair × List Char) := do
  let (keys, rest) ← readKey input
  let key ← keys.getLast?
  let (value, rest) ← readValue (skipSpace (← expect '=' rest))
  some (⟨keys.dropLast, key, value⟩, rest)

/-- The items of an array, at most so many, and its closing bracket. -/
def readItems (readValue : List Char → Option (Value × List Char)) :
    Nat → List Char → Option (List Value × List Char)
  | 0, _ => none
  | count + 1, input =>
    match skipFiller false input with
    | ']' :: rest => some ([], rest)
    | rest => do
      let (value, rest) ← readValue rest
      match skipFiller false rest with
      | ',' :: rest => do
        let (values, rest) ← readItems readValue count rest
        some (value :: values, rest)
      | ']' :: rest => some ([value], rest)
      | _ => none

/-- The pairs of a table written as a value, at least one and at most so many, and its closing
brace. -/
def readPairs (readValue : List Char → Option (Value × List Char)) :
    Nat → List Char → Option (List Pair × List Char)
  | 0, _ => none
  | count + 1, input => do
    let (pair, rest) ← readPair readValue input
    match skipSpace rest with
    | ',' :: rest => do
      let (pairs, rest) ← readPairs readValue count rest
      some (pair :: pairs, rest)
    | '}' :: rest => some ([pair], rest)
    | _ => none

/-- A table written as a value, after its opening brace. -/
def readInline (readValue : List Char → Option (Value × List Char)) (input : List Char) :
    Option (Value × List Char) :=
  match skipSpace input with
  | '}' :: rest => some (.table .inline [], rest)
  | _ => do
    let (pairs, rest) ← readPairs readValue input.length input
    let entries ← Entries.addAll pairs []
    some (.table .inline entries, rest)

/-- A value that is not made of others. -/
def readScalar (input : List Char) : Option (Value × List Char) :=
  match input with
  | '"' :: _ | '\'' :: _ =>
    (readText input).map fun (text, rest) => (.string (String.ofList text), rest)
  | 't' :: 'r' :: 'u' :: 'e' :: rest => some (.boolean true, rest)
  | 'f' :: 'a' :: 'l' :: 's' :: 'e' :: rest => some (.boolean false, rest)
  | _ =>
    (readMoment input).map (fun (text, rest) => (.moment (String.ofList text), rest)) <|>
      readNumber input

/-- A value in which others nest at most so deep. -/
def readValue : Nat → List Char → Option (Value × List Char)
  | deeper + 1, '[' :: rest =>
    (readItems (readValue deeper) rest.length rest).map fun (items, rest) => (.array items, rest)
  | deeper + 1, '{' :: rest => readInline (readValue deeper) rest
  | 0, '[' :: _ | 0, '{' :: _ => none
  | _, input => readScalar input

inductive Statement where
  | pair (pair : Pair)
  /-- Open the table of a key, below some others. -/
  | table (path : List String) (key : String)
  /-- Append a table to those of a key, below some others. -/
  | element (path : List String) (key : String)
deriving Repr

/-- A header after its first bracket. -/
def readHeader (input : List Char) : Option (Statement × List Char) :=
  match input with
  | '[' :: rest => do
    let (keys, rest) ← readKey rest
    let key ← keys.getLast?
    let rest ← expect ']' (← expect ']' rest)
    some (.element keys.dropLast key, rest)
  | _ => do
    let (keys, rest) ← readKey input
    let key ← keys.getLast?
    let rest ← expect ']' rest
    some (.table keys.dropLast key, rest)

/-- The statement at the front of a text, up to its last character. -/
def readStatement (input : List Char) : Option (Statement × List Char) :=
  match input with
  | '[' :: rest => readHeader rest
  | _ => (readPair (readValue (depthLimit - 1)) input).map fun (pair, rest) => (.pair pair, rest)

/-- A line holds nothing but space and a comment. -/
def isIdle : List Char → Bool
  | [] | '#' :: _ | '\n' :: _ | '\r' :: _ => true
  | _ => false

/-- The statements of a text of at most so many lines. -/
def readLines : Nat → List Char → Option (List Statement)
  | 0, input => if input.isEmpty then some [] else none
  | count + 1, input =>
    let line := skipSpace input
    if line.isEmpty then some []
    else if isIdle line then do
      let rest ← endLine? line
      readLines count rest
    else do
      let (statement, rest) ← readStatement line
      let rest ← endLine? rest
      let statements ← readLines count rest
      some (statement :: statements)

/-- The statements of a document; a byte order mark may precede them. -/
def readStatements (input : List Char) : Option (List Statement) :=
  let text := match input with
    | '\ufeff' :: rest => rest
    | _ => input
  readLines text.length text

end PacingHost.Toml
