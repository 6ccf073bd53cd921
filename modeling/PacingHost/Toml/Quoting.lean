import PacingHost.Toml.Text

/-! # Writing strings

A string is written in the plainest form that can hold it: between double quotes, single quotes,
three double quotes or three single quotes. Between double quotes tabs, other controls, backslashes
and some quotes are escaped; a string that needs such escapes is written so only if no other form
can hold it. The forms with three quotes serve strings with line feeds, and then open with a line
end of their own.
-/

namespace PacingHost.Toml

/-- Controls that only an escape can write; the tab and the line feed are not among them. -/
def isControl (c : Char) : Bool := (c < ' ' && c != '\t' && c != '\n') || c = '\x7f'

/-- Three of a quote stand in a row. -/
def hasTriple (quote : Char) : List Char → Bool
  | first :: second :: third :: rest =>
    (first = quote && second = quote && third = quote) || hasTriple quote (second :: third :: rest)
  | _ => false

/-- The form in which a string is written. -/
inductive Form where
  | basic
  | literal
  | longBasic
  | longLiteral
deriving DecidableEq, Repr

/-- The first form that holds a string without escapes but those of tabs, or else one with them. -/
def formOf (text : List Char) : Form :=
  let controlled := text.any isControl
  let oneLine := !text.contains '\n'
  if !controlled && !text.contains '\\' && !text.contains '"' && oneLine then .basic
  else if !controlled && !text.contains '\'' && oneLine then .literal
  else if !controlled && !text.contains '\\' && !hasTriple '"' text then .longBasic
  else if !controlled && !hasTriple '\'' text then .longLiteral
  else if oneLine then .basic
  else .longBasic

/-- A character between double quotes; quotes are escaped elsewhere. -/
def escapeChar (c : Char) : List Char :=
  if c = '\t' then ['\\', 't']
  else if c = '\x08' then ['\\', 'b']
  else if c = '\x0c' then ['\\', 'f']
  else if c = '\r' then ['\\', 'r']
  else if c = '\\' then ['\\', '\\']
  else if isControl c then '\\' :: 'u' :: Number.hexWord c.toNat
  else [c]

/-- A string without line feeds between double quotes. -/
def escape (text : List Char) : List Char :=
  text.flatMap fun c => if c = '"' then ['\\', '"'] else escapeChar c

/-- A string between three double quotes, after some quotes in a row; the third is escaped. -/
def escapeLong : Nat → List Char → List Char
  | _, [] => []
  | quotes, c :: rest =>
    if c = '"' then
      if quotes < 2 then '"' :: escapeLong (quotes + 1) rest
      else '\\' :: '"' :: escapeLong 0 rest
    else escapeChar c ++ escapeLong 0 rest

def doubles : List Char := ['"', '"', '"']

def singles : List Char := ['\'', '\'', '\'']

/-- The line end after three opening quotes. -/
def opening (text : List Char) : List Char := if text.contains '\n' then ['\n'] else []

/-- A string with its quotes. -/
def quote (text : List Char) : List Char :=
  match formOf text with
  | .basic => '"' :: escape text ++ ['"']
  | .literal => '\'' :: text ++ ['\'']
  | .longBasic => doubles ++ opening text ++ escapeLong 0 text ++ doubles
  | .longLiteral => singles ++ opening text ++ text ++ singles

example : quote "back\\slash".toList = "'back\\slash'".toList := by decide +kernel
example : quote "\"\"\"\"\n'\r".toList = "\"\"\"\n\"\"\\\"\"\n'\\r\"\"\"".toList := by
  decide +kernel

end PacingHost.Toml
