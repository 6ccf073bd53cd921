import PacingHost.Text.Hidden

/-! # Names in double quotes

A name is shown in a log between double quotes, with escapes for quotes, backslashes and every
character that could not be seen.
-/

namespace PacingHost.Text

/-- A character between double quotes. -/
def quoteChar (c : Char) : List Char :=
  if c = '"' ∨ c = '\\' then ['\\', c]
  else if c = '\n' then ['\\', 'n']
  else if c = '\r' then ['\\', 'r']
  else if c = '\t' then ['\\', 't']
  else if c = '\x00' then ['\\', '0']
  else if isHidden c then '\\' :: 'u' :: '\x7b' :: Nat.toDigits 16 c.toNat ++ ['\x7d']
  else [c]

/-- A name in double quotes. -/
def quoted (name : String) : String :=
  String.ofList ('"' :: name.toList.flatMap quoteChar ++ ['"'])

example : quoted "say \"hi\"" = "\"say \\\"hi\\\"\"" := by decide +kernel

end PacingHost.Text
