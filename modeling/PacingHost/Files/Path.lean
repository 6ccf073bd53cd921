/-! # Paths

A path is a text whose parts stand between slashes. Parts that are empty, or a single dot, stand for
no step of their own behind the first.
-/

namespace PacingHost.Path

def isAbsolute (path : String) : Bool := path.startsWith "/"

/-- Append a path to a directory; an absolute path stands for itself. -/
def join (base path : String) : String :=
  if isAbsolute path || base.isEmpty then path
  else if base.endsWith "/" then base ++ path
  else base ++ "/" ++ path

/-- What stands between the slashes of a text. -/
def splitSlashes : List Char → List (List Char)
  | [] => [[]]
  | c :: rest =>
    if c = '/' then [] :: splitSlashes rest
    else
      match splitSlashes rest with
      | first :: more => (c :: first) :: more
      | [] => [[c]]

/-- What stands between the slashes of a path, with empty texts where nothing does. -/
def segments (path : String) : List String := (splitSlashes path.toList).map String.ofList

/-- The parts of a path that name something, in order. -/
def parts (path : String) : List String := (segments path).filter (· ≠ "")

/-- The path ends in a slash, so it can only name a directory. -/
def endsInSlash (path : String) : Bool := path.endsWith "/"

/-- A part that stands for no step. -/
def isIdle (part : String) : Bool := part = "" || part = "."

/-- Drop the parts at the end that stand for no step, up to the first. -/
def trimEnd (parts : List String) : List String :=
  match parts with
  | [] => []
  | first :: rest => first :: (rest.reverse.dropWhile isIdle).reverse

/-- The path without its last part. A path with a single part has the empty path above it, and the
root and the empty path have nothing above them. -/
def parent? (path : String) : Option String :=
  match trimEnd (segments path) with
  | [] | [""] => none
  | [_] => some ""
  | parts =>
    match trimEnd parts.dropLast with
    | [""] => some "/"
    | above => some ("/".intercalate above)

example : parent? "/a/b//c/./d/" = some "/a/b//c" := by decide +kernel
example : parent? "/d" = some "/" := by decide +kernel
example : parent? "d" = some "" := by decide +kernel
example : join "/x/" "y" = "/x/y" := by decide +kernel

end PacingHost.Path
