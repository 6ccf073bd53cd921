import PacingHost.Files.Path

/-! # Files

A tree of files and directories, with the operations the program needs of a file system and the
reasons for which they fail. An operation follows the parts of a path from the root or from a
working directory; what was done before a failure stays done.
-/

namespace PacingHost

/-- Why a file could not be used. -/
inductive FileError where
  | missing
  | exists
  | notDirectory
  | isDirectory
  | nameTooLong
  /-- No name holds the character zero. -/
  | zeroInName
  /-- The content is no text. -/
  | notText
  /-- A directory has no place to stand. -/
  | noParent
  /-- Anything else that a system reports. -/
  | reported (text : String)
deriving DecidableEq, Repr

def FileError.message : FileError → String
  | .missing => "No such file or directory (os error 2)"
  | .exists => "File exists (os error 17)"
  | .notDirectory => "Not a directory (os error 20)"
  | .isDirectory => "Is a directory (os error 21)"
  | .nameTooLong => "File name too long (os error 36)"
  | .zeroInName => "file name contained an unexpected NUL byte"
  | .notText => "stream did not contain valid UTF-8"
  | .noParent => "failed to create whole tree"
  | .reported text => text

inductive FileNode where
  | file (content : List UInt8)
  | directory
deriving DecidableEq, Repr

/-- Files and directories by the names on the way to them. The root is always there. -/
structure FileTree where
  nodes : List (List String × FileNode) := []
  /-- Where relative paths start. -/
  working : List String := []
deriving DecidableEq, Repr

namespace FileTree

def node? (tree : FileTree) : List String → Option FileNode
  | [] => some .directory
  | place => tree.nodes.lookup place

def put (tree : FileTree) (place : List String) (node : FileNode) : FileTree :=
  { tree with nodes := (place, node) :: tree.nodes.filter (·.1 ≠ place) }

theorem node?_put (tree : FileTree) {place : List String} (named : place ≠ []) (node : FileNode) :
    (tree.put place node).node? place = some node := by
  cases place with
  | nil => exact absurd rfl named
  | cons name names => simp only [node?, put, List.lookup_cons_self]

/-- The longest name, in bytes. -/
def longestName : Nat := 255

/-- Paths are shorter than this, in bytes. -/
def pathLimit : Nat := 4096

/-- One step from a directory to what a part names. -/
def step (tree : FileTree) (place : List String) (part : String) :
    Except FileError (List String) :=
  match tree.node? place with
  | none => .error .missing
  | some (.file _) => .error .notDirectory
  | some .directory =>
    if part = "." then .ok place
    else if part = ".." then .ok place.dropLast
    else if longestName < part.utf8ByteSize then .error .nameTooLong
    else .ok (place ++ [part])

/-- Where the parts of a path start. -/
def origin (tree : FileTree) (path : String) : Except FileError (List String) :=
  if path.toList.contains '\x00' then .error .zeroInName
  else if path.isEmpty then .error .missing
  else if pathLimit ≤ path.utf8ByteSize then .error .nameTooLong
  else .ok (if Path.isAbsolute path then [] else tree.working)

/-- What a path leads to, whether it is there or not. -/
def locate (tree : FileTree) (path : String) : Except FileError (List String) := do
  (Path.parts path).foldlM tree.step (← tree.origin path)

/-- What a path leads to. -/
def lookup (tree : FileTree) (path : String) : Except FileError FileNode := do
  match tree.node? (← tree.locate path) with
  | none => .error .missing
  | some (.file content) =>
    if Path.endsInSlash path then .error .notDirectory else .ok (.file content)
  | some .directory => .ok .directory

/-- The content of a file. -/
def read (tree : FileTree) (path : String) : Except FileError (List UInt8) := do
  match ← tree.lookup path with
  | .file content => .ok content
  | .directory => .error .isDirectory

def isThere (tree : FileTree) (path : String) : Bool :=
  match tree.lookup path with
  | .ok _ => true
  | .error _ => false

def isDirectory (tree : FileTree) (path : String) : Bool :=
  match tree.lookup path with
  | .ok .directory => true
  | _ => false

/-- Write a file, which replaces one that is there. A path that can only lead to a directory is
refused before its last name is looked at. -/
def write (tree : FileTree) (path : String) (content : List UInt8) :
    Except FileError FileTree := do
  let start ← tree.origin path
  let parts := Path.parts path
  match parts.getLast? with
  | none => .error .isDirectory
  | some name =>
    let above ← parts.dropLast.foldlM tree.step start
    if name = "." ∨ name = ".." ∨ Path.endsInSlash path then
      let _ ← tree.step above "."
      .error .isDirectory
    else
      let place ← tree.step above name
      if tree.node? place = some .directory then .error .isDirectory
      else .ok (tree.put place (.file content))

/-- Write to the end of a file that is there. -/
def append (tree : FileTree) (path : String) (content : List UInt8) :
    Except FileError FileTree := do
  tree.write path ((← tree.read path) ++ content)

/-- Make a directory inside another. -/
def makeDirectory (tree : FileTree) (path : String) : Except FileError FileTree := do
  let start ← tree.origin path
  let parts := Path.parts path
  match parts.getLast? with
  | none => .error .exists
  | some name =>
    let above ← parts.dropLast.foldlM tree.step start
    let place ← tree.step above name
    if name = "." ∨ name = ".." ∨ (tree.node? place).isSome then .error .exists
    else .ok (tree.put place .directory)

/-- Make a directory, unless it is there. -/
def ensureDirectory (tree : FileTree) (path : String) : FileTree × Option FileError :=
  match tree.makeDirectory path with
  | .ok made => (made, none)
  | .error cause => (tree, if tree.isDirectory path then none else some cause)

/-- Make a directory and those above it, at most so many. -/
def makeDirectoriesFrom (tree : FileTree) (path : String) : Nat → FileTree × Option FileError
  | 0 => (tree, some .noParent)
  | count + 1 =>
    if path.isEmpty then (tree, none)
    else
      match tree.makeDirectory path with
      | .ok made => (made, none)
      | .error .missing =>
        match Path.parent? path with
        | none => (tree, some .noParent)
        | some above =>
          match tree.makeDirectoriesFrom above count with
          | (grown, some cause) => (grown, some cause)
          | (grown, none) => grown.ensureDirectory path
      | .error cause => (tree, if tree.isDirectory path then none else some cause)

/-- Make a directory and those above it that are not there. -/
def makeDirectories (tree : FileTree) (path : String) : FileTree × Option FileError :=
  tree.makeDirectoriesFrom path (path.length + 1)

/-- Write a file and make the directories it lies in; if that fails, the result names the place
where it failed. -/
def writeDeep (tree : FileTree) (path : String) (content : List UInt8) :
    FileTree × Option (String × FileError) :=
  let (grown, failed) := match Path.parent? path with
    | none => (tree, none)
    | some above =>
      let (grown, failed) := tree.makeDirectories above
      (grown, failed.map fun cause => (above, cause))
  match failed with
  | some failure => (grown, some failure)
  | none =>
    match grown.write path content with
    | .ok written => (written, none)
    | .error cause => (grown, some (path, cause))

end FileTree

end PacingHost
