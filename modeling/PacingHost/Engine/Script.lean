import PacingHost.Engine.Engine

/-! # Scripted engines

An engine that gives the answers of a script and writes down what it was asked. When the script has
ended it reaches every target at once. Its pictures and its sound are set from outside.
-/

namespace PacingHost

/-- A scripted engine whose pictures have a given size. -/
structure Script (width height : Nat) where
  cycles : Nat := 0
  /-- Answers to come, as bit masks. -/
  answers : List UInt32 := []
  frame : Array UInt32 := #[]
  sound : Burst := .ofData []
  /-- The targets it was run to. -/
  targets : List Nat := []
  /-- The configurations it was told about. -/
  applied : List Config := []
deriving DecidableEq, Repr

namespace Script

variable {width height : Nat}

/-- Give the next answer; an answer that reaches the target moves there. -/
def run (script : Script width height) (target : Nat) : Answer × Script width height :=
  let (answer, rest) := match script.answers with
    | [] => (Answer.ofBits 4, [])
    | bits :: rest => (Answer.ofBits bits, rest)
  (answer, { script with
    answers := rest
    targets := script.targets ++ [target]
    cycles := if answer.reached then target else script.cycles })

instance : Engine (Script width height) where
  width := width
  height := height
  cycles := Script.cycles
  frame := Script.frame
  sound := Script.sound
  configure config script := { script with applied := script.applied ++ [config] }
  run _ target script := .ok (script.run target)

end Script

end PacingHost
