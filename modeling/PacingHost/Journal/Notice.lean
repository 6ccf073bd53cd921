/-! # Notices

A notice tells an observer of the host what happened to the sound queue or what the user asked
for. Observers never change what the host does, so a run is described by the list of its notices;
`Tally` counts two kinds of them.
-/

namespace PacingHost

inductive Notice where
  /-- A burst was queued and the queue grew. -/
  | soundAdded (before after : Nat)
  /-- The queue reached the start threshold and playback began. -/
  | soundReady (queued : Nat)
  /-- The user asked to save the engine's state. -/
  | writeState
  /-- The user asked to load the engine's state. -/
  | readState
deriving DecidableEq, Repr

/-- How many bursts were queued, and how often playback began. -/
structure Tally where
  added : Nat := 0
  ready : Nat := 0
deriving DecidableEq, Repr

namespace Tally

def count (tally : Tally) : Notice → Tally
  | .soundAdded .. => { tally with added := tally.added + 1 }
  | .soundReady _ => { tally with ready := tally.ready + 1 }
  | .writeState | .readState => tally

def countAll (tally : Tally) (notices : List Notice) : Tally := notices.foldl count tally

theorem countAll_append (tally : Tally) (first second : List Notice) :
    tally.countAll (first ++ second) = (tally.countAll first).countAll second :=
  List.foldl_append

end Tally

end PacingHost
