import PacingHost.Host.Host
import PacingHost.Number.Binary64

/-! # Passes of the run loop

A pass turns a span of wall time into a budget of engine cycles, drives the engine to that target
and serves its answers in order: a complete picture goes to the screen, a full sound buffer to the
sink. A picture of an answer is served before its sound. After the last answer a step ends in a
pause. Nothing bounds the answers on the way; a pass is given a patience, and one that is patient
enough for its engine goes like any other that is.
-/

namespace PacingHost

/-- What one pass did. Its counters have 32 bits and wrap around. -/
structure PassStats where
  /-- The cycle count the engine was driven to. -/
  target : Nat := 0
  /-- Pictures uploaded. -/
  pictureCount : UInt32 := 0
  /-- Bursts queued. -/
  queuedCount : UInt32 := 0
  /-- Bursts dropped because the queue was full. -/
  droppedCount : UInt32 := 0
deriving DecidableEq, Repr

namespace PassStats

def pictures (stats : PassStats) : Nat := stats.pictureCount.toNat

def queued (stats : PassStats) : Nat := stats.queuedCount.toNat

def dropped (stats : PassStats) : Nat := stats.droppedCount.toNat

def addPicture (stats : PassStats) : PassStats :=
  { stats with pictureCount := stats.pictureCount + 1 }

def addBurst (stats : PassStats) : Drained → PassStats
  | .queued .. => { stats with queuedCount := stats.queuedCount + 1 }
  | .dropped _ => { stats with droppedCount := stats.droppedCount + 1 }

/-- All bursts that were offered to the sink, as far as 32 bits count them. -/
def bursts (stats : PassStats) : Nat := (stats.queuedCount + stats.droppedCount).toNat

/-- What two passes did together, for the target of the later one. -/
def add (earlier later : PassStats) : PassStats where
  target := later.target
  pictureCount := earlier.pictureCount + later.pictureCount
  queuedCount := earlier.queuedCount + later.queuedCount
  droppedCount := earlier.droppedCount + later.droppedCount

end PassStats

namespace Host

variable {σ : Type} [Engine σ]

/-- Cycle counts stay at the largest one. -/
def lastCycle : Nat := Word.longLimit - 1

/-- Engine cycles in some milliseconds. -/
def budget (host : Host σ) (delta : Float) : Nat :=
  floorUpTo lastCycle (delta * Float.ofNat host.setup.cyclesPerSecond.toNat / 1000.0)

/-- The cycle count to drive the engine to. -/
def target (host : Host σ) (delta : Float) : Nat :=
  min (Engine.cycles host.engine + host.budget delta) lastCycle

/-- Only a finite span that is not negative counts; any other counts as none. -/
def checkDelta (delta : Float) : Logged Float :=
  if delta.isFinite && decide (0.0 ≤ delta) then pure delta else do
    Logged.tell (.invalidDelta delta)
    pure 0.0

/-- Put the engine's picture on the screen. -/
def servePicture (host : Host σ) : Report Fault (Host σ) := do
  let uploaded ← Report.ofExcept
    (host.screen.upload (Engine.frame host.engine) (Engine.width σ) (Engine.height σ))
  let screen ← ExceptT.lift uploaded.present
  pure { host with screen }

/-- Offer the engine's sound to the sink. -/
def serveSound (host : Host σ) : Report Fault (Drained × Host σ) := do
  let (outcome, sink) ← host.sink.render (Engine.sound host.engine)
  pure (outcome, { host with sink })

/-- Serve the picture of an answer, if there is one. -/
def servePictureOf (answer : Answer) (stats : PassStats) (host : Host σ) :
    Report Fault (PassStats × Host σ) :=
  if answer.picture then do
    let served ← host.servePicture
    pure (stats.addPicture, served)
  else pure (stats, host)

/-- Serve the sound of an answer, if there is some. -/
def serveSoundOf (answer : Answer) (stats : PassStats) (host : Host σ) :
    Report Fault (PassStats × Host σ) :=
  if answer.sound then do
    let (outcome, served) ← host.serveSound
    pure (stats.addBurst outcome, served)
  else pure (stats, host)

/-- Serve one answer, with the engine as it was then. -/
def serve (answer : Answer) (engine : σ) (stats : PassStats) (host : Host σ) :
    Report Fault (PassStats × Host σ) := do
  let (stats, shown) ← servePictureOf answer stats { host with engine }
  serveSoundOf answer stats shown

/-- Serve answers in order. -/
def serveAll : List (Answer × σ) → PassStats → Host σ → Report Fault (PassStats × Host σ)
  | [], stats, host => pure (stats, host)
  | (answer, engine) :: answers, stats, host => do
    let (stats, served) ← serve answer engine stats host
    serveAll answers stats served

/-- A pass with the step switch set ends in a pause. -/
def endStep (host : Host σ) : Logged (Host σ) :=
  if host.config.step then host.commit host.config.afterStep else pure host

/-- A drive that ended in a fault ends the pass. -/
def checkFault (fault : Option Fault) : Report Fault Unit :=
  match fault with
  | some cause => throw cause
  | none => pure ()

/-- Drive the engine to a target, giving up after so many answers, and serve what it answers. -/
def serving (host : Host σ) (patience target : Nat) : Report Fault (PassStats × Host σ) := do
  let drive := Engine.driveFor (some host.pad) target patience host.engine
  let (stats, served) ← serveAll drive.answers { target } host
  checkFault drive.fault
  pure (stats, served)

/-- Advance the engine by some milliseconds of wall time, giving it up after so many answers; a
paused host does nothing. -/
def passWithin (host : Host σ) (patience : Nat) (delta : Float) :
    Report Fault (PassStats × Host σ) :=
  if host.config.paused then pure ({}, host) else do
    let span ← ExceptT.lift (checkDelta delta)
    let target := host.target span
    let (stats, served) ← host.serving patience target
    let ended ← ExceptT.lift served.endStep
    Report.tell (.passDone span target stats.pictures stats.bursts)
    pure (stats, ended)

/-- A pass of the usual patience. -/
def pass (host : Host σ) (delta : Float) : Report Fault (PassStats × Host σ) :=
  host.passWithin Engine.patience delta

theorem passWithin_paused {host : Host σ} (paused : host.config.paused = true) (patience : Nat)
    (delta : Float) : host.passWithin patience delta = pure ({}, host) := by
  rw [passWithin, if_pos paused]

end Host

end PacingHost
