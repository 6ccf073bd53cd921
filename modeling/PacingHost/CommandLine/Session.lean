import PacingHost.CommandLine.Options
import PacingHost.Engine.Tone
import PacingHost.Host.Pass
import PacingHost.Pacing.FrameTimer
import PacingHost.Sound.Player

/-! # Sessions

A session runs the tone engine in a host whose sound is played at the rate of its format. Its turns
follow the readings of a clock, in milliseconds: what the plan of the session asks for at that time
is put in, a pass is made over the time since the last turn, and sound is played while the session
rests until the next refresh.
-/

namespace PacingHost

structure Session where
  host : Host Tone
  timer : FrameTimer
  player : Player := {}
  /-- The clock reading when the session began. -/
  began : Float
  /-- The clock reading when sound was played last. -/
  playedAt : Float
  /-- How long the session lasts, in milliseconds. -/
  limit : Option Float
  /-- How long into the session pause is toggled, in milliseconds, the next time first. -/
  toggles : List Float
  totals : PassStats := {}
  tally : Tally := {}

namespace Session

/-- The longest span of wall time of one pass, in milliseconds. -/
def longestSpan : Float := 100.0

/-- How long the player waits before it plays again. -/
def playerSlice : Duration := ⟨5000000⟩

/-- Pause at the time asked for, and resume one second later. -/
def togglesAt : Option Float → List Float
  | some time => [time * 1000.0, (time + 1.0) * 1000.0]
  | none => []

/-- Build the host of a session. -/
def start (setup : Setup) (options : RunOptions) (now : Float) : Report Failure Session := do
  let engine := Tone.start setup.cyclesPerSecond setup.audioFrequency setup.audioFrames.toNat
    options.tone
  let host ← Host.build setup engine .paced {}
  match host.screen.window with
  | some (width, height) => Report.tell (.windowKnown width height)
  | none => pure ()
  Report.tell .running
  pure {
    host
    timer := ⟨now, longestSpan⟩
    began := now
    playedAt := now
    limit := options.seconds.map (· * 1000.0)
    toggles := togglesAt options.pauseAt }

/-- Milliseconds since the session began. -/
def elapsed (session : Session) (now : Float) : Float := now - session.began

/-- The session has lasted as long as it should. -/
def isOver (session : Session) (now : Float) : Bool :=
  session.limit.any (· ≤ session.elapsed now)

/-- What is put in at some time, and the toggles that are left. -/
def dueInputs (session : Session) (now : Float) : List Input × List Float :=
  match session.toggles with
  | [] => ([], [])
  | time :: later =>
    if time ≤ session.elapsed now then ([.press .space, .release .space], later)
    else ([], time :: later)

/-- Add what the observer of the host was told to the tally. -/
def count (session : Session) (events : List Event) : Session :=
  { session with tally := session.tally.countAll (notices events) }

/-- Put in what is due; the result says whether the session goes on. -/
def enter (session : Session) (now : Float) : Logged (Bool × Session) := do
  let (inputs, toggles) := session.dueInputs now
  let (goesOn, host) ← session.host.handleInput inputs
  pure (goesOn, { session with host, toggles })

/-- Make a pass over the time since the last one. -/
def advance (session : Session) (now : Float) : Report Fault Session := do
  let (delta, timer) ← ExceptT.lift (session.timer.tick now)
  let (stats, host) ← session.host.pass delta
  pure { session with host, timer, totals := session.totals.add stats }

/-- Play what has come due since sound was played last. -/
def play (session : Session) (now : Float) : Logged Session := do
  let (player, queue) ← session.player.play ((now - session.playedAt) / 1000.0)
    session.host.sink.queue
  let host := { session.host with sink := { session.host.sink with queue } }
  pure { session with host, player, playedAt := now }

/-- How long the session rests before its next turn. -/
def rest (session : Session) (now : Float) : Except Fault Duration :=
  session.timer.remaining now session.host.refreshPeriod

/-- A rest in the slices of the player. -/
def slices (rest : Duration) : List Duration :=
  List.replicate (rest.nanos / playerSlice.nanos) playerSlice ++
    [⟨rest.nanos % playerSlice.nanos⟩]

/-- The summary of a session. -/
def summary (session : Session) (now : Float) : Event :=
  .stopped (session.elapsed now / 1000.0) session.totals.pictures session.totals.queued
    session.totals.dropped session.tally.ready

end Session

end PacingHost
