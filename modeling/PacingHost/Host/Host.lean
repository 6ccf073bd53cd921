import PacingHost.Controls.Bindings
import PacingHost.Engine.Engine
import PacingHost.Screen.Screen
import PacingHost.Setup
import PacingHost.Sound.Sink

/-! # The host

A host owns an engine, a sound sink and a screen, and the state of the user's controls. `build`
opens the sound and shows the engine its first configuration. `commit` changes the configuration
and has an effect only for what changed: the sound queue is flushed when synchronisation or pause
change, and the engine hears of mutes and layers.
-/

namespace PacingHost

structure Host (σ : Type) where
  setup : Setup
  config : Config := {}
  engine : σ
  sink : Sink
  screen : Screen
  bindings : Bindings := .default
  held : HeldKeys := {}

namespace Host

variable {σ : Type} [Engine σ]

/-- Check the parameters, open the sound, and size the window. -/
def build (setup : Setup) (engine : σ) (opener : Opener) (screen : Screen) :
    Report Failure (Host σ) := do
  (Report.ofExcept setup.validate).mapFailure fun cause => .error (.setup cause)
  let sink ← Sink.ofRequest opener setup.request setup.thresholds
  let width := Engine.width σ
  let height := Engine.height σ
  let sized ← ExceptT.lift (screen.setWindow (Word.cappedProduct width setup.renderScale)
    (Word.cappedProduct height setup.renderScale))
  Report.tell (.hostBuilt setup.cyclesPerSecond width height sink.format)
  pure { setup, sink, engine := Engine.configure {} engine, screen := sized }

/-- The pad as the engine of the host sees it. -/
def pad (host : Host σ) : Pad := PadMap.read {} host.held

/-- Milliseconds between two refreshes of the host's screen. -/
def refreshPeriod (host : Host σ) : Float := Screen.refreshPeriod host.screen.refreshHz

/-- A change of synchronisation sets the swap mode and flushes the sound. -/
def commitSync (host : Host σ) (next : Config) : Logged (Host σ) :=
  if host.config.noSync = next.noSync then pure host else do
    Logged.tell (.syncToggled next.noSync)
    let screen ← host.screen.setSwap (.ofUnsynced next.noSync)
    let sink ← host.sink.reset
    pure { host with screen, sink }

/-- Pausing and resuming flush the sound. -/
def commitPause (host : Host σ) (next : Config) : Logged (Host σ) :=
  if host.config.paused = next.paused then pure host else do
    Logged.tell (.pauseToggled next.paused)
    let sink ← host.sink.reset
    pure { host with sink }

def commitFullscreen (host : Host σ) (next : Config) : Logged (Host σ) :=
  if host.config.fullscreen = next.fullscreen then pure host else do
    let screen ← host.screen.setFullscreen next.fullscreen
    pure { host with screen }

/-- The engine hears of a configuration whose mutes or layers differ. -/
def commitLayers (host : Host σ) (next : Config) : Host σ :=
  if host.config.layers = next.layers then host
  else { host with engine := Engine.configure next host.engine }

/-- Take over a configuration. -/
def commit (host : Host σ) (next : Config) : Logged (Host σ) := do
  let synced ← host.commitSync next
  let gated ← synced.commitPause next
  let framed ← gated.commitFullscreen next
  pure { framed.commitLayers next with config := next }

theorem commit_config (host : Host σ) (next : Config) :
    (host.commit next).value.config = next := rfl

/-- Committing the configuration that is in force changes nothing and reports nothing. -/
theorem commit_same (host : Host σ) : host.commit host.config = pure host := by
  simp only [commit, commitSync, commitPause, commitFullscreen, commitLayers, ↓reduceIte,
    pure_bind]

/-- Tell the observer what the user wishes; the result says whether the host goes on. -/
def grant : List Wish → Logged Bool
  | [] => pure true
  | wish :: wishes => do
    match wish with
    | .writeState => Logged.tell (.notice .writeState)
    | .readState => Logged.tell (.notice .readState)
    | .quit => pure ()
    let rest ← grant wishes
    pure (rest && wish != .quit)

/-- Handle the inputs of one pass: the changes of all of them are committed together. The result
says whether the host goes on. -/
def handleInput (host : Host σ) (inputs : List Input) : Logged (Bool × Host σ) := do
  let dispatched ← Dispatched.dispatchAll host.bindings { config := host.config } inputs
  let goesOn ← grant dispatched.wishes
  let committed ← { host with held := inputs.foldl HeldKeys.update host.held }.commit
    dispatched.config
  pure (goesOn, committed)

end Host

end PacingHost
