import PacingHost.Proofs.PassRun
import PacingHost.Proofs.Run

/-! # Runs of the host

A host is used by its owner, who makes passes, changes the configuration, hands over inputs and
rebinds keys, and by the consumers of its sound queue. All of them take turns, so a run is a single
list of calls. `Host.Handles` says what one call does to a host, one constructor for each way it can
go; `Host.handles_of_perform` says that there is no other way, however patient its passes are. What
returned returns the same with more patience, by `Host.performAll_of_le`.
-/

namespace PacingHost

/-- What is asked of a host. -/
inductive HostCall where
  | pass (delta : Float)
  | commit (next : Config)
  | input (inputs : List Input)
  | bindPress (key : Key) (action : PressAction)
  | bindHold (key : Key) (action : HoldAction)
  | read (slots : List UInt16)
  | consume (wanted : Nat)
deriving Repr

/-- What came of a call. -/
inductive HostAnswer where
  | passed (stats : PassStats)
  | done
  /-- The inputs were handled, and the host goes on or not. -/
  | handled (goesOn : Bool)
  /-- So many samples were read, and all slots. -/
  | filled (count : Nat) (slots : List UInt16)
  /-- So many bytes were dropped. -/
  | consumed (taken : Nat)
deriving DecidableEq, Repr

namespace Host

variable {σ : Type} [Engine σ]

/-- Make one call; a pass gives up its engine after so many answers. -/
def performWithin (patience : Nat) (host : Host σ) : HostCall → Report Fault (HostAnswer × Host σ)
  | .pass delta => do
    let (stats, next) ← host.passWithin patience delta
    pure (.passed stats, next)
  | .commit config => do
    let next ← ExceptT.lift (host.commit config)
    pure (.done, next)
  | .input inputs => do
    let (goesOn, next) ← ExceptT.lift (host.handleInput inputs)
    pure (.handled goesOn, next)
  | .bindPress key action =>
    pure (.done, { host with bindings := host.bindings.bindPress key action })
  | .bindHold key action =>
    pure (.done, { host with bindings := host.bindings.bindHold key action })
  | .read slots => do
    let (count, filled, sink) ← ExceptT.lift (host.sink.read slots)
    pure (.filled count filled, { host with sink })
  | .consume wanted => do
    let (taken, sink) ← ExceptT.lift (host.sink.consume wanted)
    pure (.consumed taken, { host with sink })

/-- A call whose passes have the usual patience. -/
def perform (host : Host σ) (call : HostCall) : Report Fault (HostAnswer × Host σ) :=
  host.performWithin Engine.patience call

/-- What the inputs of a pass come to. -/
def dispatched (host : Host σ) (inputs : List Input) : Dispatched :=
  (Dispatched.dispatchAll host.bindings { config := host.config } inputs).value

/-- The host once the keys of some inputs are held. -/
def holding (host : Host σ) (inputs : List Input) : Host σ :=
  { host with held := inputs.foldl HeldKeys.update host.held }

/-- What one call does to a host. -/
inductive Handles (host : Host σ) : HostCall → HostAnswer → Host σ → Prop
  | stood {delta : Float} (paused : host.config.paused = true) :
      Handles host (.pass delta) (.passed {}) host
  | passed {delta : Float} {answers : List (Answer × σ)} {outcomes : List Drained}
      {outputs : Outputs} (passed : host.Passed delta answers outcomes outputs) :
      Handles host (.pass delta)
        (.passed (.ofServed (host.target (checkDelta delta).value) answers outcomes))
        (host.afterPass answers outputs)
  | committed (next : Config) : Handles host (.commit next) .done (host.committed next)
  | handled (inputs : List Input) :
      Handles host (.input inputs) (.handled (grant (host.dispatched inputs).wishes).value)
        ((host.holding inputs).committed (host.dispatched inputs).config)
  | boundPress (key : Key) (action : PressAction) :
      Handles host (.bindPress key action) .done
        { host with bindings := host.bindings.bindPress key action }
  | boundHold (key : Key) (action : HoldAction) :
      Handles host (.bindHold key action) .done
        { host with bindings := host.bindings.bindHold key action }
  | read (slots : List UInt16) :
      Handles host (.read slots)
        (.filled (host.sink.read slots).value.1 (host.sink.read slots).value.2.1)
        { host with sink := (host.sink.read slots).value.2.2 }
  | consumed (wanted : Nat) :
      Handles host (.consume wanted) (.consumed (host.sink.consume wanted).value.1)
        { host with sink := (host.sink.consume wanted).value.2 }

/-- Inputs are taken in together: their keys are held, and one configuration is committed. -/
theorem handleInput_value (host : Host σ) (inputs : List Input) :
    (host.handleInput inputs).value =
      ((grant (host.dispatched inputs).wishes).value,
        (host.holding inputs).committed (host.dispatched inputs).config) := by
  unfold handleInput
  simp only [Logged.bind_value, Logged.pure_value, commit_eq]
  rfl

theorem performWithin_commit (patience : Nat) (host : Host σ) (config : Config) :
    (host.performWithin patience (.commit config)).result =
      .ok (.done, host.committed config) := by
  rw [performWithin, commit_eq]
  rfl

theorem performWithin_input (patience : Nat) (host : Host σ) (inputs : List Input) :
    (host.performWithin patience (.input inputs)).result =
      .ok (.handled (grant (host.dispatched inputs).wishes).value,
        (host.holding inputs).committed (host.dispatched inputs).config) := by
  rw [performWithin, (Report.bind_of_lift _ _).1, handleInput_value]
  rfl

/-- A call that returns has done one of these. -/
theorem handles_of_perform {host next : Host σ} {patience : Nat} {call : HostCall}
    {answer : HostAnswer} (ran : (host.performWithin patience call).result = .ok (answer, next)) :
    host.Handles call answer next := by
  cases call with
  | pass delta =>
    obtain ⟨⟨stats, ended⟩, made, ran⟩ := Report.result_bind_eq_ok_iff.mp ran
    cases ran
    rcases passed_of_passWithin made with
      ⟨paused, rfl, rfl⟩ | ⟨answers, outcomes, outputs, passed, _, rfl, rfl⟩
    · exact .stood paused
    · exact .passed passed
  | commit config =>
    cases (performWithin_commit patience host config).symm.trans ran
    exact .committed config
  | input inputs =>
    cases (performWithin_input patience host inputs).symm.trans ran
    exact .handled inputs
  | bindPress key action => cases ran; exact .boundPress key action
  | bindHold key action => cases ran; exact .boundHold key action
  | read slots => cases ran; exact .read slots
  | consume wanted => cases ran; exact .consumed wanted

theorem performWithin_of_le {host next : Host σ} {patience more : Nat} {call : HostCall}
    {answer : HostAnswer} (within : patience ≤ more)
    (ran : (host.performWithin patience call).result = .ok (answer, next)) :
    (host.performWithin more call).result = .ok (answer, next) := by
  cases call with
  | pass delta =>
    obtain ⟨⟨stats, ended⟩, made, ran⟩ := Report.result_bind_eq_ok_iff.mp ran
    cases ran
    rw [performWithin, (Report.bind_of_ok (passWithin_of_le within made) _).1]
    rfl
  | commit | input | bindPress | bindHold | read | consume => exact ran

/-- A run that returned goes the same way with more patience. -/
theorem performAll_of_le {host final : Host σ} {patience more : Nat} {calls : List HostCall}
    {steps : List (Step (Host σ) HostCall HostAnswer)} (within : patience ≤ more)
    (ran : (performAll (performWithin patience) host calls).result = .ok (steps, final)) :
    (performAll (performWithin more) host calls).result = .ok (steps, final) := by
  induction calls generalizing host steps with
  | nil => exact ran
  | cons call calls ih =>
    obtain ⟨answer, next, rest, made, later, rfl⟩ := performAll_cons_eq_ok_iff.mp ran
    exact performAll_cons_eq_ok_iff.mpr
      ⟨answer, next, rest, performWithin_of_le within made, ih later, rfl⟩

/-- A host around a sink that was opened: it has the configuration that changes nothing, which its
engine was shown, and a window for a scaled picture. -/
def around (setup : Setup) (engine : σ) (sink : Sink) (screen : Screen) : Host σ where
  setup
  sink
  engine := Engine.configure {} engine
  screen := { screen with
    window := some (Word.cappedProduct (Engine.width σ) setup.renderScale,
      Word.cappedProduct (Engine.height σ) setup.renderScale) }

theorem build_eq_ok_iff (setup : Setup) (engine : σ) (opener : Opener) (screen : Screen)
    (host : Host σ) :
    (build setup engine opener screen).result = .ok host ↔
      setup.validate = .ok () ∧
        ∃ sink, (Sink.ofRequest opener setup.request setup.thresholds).result = .ok sink ∧
          host = around setup engine sink screen := by
  unfold build
  constructor
  · intro built
    obtain ⟨_, valid, built⟩ := Report.result_bind_eq_ok_iff.mp built
    obtain ⟨sink, opened, built⟩ := Report.result_bind_eq_ok_iff.mp built
    cases built
    exact ⟨Report.result_mapFailure_eq_ok_iff.mp valid, sink, opened, rfl⟩
  · rintro ⟨valid, sink, opened, rfl⟩
    have checked : ((Report.ofExcept setup.validate).mapFailure fun cause =>
        Failure.error (.setup cause)).result = .ok () :=
      Report.result_mapFailure_eq_ok_iff.mpr valid
    rw [(Report.bind_of_ok checked _).1, (Report.bind_of_ok opened _).1]
    rfl

end Host

end PacingHost
