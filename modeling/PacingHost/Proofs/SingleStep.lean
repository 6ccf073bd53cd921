import PacingHost.Proofs.HostPause
import PacingHost.Proofs.PassKeeps

/-! # A step is one pass

With the step switch set a pass goes as it would without, and pauses the host when it has ended.
Without the switch a pass leaves the configuration and never stops playback. While the host is
paused passes do nothing, so where batches of input and passes take turns a batch that sets the
switch is followed by one pass that runs, however often it asked for a step.
-/

namespace PacingHost

/-- The calls that commit a configuration of their own. -/
def HostCall.commits : HostCall → Bool
  | .commit _ | .input _ => true
  | .pass _ | .bindPress .. | .bindHold .. | .read _ | .consume _ => false

/-- The inputs that ask for a step. -/
def Bindings.asksStep (bindings : Bindings) : Input → Bool
  | .press key => bindings.press key == some .step
  | .release _ | .quit => false

namespace Dispatched

theorem step_apply (state : Dispatched) (action : PressAction) :
    (state.apply action).value.config.step = (state.config.step || action == .step) := by
  cases action with
  | toggleChannel channel =>
    simp only [apply]
    split <;> exact (Bool.or_false _).symm
  | step => exact (Bool.or_true _).symm
  | toggleBackground | toggleWindow | toggleObjects | writeState | readState | togglePause
    | quit => exact (Bool.or_false _).symm

theorem step_followKey (state : Dispatched) (bindings : Bindings) (key : Key) (down : Bool) :
    (state.followKey bindings key down).config.step = state.config.step := by
  unfold followKey
  cases bindings.hold key with
  | none => rfl
  | some action =>
    cases action with
    | noSync => rfl
    | fullscreen => cases down <;> rfl

theorem step_dispatch (bindings : Bindings) (state : Dispatched) (input : Input) :
    (state.dispatch bindings input).value.config.step =
      (state.config.step || bindings.asksStep input) := by
  cases input with
  | press key =>
    cases pressed : bindings.press key with
    | none =>
      simp only [dispatch, pressed, pure_bind, Logged.pure_value, step_followKey,
        Bindings.asksStep]
      exact (Bool.or_false _).symm
    | some action =>
      simp only [dispatch, pressed, Logged.bind_value, Logged.pure_value, step_followKey,
        Bindings.asksStep]
      exact state.step_apply action
  | release key => exact (state.step_followKey bindings key false).trans (Bool.or_false _).symm
  | quit => exact (Bool.or_false _).symm

/-- However many inputs ask for a step, the switch is set once. -/
theorem step_dispatchAll (bindings : Bindings) (state : Dispatched) (inputs : List Input) :
    (state.dispatchAll bindings inputs).value.config.step =
      (state.config.step || inputs.any bindings.asksStep) := by
  induction inputs generalizing state with
  | nil => exact (Bool.or_false _).symm
  | cons input inputs ih =>
    rw [dispatchAll, Logged.bind_value, ih, step_dispatch, List.any_cons, Bool.or_assoc]

end Dispatched

namespace Host

variable {σ : Type}

/-- The host with its step switch cleared. -/
def unstepped (host : Host σ) : Host σ :=
  { host with config := { host.config with step := false } }

/-- The host once a step has ended: paused, and its playback stopped. -/
def stepped (host : Host σ) : Host σ :=
  { host with config := host.config.afterStep, sink := host.sink.reset.value }

theorem settled_of_stepping {host : Host σ} (stepping : host.config.step = true) :
    host.settled = host.stepped :=
  if_pos stepping

variable [Engine σ] {host final : Host σ} {patience : Nat} {delta : Float}
  {steps earlier later : List (Step (Host σ) HostCall HostAnswer)}
  {step : Step (Host σ) HostCall HostAnswer}

theorem target_unstepped (host : Host σ) (span : Float) :
    host.unstepped.target span = host.target span := rfl

/-- Without the step switch the same answers are served. -/
theorem serving_unstepped (host : Host σ) (patience target : Nat) :
    host.unstepped.serving patience target =
      (fun served => (served.1, { served.2 with config := host.unstepped.config })) <$>
        host.serving patience target :=
  host.serving_configured host.unstepped.config patience target

/-- A pass with the step switch set ends in a pause. -/
theorem passWithin_stepping (running : host.config.paused = false)
    (stepping : host.config.step = true) (patience : Nat) (delta : Float) :
    (host.passWithin patience delta).result =
      (host.serving patience (host.target (checkDelta delta).value)).result.map
        fun served => (served.1, served.2.stepped) := by
  rw [(passWithin_running running patience delta).1]
  cases made : (host.serving patience (host.target (checkDelta delta).value)).result with
  | error fault => rfl
  | ok served =>
    have still : served.2.config.step = true := config_of_serving made ▸ stepping
    exact congrArg (fun ended => Except.ok (served.1, ended)) (settled_of_stepping still)

theorem passWithin_unstepped (running : host.config.paused = false) (patience : Nat)
    (delta : Float) :
    (host.unstepped.passWithin patience delta).result =
      (host.serving patience (host.target (checkDelta delta).value)).result.map
        fun served => (served.1, served.2.unstepped) := by
  have plainly : host.unstepped.config.paused = false := running
  rw [(passWithin_running plainly patience delta).1, target_unstepped, serving_unstepped,
    (Report.map_eq _ _).1]
  cases made : (host.serving patience (host.target (checkDelta delta).value)).result with
  | error fault => rfl
  | ok served =>
    have same : host.unstepped.config = served.2.unstepped.config := by
      rw [unstepped, unstepped, config_of_serving made]
    exact congrArg (fun config => Except.ok (served.1, { served.2 with config }.settled)) same

theorem notices_closingEvents (host : Host σ) (delta : Float)
    (ended : Except Fault (PassStats × Host σ)) : notices (host.closingEvents delta ended) = [] := by
  unfold closingEvents
  split
  · rw [notices_append, notices_settledEvents]
    rfl
  · rfl

/-- Observers hear of a pass what they hear of its answers. -/
theorem notices_passWithin (running : host.config.paused = false) (patience : Nat)
    (delta : Float) :
    notices (host.passWithin patience delta).events =
      notices (checkDelta delta).events ++
        notices (host.serving patience (host.target (checkDelta delta).value)).events := by
  rw [(passWithin_running running patience delta).2, notices_append, notices_append,
    notices_closingEvents, List.append_nil]

/-- What a stepping host has become after a pass. -/
theorem stepped_of_passWithin {stats : PassStats} {ended : Host σ}
    (running : host.config.paused = false) (stepping : host.config.step = true)
    (ran : (host.passWithin patience delta).result = .ok (stats, ended)) :
    ended.config = host.config.afterStep ∧ ended.sink.Silent := by
  rw [passWithin_stepping running stepping] at ran
  cases made : (host.serving patience (host.target (checkDelta delta).value)).result with
  | error fault => rw [made] at ran; cases ran
  | ok served =>
    rw [made] at ran
    cases ran
    exact ⟨congrArg Config.afterStep (config_of_serving made), Sink.silent_reset _⟩

/-- The call returned, its passes having so much patience. -/
def Answered (patience : Nat) (host : Host σ) (call : HostCall) (answer : HostAnswer)
    (next : Host σ) : Prop :=
  (host.performWithin patience call).result = .ok (answer, next)

/-- A paused host stands still in a pass. -/
theorem Answered.stands {next : Host σ} {answer : HostAnswer}
    (made : host.Answered patience (.pass delta) answer next)
    (paused : host.config.paused = true) : answer = .passed {} ∧ next = host := by
  rw [Answered, performWithin, passWithin_paused paused] at made
  cases made
  exact ⟨rfl, rfl⟩

/-- A paused host stays paused unless a configuration is committed. -/
theorem Answered.stays_paused {next : Host σ} {call : HostCall} {answer : HostAnswer}
    (made : host.Answered patience call answer next) (paused : host.config.paused = true)
    (kept : call.commits = true → next.config.paused = host.config.paused) :
    next.config.paused = true := by
  cases call with
  | pass delta => rw [(made.stands paused).2, paused]
  | commit | input => rw [kept rfl, paused]
  | bindPress key action => cases made; exact paused
  | bindHold key action => cases made; exact paused
  | read slots => cases made; exact paused
  | consume wanted => cases made; exact paused

/-- A batch of input sets the step switch if it asks for a step. -/
theorem Answered.step_of_input {next : Host σ} {inputs : List Input} {answer : HostAnswer}
    (made : host.Answered patience (.input inputs) answer next) :
    next.config.step = (host.config.step || inputs.any host.bindings.asksStep) := by
  cases handles_of_perform made with
  | handled => exact Dispatched.step_dispatchAll ..

/-- Until a commit changes the pause, passes find the host paused and do nothing. -/
theorem stands_until_committed (run : Run (Answered patience) host steps final)
    (paused : host.config.paused = true) (cut : steps = earlier ++ step :: later)
    (kept : ∀ other ∈ earlier, other.call.commits = true →
      other.after.config.paused = other.before.config.paused) :
    step.before.config.paused = true ∧
      ∀ delta, step.call = .pass delta → step.answer = .passed {} ∧ step.after = step.before := by
  induction earlier generalizing host steps with
  | nil =>
    subst cut
    cases run with
    | @cons _ next _ call answer _ made later =>
      refine ⟨paused, ?_⟩
      rintro delta rfl
      exact made.stands paused
  | cons first earlier ih =>
    subst cut
    cases run with
    | cons made run =>
      have still := made.stays_paused paused (kept _ List.mem_cons_self)
      exact ih run still rfl fun other member => kept other (List.mem_cons_of_mem _ member)

/-- Batches of input and passes take turns; the flag says which of them comes next. -/
inductive InTurn : Bool → List HostCall → Prop
  | nil (input : Bool) : InTurn input []
  | input {calls : List HostCall} (inputs : List Input) (later : InTurn false calls) :
      InTurn true (.input inputs :: calls)
  | pass {calls : List HostCall} (delta : Float) (later : InTurn true calls) :
      InTurn false (.pass delta :: calls)

/-- What follows starts with the one pass that runs before the host is paused again. -/
def OnePass (host : Host σ) (later : List (Step (Host σ) HostCall HostAnswer)) : Prop :=
  ∃ advance rest delta answers, later = advance :: rest ∧ advance.before = host ∧
    advance.call = .pass delta ∧
    Engine.Answers (some host.pad) (host.target (checkDelta delta).value) host.engine answers ∧
    advance.after.engine = (answers.map Prod.snd).getLastD host.engine ∧
    advance.after.config = host.config.afterStep ∧ advance.after.sink.Silent ∧
    later.takeWhile (fun step => !step.before.config.paused) = [advance]

theorem InTurn.passNext {first : Bool} {calls rest : List HostCall} {inputs : List Input}
    (turns : InTurn first (calls ++ .input inputs :: rest)) : InTurn false rest := by
  induction calls generalizing first with
  | nil =>
    cases turns with
    | input _ later => exact later
  | cons call calls ih =>
    cases turns with
    | input _ later => exact ih later
    | pass _ later => exact ih later

/-- A host that is to make a step makes it in the next pass and is paused then. -/
theorem onePass_of_run (run : Run (Answered patience) host later final)
    (turns : InTurn false (later.map Step.call)) (running : host.config.paused = false)
    (stepping : host.config.step = true) : later = [] ∨ host.OnePass later := by
  cases run with
  | nil => exact .inl rfl
  | @cons _ next _ call answer rest made run =>
    cases turns with
    | @pass _ delta =>
      obtain ⟨⟨stats, ended⟩, ran, told⟩ := Report.result_bind_eq_ok_iff.mp made
      cases told
      obtain ⟨config, silent⟩ := stepped_of_passWithin running stepping ran
      obtain ⟨answers, _, outputs, passed, _, _, rfl⟩ := (passWithin_eq_ok_iff running).mp ran
      refine .inr ⟨_, rest, delta, answers, rfl, rfl, rfl, passed.given, host.engine_afterPass ..,
        config, silent, ?_⟩
      have paused : (host.afterPass answers outputs).config.paused = true := by
        rw [config]
        rfl
      -- The next call, if there is one, finds the host paused.
      cases run with
      | nil => simp [running]
      | cons => simp [running, paused]

/-- A pass with the step switch set, next to the same pass without. -/
structure StepsOnce (host : Host σ) (patience : Nat) (delta : Float) : Prop where
  /-- Both fail alike, or both return the same and the first ends in a pause. -/
  same : (host.passWithin patience delta).result =
    (host.unstepped.passWithin patience delta).result.map
      fun passed => (passed.1, passed.2.stepped)
  heard : notices (host.passWithin patience delta).events =
    notices (host.unstepped.passWithin patience delta).events
  config : ∀ stats ended, (host.passWithin patience delta).result = .ok (stats, ended) →
    ended.config = { host.config with paused := true, step := false }
  silent : ∀ stats ended, (host.passWithin patience delta).result = .ok (stats, ended) →
    ended.sink.Silent
  /-- Where the engine reaches the target and all that it makes can be served, the pass returns. -/
  returns : host.sink.format.channels = stereo →
    Engine.width σ * Engine.height σ < Word.longLimit →
    ∀ answers, Engine.Answers (some host.pad) (host.target (checkDelta delta).value) host.engine
      answers → answers.length ≤ patience →
    ∃ stats ended, (host.passWithin patience delta).result = .ok (stats, ended)
  /-- Whatever is done afterwards, passes do nothing until a commit changes the pause. -/
  stands : ∀ stats ended, (host.passWithin patience delta).result = .ok (stats, ended) →
    ∀ calls steps final,
      (performAll (performWithin patience) ended calls).result = .ok (steps, final) →
    ∀ earlier step later, steps = earlier ++ step :: later →
      (∀ other ∈ earlier, other.call.commits = true →
        other.after.config.paused = other.before.config.paused) →
    ∀ span, step.call = .pass span →
      step.before.passWithin patience span = pure (({} : PassStats), step.before) ∧
        step.answer = .passed {} ∧ step.after = step.before

theorem stepsOnce (running : host.config.paused = false) (stepping : host.config.step = true)
    (patience : Nat) (delta : Float) : host.StepsOnce patience delta where
  same := by
    rw [passWithin_stepping running stepping, passWithin_unstepped running]
    cases (host.serving patience (host.target (checkDelta delta).value)).result <;> rfl
  heard := by
    have plainly : host.unstepped.config.paused = false := running
    rw [notices_passWithin running, notices_passWithin plainly, target_unstepped,
      serving_unstepped, (Report.map_eq _ _).2]
  config := fun _ _ ran => (stepped_of_passWithin running stepping ran).1
  silent := fun _ _ ran => (stepped_of_passWithin running stepping ran).2
  returns := by
    intro two countable answers given patient
    obtain ⟨stats, ended, _, ran⟩ := passWithin_returns running two countable given
    exact ⟨stats, ended, ran patience patient⟩
  stands := by
    intro stats ended ran calls steps final made earlier step later cut kept span call
    have paused : ended.config.paused = true := by
      rw [(stepped_of_passWithin running stepping ran).1]
      rfl
    obtain ⟨_, run⟩ : steps.map Step.call = calls ∧ Run (Answered patience) ended steps final :=
      Run.of_performAll id made
    obtain ⟨still, stands⟩ := stands_until_committed run paused cut kept
    exact ⟨passWithin_paused still patience span, stands span call⟩

/-- A step is one pass. With the step switch set a pass of a running host is the pass without it
and a pause; without it a pass changes no configuration and never stops playback. Where batches of
input and passes take turns, a batch asks for one step however often it asks, and the one pass that
follows makes it. -/
theorem step_is_one_pass (host : Host σ) (patience : Nat) :
    (host.config.paused = false → host.config.step = true →
      ∀ delta, host.StepsOnce patience delta) ∧
    (host.config.paused = false → host.config.step = false →
      ∀ delta, (host.passWithin patience delta).Omits .queueReset ∧
        ∀ stats ended, (host.passWithin patience delta).result = .ok (stats, ended) →
          ended.config = host.config ∧ host.sink.Keeps ended.sink) ∧
    ∀ first calls steps final, InTurn first calls →
      (performAll (performWithin patience) host calls).result = .ok (steps, final) →
    ∀ earlier step later inputs, steps = earlier ++ step :: later → step.call = .input inputs →
      step.after.config.step =
        (step.before.config.step || inputs.any step.before.bindings.asksStep) ∧
      (step.after.config.step = true → step.after.config.paused = false →
        later = [] ∨ step.after.OnePass later) := by
  refine ⟨fun running stepping => stepsOnce running stepping patience, ?_, ?_⟩
  · intro running going delta
    exact ⟨passWithin_omits going patience delta,
      fun _ _ ran => keeps_passWithin running going ran⟩
  · intro first calls steps final turns ran earlier step later inputs cut call
    obtain ⟨made, run⟩ : steps.map Step.call = calls ∧ Run (Answered patience) host steps final :=
      Run.of_performAll id ran
    rw [cut] at run
    obtain ⟨handled, rest⟩ := run.cut
    refine ⟨?_, ?_⟩
    · rw [call] at handled
      exact handled.step_of_input
    · intro stepping running
      rw [← made, cut, List.map_append, List.map_cons, call] at turns
      exact onePass_of_run rest turns.passNext running stepping

/-- A host with a software queue of eight bytes to a buffer. -/
def rested : Host (Script 2 2) where
  setup := { audioFrames := 1 }
  engine := { answers := [1, 2] }
  screen := {}
  sink := ⟨.ofFormat ⟨44100, 2, 8⟩, .blank 8, ⟨false, 16, 40⟩⟩

/-- The step key is pressed twice in a batch; of the two passes that follow the first one runs. -/
theorem step_is_one_pass_pressed_twice :
    ∃ steps final,
      (performAll (performWithin 8) rested
        [.input [.press .n, .release .n, .press .n], .pass 16.0, .input [], .pass 16.0]).result =
          .ok (steps, final) ∧
        (∃ step later, steps = step :: later ∧ step.after.OnePass later) ∧
        final.config = { paused := true } ∧ final.screen.presents = 1 :=
  have turns : InTurn true
      [.input [.press .n, .release .n, .press .n], .pass 16.0, .input [], .pass 16.0] :=
    .input _ (.pass _ (.input _ (.pass _ (.nil _))))
  have one := ((rested.step_is_one_pass 8).2.2 true _ _ _ turns rfl [] _ _ _ rfl rfl).2 rfl rfl
  ⟨_, _, rfl, ⟨_, _, rfl, one.resolve_left (List.cons_ne_nil _ _)⟩, rfl, rfl⟩

end Host

end PacingHost
