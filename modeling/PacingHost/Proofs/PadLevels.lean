import PacingHost.Proofs.DispatchForm
import PacingHost.Proofs.ToneReturns

/-! # The pad follows the keys

Inputs are all that moves the keys of a host: a key is held when its last press or release was a
press, whatever else was done to the host in between. Every pass shows its engine the pad that these
levels make. A tone engine looks at it when it draws a picture and keeps what it saw until it draws
the next one (`Tone.Looks`), so afterwards it shows the levels of the last pass that drew a picture.
-/

namespace PacingHost

/-- The level an input gives to a key. -/
def Input.level? (key : Key) : Input → Option Bool
  | .press other => if other = key then some true else none
  | .release other => if other = key then some false else none
  | .quit => none

/-- The last of the inputs that were about the key was a press. -/
def lastDown (inputs : List Input) (key : Key) : Bool :=
  (inputs.filterMap (Input.level? key)).getLast? == some true

/-- The pad that the last levels of the keys make. -/
def Pad.ofInputs (inputs : List Input) : Pad where
  up := lastDown inputs .up
  down := lastDown inputs .down
  left := lastDown inputs .left
  right := lastDown inputs .right
  b := lastDown inputs .z
  a := lastDown inputs .x
  start := lastDown inputs .enter
  select := lastDown inputs .backspace

/-- The inputs a call hands over. -/
def HostCall.inputs : HostCall → List Input
  | .input inputs => inputs
  | .pass _ | .commit _ | .bindPress .. | .bindHold .. | .read _ | .consume _ => []

namespace HeldKeys

theorem isDown_update (held : HeldKeys) (input : Input) (key : Key) :
    (held.update input).isDown key = (input.level? key).getD (held.isDown key) := by
  cases input with
  | quit => rfl
  | press other =>
    rw [isDown_press, Input.level?]
    by_cases same : other = key
    · simp [same]
    · simp [same, Ne.symm same]
  | release other =>
    rw [isDown_release, Input.level?]
    by_cases same : other = key
    · simp [same]
    · simp [same, Ne.symm same]

/-- Of a key the last input about it counts. -/
theorem isDown_foldl_update (held : HeldKeys) (inputs : List Input) (key : Key) :
    (inputs.foldl update held).isDown key =
      (inputs.filterMap (Input.level? key)).getLast?.getD (held.isDown key) := by
  induction inputs generalizing held with
  | nil => rfl
  | cons input inputs ih =>
    rw [List.foldl_cons, ih, isDown_update, last_filterMap_cons, Option.getD_or]

/-- Keys are up at first. -/
theorem isDown_of_inputs (inputs : List Input) (key : Key) :
    (inputs.foldl update {}).isDown key = lastDown inputs key := by
  rw [isDown_foldl_update, lastDown]
  cases (inputs.filterMap (Input.level? key)).getLast? with
  | none => rfl
  | some level => cases level <;> rfl

theorem read_of_inputs (inputs : List Input) :
    PadMap.read {} (inputs.foldl update {}) = Pad.ofInputs inputs := by
  simp [PadMap.read, Pad.ofButtons, Pad.ofInputs, isDown_of_inputs, Bool.beq_eq_decide_eq]

end HeldKeys

namespace Tone

variable {tone middle next : Tone} {pad : Pad} {target : Nat} {answer : Answer}

/-- The engine went on, and looked at the pad with each picture. -/
structure Looks (pad : Pad) (tone next : Tone) : Prop where
  counts : tone.pictures ≤ next.pictures
  keeps : next.pictures = tone.pictures → next.pad = tone.pad
  sees : tone.pictures < next.pictures → next.pad = pad

theorem Looks.of_same (pictures : next.pictures = tone.pictures) (same : next.pad = tone.pad) :
    Looks pad tone next where
  counts := Nat.le_of_eq pictures.symm
  keeps := fun _ => same
  sees := fun drawn => absurd pictures.symm (Nat.ne_of_lt drawn)

theorem Looks.trans (first : Looks pad tone middle) (second : Looks pad middle next) :
    Looks pad tone next where
  counts := Nat.le_trans first.counts second.counts
  keeps := by
    intro same
    have early := first.counts
    have late := second.counts
    rw [second.keeps (by omega), first.keeps (by omega)]
  sees := by
    intro drawn
    rcases Nat.lt_or_ge middle.pictures next.pictures with late | none
    · exact second.sees late
    · have same : next.pictures = middle.pictures := Nat.le_antisymm none second.counts
      rw [second.keeps same, first.sees (same ▸ drawn)]

theorem looks_draw (tone : Tone) (pad : Pad) : Looks pad tone (tone.draw (some pad)) where
  counts := Nat.le_succ _
  keeps := fun same => absurd same (Nat.succ_ne_self _)
  sees := fun _ => rfl

theorem looks_emptied (tone : Tone) (pad : Pad) : Looks pad tone tone.emptied := by
  unfold emptied
  split <;> exact .of_same rfl rfl

theorem looks_makeSample (pad : Pad) (made : tone.makeSample = .ok next) : Looks pad tone next := by
  unfold makeSample at made
  split at made
  · cases made
    exact .of_same rfl rfl
  · cases made

theorem carries_looks (pad : Pad) : Carries (some pad) (Looks pad) where
  trans := Looks.trans
  moves := fun _ _ => .of_same rfl rfl
  samples := looks_makeSample pad
  draws := fun tone => tone.looks_draw pad

theorem Looks.of_answers {answers : List (Answer × Tone)}
    (given : Engine.Answers (some pad) target tone answers) :
    Looks pad tone ((answers.map Prod.snd).getLastD tone) := by
  have looks {tone next : Tone} {answer : Answer}
      (ran : Engine.run (some pad) target tone = .ok (answer, next)) : Looks pad tone next :=
    (tone.looks_emptied pad).trans ((carries_looks pad).runOn ran)
  induction given with
  | last ran reached => exact looks ran
  | more ran going later ih =>
    rw [List.map_cons, List.getLastD_cons]
    exact (looks ran).trans ih

end Tone

namespace Host

variable {σ : Type}

theorem held_afterPass (host : Host σ) (answers : List (Answer × σ)) (outputs : Outputs) :
    (host.afterPass answers outputs).held = host.held := by
  unfold afterPass settled
  split <;> rfl

/-- The inputs that some steps handed over, in order. -/
def inputsOf (steps : List (Step (Host σ) HostCall HostAnswer)) : List Input :=
  steps.flatMap fun step => step.call.inputs

variable [Engine σ] {host next final : Host σ} {patience : Nat} {call : HostCall}
  {answer : HostAnswer} {delta : Float} {steps : List (Step (Host σ) HostCall HostAnswer)}

/-- A pass that returns leaves the host alone, or drives the engine with the pad of the host. -/
theorem Answered.passed (made : host.Answered patience (.pass delta) answer next) :
    next = host ∨ ∃ answers outputs,
      Engine.Answers (some host.pad) (host.target (checkDelta delta).value) host.engine answers ∧
        next = host.afterPass answers outputs := by
  cases handles_of_perform made with
  | stood => exact .inl rfl
  | @passed _ answers _ outputs passed => exact .inr ⟨answers, outputs, passed.given, rfl⟩

/-- Only inputs move keys. -/
theorem Answered.held (made : host.Answered patience call answer next) :
    next.held = call.inputs.foldl HeldKeys.update host.held := by
  cases call with
  | pass delta =>
    rcases made.passed with rfl | ⟨answers, outputs, _, rfl⟩
    · rfl
    · exact held_afterPass ..
  | commit | input | bindPress | bindHold | read | consume =>
    cases handles_of_perform made
    rfl

theorem held_of_run (run : Run (Answered patience) host steps final) :
    final.held = (inputsOf steps).foldl HeldKeys.update host.held := by
  induction run with
  | nil => rfl
  | cons made _ ih =>
    rw [ih, made.held, inputsOf, inputsOf, List.flatMap_cons, List.foldl_append]

/-- The keys of a host are as the inputs left them, and so is the pad its engine is shown. -/
structure Reports (host : Host σ) (inputs : List Input) : Prop where
  held : ∀ key, host.held.isDown key = true ↔
    (inputs.filterMap (Input.level? key)).getLast? = some true
  pad : host.pad = .ofInputs inputs
  /-- Nothing is left of the buttons of an engine that looks at the pad. -/
  seen : ∀ tone : Tone, (tone.draw (some host.pad)).pad = .ofInputs inputs

theorem reports_of_run (fresh : host.held = {}) (run : Run (Answered patience) host steps final) :
    final.Reports (inputsOf steps) := by
  have held : final.held = (inputsOf steps).foldl HeldKeys.update {} := fresh ▸ held_of_run run
  have pad : final.pad = .ofInputs (inputsOf steps) := by
    rw [Host.pad, held, HeldKeys.read_of_inputs]
  refine ⟨?_, pad, fun _ => pad⟩
  intro key
  rw [held, HeldKeys.isDown_of_inputs, lastDown, beq_iff_eq]

section Tones

variable {host next final : Host Tone} {steps : List (Step (Host Tone) HostCall HostAnswer)}

theorem shown_committed (host : Host Tone) (config : Config) :
    (host.committed config).engine.pictures = host.engine.pictures ∧
      (host.committed config).engine.pad = host.engine.pad := by
  unfold committed
  dsimp only
  split <;> exact ⟨rfl, rfl⟩

/-- Only passes draw. -/
theorem Answered.undrawn (made : host.Answered patience call answer next)
    (other : ∀ delta, call ≠ .pass delta) :
    next.engine.pictures = host.engine.pictures ∧ next.engine.pad = host.engine.pad := by
  cases call with
  | pass delta => exact absurd rfl (other delta)
  | commit config =>
    cases handles_of_perform made
    exact host.shown_committed config
  | input inputs =>
    cases handles_of_perform made
    exact (host.holding inputs).shown_committed _
  | bindPress | bindHold | read | consume =>
    cases handles_of_perform made
    exact ⟨rfl, rfl⟩

theorem Answered.looks (made : host.Answered patience call answer next) :
    Tone.Looks host.pad host.engine next.engine := by
  cases call with
  | pass delta =>
    rcases made.passed with rfl | ⟨answers, outputs, given, rfl⟩
    · exact .of_same rfl rfl
    · rw [engine_afterPass]
      exact .of_answers given
  | commit | input | bindPress | bindHold | read | consume =>
    obtain ⟨pictures, pad⟩ := made.undrawn nofun
    exact .of_same pictures pad

/-- Some pass of the run was the last that drew a picture, unless none did. -/
theorem drawn_of_run (run : Run (Answered patience) host steps final) :
    (final.engine.pictures = host.engine.pictures ∧ final.engine.pad = host.engine.pad) ∨
      ∃ earlier step later delta, steps = earlier ++ step :: later ∧ step.call = .pass delta ∧
        step.before.engine.pictures < step.after.engine.pictures ∧
        final.engine.pictures = step.after.engine.pictures ∧
        Run (Answered patience) host earlier step.before ∧
        final.engine.pad = step.before.pad := by
  induction run with
  | nil state => exact .inl ⟨rfl, rfl⟩
  | @cons host next final call answer steps made run ih =>
    have looks := made.looks
    rcases ih with ⟨pictures, pad⟩ | ⟨earlier, step, later, delta, rfl, pass, drew, last, ran, pad⟩
    · rcases Nat.lt_or_ge host.engine.pictures next.engine.pictures with drew | none
      · -- This is the last picture, so it was a pass.
        cases call with
        | pass delta =>
          exact .inr ⟨[], _, steps, delta, rfl, rfl, drew, pictures, .nil host,
            pad.trans (looks.sees drew)⟩
        | commit | input | bindPress | bindHold | read | consume =>
          exact absurd (made.undrawn nofun).1.symm (Nat.ne_of_lt drew)
      · have same := Nat.le_antisymm none looks.counts
        exact .inl ⟨pictures.trans same, pad.trans (looks.keeps same)⟩
    · exact .inr ⟨⟨host, call, answer, next⟩ :: earlier, step, later, delta, rfl, pass, drew, last,
        .cons made ran, pad⟩

end Tones

/-- The host was built around the engine and has made these steps since, its passes having some
patience. -/
def Used (engine : σ) (steps : List (Step (Host σ) HostCall HostAnswer)) (final : Host σ) : Prop :=
  ∃ setup opener screen host patience calls,
    (build setup engine opener screen).result = .ok host ∧
      (performAll (performWithin patience) host calls).result = .ok (steps, final)

/-- The engine shows the pad it started with, or that of the last pass that drew a picture. -/
def ShowsLast (engine : Tone) (steps : List (Step (Host Tone) HostCall HostAnswer))
    (final : Host Tone) : Prop :=
  (final.engine.pictures = engine.pictures ∧ final.engine.pad = engine.pad) ∨
    ∃ earlier step later delta, steps = earlier ++ step :: later ∧ step.call = .pass delta ∧
      step.before.engine.pictures < step.after.engine.pictures ∧
      final.engine.pictures = step.after.engine.pictures ∧
      final.engine.pad = .ofInputs (inputsOf earlier)

theorem Used.run {engine : σ} (used : Used engine steps final) :
    ∃ host patience, host.held = {} ∧ Run (Answered patience) host steps final ∧
      host.engine = Engine.configure {} engine := by
  obtain ⟨setup, opener, screen, host, patience, calls, built, ran⟩ := used
  obtain ⟨_, sink, _, rfl⟩ := (build_eq_ok_iff ..).mp built
  exact ⟨_, patience, rfl, (Run.of_performAll id ran).2, rfl⟩

/-- The pad follows the keys. However a host was used, its keys are as the last inputs about them
left them, an engine that looks at the pad finds exactly these levels, and a tone engine shows the
levels of the pass that drew its last picture. -/
theorem pad_follows_keys :
    (∀ {σ : Type} [Engine σ] (engine : σ) (steps : List (Step (Host σ) HostCall HostAnswer))
      (final : Host σ), Used engine steps final → final.Reports (inputsOf steps)) ∧
    ∀ (tone : Tone) (steps : List (Step (Host Tone) HostCall HostAnswer)) (final : Host Tone),
      Used tone steps final → ShowsLast tone steps final := by
  refine ⟨?_, ?_⟩
  · intro σ _ engine steps final used
    obtain ⟨host, patience, fresh, run, _⟩ := used.run
    exact reports_of_run fresh run
  · intro tone steps final used
    obtain ⟨host, patience, fresh, run, same⟩ := used.run
    rcases drawn_of_run run with ⟨pictures, pad⟩ |
      ⟨earlier, step, later, delta, cut, pass, drew, last, before, pad⟩
    · rw [same] at pictures pad
      exact .inl ⟨pictures, pad⟩
    · exact .inr ⟨earlier, step, later, delta, cut, pass, drew, last,
        pad.trans (reports_of_run fresh before).pad⟩

/-- A host around a tone engine with hardly any samples, its Z key held. -/
def pressed : Host Tone :=
  { around { audioFrames := 32 } (Tone.start 4194304 1 32 440.0)
      ⟨.ofFormat ⟨44100, stereo, 256⟩, .blank 256, ⟨false, 512, 1280⟩⟩ {} with held := ⟨[.z]⟩ }

/-- The first picture is drawn on the way, and nothing else is due. -/
theorem answers_pressed :
    Engine.Answers (some pressed.pad) 71303 pressed.engine
      [(⟨true, false, false⟩, pressed.engine.event (some pressed.pad)),
        (⟨false, false, true⟩,
          { pressed.engine.event (some pressed.pad) with cycles := 71303 })] := by
  have regular : pressed.engine.Regular :=
    (Tone.regular_start 4194304 1 (by decide : 32 < 9223372036854775808) 440.0).configure {}
  refine .more ?_ rfl (.last ?_ rfl)
  · exact regular.runOn_of_due (by decide) (by decide)
  · exact Tone.runOn_of_not_due (by decide) (by decide)

/-- The key is released after the pass that drew a picture. -/
theorem pad_follows_keys_released :
    ∃ steps final, Used (Tone.start 4194304 1 32 440.0) steps final ∧
      inputsOf steps = [.press .z, .release .z] ∧ final.Reports [.press .z, .release .z] ∧
      final.engine.pictures = 1 ∧ ShowsLast (Tone.start 4194304 1 32 440.0) steps final := by
  have aimed : pressed.target (checkDelta 17.0).value = 71303 := by decide +kernel
  have running : pressed.config.paused = false := rfl
  have two : pressed.sink.format.channels = stereo := rfl
  obtain ⟨stats, ended, last, ran⟩ :=
    passWithin_returns running two (by decide) (aimed ▸ answers_pressed)
  have second : (performWithin 2 pressed (.pass 17.0)).result = .ok (.passed stats, ended) := by
    rw [performWithin, (Report.bind_of_ok (ran 2 (Nat.le_refl 2)) _).1]
    rfl
  have third := performWithin_input 2 ended [.release .z]
  have made : (performAll (performWithin 2) pressed [.pass 17.0, .input [.release .z]]).result =
      .ok ([_, _], _) :=
    performAll_cons_eq_ok_iff.mpr ⟨_, _, _, second,
      performAll_cons_eq_ok_iff.mpr ⟨_, _, [], third, rfl, rfl⟩, rfl⟩
  have used : Used (Tone.start 4194304 1 32 440.0) _ _ :=
    ⟨{ audioFrames := 32 }, .software, {}, _, 2, .input [.press .z] :: _, rfl,
      performAll_cons_eq_ok_iff.mpr ⟨.handled true, pressed, _, rfl, made, rfl⟩⟩
  have drawn : ended.engine.pictures = 1 := by
    rw [last]
    rfl
  exact ⟨_, _, used, rfl, pad_follows_keys.1 _ _ _ used,
    ((ended.holding _).shown_committed _).1.trans drawn, pad_follows_keys.2 _ _ _ used⟩

end Host

end PacingHost
