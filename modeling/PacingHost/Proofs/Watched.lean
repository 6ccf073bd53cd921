import PacingHost.Proofs.HostRun

/-! # Watched engines

A host tells its engine targets and configurations, and not every engine keeps them. A watched
engine does what the engine does and writes down what it is told. Nothing else comes of being
watched: `Host.performAll_watched` says that every run of a host, however patient its passes are, is
with the writing left out the run of a host whose engine is watched. So what the writing says of
watched runs is said of all.
-/

namespace PacingHost

/-- An engine with all it was told. -/
structure Watched (σ : Type) where
  engine : σ
  /-- The targets it was run to. -/
  targets : List Nat := []
  /-- The configurations it was told about. -/
  configs : List Config := []

namespace Watched

variable {σ : Type}

/-- An answer without what the engine has written down. -/
def plain (answer : Answer × Watched σ) : Answer × σ := (answer.1, answer.2.engine)

theorem ofServed_plain (target : Nat) (answers : List (Answer × Watched σ))
    (outcomes : List Drained) :
    PassStats.ofServed target (answers.map plain) outcomes =
      PassStats.ofServed target answers outcomes := by
  simp only [PassStats.ofServed, List.countP_map]
  rfl

variable [Engine σ]

instance : Engine (Watched σ) where
  width := Engine.width σ
  height := Engine.height σ
  cycles watched := Engine.cycles watched.engine
  frame watched := Engine.frame watched.engine
  sound watched := Engine.sound watched.engine
  configure config watched :=
    { watched with
      engine := Engine.configure config watched.engine
      configs := watched.configs ++ [config] }
  run pad target watched := do
    let (answer, engine) ← Engine.run pad target watched.engine
    pure (answer, { watched with engine, targets := watched.targets ++ [target] })

theorem run_of_ok {pad : Option Pad} {target : Nat} {watched : Watched σ} {answer : Answer}
    {engine : σ} (ran : Engine.run pad target watched.engine = .ok (answer, engine)) :
    Engine.run pad target watched =
      .ok (answer, { watched with engine, targets := watched.targets ++ [target] }) :=
  congrArg (· >>= _) ran

theorem run_of_error {pad : Option Pad} {target : Nat} {watched : Watched σ} {cause : Fault}
    (ran : Engine.run pad target watched.engine = .error cause) :
    Engine.run pad target watched = .error cause :=
  congrArg (· >>= _) ran

/-- A watched engine gives the answers of the engine. -/
theorem answers_exist {pad : Option Pad} {target : Nat} {watched : Watched σ}
    {answers : List (Answer × σ)} (given : Engine.Answers pad target watched.engine answers) :
    ∃ told, Engine.Answers pad target watched told ∧ told.map plain = answers := by
  generalize same : watched.engine = engine at given
  induction given generalizing watched with
  | last ran reached =>
    subst same
    exact ⟨_, .last (run_of_ok ran) reached, rfl⟩
  | @more engine next answer rest ran going later ih =>
    subst same
    obtain ⟨told, given, plainly⟩ :=
      @ih { watched with engine := next, targets := watched.targets ++ [target] } rfl
    exact ⟨_, .more (run_of_ok ran) going given, congrArg (_ :: ·) plainly⟩

/-- An engine is told nothing when it runs. -/
theorem configs_of_run {pad : Option Pad} {target : Nat} {watched next : Watched σ}
    {answer : Answer} (ran : Engine.run pad target watched = .ok (answer, next)) :
    next.configs = watched.configs := by
  cases plainly : Engine.run pad target watched.engine with
  | error cause => rw [run_of_error plainly] at ran; cases ran
  | ok made =>
    rw [run_of_ok plainly] at ran
    cases ran
    rfl

theorem services_plain (answers : List (Answer × Watched σ)) :
    (answers.map plain).flatMap Answer.services = answers.flatMap Answer.services :=
  List.flatMap_map ..

end Watched

namespace Host

variable {σ : Type}

/-- The host without what its engine has written down. -/
def unwatched (host : Host (Watched σ)) : Host σ := { host with engine := host.engine.engine }

theorem unwatched_settled (host : Host (Watched σ)) :
    host.settled.unwatched = host.unwatched.settled :=
  apply_ite unwatched ..

theorem unwatched_afterPass (host : Host (Watched σ)) (answers : List (Answer × Watched σ))
    (outputs : Outputs) :
    (host.afterPass answers outputs).unwatched =
      host.unwatched.afterPass (answers.map Watched.plain) outputs := by
  have engines : (answers.map Watched.plain).map Prod.snd =
      (answers.map Prod.snd).map Watched.engine := by
    rw [List.map_map, List.map_map]
    rfl
  rw [afterPass, unwatched_settled, afterPass, engines]
  simp only [moved, unwatched, List.getLastD_map]

variable [Engine σ]

theorem unwatched_committed (host : Host (Watched σ)) (next : Config) :
    (host.committed next).unwatched = host.unwatched.committed next := by
  have engine : (host.committed next).engine.engine = (host.unwatched.committed next).engine :=
    apply_ite Watched.engine ..
  rw [unwatched, engine]
  rfl

/-- A pass runs as well when the engine is watched, and gives the same answers. -/
theorem Passed.watched {host : Host (Watched σ)} {delta : Float} {answers : List (Answer × σ)}
    {outcomes : List Drained} {outputs : Outputs}
    (passed : host.unwatched.Passed delta answers outcomes outputs) :
    ∃ watched, host.Passed delta watched outcomes outputs ∧
      watched.map Watched.plain = answers := by
  have plainly : Engine.Answers (some host.pad) (host.target (checkDelta delta).value)
      host.engine.engine answers := passed.given
  obtain ⟨watched, given, rfl⟩ := Watched.answers_exist plainly
  have served := passed.served
  rw [Watched.services_plain] at served
  exact ⟨watched, ⟨passed.running, given, served⟩, rfl⟩

theorem passWithin_watched {host : Host (Watched σ)} {next : Host σ} {patience : Nat}
    {delta : Float} {stats : PassStats}
    (ran : (host.unwatched.passWithin patience delta).result = .ok (stats, next)) :
    ∃ watched, (host.passWithin patience delta).result = .ok (stats, watched) ∧
      watched.unwatched = next := by
  rcases passed_of_passWithin ran with
    ⟨paused, rfl, rfl⟩ | ⟨_, outcomes, outputs, passed, patient, rfl, rfl⟩
  · have still : host.config.paused = true := paused
    refine ⟨host, ?_, rfl⟩
    rw [passWithin_paused still]
    rfl
  · obtain ⟨answers, again, rfl⟩ := passed.watched
    rw [List.length_map] at patient
    exact ⟨host.afterPass answers outputs, (passWithin_eq_ok_iff again.running).mpr
      ⟨answers, outcomes, outputs, again, patient, Watched.ofServed_plain .., rfl⟩,
      host.unwatched_afterPass answers outputs⟩

/-- What a host does, it does too when its engine is watched. -/
theorem perform_watched {host : Host (Watched σ)} {next : Host σ} {patience : Nat}
    {call : HostCall} {answer : HostAnswer}
    (ran : (host.unwatched.performWithin patience call).result = .ok (answer, next)) :
    ∃ watched, (host.performWithin patience call).result = .ok (answer, watched) ∧
      watched.unwatched = next := by
  cases call with
  | pass delta =>
    obtain ⟨⟨stats, ended⟩, made, told⟩ := Report.result_bind_eq_ok_iff.mp ran
    cases told
    obtain ⟨watched, again, rfl⟩ := passWithin_watched made
    exact ⟨watched, (Report.bind_of_ok again _).1, rfl⟩
  | commit config =>
    cases (performWithin_commit patience host.unwatched config).symm.trans ran
    exact ⟨_, performWithin_commit patience host config, host.unwatched_committed config⟩
  | input inputs =>
    cases (performWithin_input patience host.unwatched inputs).symm.trans ran
    exact ⟨_, performWithin_input patience host inputs,
      (host.holding inputs).unwatched_committed _⟩
  | bindPress | bindHold | read | consume =>
    cases ran
    exact ⟨_, rfl, rfl⟩

/-- A host can as well be built around the engine with nothing written down yet. -/
theorem build_watched {setup : Setup} {engine : σ} {opener : Opener} {screen : Screen}
    {host : Host σ} (built : (build setup engine opener screen).result = .ok host) :
    ∃ watched, (build setup (Watched.mk engine [] []) opener screen).result = .ok watched ∧
      watched.unwatched = host := by
  obtain ⟨valid, sink, opened, rfl⟩ := (build_eq_ok_iff ..).mp built
  exact ⟨around setup _ sink screen,
    (build_eq_ok_iff ..).mpr ⟨valid, sink, opened, rfl⟩, rfl⟩

/-- Every run of a host is the run of a host whose engine is watched. -/
theorem performAll_watched {host : Host (Watched σ)} {calls : List HostCall}
    {patience : Nat} {steps : List (Step (Host σ) HostCall HostAnswer)} {final : Host σ}
    (ran : (performAll (performWithin patience) host.unwatched calls).result =
      .ok (steps, final)) :
    ∃ watchedSteps watched,
      (performAll (performWithin patience) host calls).result = .ok (watchedSteps, watched) ∧
        watched.unwatched = final := by
  induction calls generalizing host steps with
  | nil => cases ran; exact ⟨[], host, rfl, rfl⟩
  | cons call calls ih =>
    obtain ⟨answer, next, rest, made, later, rfl⟩ := performAll_cons_eq_ok_iff.mp ran
    obtain ⟨watched, madeWatched, rfl⟩ := perform_watched made
    obtain ⟨watchedSteps, last, laterWatched, rfl⟩ := ih later
    exact ⟨_, last, performAll_cons_eq_ok_iff.mpr ⟨answer, watched, watchedSteps, madeWatched,
      laterWatched, rfl⟩, rfl⟩

end Host

end PacingHost
