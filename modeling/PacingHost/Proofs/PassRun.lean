import PacingHost.Proofs.HostCommit
import PacingHost.Proofs.Services

/-! # How a pass goes

A pass of a host that is not paused drives the engine to its target, makes the calls the answers ask
for and ends a step. `Host.Passed` says which answers these were and what became of the calls. It
says nothing of patience: by `Host.passWithin_eq_ok_iff` a pass returns exactly if it is patient
enough for the answers, and what it returns is the same for every such patience. The answers are
served first, which no switch of the configuration has to do with; what comes after is the end of a
step.
-/

namespace PacingHost

/-- The statistics of a pass whose engine gave some answers and whose bursts came to this. -/
def PassStats.ofServed {σ : Type} (target : Nat) (answers : List (Answer × σ))
    (outcomes : List Drained) : PassStats :=
  PassStats.served { target } (answers.countP fun answer => answer.1.picture) outcomes

namespace PassStats

variable {σ : Type} {answers : List (Answer × σ)} {outcomes : List Drained}

/-- Fewer answers than a counter holds are counted exactly. -/
theorem pictures_ofServed (target : Nat) (outcomes : List Drained)
    (few : answers.length < Word.limit) :
    (ofServed target answers outcomes).pictures =
      answers.countP fun answer => answer.1.picture := by
  have fits : answers.countP (fun answer => answer.1.picture) < Word.limit :=
    Nat.lt_of_le_of_lt List.countP_le_length few
  simp only [pictures, ofServed, served, UInt32.zero_add, UInt32.toNat_ofNat_of_lt' fits]

/-- Fewer bursts than a counter holds are counted exactly. -/
theorem queued_ofServed (target : Nat) (answers : List (Answer × σ))
    (few : outcomes.length < Word.limit) :
    (ofServed target answers outcomes).queued = outcomes.countP Drained.isQueued ∧
      (ofServed target answers outcomes).dropped =
        outcomes.countP fun outcome => !outcome.isQueued := by
  have fits (kind : Drained → Bool) : outcomes.countP kind < Word.limit :=
    Nat.lt_of_le_of_lt List.countP_le_length few
  simp only [queued, dropped, ofServed, served, UInt32.zero_add,
    UInt32.toNat_ofNat_of_lt' (fits _), and_self]

end PassStats

namespace Host

variable {σ : Type}

/-- A host whose pass is over: a step ends in a pause, which flushes the sink. -/
def settled (host : Host σ) : Host σ :=
  if host.config.step then
    { host with config := host.config.afterStep, sink := host.sink.reset.value }
  else host

/-- What the end of a pass reports. -/
def settledEvents (host : Host σ) : List Event :=
  if host.config.step then [.pauseToggled true, .queueReset] else []

theorem notices_settledEvents (host : Host σ) : notices host.settledEvents = [] := by
  unfold settledEvents
  split <;> rfl

/-- Where a pass leaves the host. -/
def afterPass (host : Host σ) (answers : List (Answer × σ)) (outputs : Outputs) : Host σ :=
  (host.moved ((answers.map Prod.snd).getLastD host.engine) outputs).settled

theorem engine_afterPass (host : Host σ) (answers : List (Answer × σ)) (outputs : Outputs) :
    (host.afterPass answers outputs).engine = (answers.map Prod.snd).getLastD host.engine := by
  unfold afterPass settled
  split <;> rfl

theorem screen_afterPass (host : Host σ) (answers : List (Answer × σ)) (outputs : Outputs) :
    (host.afterPass answers outputs).screen = outputs.screen := by
  unfold afterPass settled
  split <;> rfl

variable [Engine σ]

/-- Of all effects a new configuration can have, the end of a step has only that of a pause. -/
theorem endStep_eq {host : Host σ} (running : host.config.paused = false) :
    host.endStep = ⟨host.settled, host.settledEvents⟩ := by
  unfold endStep settled settledEvents
  split
  · have flushes : host.flushes host.config.afterStep = true := by
      simp only [flushes, Config.afterStep, running, bne_self_eq_false, Bool.false_or]
      rfl
    have layers : host.config.layers = host.config.afterStep.layers := rfl
    simp only [commit_eq, committed, commitEvents, flushes, ↓reduceIte, layers]
    simp only [Config.afterStep, running, Bool.false_eq_true, ↓reduceIte, List.nil_append,
      List.append_nil]
  · rfl

/-- Serving answers makes their calls; nothing else of the host has to do with it. -/
theorem serving_eq (host : Host σ) (patience target : Nat) :
    host.serving patience target = (do
      let drive := Engine.driveFor (some host.pad) target patience host.engine
      let (outcomes, outputs) ← host.outputs.performAll (Engine.width σ) (Engine.height σ)
        (drive.answers.flatMap Answer.services)
      checkFault drive.fault
      pure (.ofServed target drive.answers outcomes,
        host.moved ((drive.answers.map Prod.snd).getLastD host.engine) outputs)) := by
  unfold serving
  dsimp only
  simp only [serveAll_eq, bind_assoc, pure_bind, PassStats.ofServed]

/-- What is served does not depend on the configuration. -/
theorem serving_configured (host : Host σ) (config : Config) (patience target : Nat) :
    { host with config }.serving patience target =
      (fun served => (served.1, { served.2 with config })) <$> host.serving patience target := by
  simp only [serving_eq, map_eq_pure_bind, bind_assoc, pure_bind]
  rfl

variable {host served ended : Host σ} {patience target : Nat} {delta : Float} {stats : PassStats}
  {answers : List (Answer × σ)} {outcomes : List Drained} {outputs : Outputs}

/-- With enough patience the answers that the engine gives are served. -/
theorem serving_of_answers (given : Engine.Answers (some host.pad) target host.engine answers)
    (patient : answers.length ≤ patience) :
    host.serving patience target = (do
      let (outcomes, outputs) ← host.outputs.performAll (Engine.width σ) (Engine.height σ)
        (answers.flatMap Answer.services)
      pure (.ofServed target answers outcomes,
        host.moved ((answers.map Prod.snd).getLastD host.engine) outputs)) := by
  rw [serving_eq, Engine.driveFor_of_answers given patient]
  simp only [checkFault, pure_bind]

theorem serving_eq_ok_iff :
    (host.serving patience target).result = .ok (stats, served) ↔
      ∃ answers outcomes outputs, Engine.Answers (some host.pad) target host.engine answers ∧
        (host.outputs.performAll (Engine.width σ) (Engine.height σ)
          (answers.flatMap Answer.services)).result = .ok (outcomes, outputs) ∧
        answers.length ≤ patience ∧ stats = .ofServed target answers outcomes ∧
        served = host.moved ((answers.map Prod.snd).getLastD host.engine) outputs := by
  constructor
  · intro ran
    rw [serving_eq] at ran
    dsimp only at ran
    obtain ⟨⟨outcomes, outputs⟩, made, ran⟩ := Report.result_bind_eq_ok_iff.mp ran
    obtain ⟨_, checked, ran⟩ := Report.result_bind_eq_ok_iff.mp ran
    cases ran
    cases drive : Engine.driveFor (some host.pad) target patience host.engine with
    | mk answers fault =>
      rw [drive] at checked made
      cases fault with
      | none =>
        obtain ⟨given, patient⟩ := Engine.driveFor_eq_iff.mp drive
        exact ⟨answers, outcomes, outputs, given, made, patient, rfl, rfl⟩
      | some cause => cases checked
  · rintro ⟨answers, outcomes, outputs, given, made, patient, rfl, rfl⟩
    rw [serving_of_answers given patient, (Report.bind_of_ok made _).1]
    rfl

theorem config_of_serving (ran : (host.serving patience target).result = .ok (stats, served)) :
    served.config = host.config := by
  obtain ⟨_, _, _, _, _, _, _, rfl⟩ := serving_eq_ok_iff.mp ran
  rfl

/-- What a pass reports once it has served some answers, or failed to. -/
def closingEvents (host : Host σ) (delta : Float) : Except Fault (PassStats × Host σ) → List Event
  | .ok (stats, served) => served.settledEvents ++
    [.passDone (checkDelta delta).value (host.target (checkDelta delta).value) stats.pictures
      stats.bursts]
  | .error _ => []

/-- A running host serves the answers of its engine, and a step ends after them. -/
theorem passWithin_running (running : host.config.paused = false) (patience : Nat)
    (delta : Float) :
    (host.passWithin patience delta).result =
        (host.serving patience (host.target (checkDelta delta).value)).result.map
          (fun served => (served.1, served.2.settled)) ∧
      (host.passWithin patience delta).events = (checkDelta delta).events ++
        ((host.serving patience (host.target (checkDelta delta).value)).events ++
          host.closingEvents delta
            (host.serving patience (host.target (checkDelta delta).value)).result) := by
  unfold passWithin
  rw [if_neg (running ▸ Bool.false_ne_true), (Report.bind_of_lift _ _).1,
    (Report.bind_of_lift _ _).2]
  dsimp only
  cases ended : (host.serving patience (host.target (checkDelta delta).value)).result with
  | error fault =>
    rw [(Report.bind_of_error ended _).1, (Report.bind_of_error ended _).2, closingEvents,
      List.append_nil]
    exact ⟨rfl, rfl⟩
  | ok made =>
    obtain ⟨stats, served⟩ := made
    have still : served.config.paused = false := config_of_serving ended ▸ running
    rw [(Report.bind_of_ok ended _).1, (Report.bind_of_ok ended _).2]
    dsimp only
    rw [endStep_eq still]
    refine ⟨rfl, ?_⟩
    rw [(Report.bind_of_lift _ _).2]
    rfl

/-- A pass that runs: the answers of its engine, what became of their bursts, and the outputs once
all answers have been served. -/
structure Passed (host : Host σ) (delta : Float) (answers : List (Answer × σ))
    (outcomes : List Drained) (outputs : Outputs) : Prop where
  running : host.config.paused = false
  given : Engine.Answers (some host.pad) (host.target (checkDelta delta).value) host.engine answers
  served : (host.outputs.performAll (Engine.width σ) (Engine.height σ)
    (answers.flatMap Answer.services)).result = .ok (outcomes, outputs)

/-- A pass of a running host returns exactly if it has the patience for the answers it serves. -/
theorem passWithin_eq_ok_iff (running : host.config.paused = false) :
    (host.passWithin patience delta).result = .ok (stats, ended) ↔
      ∃ answers outcomes outputs, host.Passed delta answers outcomes outputs ∧
        answers.length ≤ patience ∧
        stats = .ofServed (host.target (checkDelta delta).value) answers outcomes ∧
        ended = host.afterPass answers outputs := by
  rw [(passWithin_running running patience delta).1]
  constructor
  · intro ran
    cases made : (host.serving patience (host.target (checkDelta delta).value)).result with
    | error fault => rw [made] at ran; cases ran
    | ok served =>
      rw [made] at ran
      cases ran
      obtain ⟨answers, outcomes, outputs, given, ran, patient, same, moved⟩ :=
        serving_eq_ok_iff.mp made
      exact ⟨answers, outcomes, outputs, ⟨running, given, ran⟩, patient, same,
        congrArg settled moved⟩
  · rintro ⟨answers, outcomes, outputs, passed, patient, rfl, rfl⟩
    rw [serving_eq_ok_iff.mpr
      ⟨answers, outcomes, outputs, passed.given, passed.served, patient, rfl, rfl⟩]
    rfl

/-- A pass that returns has either stood still or run. -/
theorem passed_of_passWithin (ran : (host.passWithin patience delta).result = .ok (stats, ended)) :
    (host.config.paused = true ∧ stats = {} ∧ ended = host) ∨
      ∃ answers outcomes outputs, host.Passed delta answers outcomes outputs ∧
        answers.length ≤ patience ∧
        stats = .ofServed (host.target (checkDelta delta).value) answers outcomes ∧
        ended = host.afterPass answers outputs := by
  cases paused : host.config.paused with
  | true =>
    rw [passWithin_paused paused] at ran
    cases ran
    exact .inl ⟨rfl, rfl, rfl⟩
  | false => exact .inr ((passWithin_eq_ok_iff paused).mp ran)

/-- A pass that returned would have returned the same with more patience. -/
theorem passWithin_of_le {more : Nat} (within : patience ≤ more)
    (ran : (host.passWithin patience delta).result = .ok (stats, ended)) :
    (host.passWithin more delta).result = .ok (stats, ended) := by
  rcases passed_of_passWithin ran with
    ⟨paused, rfl, rfl⟩ | ⟨answers, outcomes, outputs, passed, patient, same, moved⟩
  · rw [passWithin_paused paused]
    rfl
  · exact (passWithin_eq_ok_iff passed.running).mpr
      ⟨answers, outcomes, outputs, passed, Nat.le_trans patient within, same, moved⟩

/-- A pass reports a span that is not valid, what its calls and the end of a step report, and
itself. -/
theorem events_of_passed (passed : host.Passed delta answers outcomes outputs)
    (patient : answers.length ≤ patience) :
    (host.passWithin patience delta).events = (checkDelta delta).events ++
      ((host.outputs.performAll (Engine.width σ) (Engine.height σ)
          (answers.flatMap Answer.services)).events ++
        (host.settledEvents ++
          [.passDone (checkDelta delta).value (host.target (checkDelta delta).value)
            (PassStats.ofServed (host.target (checkDelta delta).value) answers outcomes).pictures
            (PassStats.ofServed (host.target (checkDelta delta).value) answers
              outcomes).bursts])) := by
  have made := serving_of_answers passed.given patient
  rw [(passWithin_running passed.running patience delta).2, made,
    (Report.bind_of_ok passed.served _).1, (Report.bind_of_ok passed.served _).2,
    Report.events_pure, List.append_nil]
  rfl

/-- With an engine that reaches the target, a stereo device and pictures that can be counted, all
passes that are patient enough return, and with one result. -/
theorem passWithin_returns (running : host.config.paused = false)
    (two : host.sink.format.channels = stereo)
    (countable : Engine.width σ * Engine.height σ < Word.longLimit)
    (given : Engine.Answers (some host.pad) (host.target (checkDelta delta).value) host.engine
      answers) :
    ∃ stats ended, ended.engine = (answers.map Prod.snd).getLastD host.engine ∧
      ∀ patience, answers.length ≤ patience →
        (host.passWithin patience delta).result = .ok (stats, ended) := by
  have opened : host.outputs.sink.format.channels = stereo := two
  obtain ⟨outcomes, outputs, ran, _⟩ :=
    Outputs.performAll_served opened countable (answers.flatMap Answer.services)
  refine ⟨.ofServed (host.target (checkDelta delta).value) answers outcomes,
    host.afterPass answers outputs, host.engine_afterPass answers outputs, ?_⟩
  intro patience patient
  exact (passWithin_eq_ok_iff running).mpr
    ⟨answers, outcomes, outputs, ⟨running, given, ran⟩, patient, rfl, rfl⟩

end Host

end PacingHost
