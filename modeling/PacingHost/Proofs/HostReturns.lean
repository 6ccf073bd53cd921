import PacingHost.Proofs.HostRun
import PacingHost.Proofs.PassAccounts

/-! # Calls that return

A pass stops with a fault when its patience ends, when the device does not play stereo or when a
picture is too large to be counted. `Engine.Arrives` says of an engine that it reaches a target in
time for the usual patience, and `Host.Arrives` that it does so in every pass of a run. On a stereo
device all calls of such a run return. Engines of some kinds, such as scripts, arrive always.
-/

namespace PacingHost

namespace Engine

variable {σ : Type} [Engine σ]

/-- The engine reaches the target, with fewer answers than a counter holds. -/
def Arrives (pad : Option Pad) (target : Nat) (engine : σ) : Prop :=
  ∃ answers, Answers pad target engine answers ∧ answers.length < Word.limit

/-- Engines of a kind that no configuration and no run leads out of, and that arrive at every
target. -/
structure Reaches (Kind : σ → Prop) : Prop where
  configure : ∀ {engine} config, Kind engine → Kind (configure config engine)
  run : ∀ {engine pad target answer next}, Kind engine →
    run pad target engine = .ok (answer, next) → Kind next
  arrives : ∀ {engine} pad {target}, Kind engine → target < Word.longLimit →
    Arrives (some pad) target engine

end Engine

/-- A script reaches every target once it has ended, if not before. -/
theorem Script.answers_exist {width height : Nat} (script : Script width height)
    (pad : Option Pad) (target : Nat) :
    ∃ answers, Engine.Answers pad target script answers ∧
      answers.length ≤ script.answers.length + 1 := by
  obtain ⟨cycles, answers, frame, sound, targets, applied⟩ := script
  induction answers generalizing cycles targets with
  | nil => exact ⟨_, .last rfl rfl, Nat.le_refl 1⟩
  | cons bits answers ih =>
    cases reached : (Answer.ofBits bits).reached with
    | true => exact ⟨_, .last rfl reached, Nat.le_add_left 1 _⟩
    | false =>
      obtain ⟨later, given, few⟩ := ih _ (targets ++ [target])
      exact ⟨_, .more rfl reached given, Nat.succ_le_succ few⟩

theorem Script.reaches (width height : Nat) :
    Engine.Reaches fun script : Script width height => script.answers.length + 1 < Word.limit where
  configure _ few := few
  run {script _ _ _ _} few ran := by
    cases ran
    obtain ⟨_, answers, _, _, _, _⟩ := script
    cases answers with
    | nil => exact few
    | cons bits answers => exact Nat.lt_of_succ_lt few
  arrives {script} pad target few _ := by
    obtain ⟨answers, given, bounded⟩ := script.answers_exist (some pad) target
    exact ⟨answers, given, Nat.lt_of_le_of_lt bounded few⟩

namespace Sink

/-- Whoever takes from the queue leaves its format. -/
theorem format_consume (sink : Sink) (wanted : Nat) :
    (sink.consume wanted).value.2.format = sink.format :=
  (sink.queue.consume_spec wanted).2.2.2

theorem format_read (sink : Sink) (slots : List UInt16) :
    (sink.read slots).value.2.2.format = sink.format :=
  (congrArg Queue.format (sink.queue.queue_read slots)).trans
    (sink.format_consume (2 * slots.length))

end Sink

namespace Host

variable {σ : Type} [Engine σ]

theorem target_lt (host : Host σ) (delta : Float) : host.target delta < Word.longLimit := by
  have positive : 0 < Word.longLimit := by decide
  simp only [target, lastCycle]
  omega

theorem target_le (host : Host σ) (delta : Float) :
    host.target delta ≤ Engine.cycles host.engine + host.budget delta := Nat.min_le_left ..

theorem format_committed (host : Host σ) (next : Config) :
    (host.committed next).sink.format = host.sink.format := by
  simp only [committed]
  split <;> rfl

/-- In every pass of a run, as far as the run goes, the engine arrives at its target. -/
def Arrives : Host σ → List HostCall → Prop
  | _, [] => True
  | host, call :: calls =>
    (∀ delta, call = .pass delta → host.config.paused = false →
      Engine.Arrives (some host.pad) (host.target (checkDelta delta).value) host.engine) ∧
      ∀ answer next, (host.perform call).result = .ok (answer, next) → next.Arrives calls

variable {host next : Host σ} {Kind : σ → Prop} {call : HostCall} {answer : HostAnswer}

/-- No call leads out of a kind of engines. -/
theorem Handles.kind (handled : host.Handles call answer next) (reaches : Engine.Reaches Kind)
    (kind : Kind host.engine) : Kind next.engine := by
  have configured {host : Host σ} (kind : Kind host.engine) (config : Config) :
      Kind (host.committed config).engine := by
    simp only [Host.committed]
    split
    · exact kind
    · exact reaches.configure config kind
  cases handled with
  | stood | boundPress | boundHold | read | consumed => exact kind
  | @passed _ answers _ outputs passed =>
    rw [engine_afterPass]
    exact passed.given.last_keeps Kind reaches.run kind
  | committed config => exact configured kind config
  | handled inputs =>
    have holding : Kind (host.holding inputs).engine := kind
    exact configured holding _

/-- Where every target is arrived at, so are those of any run. -/
theorem arrives_of_kind (reaches : Engine.Reaches Kind) (kind : Kind host.engine)
    (calls : List HostCall) : host.Arrives calls := by
  induction calls generalizing host with
  | nil => trivial
  | cons call calls ih =>
    constructor
    · intro delta _ _
      exact reaches.arrives host.pad kind (host.target_lt (checkDelta delta).value)
    · intro answer next ran
      exact ih ((handles_of_perform ran).kind reaches kind)

/-- On a stereo device a pass whose engine arrives returns. -/
theorem pass_of_arrives (two : host.sink.format.channels = stereo)
    (countable : Engine.width σ * Engine.height σ < Word.longLimit) {delta : Float}
    (arrives : host.config.paused = false →
      Engine.Arrives (some host.pad) (host.target (checkDelta delta).value) host.engine) :
    ∃ stats next, (host.pass delta).result = .ok (stats, next) ∧
      next.sink.format.channels = stereo := by
  cases paused : host.config.paused with
  | true =>
    refine ⟨{}, host, ?_, two⟩
    rw [pass, passWithin_paused paused]
    rfl
  | false =>
    -- Nothing that is asked of the outputs can fail.
    obtain ⟨answers, given, few⟩ := arrives paused
    have opened : host.outputs.sink.format.channels = stereo := two
    obtain ⟨outcomes, outputs, ran, served⟩ :=
      Outputs.performAll_served opened countable (answers.flatMap Answer.services)
    refine ⟨_, _, (passWithin_eq_ok_iff paused).mpr
      ⟨answers, outcomes, outputs, ⟨paused, given, ran⟩, Nat.le_pred_of_lt few, rfl, rfl⟩, ?_⟩
    have kept : outputs.sink.format.channels = stereo := served.format ▸ two
    simp only [afterPass, settled]
    split <;> exact kept

/-- A call returns on a stereo device, and leaves it stereo. -/
theorem perform_of_arrives (two : host.sink.format.channels = stereo)
    (countable : Engine.width σ * Engine.height σ < Word.longLimit) {calls : List HostCall}
    (arrives : host.Arrives (call :: calls)) :
    ∃ answer next, (host.perform call).result = .ok (answer, next) ∧
      next.sink.format.channels = stereo := by
  cases call with
  | pass delta =>
    obtain ⟨stats, next, ran, still⟩ := pass_of_arrives two countable (arrives.1 delta rfl)
    exact ⟨.passed stats, next, (Report.bind_of_ok ran _).1, still⟩
  | commit config =>
    exact ⟨_, _, performWithin_commit _ host config, host.format_committed config ▸ two⟩
  | input inputs =>
    exact ⟨_, _, performWithin_input _ host inputs,
      (host.holding inputs).format_committed _ ▸ two⟩
  | bindPress | bindHold => exact ⟨_, _, rfl, two⟩
  | read slots => exact ⟨_, _, rfl, host.sink.format_read slots ▸ two⟩
  | consume wanted => exact ⟨_, _, rfl, host.sink.format_consume wanted ▸ two⟩

/-- A run returns on a stereo device if the engine arrives in all of its passes. -/
theorem performAll_of_arrives (two : host.sink.format.channels = stereo)
    (countable : Engine.width σ * Engine.height σ < Word.longLimit) {calls : List HostCall}
    (arrives : host.Arrives calls) :
    ∃ steps final, (performAll perform host calls).result = .ok (steps, final) := by
  induction calls generalizing host with
  | nil => exact ⟨[], host, rfl⟩
  | cons call calls ih =>
    obtain ⟨answer, next, made, still⟩ := perform_of_arrives two countable arrives
    obtain ⟨steps, final, ran⟩ := ih still (arrives.2 answer next made)
    exact ⟨_, final, performAll_cons_eq_ok_iff.mpr ⟨answer, next, steps, made, ran, rfl⟩⟩

end Host

end PacingHost
