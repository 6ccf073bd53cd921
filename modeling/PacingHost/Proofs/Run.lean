import PacingHost.Proofs.Report

/-! # Runs

Sinks and hosts are used by calling them again and again: a call finds a state, gets an answer and
leaves another state. `performAll` makes calls in order and keeps every step. `Run` chains what is
known of single calls; `Run.of_performAll` and `Run.of_total` lead from the one to the other.
`Run.invariant` says what whole runs keep, and `Run.history` what is known of all their steps.
-/

namespace PacingHost

/-- One call of a run, with the state before and after it. -/
structure Step (σ κ α : Type) where
  before : σ
  call : κ
  answer : α
  after : σ
deriving DecidableEq, Repr

variable {ε σ κ α : Type}

/-- Make calls in order and keep every step. -/
def performAll (perform : σ → κ → Report ε (α × σ)) (state : σ) :
    List κ → Report ε (List (Step σ κ α) × σ)
  | [] => pure ([], state)
  | call :: calls => do
    let (answer, next) ← perform state call
    let (steps, final) ← performAll perform next calls
    pure (⟨state, call, answer, next⟩ :: steps, final)

/-- A list of calls was made when its first call was, and the others on the state it left. -/
theorem performAll_cons_eq_ok_iff {perform : σ → κ → Report ε (α × σ)} {state final : σ} {call : κ}
    {calls : List κ} {steps : List (Step σ κ α)} :
    (performAll perform state (call :: calls)).result = .ok (steps, final) ↔
      ∃ answer next rest, (perform state call).result = .ok (answer, next) ∧
        (performAll perform next calls).result = .ok (rest, final) ∧
        steps = ⟨state, call, answer, next⟩ :: rest := by
  rw [performAll, Report.result_bind_eq_ok_iff]
  constructor
  · rintro ⟨⟨answer, next⟩, made, ran⟩
    obtain ⟨⟨rest, last⟩, later, ran⟩ := Report.result_bind_eq_ok_iff.mp ran
    cases ran
    exact ⟨answer, next, rest, made, later, rfl⟩
  · rintro ⟨answer, next, rest, made, later, rfl⟩
    exact ⟨(answer, next), made, Report.result_bind_eq_ok_iff.mpr ⟨(rest, final), later, rfl⟩⟩

/-- A run of calls, each made on the state that the last one left. -/
inductive Run (Handles : σ → κ → α → σ → Prop) : σ → List (Step σ κ α) → σ → Prop
  | nil (state : σ) : Run Handles state [] state
  | cons {state next final : σ} {call : κ} {answer : α} {steps : List (Step σ κ α)}
      (handled : Handles state call answer next) (later : Run Handles next steps final) :
      Run Handles state (⟨state, call, answer, next⟩ :: steps) final

namespace Run

variable {perform : σ → κ → Report ε (α × σ)} {Handles : σ → κ → α → σ → Prop} {state final : σ}
  {calls : List κ} {steps : List (Step σ κ α)}

/-- Calls that were made are a run. -/
theorem of_performAll
    (handles : ∀ {state next call answer}, (perform state call).result = .ok (answer, next) →
      Handles state call answer next)
    (ran : (performAll perform state calls).result = .ok (steps, final)) :
    steps.map Step.call = calls ∧ Run Handles state steps final := by
  induction calls generalizing state steps with
  | nil =>
    cases ran
    exact ⟨rfl, .nil _⟩
  | cons call calls ih =>
    obtain ⟨answer, next, rest, made, madeRest, rfl⟩ := performAll_cons_eq_ok_iff.mp ran
    obtain ⟨same, later⟩ := ih madeRest
    exact ⟨congrArg (call :: ·) same, .cons (handles made) later⟩

/-- Where every call can be made and leads to a state of the same kind, every run can be. -/
theorem of_total {Good : σ → Prop}
    (total : ∀ {state}, Good state → ∀ call, ∃ answer next,
      (perform state call).result = .ok (answer, next) ∧ Handles state call answer next ∧ Good next)
    (start : Good state) (calls : List κ) :
    ∃ steps final, (performAll perform state calls).result = .ok (steps, final) ∧
      steps.map Step.call = calls ∧ Run Handles state steps final := by
  induction calls generalizing state with
  | nil => exact ⟨[], state, rfl, rfl, .nil state⟩
  | cons call calls ih =>
    obtain ⟨answer, next, ran, handled, good⟩ := total start call
    obtain ⟨steps, final, ranRest, made, later⟩ := ih good
    refine ⟨⟨state, call, answer, next⟩ :: steps, final, ?_, ?_, .cons handled later⟩
    · exact performAll_cons_eq_ok_iff.mpr ⟨answer, next, steps, ran, ranRest, rfl⟩
    · rw [List.map_cons, made]

/-- What every call keeps holds along a whole run, before each of its steps and at its end. -/
theorem invariant {Invariant : σ → Prop} (run : Run Handles state steps final)
    (keeps : ∀ {state next call answer}, Invariant state → Handles state call answer next →
      Invariant next)
    (start : Invariant state) :
    Invariant final ∧
      ∀ step ∈ steps, Invariant step.before ∧
        Handles step.before step.call step.answer step.after := by
  induction run with
  | nil state => exact ⟨start, fun _ absent => absurd absent List.not_mem_nil⟩
  | cons handled _ ih =>
    obtain ⟨ends, each⟩ := ih (keeps start handled)
    refine ⟨ends, ?_⟩
    intro step member
    rcases List.mem_cons.mp member with rfl | member
    · exact ⟨start, handled⟩
    · exact each step member

/-- What is known of the steps so far and the state they led to, and grows by one step with each
call, is known of a whole run. -/
theorem history (Known : List (Step σ κ α) → σ → Prop) (run : Run Handles state steps final)
    (grows : ∀ {past state next call answer}, Known past state → Handles state call answer next →
      Known (past ++ [⟨state, call, answer, next⟩]) next)
    {past : List (Step σ κ α)} (known : Known past state) : Known (past ++ steps) final := by
  induction run generalizing past with
  | nil state => rwa [List.append_nil]
  | cons handled _ ih =>
    have longer := ih (grows known handled)
    rwa [List.append_assoc, List.singleton_append] at longer

/-- A run of calls starts with the first of them and goes on with the others. -/
theorem uncons {call : κ} (run : Run Handles state steps final)
    (made : steps.map Step.call = call :: calls) :
    ∃ answer next rest, steps = ⟨state, call, answer, next⟩ :: rest ∧
      Handles state call answer next ∧ Run Handles next rest final ∧
      rest.map Step.call = calls := by
  cases run with
  | nil => cases made
  | cons handled later =>
    cases made
    exact ⟨_, _, _, rfl, handled, later, rfl⟩

/-- Cut at one of its steps, a run makes that step and goes on from where it led. -/
theorem cut {earlier later : List (Step σ κ α)} {step : Step σ κ α}
    (run : Run Handles state (earlier ++ step :: later) final) :
    Handles step.before step.call step.answer step.after ∧ Run Handles step.after later final := by
  induction earlier generalizing state with
  | nil =>
    cases run with
    | cons handled later => exact ⟨handled, later⟩
  | cons first earlier ih =>
    cases run with
    | cons _ run => exact ih run

end Run

end PacingHost
