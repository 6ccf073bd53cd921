import PacingHost.Proofs.Contention

/-! # Calls that agree

Two reports agree up to a relation of their values when both stop for the same cause, or both return
and their values are related. Agreement is kept by sequencing, so two calls are compared step by
step. Calls that others interrupt agree when they do so whatever is done to either queue; where
nothing can stop a call, `Amid.Returns` says what it returns amid any traffic.
-/

namespace PacingHost

/-- Two ends of calls: both stopped for one cause, or both returned related values. -/
inductive EndsAlike {ε α β : Type} (Related : α → β → Prop) : Except ε α → Except ε β → Prop
  | stopped (cause : ε) : EndsAlike Related (.error cause) (.error cause)
  | returned {first : α} {second : β} (related : Related first second) :
      EndsAlike Related (.ok first) (.ok second)

namespace EndsAlike

variable {ε α β : Type} {Related : α → β → Prop} {first : Except ε α} {second : Except ε β}

/-- If the first of the two returned, so did the second. -/
theorem right {value : α} (alike : EndsAlike Related first second) (ran : first = .ok value) :
    ∃ other, second = .ok other ∧ Related value other := by
  subst ran
  cases alike with
  | returned related => exact ⟨_, rfl, related⟩

theorem left {other : β} (alike : EndsAlike Related first second) (ran : second = .ok other) :
    ∃ value, first = .ok value ∧ Related value other := by
  subst ran
  cases alike with
  | returned related => exact ⟨_, rfl, related⟩

end EndsAlike

namespace Report

variable {ε α β γ δ : Type} {Related : α → β → Prop} {Next : γ → δ → Prop}

/-- Two reports end alike. -/
def Agree (Related : α → β → Prop) (first : Report ε α) (second : Report ε β) : Prop :=
  EndsAlike Related first.result second.result

namespace Agree

theorem pure {first : α} {second : β} (related : Related first second) :
    Agree Related (pure first : Report ε α) (pure second) := .returned related

theorem refl (report : Report ε α) : Agree Eq report report := by
  rw [Agree]
  cases report.result with
  | error cause => exact .stopped cause
  | ok value => exact .returned rfl

theorem lift {first : Logged α} {second : Logged β} (related : Related first.value second.value) :
    Agree Related (ExceptT.lift first : Report ε α) (ExceptT.lift second) := .returned related

theorem bind {first : Report ε α} {second : Report ε β} {then₁ : α → Report ε γ}
    {then₂ : β → Report ε δ} (agree : Agree Related first second)
    (next : ∀ {value other}, Related value other → Agree Next (then₁ value) (then₂ other)) :
    Agree Next (first >>= then₁) (second >>= then₂) := by
  obtain ⟨ended, events⟩ := first
  obtain ⟨other, heard⟩ := second
  change EndsAlike Related ended other at agree
  cases agree with
  | stopped cause => exact .stopped cause
  | returned related => exact next related

end Agree

end Report

namespace Amid

variable {α β γ δ : Type} {Post : α → Prop} {Related : α → β → Prop} {Next : γ → δ → Prop}

/-- Whatever is done to the queue, the call returns such a value. -/
def Returns (Post : α → Prop) (call : Amid α) : Prop :=
  ∀ traffic, ∃ value left, (call.run traffic).result = .ok (value, left) ∧ Post value

namespace Returns

theorem pure {value : α} (holds : Post value) : Returns Post (pure value) :=
  fun traffic => ⟨value, traffic, rfl, holds⟩

theorem logged {plain : Logged α} (holds : Post plain.value) : Returns Post plain :=
  fun traffic => ⟨plain.value, traffic, rfl, holds⟩

theorem report {plain : Report Fault α} {value : α} (ran : plain.result = .ok value)
    (holds : Post value) : Returns Post plain := by
  intro traffic
  exact ⟨value, traffic, (Report.bind_of_ok ran _).1, holds⟩

theorem bind {call : Amid α} {next : α → Amid γ} {Last : γ → Prop} (first : Returns Post call)
    (second : ∀ {value}, Post value → Returns Last (next value)) :
    Returns Last (call >>= next) := by
  intro traffic
  obtain ⟨value, left, ran, holds⟩ := first traffic
  rw [StateT.run_bind, (Report.bind_of_ok ran _).1]
  exact second holds left

end Returns

/-- Two calls agree, whatever is done to the queue of either. -/
def Agree (Related : α → β → Prop) (first : Amid α) (second : Amid β) : Prop :=
  ∀ traffic other, Report.Agree (fun value other => Related value.1 other.1)
    (first.run traffic) (second.run other)

namespace Agree

theorem pure {first : α} {second : β} (related : Related first second) :
    Agree Related (pure first) (pure second) := fun _ _ => .pure related

theorem report {first : Report Fault α} {second : Report Fault β}
    (agree : Report.Agree Related first second) : Agree Related first second := by
  intro traffic other
  rw [StateT.run_monadLift, StateT.run_monadLift]
  exact agree.bind fun related => .pure related

theorem logged {first : Logged α} {second : Logged β}
    (related : Related first.value second.value) : Agree Related first second :=
  report (.lift related)

theorem bind {first : Amid α} {second : Amid β} {then₁ : α → Amid γ} {then₂ : β → Amid δ}
    (agree : Agree Related first second)
    (next : ∀ {value other}, Related value other → Agree Next (then₁ value) (then₂ other)) :
    Agree Next (first >>= then₁) (second >>= then₂) := by
  intro traffic other
  rw [StateT.run_bind, StateT.run_bind]
  exact (agree traffic other).bind fun related => next related _ _

/-- Calls that return whatever happens agree on what is known of both. -/
theorem of_returns {Other : β → Prop} {first : Amid α} {second : Amid β}
    (left : Returns Post first) (right : Returns Other second)
    (both : ∀ {value other}, Post value → Other other → Related value other) :
    Agree Related first second := by
  intro traffic other
  obtain ⟨value, _, ran, holds⟩ := left traffic
  obtain ⟨valueOther, _, ranOther, holdsOther⟩ := right other
  rw [Report.Agree, ran, ranOther]
  exact .returned (both holds holdsOther)

/-- Calls agree no matter what others would do after them. -/
theorem run' {first : Amid α} {second : Amid β} (agree : Agree Related first second)
    (traffic other : Traffic) :
    Report.Agree Related (first.run' traffic) (second.run' other) := by
  rw [StateT.run'_eq, StateT.run'_eq, map_eq_pure_bind, map_eq_pure_bind]
  exact (agree traffic other).bind fun related => .pure related

end Agree

end Amid

end PacingHost
