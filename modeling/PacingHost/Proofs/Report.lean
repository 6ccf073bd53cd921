import PacingHost.Journal.Logged

/-! # Sequencing reports

A report runs its steps in order until one of them stops, and keeps what was said up to there.
`Report.result` and `Report.events` see this from outside: the result of a sequence is the result of
its last step, and its events are those of all steps that were made. Two reports with the same
result and the same events are the same. `Report.Omits` says of single events that they are not told,
however a report ends.
-/

namespace PacingHost

namespace Report

variable {ε α β : Type}

@[simp] theorem events_pure (value : α) : events (pure value : Report ε α) = [] := rfl

@[simp] theorem result_lift (logged : Logged α) :
    result (ExceptT.lift logged : Report ε α) = .ok logged.value := rfl

@[simp] theorem events_lift (logged : Logged α) :
    events (ExceptT.lift logged : Report ε α) = logged.events := List.append_nil _

theorem ext {left right : Report ε α} (result : left.result = right.result)
    (events : left.events = right.events) : left = right :=
  Logged.ext result events

/-- A step that was made hands its value to the next one. -/
theorem bind_of_ok {report : Report ε α} {value : α} (ran : report.result = .ok value)
    (next : α → Report ε β) :
    (report >>= next).result = (next value).result ∧
      (report >>= next).events = report.events ++ (next value).events := by
  obtain ⟨ended, events⟩ := report
  change ended = .ok value at ran
  subst ended
  exact ⟨rfl, rfl⟩

/-- After a step that stopped nothing more is done. -/
theorem bind_of_error {report : Report ε α} {failure : ε} (stopped : report.result = .error failure)
    (next : α → Report ε β) :
    (report >>= next).result = .error failure ∧ (report >>= next).events = report.events := by
  obtain ⟨ended, events⟩ := report
  change ended = .error failure at stopped
  subst ended
  exact ⟨rfl, List.append_nil events⟩

/-- A call that cannot stop hands its value on. -/
theorem bind_of_lift (logged : Logged α) (next : α → Report ε β) :
    result (ExceptT.lift logged >>= next) = result (next logged.value) ∧
      events (ExceptT.lift logged >>= next) = logged.events ++ events (next logged.value) := by
  obtain ⟨ended, reported⟩ := bind_of_ok (result_lift logged) next
  rw [events_lift] at reported
  exact ⟨ended, reported⟩

/-- Calls that cannot stop are sequenced before or after they are taken for calls that can. -/
theorem lift_bind (logged : Logged α) (next : α → Logged β) :
    (ExceptT.lift (logged >>= next) : Report ε β) =
      ExceptT.lift logged >>= fun value => ExceptT.lift (next value) := by
  apply ext
  · rfl
  · rw [events_lift, (bind_of_lift _ _).2, events_lift]
    rfl

/-- A function of the value leaves what is reported. -/
theorem map_eq (change : α → β) (report : Report ε α) :
    (change <$> report).result = report.result.map change ∧
      (change <$> report).events = report.events := by
  rw [map_eq_pure_bind]
  cases ended : report.result with
  | ok value =>
    obtain ⟨result, events⟩ := bind_of_ok ended (fun value => pure (change value))
    exact ⟨result, events.trans (List.append_nil _)⟩
  | error failure => exact bind_of_error ended _

/-- A sequence succeeds when both of its steps do. -/
theorem result_bind_eq_ok_iff {report : Report ε α} {next : α → Report ε β} {value : β} :
    (report >>= next).result = .ok value ↔
      ∃ middle, report.result = .ok middle ∧ (next middle).result = .ok value := by
  cases ended : report.result with
  | ok middle =>
    rw [(bind_of_ok ended next).1]
    constructor
    · intro ran
      exact ⟨middle, rfl, ran⟩
    · rintro ⟨other, same, ran⟩
      cases same
      exact ran
  | error failure =>
    obtain ⟨stopped, events⟩ := report
    change stopped = .error failure at ended
    subst stopped
    constructor
    · intro ran
      cases ran
    · rintro ⟨_, impossible, _⟩
      cases impossible

/-- A sequence stops where one of its steps does. -/
theorem result_bind_eq_error_iff {report : Report ε α} {next : α → Report ε β} {failure : ε} :
    (report >>= next).result = .error failure ↔
      report.result = .error failure ∨
        ∃ middle, report.result = .ok middle ∧ (next middle).result = .error failure := by
  obtain ⟨ended, events⟩ := report
  change (ExceptT.bindCont next ended).value = .error failure ↔
    ended = .error failure ∨ ∃ middle, ended = .ok middle ∧ (next middle).result = .error failure
  cases ended with
  | ok middle =>
    simp only [reduceCtorEq, false_or, Except.ok.injEq, exists_eq_left']
    exact Iff.rfl
  | error other =>
    change (.error other : Except ε β) = .error failure ↔ _
    simp only [reduceCtorEq, false_and, exists_false, or_false, Except.error.injEq]

/-- Turning one failure into another keeps the successes. -/
theorem result_mapFailure_eq_ok_iff {δ : Type} {convert : ε → δ} {report : Report ε α}
    {value : α} : (report.mapFailure convert).result = .ok value ↔ report.result = .ok value := by
  obtain ⟨ended, events⟩ := report
  cases ended with
  | ok other =>
    change (.ok other : Except δ α) = .ok value ↔ (.ok other : Except ε α) = .ok value
    rw [Except.ok.injEq, Except.ok.injEq]
  | error failure =>
    constructor <;> intro impossible <;> cases impossible

/-- A failure that was turned into another comes from one that is turned into it. -/
theorem result_mapFailure_eq_error_iff {δ : Type} {convert : ε → δ} {report : Report ε α}
    {failure : δ} :
    (report.mapFailure convert).result = .error failure ↔
      ∃ cause, report.result = .error cause ∧ convert cause = failure := by
  obtain ⟨ended, events⟩ := report
  cases ended with
  | ok value =>
    constructor
    · intro impossible
      cases impossible
    · rintro ⟨cause, impossible, _⟩
      cases impossible
  | error other =>
    constructor
    · intro stopped
      cases stopped
      exact ⟨other, rfl, rfl⟩
    · rintro ⟨cause, same, rfl⟩
      cases same
      rfl

/-- A report that does not tell of an event, however it ends. -/
def Omits (report : Report ε α) (event : Event) : Prop := event ∉ report.events

variable {event : Event}

theorem Omits.bind {report : Report ε α} {next : α → Report ε β} (first : report.Omits event)
    (later : ∀ value, (next value).Omits event) : (report >>= next).Omits event := by
  cases ended : report.result with
  | ok value =>
    rw [Omits, (bind_of_ok ended next).2, List.mem_append]
    exact not_or.mpr ⟨first, later value⟩
  | error failure =>
    rw [Omits, (bind_of_error ended next).2]
    exact first

theorem omits_pure (value : α) : (pure value : Report ε α).Omits event := List.not_mem_nil

theorem omits_ofExcept (ended : Except ε α) : (ofExcept ended).Omits event := List.not_mem_nil

theorem omits_lift {logged : Logged α} (silent : event ∉ logged.events) :
    Omits (ExceptT.lift logged : Report ε α) event := by
  rw [Omits, events_lift]
  exact silent

end Report

end PacingHost
