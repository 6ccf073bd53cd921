import PacingHost.Journal.Event

/-! # Calls that report

A logged value is a value with the events reported on the way to it, oldest first. A call that can
stop early is a logged `Except`: what was reported before it stopped is kept. `Logged.bind_events`
and `Logged.bind_value` are all that proofs need to know about sequencing.
-/

namespace PacingHost

structure Logged (α : Type) where
  value : α
  events : List Event := []

namespace Logged

/-- A step after another: its events follow. -/
def andThen {α β : Type} (first : Logged α) (next : α → Logged β) : Logged β :=
  let second := next first.value
  ⟨second.value, first.events ++ second.events⟩

instance : Monad Logged where
  pure value := ⟨value, []⟩
  bind := andThen

@[simp] theorem pure_value {α : Type} (value : α) : (pure value : Logged α).value = value := rfl

@[simp] theorem pure_events {α : Type} (value : α) : (pure value : Logged α).events = [] := rfl

@[simp] theorem bind_value {α β : Type} (first : Logged α) (next : α → Logged β) :
    (first >>= next).value = (next first.value).value := rfl

@[simp] theorem bind_events {α β : Type} (first : Logged α) (next : α → Logged β) :
    (first >>= next).events = first.events ++ (next first.value).events := rfl

@[ext] theorem ext {α : Type} {left right : Logged α} (value : left.value = right.value)
    (events : left.events = right.events) : left = right := by
  cases left; cases right; simp_all

instance : LawfulMonad Logged :=
  LawfulMonad.mk' Logged (fun _ => ext rfl (List.append_nil _)) (fun _ _ => ext rfl rfl)
    (fun _ _ _ => ext rfl (List.append_assoc ..))

/-- Report one event. -/
def tell (event : Event) : Logged Unit := ⟨(), [event]⟩

/-- Report some events, in order. -/
def tellAll (events : List Event) : Logged Unit := ⟨(), events⟩

end Logged

/-- A logged call that may stop with a failure. -/
abbrev Report (ε : Type) := ExceptT ε Logged

namespace Report

/-- How the call ended. -/
def result {ε α : Type} (report : Report ε α) : Except ε α := (ExceptT.run report).value

/-- What the call reported. -/
def events {ε α : Type} (report : Report ε α) : List Event := (ExceptT.run report).events

/-- Turn one kind of failure into another. -/
def mapFailure {ε δ α : Type} (convert : ε → δ) (report : Report ε α) : Report δ α :=
  ExceptT.mk do
    match ← ExceptT.run report with
    | .ok value => pure (.ok value)
    | .error failure => pure (.error (convert failure))

/-- Report one event. -/
def tell {ε : Type} (event : Event) : Report ε Unit := ExceptT.lift (Logged.tell event)

/-- A call that has ended without reporting anything. -/
def ofExcept {ε α : Type} (ended : Except ε α) : Report ε α := ExceptT.mk (pure ended)

end Report

/-- Why a call that builds something stopped. -/
inductive Failure where
  | error (error : HostError)
  | fault (fault : Fault)
deriving DecidableEq, Repr

end PacingHost
