import PacingHost.Proofs.Run
import PacingHost.Proofs.SinkStream

/-! # Nothing of a queue is lost

A queue is filled and cleared by its owner, and any number of consumers read from it and drop from
it; they share it, so a run is one list of calls in the order in which they were made. Every byte
that was ever pushed is played, cleared or still waiting, once and in order. A take plays whole
frames, as many as were asked for and were there; the counters tell how many bytes were played and
how many takes fell short.
-/

namespace PacingHost

/-- What is asked of a queue. -/
inductive QueueCall where
  | push (bytes : List UInt8)
  | clear
  | setPaused (paused : Bool)
  | read (slots : List UInt16)
  | consume (wanted : Nat)
deriving DecidableEq, Repr

/-- What came of a call. -/
inductive QueueAnswer where
  | done
  /-- So many samples were read, and all slots. -/
  | filled (count : Nat) (slots : List UInt16)
  /-- So many bytes were dropped. -/
  | consumed (taken : Nat)
deriving DecidableEq, Repr

abbrev QueueStep := Step Queue QueueCall QueueAnswer

/-- The bytes a consumer asks for. -/
def QueueCall.wanted? : QueueCall → Option Nat
  | .read slots => some (2 * slots.length)
  | .consume wanted => some wanted
  | .push _ | .clear | .setPaused _ => none

namespace QueueStep

/-- The bytes a step put into the queue. -/
def pushed (step : QueueStep) : List UInt8 :=
  match step.call with
  | .push bytes => bytes
  | .clear | .setPaused _ | .read _ | .consume _ => []

/-- The bytes a step played: those whose samples a read wrote, or those that were dropped. -/
def played (step : QueueStep) : List UInt8 :=
  match step.answer with
  | .filled count slots => (slots.take count).flatMap bytesOfSample
  | .consumed taken => step.before.bytes.take taken
  | .done => []

/-- The bytes a step removed from the queue. -/
def removed (step : QueueStep) : List UInt8 :=
  match step.call with
  | .clear => step.before.bytes
  | .push _ | .setPaused _ | .read _ | .consume _ => step.played

/-- A consumer asked a playing queue for more whole frames than it got. -/
def fallsShort (step : QueueStep) : Bool :=
  match step.call.wanted? with
  | some wanted => !step.before.paused && step.played.length < wanted - wanted % 4
  | none => false

/-- A take plays the longest front of the queue that is asked for and made of whole frames. -/
structure PlaysLongest (step : QueueStep) (wanted : Nat) : Prop where
  front : step.played <+: step.before.bytes
  whole : step.played.length % 4 = 0
  asked : step.played.length ≤ wanted
  longest : step.before.paused = false → ∀ bytes : List UInt8, bytes <+: step.before.bytes →
    bytes.length % 4 = 0 → bytes.length ≤ wanted → bytes.length ≤ step.played.length

/-- What one step does to the bytes and the counters of its queue. -/
structure Accounted (step : QueueStep) : Prop where
  bytes : step.before.bytes ++ step.pushed = step.removed ++ step.after.bytes
  takes : ∀ wanted, step.call.wanted? = some wanted → PlaysLongest step wanted
  held : step.before.paused = true → step.played = []
  played : step.after.played = step.before.played + UInt64.ofNat step.played.length
  underruns : step.after.underruns =
    step.before.underruns + UInt64.ofNat (if step.fallsShort then 1 else 0)

end QueueStep

/-- Counters start over beyond 64 bits. -/
theorem toNat_add_ofNat (counter : UInt64) (more : Nat) :
    (counter + UInt64.ofNat more).toNat = (counter.toNat + more) % Word.longLimit := by
  rw [UInt64.toNat_add, UInt64.toNat_ofNat', Nat.add_mod_mod, Word.longLimit]

namespace Queue

variable {queue final : Queue}

def perform (queue : Queue) : QueueCall → Report Fault (QueueAnswer × Queue)
  | .push bytes => pure (.done, Device.push bytes queue)
  | .clear => pure (.done, Device.clear queue)
  | .setPaused paused => pure (.done, Device.setPaused paused queue)
  | .read slots => do
    let (count, filled, next) ← ExceptT.lift (queue.read slots)
    pure (.filled count filled, next)
  | .consume wanted => do
    let (taken, next) ← ExceptT.lift (queue.consume wanted)
    pure (.consumed taken, next)

theorem account_counters (queue : Queue) (taken wanted : Nat) :
    (queue.account taken wanted).value.played = queue.played + UInt64.ofNat taken ∧
      (queue.account taken wanted).value.underruns =
        queue.underruns + UInt64.ofNat (if fallsShort wanted taken then 1 else 0) := by
  unfold account
  dsimp only
  split
  · exact ⟨rfl, rfl⟩
  · exact ⟨rfl, (UInt64.add_zero _).symm⟩

/-- A take counts what it plays, and itself if the queue was playing and fell short. -/
theorem consume_counters (queue : Queue) (wanted : Nat) :
    (queue.consume wanted).value.2.played = queue.played + UInt64.ofNat (queue.due wanted) ∧
      (queue.consume wanted).value.2.underruns = queue.underruns +
        UInt64.ofNat
          (if !queue.paused && queue.due wanted < wanted - wanted % 4 then 1 else 0) := by
  cases paused : queue.paused with
  | true =>
    rw [consume_of_paused paused, due_of_paused paused]
    exact ⟨(UInt64.add_zero _).symm, (UInt64.add_zero _).symm⟩
  | false =>
    rw [due_of_playing paused, consume, if_neg (paused ▸ Bool.false_ne_true)]
    exact { queue with bytes := queue.bytes.drop (queue.available wanted) }.account_counters
      (queue.available wanted) wanted

/-- No front of whole frames that is within the request is longer than what is due. -/
theorem le_due_of_playing (playing : queue.paused = false) {wanted size : Nat}
    (there : size ≤ queue.bytes.length) (whole : size % 4 = 0) (asked : size ≤ wanted) :
    size ≤ queue.due wanted := by
  rw [due_of_playing playing, available, wholeFrames, stereoFrame_eq]
  omega

/-- A take that hands on what is due is accounted for. -/
theorem accounted_of_take {call : QueueCall} {answer : QueueAnswer} {wanted : Nat}
    (asks : call.wanted? = some wanted)
    (plays : QueueStep.played ⟨queue, call, answer, (queue.consume wanted).value.2⟩ =
      queue.bytes.take (queue.due wanted)) :
    QueueStep.Accounted ⟨queue, call, answer, (queue.consume wanted).value.2⟩ := by
  obtain ⟨there, asked⟩ := queue.due_le wanted
  have whole := queue.due_mod wanted
  have size : (queue.bytes.take (queue.due wanted)).length = queue.due wanted := by
    rw [List.length_take, Nat.min_eq_left there]
  obtain ⟨played, underruns⟩ := queue.consume_counters wanted
  have moved : QueueStep.pushed ⟨queue, call, answer, (queue.consume wanted).value.2⟩ = [] ∧
      QueueStep.removed ⟨queue, call, answer, (queue.consume wanted).value.2⟩ =
        QueueStep.played ⟨queue, call, answer, (queue.consume wanted).value.2⟩ := by
    cases call <;> first | exact ⟨rfl, rfl⟩ | cases asks
  exact {
    bytes := by
      rw [moved.1, moved.2, plays, List.append_nil]
      exact (Sink.split_due queue wanted).1.symm
    takes := by
      intro other same
      cases asks.symm.trans same
      exact {
        front := plays ▸ List.take_prefix ..
        whole := by rw [plays, size]; exact whole
        asked := by rw [plays, size]; exact asked
        longest := by
          intro playing bytes front frames within
          rw [plays, size]
          exact le_due_of_playing playing front.length_le frames within }
    held := by
      intro paused
      rw [plays, due_of_paused paused, List.take_zero]
    played := by rw [plays, size]; exact played
    underruns := by
      rw [QueueStep.fallsShort, asks]
      dsimp only
      rw [plays, size]
      exact underruns }

/-- Calls of the owner play nothing and count nothing. -/
theorem accounted_of_owner {call : QueueCall} {next : Queue} (owner : call.wanted? = none)
    (bytes : queue.bytes ++ QueueStep.pushed ⟨queue, call, .done, next⟩ =
      QueueStep.removed ⟨queue, call, .done, next⟩ ++ next.bytes)
    (played : next.played = queue.played) (underruns : next.underruns = queue.underruns) :
    QueueStep.Accounted ⟨queue, call, .done, next⟩ where
  bytes
  takes := by
    intro wanted asks
    cases owner.symm.trans asks
  held := fun _ => rfl
  played := played.trans (UInt64.add_zero _).symm
  underruns := by
    rw [QueueStep.fallsShort, owner]
    exact underruns.trans (UInt64.add_zero _).symm

/-- One call, accounted for. -/
def Handles (queue : Queue) (call : QueueCall) (answer : QueueAnswer) (next : Queue) : Prop :=
  QueueStep.Accounted ⟨queue, call, answer, next⟩

/-- Every call can be made and is accounted for. -/
theorem perform_handles (queue : Queue) (call : QueueCall) :
    ∃ answer next, (queue.perform call).result = .ok (answer, next) ∧
      queue.Handles call answer next := by
  cases call with
  | push bytes => exact ⟨_, _, rfl, accounted_of_owner rfl rfl rfl rfl⟩
  | clear => exact ⟨_, _, rfl, accounted_of_owner rfl rfl rfl rfl⟩
  | setPaused paused =>
    exact ⟨_, _, rfl, accounted_of_owner rfl (List.append_nil _) rfl rfl⟩
  | read slots =>
    have ran : (queue.perform (.read slots)).result =
        .ok (.filled (queue.read slots).value.1 (queue.read slots).value.2.1,
          (queue.read slots).value.2.2) := rfl
    rw [queue.read_spec slots] at ran
    refine ⟨_, _, ran, accounted_of_take rfl ?_⟩
    rw [QueueStep.played]
    dsimp only
    rw [Sink.take_filled, flatMap_bytesOfSample (Sink.take_due_even queue _).1]
  | consume wanted =>
    have ran : (queue.perform (.consume wanted)).result =
        .ok (.consumed (queue.consume wanted).value.1, (queue.consume wanted).value.2) := rfl
    rw [(queue.consume_spec wanted).1] at ran
    exact ⟨_, _, ran, accounted_of_take rfl rfl⟩

/-- A step on a paused queue plays nothing and counts nothing. -/
theorem still_of_paused {step : QueueStep} (accounted : step.Accounted)
    (paused : step.before.paused = true) :
    step.played = [] ∧ step.after.played = step.before.played ∧
      step.after.underruns = step.before.underruns := by
  have nothing := accounted.held paused
  have notShort : step.fallsShort = false := by
    unfold QueueStep.fallsShort
    split
    · rw [paused]
      rfl
    · rfl
  refine ⟨nothing, ?_, ?_⟩
  · rw [accounted.played, nothing]
    exact UInt64.add_zero _
  · rw [accounted.underruns, notShort]
    exact UInt64.add_zero _

theorem performAll_runs (queue : Queue) (calls : List QueueCall) :
    ∃ steps final, (performAll perform queue calls).result = .ok (steps, final) ∧
      steps.map Step.call = calls ∧ Run Handles queue steps final := by
  refine Run.of_total (fun {state : Queue} (_ : True) call => ?_) trivial calls
  obtain ⟨answer, next, ran, handled⟩ := state.perform_handles call
  exact ⟨answer, next, ran, handled, trivial⟩

/-- Steps that are accounted for add up. -/
theorem conserved_of_run {steps : List QueueStep} (run : Run Handles queue steps final) :
    queue.bytes ++ steps.flatMap QueueStep.pushed =
        steps.flatMap QueueStep.removed ++ final.bytes ∧
      final.played = queue.played + UInt64.ofNat (steps.flatMap QueueStep.played).length ∧
      final.underruns = queue.underruns + UInt64.ofNat (steps.countP QueueStep.fallsShort) := by
  induction run with
  | nil => exact ⟨List.append_nil _, (UInt64.add_zero _).symm, (UInt64.add_zero _).symm⟩
  | cons accounted _ ih =>
    obtain ⟨bytes, played, underruns⟩ := ih
    refine ⟨?_, ?_, ?_⟩
    · rw [List.flatMap_cons, List.flatMap_cons, ← List.append_assoc, accounted.bytes,
        List.append_assoc, bytes, List.append_assoc]
    · rw [List.flatMap_cons, List.length_append, UInt64.ofNat_add, ← UInt64.add_assoc, played,
        accounted.played]
    · rw [List.countP_cons, Nat.add_comm, UInt64.ofNat_add, ← UInt64.add_assoc, underruns,
        accounted.underruns]

/-- Whatever is done with a queue, in whatever order: what it held and what was pushed since then is
what was played and cleared, in order, followed by what waits. Each take plays the longest front
that was asked for and is made of whole frames. A paused queue plays nothing and counts nothing;
otherwise the counters, which start over beyond 64 bits, grow by the bytes that were played and by the
takes that fell short. -/
theorem nothing_lost (queue : Queue) (calls : List QueueCall) :
    ∃ steps final, (performAll perform queue calls).result = .ok (steps, final) ∧
      steps.map Step.call = calls ∧
      queue.bytes ++ steps.flatMap QueueStep.pushed =
        steps.flatMap QueueStep.removed ++ final.bytes ∧
      (∀ step ∈ steps, ∀ wanted, step.call.wanted? = some wanted →
        QueueStep.PlaysLongest step wanted) ∧
      (∀ step ∈ steps, step.before.paused = true →
        QueueStep.played step = [] ∧ step.after.played = step.before.played ∧
          step.after.underruns = step.before.underruns) ∧
      final.played.toNat =
        (queue.played.toNat + (steps.flatMap QueueStep.played).length) % Word.longLimit ∧
      final.underruns.toNat =
        (queue.underruns.toNat + steps.countP QueueStep.fallsShort) % Word.longLimit := by
  obtain ⟨steps, final, ran, made, run⟩ := performAll_runs queue calls
  obtain ⟨bytes, played, underruns⟩ := conserved_of_run run
  have each := (run.invariant (fun _ _ => trivial) trivial).2
  refine ⟨steps, final, ran, made, bytes, ?_, ?_, ?_, ?_⟩
  · intro step member
    exact (each step member).2.takes
  · intro step member
    exact still_of_paused (each step member).2
  · rw [played, toNat_add_ofNat]
  · rw [underruns, toNat_add_ofNat]

end Queue

end PacingHost
