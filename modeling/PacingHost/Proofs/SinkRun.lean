import PacingHost.Proofs.QueueTake
import PacingHost.Proofs.Run
import PacingHost.Sound.Sink

/-! # Runs of the sink

A sink is used from two sides: its owner renders bursts into it and flushes it, and consumers read
from its queue or drop what they would have played. All consumers share the one queue, so a run is
a single list of calls in the order in which they were made. `Sink.Handles` says what one call does
to a stereo sink, one constructor for each way it can go; `Sink.performAll_runs` says that every
list of calls can be carried out.
-/

namespace PacingHost

/-- What is asked of a sink. -/
inductive SinkCall where
  | render (burst : Burst)
  | reset
  | read (slots : List UInt16)
  | consume (wanted : Nat)
deriving DecidableEq, Repr

/-- What came of a call. -/
inductive SinkAnswer where
  | rendered (outcome : Drained)
  | flushed
  /-- So many samples were read, and all slots. -/
  | filled (count : Nat) (slots : List UInt16)
  /-- So many bytes were dropped. -/
  | consumed (taken : Nat)
deriving DecidableEq, Repr

abbrev SinkStep := Step Sink SinkCall SinkAnswer

/-- A burst of so many frames. -/
def Burst.ofFrames (count : Nat) : Burst := .ofData (List.replicate (2 * count) 0)

theorem Burst.fitting_ofFrames (count capacity : Nat) :
    (Burst.ofFrames count).fitting capacity = min count (capacity / 4) := by
  simp only [Burst.ofFrames, Burst.ofData, Burst.fitting, List.length_replicate, toNat_stereo,
    stereoFrame_eq]
  omega

/-- A gate drops a burst, lets it wait, or starts playback with it. -/
theorem Gate.drops_waits_or_starts (gate : Gate) (before after : Nat) :
    gate.maxBytes ≤ before ∨
      before < gate.maxBytes ∧ (gate.ready = true ∨ after < gate.startBytes) ∨
      before < gate.maxBytes ∧ gate.ready = false ∧ gate.startBytes ≤ after := by
  rcases Nat.lt_or_ge before gate.maxBytes with room | full
  · rcases Nat.lt_or_ge after gate.startBytes with short | reached
    · exact .inr (.inl ⟨room, .inr short⟩)
    · cases ready : gate.ready with
      | true => exact .inr (.inl ⟨room, .inl rfl⟩)
      | false => exact .inr (.inr ⟨room, rfl, reached⟩)
  · exact .inl full

namespace Sink

def perform (sink : Sink) : SinkCall → Report Fault (SinkAnswer × Sink)
  | .render burst => do
    let (outcome, next) ← sink.render burst
    pure (.rendered outcome, next)
  | .reset => do
    let next ← ExceptT.lift sink.reset
    pure (.flushed, next)
  | .read slots => do
    let (count, filled, next) ← ExceptT.lift (sink.read slots)
    pure (.filled count filled, next)
  | .consume wanted => do
    let (taken, next) ← ExceptT.lift (sink.consume wanted)
    pure (.consumed taken, next)

/-- The bytes a burst comes to in this sink. -/
def widen (sink : Sink) (burst : Burst) : List UInt8 :=
  widened (burst.fittingData sink.staging.capacity)

/-- The depth the queue is taken to have with a burst more. -/
def depthWith (sink : Sink) (burst : Burst) : Nat :=
  Gate.depthAfter sink.depth (sink.widen burst).length

/-- The sink once a burst has been staged and stands in its queue. -/
def pushed (sink : Sink) (burst : Burst) : Sink :=
  { sink with
    staging := sink.staging.write burst
    queue := { sink.queue with bytes := sink.queue.bytes ++ sink.widen burst } }

/-- The sink once its player has started. -/
def started (sink : Sink) : Sink :=
  { sink with
    queue := { sink.queue with paused := false }
    gate := { sink.gate with ready := true } }

/-- What one call does to a sink whose device plays stereo. -/
inductive Handles (sink : Sink) : SinkCall → SinkAnswer → Sink → Prop
  | dropped {burst : Burst} (full : sink.gate.maxBytes ≤ sink.depth) :
      Handles sink (.render burst) (.rendered (.dropped sink.depth))
        { sink with staging := sink.staging.write burst }
  | waited {burst : Burst} (room : sink.depth < sink.gate.maxBytes)
      (waits : sink.gate.ready = true ∨ sink.depthWith burst < sink.gate.startBytes) :
      Handles sink (.render burst) (.rendered (.queued sink.depth (sink.depthWith burst) false))
        (sink.pushed burst)
  | started {burst : Burst} (room : sink.depth < sink.gate.maxBytes)
      (closed : sink.gate.ready = false) (reached : sink.gate.startBytes ≤ sink.depthWith burst) :
      Handles sink (.render burst) (.rendered (.queued sink.depth (sink.depthWith burst) true))
        (sink.pushed burst).started
  | flushed : Handles sink .reset .flushed sink.reset.value
  | read (slots : List UInt16) :
      Handles sink (.read slots)
        (.filled (sink.queue.due (2 * slots.length) / 2)
          (samplesOf (sink.queue.bytes.take (sink.queue.due (2 * slots.length))) ++
            slots.drop (sink.queue.due (2 * slots.length) / 2)))
        { sink with queue := (sink.queue.consume (2 * slots.length)).value.2 }
  | consumed (wanted : Nat) :
      Handles sink (.consume wanted) (.consumed (sink.queue.due wanted))
        { sink with queue := (sink.queue.consume wanted).value.2 }

/-- Rendering without the staging buffer: widen what fits of a burst and offer it to the queue. -/
def offer (sink : Sink) (burst : Burst) : Logged (Drained × Sink) := do
  if burst.fitting sink.staging.capacity < burst.frames then
    Logged.tell (.burstTruncated (burst.fitting sink.staging.capacity) burst.frames)
  let (outcome, gate, queue) ← sink.gate.drain (sink.widen burst) sink.queue
  pure (outcome, { queue, staging := sink.staging.write burst, gate })

theorem offer_value (sink : Sink) (burst : Burst) :
    (sink.offer burst).value =
      ((sink.gate.drain (sink.widen burst) sink.queue).value.1,
        { queue := (sink.gate.drain (sink.widen burst) sink.queue).value.2.2
          staging := sink.staging.write burst
          gate := (sink.gate.drain (sink.widen burst) sink.queue).value.2.1 }) := by
  unfold offer
  dsimp only
  split <;> rfl

/-- On a stereo device the frames of a burst never overrun the staging buffer. -/
theorem front_staged {sink : Sink} (two : sink.format.channels = stereo) (burst : Burst) :
    (sink.staging.write burst).front
      (burst.fitting sink.staging.capacity * sink.format.frameSize) = .ok (sink.widen burst) := by
  rw [Format.frameSize_stereo two, Nat.mul_comm]
  exact sink.staging.front_write burst

theorem render_stereo {sink : Sink} (two : sink.format.channels = stereo) (burst : Burst) :
    sink.render burst = ExceptT.lift (sink.offer burst) := by
  have front := front_staged two burst
  unfold render offer
  dsimp only
  split <;> apply Report.ext <;> rw [front] <;> rfl

/-- A stereo sink takes every burst. -/
theorem render_handles {sink : Sink} (two : sink.format.channels = stereo) (burst : Burst) :
    ∃ outcome next, (sink.render burst).result = .ok (outcome, next) ∧
      sink.Handles (.render burst) (.rendered outcome) next := by
  have ran : (sink.render burst).result =
      .ok ((sink.offer burst).value.1, (sink.offer burst).value.2) := by
    rw [render_stereo two]
    rfl
  refine ⟨_, _, ran, ?_⟩
  rw [offer_value]
  rcases sink.gate.drops_waits_or_starts sink.depth (sink.depthWith burst) with
    full | ⟨room, waits⟩ | ⟨room, closed, reached⟩
  · rw [Gate.drain_full _ full]
    exact .dropped full
  · rw [Gate.drain_waiting _ room waits]
    exact .waited room waits
  · rw [Gate.drain_starting _ room closed reached]
    exact .started room closed reached

/-- A stereo sink carries out every call. -/
theorem perform_handles {sink : Sink} (two : sink.format.channels = stereo) (call : SinkCall) :
    ∃ answer next, (sink.perform call).result = .ok (answer, next) ∧
      sink.Handles call answer next := by
  cases call with
  | render burst =>
    obtain ⟨outcome, next, ran, handled⟩ := render_handles two burst
    refine ⟨.rendered outcome, next, ?_, handled⟩
    rw [perform, (Report.bind_of_ok ran _).1]
    rfl
  | reset => exact ⟨_, _, rfl, .flushed⟩
  | read slots =>
    have ran : (sink.perform (.read slots)).result =
        .ok (.filled (sink.queue.read slots).value.1 (sink.queue.read slots).value.2.1,
          { sink with queue := (sink.queue.read slots).value.2.2 }) := rfl
    rw [sink.queue.read_spec slots] at ran
    exact ⟨_, _, ran, .read slots⟩
  | consume wanted =>
    have ran : (sink.perform (.consume wanted)).result =
        .ok (.consumed (sink.queue.consume wanted).value.1,
          { sink with queue := (sink.queue.consume wanted).value.2 }) := rfl
    rw [(sink.queue.consume_spec wanted).1] at ran
    exact ⟨_, _, ran, .consumed wanted⟩

/-- No call changes the format, the thresholds or the size of the staging buffer. -/
theorem Handles.frame {sink next : Sink} {call : SinkCall} {answer : SinkAnswer}
    (handled : sink.Handles call answer next) :
    next.format = sink.format ∧ next.staging.capacity = sink.staging.capacity ∧
      next.gate.startBytes = sink.gate.startBytes ∧ next.gate.maxBytes = sink.gate.maxBytes := by
  cases handled with
  | dropped | waited | started | flushed => exact ⟨rfl, rfl, rfl, rfl⟩
  | read slots => exact ⟨(sink.queue.consume_spec _).2.2.2, rfl, rfl, rfl⟩
  | consumed wanted => exact ⟨(sink.queue.consume_spec _).2.2.2, rfl, rfl, rfl⟩

/-- A stereo sink carries out every list of calls. -/
theorem performAll_runs {sink : Sink} (two : sink.format.channels = stereo)
    (calls : List SinkCall) :
    ∃ steps final, (performAll perform sink calls).result = .ok (steps, final) ∧
      steps.map Step.call = calls ∧ Run Handles sink steps final := by
  apply Run.of_total (fun {state : Sink} (two : state.format.channels = stereo) call => ?_) two
  obtain ⟨answer, next, ran, handled⟩ := perform_handles two call
  exact ⟨answer, next, ran, handled, (congrArg Format.channels handled.frame.1).trans two⟩

end Sink

end PacingHost
