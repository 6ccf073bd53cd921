import PacingHost.Engine.Script
import PacingHost.Proofs.HostRun

/-! # A paused host is silent

A host can come to be paused by a committed configuration, by a key, or by the end of a step, and
together with any other change. However it came about, nothing waits in the queue of a paused host,
its device is held back and the gate is closed, and passes leave everything as it is.
-/

namespace PacingHost

namespace Sink

/-- Nothing waits, and nothing will be played before the start threshold is reached again. -/
structure Silent (sink : Sink) : Prop where
  empty : sink.queue.bytes = []
  held : sink.queue.paused = true
  closed : sink.gate.ready = false

theorem silent_reset (sink : Sink) : Silent sink.reset.value := ⟨rfl, rfl, rfl⟩

/-- Consumers get nothing out of a silent sink and leave it as it is. -/
theorem Silent.read {sink : Sink} (silent : Silent sink) (slots : List UInt16) :
    (sink.read slots).value = (0, slots, sink) := by
  have still : sink.queue.read slots = pure (0, slots, sink.queue) := if_pos silent.held
  rw [Sink.read, still]
  rfl

theorem Silent.consume {sink : Sink} (silent : Silent sink) (wanted : Nat) :
    (sink.consume wanted).value = (0, sink) := by
  rw [Sink.consume, Queue.consume_of_paused silent.held]
  rfl

end Sink

namespace Host

variable {σ : Type} [Engine σ] {host next final : Host σ}

/-- While the host is paused its sink is silent. -/
def Hushed (host : Host σ) : Prop := host.config.paused = true → host.sink.Silent

/-- The sink is flushed with every change of pause, whatever else changes with it. -/
theorem Hushed.committed (hushed : host.Hushed) (config : Config) :
    (host.committed config).Hushed := by
  intro paused
  change config.paused = true at paused
  unfold Host.committed
  dsimp only
  split
  · exact host.sink.silent_reset
  · next kept =>
    -- Without a flush the host was paused before.
    obtain ⟨_, same⟩ := (host.flushes_eq_false_iff config).mp (Bool.eq_false_iff.mpr kept)
    exact hushed (same.trans paused)

/-- A pass that runs ends in a pause only at the end of a step, which flushes the sink. -/
theorem Passed.hushed {delta : Float} {answers : List (Answer × σ)} {outcomes : List Drained}
    {outputs : Outputs} (passed : host.Passed delta answers outcomes outputs) :
    (host.afterPass answers outputs).Hushed := by
  unfold afterPass settled
  split
  · intro _
    exact outputs.sink.silent_reset
  · intro paused
    exact absurd (passed.running.symm.trans paused) Bool.false_ne_true

theorem Hushed.handles {call : HostCall} {answer : HostAnswer} (hushed : host.Hushed)
    (handled : host.Handles call answer next) : next.Hushed := by
  cases handled with
  | stood | boundPress | boundHold => exact hushed
  | passed passed => exact passed.hushed
  | committed config => exact hushed.committed config
  | handled inputs =>
    have holding : (host.holding inputs).Hushed := hushed
    exact holding.committed _
  | read slots =>
    intro paused
    have silent := hushed paused
    dsimp only
    rw [silent.read]
    exact silent
  | consumed wanted =>
    intro paused
    have silent := hushed paused
    dsimp only
    rw [silent.consume]
    exact silent

/-- A host is built with the configuration that changes nothing, and shows it to its engine. -/
theorem config_of_build {setup : Setup} {engine : σ} {opener : Opener} {screen : Screen}
    (built : (build setup engine opener screen).result = .ok host) : host.config = {} := by
  obtain ⟨_, _, _, rfl⟩ := (build_eq_ok_iff ..).mp built
  rfl

/-- Passes of a paused host do nothing and say nothing. -/
theorem performAll_pass_paused (paused : host.config.paused = true) (patience : Nat)
    (deltas : List Float) :
    performAll (performWithin patience) host (deltas.map .pass) =
      pure (deltas.map fun delta => ⟨host, .pass delta, .passed {}, host⟩, host) := by
  induction deltas with
  | nil => rfl
  | cons delta deltas ih =>
    rw [List.map_cons, performAll, performWithin, passWithin_paused paused, pure_bind, pure_bind]
    dsimp only
    rw [ih]
    rfl

/-- Whatever was done with a host since it was built, and whatever its passes had of patience: if it
is paused, its queue is empty, its device is held back and its gate is closed, and any number of
passes do nothing and say nothing, with any patience of their own. -/
theorem silent_while_paused {setup : Setup} {engine : σ} {opener : Opener} {screen : Screen}
    {patience : Nat} {calls : List HostCall} {steps : List (Step (Host σ) HostCall HostAnswer)}
    (built : (build setup engine opener screen).result = .ok host)
    (ran : (performAll (performWithin patience) host calls).result = .ok (steps, final))
    (paused : final.config.paused = true) :
    final.sink.queue.bytes = [] ∧ final.sink.gate.ready = false ∧
      final.sink.queue.paused = true ∧
      ∀ (other : Nat) (deltas : List Float),
        performAll (performWithin other) final (deltas.map .pass) =
          pure (deltas.map fun delta => ⟨final, .pass delta, .passed {}, final⟩, final) := by
  have start : host.Hushed := by
    intro impossible
    rw [config_of_build built] at impossible
    cases impossible
  obtain ⟨_, run⟩ := Run.of_performAll handles_of_perform ran
  obtain ⟨ends, _⟩ := run.invariant Hushed.handles start
  have silent := ends paused
  exact ⟨silent.empty, silent.closed, silent.held, performAll_pass_paused paused⟩

/-- An engine whose first drive makes a picture and four bursts. -/
def fourBursts : Script 2 2 where
  answers := [1, 2, 2, 2, 6, 3]
  sound := ⟨[1, 2, 3, 4, 5, 6, 7, 8], 4⟩

/-- Playback starts and is stopped by a step; then more is changed under the pause. -/
def stepCalls : List HostCall :=
  [.pass 10.0, .read [0, 0], .bindPress .x .step, .input [.press .x, .release .x], .pass 16.0,
    .consume 8, .commit { paused := true, fullscreen := true }]

theorem silent_while_paused_after_step :
    ∃ host steps final,
      (build { audioFrames := 4 } fourBursts .software {}).result = .ok host ∧
        (performAll (performWithin 8) host stepCalls).result = .ok (steps, final) ∧
        final.config.paused = true ∧ final.sink.queue.bytes = [] ∧
        final.sink.gate.ready = false ∧ final.sink.queue.paused = true ∧
        ∀ (other : Nat) (deltas : List Float),
          performAll (performWithin other) final (deltas.map .pass) =
            pure (deltas.map fun delta => ⟨final, .pass delta, .passed {}, final⟩, final) :=
  ⟨_, _, _, rfl, rfl, rfl, silent_while_paused
    (rfl : (build { audioFrames := 4 } fourBursts .software {}).result = _)
    (rfl : (performAll (performWithin 8) _ stepCalls).result = _) rfl⟩

end Host

end PacingHost
