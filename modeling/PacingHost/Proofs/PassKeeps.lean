import PacingHost.Proofs.HostRun
import PacingHost.Proofs.SinkFormats

/-! # What a pass leaves alone

Serving answers pushes into the sound queue and may start playback; it never stops it. A pass
without the step switch does nothing else, so it leaves the configuration and the sink keeps what
waits in it, on every device and whether the pass returns or not.
-/

namespace PacingHost

theorem Gate.drain_omits {δ : Type} [Device δ] (gate : Gate) (bytes : List UInt8) (device : δ) :
    .queueReset ∉ (gate.drain bytes device).events := by
  unfold drain
  dsimp only
  split
  · simp [Logged.tell, -bind_pure_comp]
  · split <;> simp [Logged.tell, -bind_pure_comp]

/-- Playback is not stopped by a burst, whether it can be staged or not. -/
theorem Sink.render_omits (sink : Sink) (burst : Burst) :
    (sink.render burst).Omits .queueReset := by
  have offers (staging : Staging) (size : Nat) : Report.Omits (do
      let bytes ← Report.ofExcept (staging.front size)
      let drained ← ExceptT.lift (sink.gate.drain bytes sink.queue)
      pure (drained.1, ⟨drained.2.2, staging, drained.2.1⟩) : Report Fault (Drained × Sink))
      .queueReset :=
    .bind (Report.omits_ofExcept _) fun bytes =>
      .bind (Report.omits_lift (sink.gate.drain_omits bytes sink.queue)) fun _ =>
        Report.omits_pure _
  unfold render
  dsimp only
  split
  · exact .bind (Report.omits_lift (by simp [Logged.tell])) fun _ => offers _ _
  · exact offers _ _

namespace Sink

/-- What waited waits still, and what played plays on. -/
structure Keeps (sink next : Sink) : Prop where
  waiting : sink.queue.bytes <+: next.queue.bytes
  ready : sink.gate.ready = true → next.gate.ready = true
  playing : sink.queue.paused = false → next.queue.paused = false

theorem Keeps.refl (sink : Sink) : Keeps sink sink := ⟨List.prefix_refl _, id, id⟩

theorem Keeps.trans {sink middle next : Sink} (first : Keeps sink middle)
    (second : Keeps middle next) : Keeps sink next where
  waiting := first.waiting.trans second.waiting
  ready := fun ready => second.ready (first.ready ready)
  playing := fun playing => second.playing (first.playing playing)

theorem keeps_drain (sink : Sink) (bytes : List UInt8) (staging : Staging) :
    Keeps sink ⟨(sink.gate.drain bytes sink.queue).value.2.2, staging,
      (sink.gate.drain bytes sink.queue).value.2.1⟩ := by
  rcases sink.gate.drops_waits_or_starts (Device.depth sink.queue)
      (Gate.depthAfter (Device.depth sink.queue) bytes.length) with
    full | ⟨room, waits⟩ | ⟨room, closed, reached⟩
  · rw [Gate.drain_full bytes full]
    exact ⟨List.prefix_refl _, id, id⟩
  · rw [Gate.drain_waiting bytes room waits]
    exact ⟨List.prefix_append .., id, id⟩
  · rw [Gate.drain_starting bytes room closed reached]
    exact ⟨List.prefix_append .., fun _ => rfl, fun _ => rfl⟩

theorem keeps_render {sink next : Sink} {burst : Burst} {outcome : Drained}
    (ran : (sink.render burst).result = .ok (outcome, next)) : Keeps sink next := by
  rcases Nat.lt_or_ge sink.staging.capacity (sink.offered burst) with exceeds | fits
  · rw [render_of_overrun exceeds] at ran
    cases ran
  · rw [render_of_front (Staging.front_eq_ok fits)] at ran
    cases ran
    exact sink.keeps_drain ..

end Sink

namespace Outputs

theorem keeps_perform {width height : Nat} {outputs next : Outputs} {service : Service}
    {outcomes : List Drained}
    (ran : (outputs.perform width height service).result = .ok (outcomes, next)) :
    outputs.sink.Keeps next.sink := by
  cases service with
  | upload pixels =>
    obtain ⟨screen, _, told⟩ := Report.result_bind_eq_ok_iff.mp ran
    cases told
    exact .refl _
  | present =>
    cases ran
    exact .refl _
  | render burst =>
    obtain ⟨made, rendered, told⟩ := Report.result_bind_eq_ok_iff.mp ran
    cases told
    exact Sink.keeps_render rendered

theorem keeps_performAll {width height : Nat} {outputs final : Outputs} {services : List Service}
    {outcomes : List Drained}
    (ran : (outputs.performAll width height services).result = .ok (outcomes, final)) :
    outputs.sink.Keeps final.sink := by
  induction services generalizing outputs outcomes with
  | nil =>
    cases ran
    exact .refl _
  | cons service services ih =>
    obtain ⟨made, first, ran⟩ := Report.result_bind_eq_ok_iff.mp ran
    obtain ⟨more, later, told⟩ := Report.result_bind_eq_ok_iff.mp ran
    cases told
    exact (keeps_perform first).trans (ih later)

theorem perform_omits (width height : Nat) (outputs : Outputs) (service : Service) :
    (outputs.perform width height service).Omits .queueReset := by
  cases service with
  | upload pixels => exact .bind (Report.omits_ofExcept _) fun _ => Report.omits_pure _
  | present =>
    have silent : .queueReset ∉ outputs.screen.present.events := by
      simp [Screen.present, Logged.tell, -bind_pure_comp]
    exact .bind (Report.omits_lift silent) fun _ => Report.omits_pure _
  | render burst => exact .bind (outputs.sink.render_omits burst) fun _ => Report.omits_pure _

theorem performAll_omits (width height : Nat) (outputs : Outputs) (services : List Service) :
    (outputs.performAll width height services).Omits .queueReset := by
  induction services generalizing outputs with
  | nil => exact Report.omits_pure _
  | cons service services ih =>
    exact .bind (outputs.perform_omits width height service) fun made =>
      .bind (ih made.2) fun _ => Report.omits_pure _

end Outputs

namespace Host

variable {σ : Type}

theorem settled_of_going {host : Host σ} (going : host.config.step = false) :
    host.settled = host :=
  if_neg (going ▸ Bool.false_ne_true)

variable [Engine σ] {host ended : Host σ} {patience : Nat} {delta : Float} {stats : PassStats}

theorem serving_omits (host : Host σ) (patience target : Nat) :
    (host.serving patience target).Omits .queueReset := by
  rw [serving_eq]
  refine .bind (Outputs.performAll_omits _ _ _ _) fun _ => .bind ?_ fun _ => Report.omits_pure _
  unfold checkFault
  split
  · exact Report.omits_ofExcept _
  · exact Report.omits_pure _

/-- Without the step switch a pass does not stop playback, however it ends. -/
theorem passWithin_omits (going : host.config.step = false) (patience : Nat) (delta : Float) :
    (host.passWithin patience delta).Omits .queueReset := by
  cases paused : host.config.paused with
  | true =>
    rw [passWithin_paused paused]
    exact Report.omits_pure _
  | false =>
    have checked : .queueReset ∉ (checkDelta delta).events := by
      unfold checkDelta
      split <;> simp [Logged.tell, -bind_pure_comp]
    have served := host.serving_omits patience (host.target (checkDelta delta).value)
    have closed : .queueReset ∉ host.closingEvents delta
        (host.serving patience (host.target (checkDelta delta).value)).result := by
      unfold closingEvents
      split
      · next made =>
        have still := config_of_serving made
        simp [settledEvents, still, going]
      · exact List.not_mem_nil
    rw [Report.Omits, (passWithin_running paused patience delta).2, List.mem_append,
      List.mem_append]
    exact not_or.mpr ⟨checked, not_or.mpr ⟨served, closed⟩⟩

/-- Without the step switch a pass leaves the configuration and lets the sink play on. -/
theorem keeps_passWithin (running : host.config.paused = false)
    (going : host.config.step = false)
    (ran : (host.passWithin patience delta).result = .ok (stats, ended)) :
    ended.config = host.config ∧ host.sink.Keeps ended.sink := by
  obtain ⟨answers, _, outputs, passed, _, _, rfl⟩ := (passWithin_eq_ok_iff running).mp ran
  have still : (host.moved ((answers.map Prod.snd).getLastD host.engine)
    outputs).config.step = false := going
  rw [afterPass, settled_of_going still]
  exact ⟨rfl, Outputs.keeps_performAll passed.served⟩

end Host

end PacingHost
