import PacingHost.Proofs.Services

/-! # Offering bursts in a row

While answers are served a sink is only asked to render. `Sink.Offered` chains what `Sink.Handles`
says of the single bursts, and `Outputs.offered_of_performAll` finds this chain in the calls on all
outputs, where pictures are shown in between.
-/

namespace PacingHost

/-- The burst of a call that renders one. -/
def Service.burst? : Service → Option Burst
  | .render burst => some burst
  | .upload _ | .present => none

namespace Sink

/-- Some bursts offered in order, and what became of them. -/
inductive Offered : Sink → List Burst → List Drained → Sink → Prop
  | nil (sink : Sink) : Offered sink [] [] sink
  | cons {sink next final : Sink} {burst : Burst} {bursts : List Burst} {outcome : Drained}
      {outcomes : List Drained} (handled : sink.Handles (.render burst) (.rendered outcome) next)
      (later : Offered next bursts outcomes final) :
      Offered sink (burst :: bursts) (outcome :: outcomes) final

variable {sink middle final : Sink} {bursts later : List Burst} {outcomes more : List Drained}

theorem Offered.append (first : Offered sink bursts outcomes middle)
    (second : Offered middle later more final) :
    Offered sink (bursts ++ later) (outcomes ++ more) final := by
  induction first with
  | nil => exact second
  | cons handled _ ih => exact .cons handled (ih second)

theorem Offered.length (offered : Offered sink bursts outcomes final) :
    outcomes.length = bursts.length := by
  induction offered with
  | nil => rfl
  | cons _ _ ih => exact congrArg (· + 1) ih

theorem Offered.format (offered : Offered sink bursts outcomes final) :
    final.format = sink.format := by
  induction offered with
  | nil => rfl
  | cons handled _ ih => exact ih.trans handled.frame.1

end Sink

namespace Outputs

variable {width height : Nat} {outputs next final : Outputs} {service : Service}
  {services : List Service} {outcomes : List Drained}

/-- A call on the outputs leaves the sink alone or offers it a burst. -/
theorem offered_of_perform (two : outputs.sink.format.channels = stereo)
    (ran : (outputs.perform width height service).result = .ok (outcomes, next)) :
    outputs.sink.Offered service.burst?.toList outcomes next.sink := by
  cases service with
  | upload pixels =>
    obtain ⟨screen, _, ran⟩ := Report.result_bind_eq_ok_iff.mp ran
    cases ran
    exact .nil _
  | present =>
    cases ran
    exact .nil _
  | render burst =>
    obtain ⟨⟨outcome, sink⟩, rendered, ran⟩ := Report.result_bind_eq_ok_iff.mp ran
    cases ran
    obtain ⟨_, _, rendered', handled⟩ := Sink.render_handles two burst
    cases rendered.symm.trans rendered'
    exact .cons handled (.nil _)

/-- Of all calls on the outputs the sink sees the bursts. -/
theorem offered_of_performAll (two : outputs.sink.format.channels = stereo)
    (ran : (outputs.performAll width height services).result = .ok (outcomes, final)) :
    outputs.sink.Offered (services.filterMap Service.burst?) outcomes final.sink := by
  induction services generalizing outputs outcomes with
  | nil =>
    cases ran
    exact .nil _
  | cons service services ih =>
    obtain ⟨⟨first, middle⟩, made, ran⟩ := Report.result_bind_eq_ok_iff.mp ran
    obtain ⟨⟨rest, last⟩, later, ran⟩ := Report.result_bind_eq_ok_iff.mp ran
    cases ran
    have offered := offered_of_perform two made
    have same : (service :: services).filterMap Service.burst? =
        service.burst?.toList ++ services.filterMap Service.burst? := by
      cases service <;> rfl
    rw [same]
    exact offered.append (ih (offered.format ▸ two) later)

end Outputs

end PacingHost
