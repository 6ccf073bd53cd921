import PacingHost.Proofs.SinkRegular

/-! # Playback starts from below

The gate of an opened sink and its device never disagree. While the gate is closed the queue stays
below the start threshold, so the next burst is taken; the gate opens only with the burst that
carries the queue over the threshold, and only a flush closes it again.
-/

namespace PacingHost

/-- Playback began with this burst. -/
def Drained.starts : Drained → Bool
  | .queued _ _ started => started
  | .dropped _ => false

namespace Sink

variable {sink next : Sink} {call : SinkCall} {answer : SinkAnswer}

/-- Behind a closed gate no burst is dropped. -/
theorem Regular.render_of_closed (regular : Regular sink) (closed : sink.gate.ready = false)
    (burst : Burst) :
    ∃ before after started next,
      (sink.render burst).result = .ok (.queued before after started, next) := by
  obtain ⟨outcome, next, ran, handled⟩ := render_handles regular.channels burst
  cases handled with
  | dropped full =>
    have exact := regular.depth_of_closed closed
    have below := regular.waiting closed
    have ordered := regular.ordered
    omega
  | waited | started => exact ⟨_, _, _, _, ran⟩

/-- A burst is said to start playback exactly when it opens the gate. -/
theorem Handles.starts_iff {outcome : Drained} (handled : sink.Handles call answer next)
    (rendered : answer = .rendered outcome) :
    outcome.starts = true ↔ sink.gate.ready = false ∧ next.gate.ready = true := by
  cases handled with
  | dropped full =>
    cases rendered
    constructor
    · intro impossible
      cases impossible
    · rintro ⟨closed, ready⟩
      exact absurd (closed.symm.trans ready) Bool.false_ne_true
  | waited room waits =>
    cases rendered
    constructor
    · intro impossible
      cases impossible
    · rintro ⟨closed, ready⟩
      exact absurd (closed.symm.trans ready) Bool.false_ne_true
  | started room closed reached =>
    cases rendered
    exact ⟨fun _ => ⟨closed, rfl⟩, fun _ => rfl⟩
  | flushed | read | consumed => cases rendered

/-- Playback starts with the queue below the threshold before the burst and not below after it. -/
theorem Handles.crosses (regular : Regular sink) (handled : sink.Handles call answer next)
    {before after : Nat} (rendered : answer = .rendered (.queued before after true)) :
    before < sink.gate.startBytes ∧ sink.gate.startBytes ≤ after := by
  cases handled with
  | started room closed reached =>
    cases rendered
    rw [regular.depth_of_closed closed]
    exact ⟨regular.waiting closed, reached⟩
  | dropped | waited | flushed | read | consumed => cases rendered

/-- Rendering never closes the gate. -/
theorem Handles.stays_ready {burst : Burst} (handled : sink.Handles call answer next)
    (rendered : call = .render burst) (ready : sink.gate.ready = true) :
    next.gate.ready = true := by
  cases handled with
  | dropped | waited => exact ready
  | started => rfl
  | flushed | read | consumed => cases rendered

/-- Consumers do not move the gate. -/
theorem Handles.gate_of_take (handled : sink.Handles call answer next)
    (taking : (∃ slots, call = .read slots) ∨ ∃ wanted, call = .consume wanted) :
    next.gate = sink.gate := by
  rcases taking with ⟨slots, rfl⟩ | ⟨wanted, rfl⟩ <;> cases handled <;> rfl

/-- After every run the sink is ready exactly when its device plays, and a sink that is not ready
holds less than its start threshold and takes the next burst. Along the run a burst starts playback
exactly when it makes the sink ready, and does so by crossing the threshold from below; rendering
never makes the sink unready, and consumers do not change whether it is. -/
theorem gate_crosses_from_below {queue : Queue} {thresholds : Thresholds} {sink : Sink}
    (empty : queue.bytes = []) (two : queue.format.channels = stereo)
    (opened : (wrap queue thresholds).result = .ok sink) (calls : List SinkCall) :
    ∃ steps final, (performAll perform sink calls).result = .ok (steps, final) ∧
      steps.map Step.call = calls ∧
      (final.gate.ready = true ↔ final.queue.paused = false) ∧
      (final.gate.ready = false →
        final.queue.bytes.length < sink.gate.startBytes ∧
          final.depth < sink.gate.startBytes ∧ sink.gate.startBytes ≤ sink.gate.maxBytes ∧
          ∀ burst, ∃ before after started next,
            (final.render burst).result = .ok (.queued before after started, next)) ∧
      (∀ step ∈ steps, ∀ outcome, step.answer = .rendered outcome →
        (outcome.starts = true ↔
          step.before.gate.ready = false ∧ step.after.gate.ready = true) ∧
          ∀ before after, outcome = .queued before after true →
            before < sink.gate.startBytes ∧ sink.gate.startBytes ≤ after) ∧
      (∀ step ∈ steps, ∀ burst, step.call = .render burst → step.before.gate.ready = true →
        step.after.gate.ready = true) ∧
      ∀ step ∈ steps, (∃ slots, step.call = .read slots) ∨ (∃ wanted, step.call = .consume wanted) →
        step.after.gate.ready = step.before.gate.ready := by
  have regular := Regular.of_wrap empty two opened
  obtain ⟨steps, final, ran, made, run⟩ := performAll_runs regular.channels calls
  obtain ⟨⟨ends, level⟩, each⟩ := run.invariant
    (fun {before _ _ _} (known : Regular before ∧ before.gate.startBytes = sink.gate.startBytes)
      handled => ⟨known.1.handles handled, handled.frame.2.2.1.trans known.2⟩) ⟨regular, rfl⟩
  refine ⟨steps, final, ran, made, ?_, ?_, ?_, ?_, ?_⟩
  · rw [ends.playing, Bool.not_eq_true']
  · intro closed
    have below := ends.waiting closed
    rw [ends.depth_of_closed closed, ← level]
    exact ⟨below, below, level ▸ regular.ordered, ends.render_of_closed closed⟩
  · intro step member outcome rendered
    obtain ⟨⟨kept, same⟩, handled⟩ := each step member
    refine ⟨handled.starts_iff rendered, ?_⟩
    rintro before after rfl
    rw [← same]
    exact handled.crosses kept rendered
  · intro step member burst rendered ready
    exact (each step member).2.stays_ready rendered ready
  · intro step member taking
    rw [(each step member).2.gate_of_take taking]

/-- A start, reads that empty the playing queue, a flush, and a burst after it. -/
theorem gate_crosses_from_below_again :
    (wrap (.ofFormat ⟨44100, stereo, 16⟩) {}).result =
        .ok ⟨.ofFormat ⟨44100, stereo, 16⟩, .blank 16, ⟨false, 32, 80⟩⟩ ∧
      ∃ steps final,
        (performAll perform ⟨.ofFormat ⟨44100, stereo, 16⟩, .blank 16, ⟨false, 32, 80⟩⟩
            [.render ⟨[1, 2, 3, 4, 5, 6, 7, 8], 4⟩, .render ⟨[1, 2, 3, 4, 5, 6, 7, 8], 4⟩,
              .consume 99, .read [0, 0], .reset, .render ⟨[9, 9], 1⟩]).result =
            .ok (steps, final) ∧
          steps.map Step.call =
            [.render ⟨[1, 2, 3, 4, 5, 6, 7, 8], 4⟩, .render ⟨[1, 2, 3, 4, 5, 6, 7, 8], 4⟩,
              .consume 99, .read [0, 0], .reset, .render ⟨[9, 9], 1⟩] ∧
          (final.gate.ready = true ↔ final.queue.paused = false) ∧
          (final.gate.ready = false →
            final.queue.bytes.length < 32 ∧ final.depth < 32 ∧ 32 ≤ 80 ∧
              ∀ burst, ∃ before after started next,
                (final.render burst).result = .ok (.queued before after started, next)) ∧
          (∀ step ∈ steps, ∀ outcome, step.answer = .rendered outcome →
            (outcome.starts = true ↔
              step.before.gate.ready = false ∧ step.after.gate.ready = true) ∧
              ∀ before after, outcome = .queued before after true → before < 32 ∧ 32 ≤ after) ∧
          (∀ step ∈ steps, ∀ burst, step.call = .render burst → step.before.gate.ready = true →
            step.after.gate.ready = true) ∧
          ∀ step ∈ steps,
            (∃ slots, step.call = .read slots) ∨ (∃ wanted, step.call = .consume wanted) →
              step.after.gate.ready = step.before.gate.ready :=
  ⟨rfl, gate_crosses_from_below rfl rfl
    (rfl : (wrap (.ofFormat ⟨44100, stereo, 16⟩) {}).result = _) _⟩

end Sink

end PacingHost
