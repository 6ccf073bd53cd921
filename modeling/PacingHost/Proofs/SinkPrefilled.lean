import PacingHost.Proofs.SinkRegular

/-! # Sinks around queues that hold something

A sink can be built around a queue that was filled before. Its device is held back then, so nothing
leaves the queue until a burst starts playback. Below the max threshold the next burst finds room
and starts playback if the queue holds enough with it. At the max threshold the burst is dropped,
and a burst that is dropped starts nothing: the sink drops every burst, however much waits, until it
is flushed. A flushed sink is as good as one around an empty queue.
-/

namespace PacingHost

namespace Sink

/-- What the thresholds are for, in one step of a run: a burst that finds or leaves the start
threshold in the queue leaves the sink playing, and no burst is dropped by a sink that does not
play. -/
structure Responsive (startBytes : Nat) (step : SinkStep) : Prop where
  plays : ∀ burst, step.call = .render burst →
    startBytes ≤ step.before.queue.bytes.length ∨ startBytes ≤ step.after.queue.bytes.length →
    step.after.gate.ready = true ∧ step.after.queue.paused = false
  drops : ∀ depth, step.answer = .rendered (.dropped depth) →
    step.before.gate.ready = true ∧ step.before.queue.paused = false

/-- A burst that comes to nothing: it is dropped by a sink that does not play, and the queue keeps
what it holds. -/
structure Stuck (queue : Queue) (step : SinkStep) : Prop where
  dropped : step.answer = .rendered (.dropped queue.bytes.length)
  closed : step.after.gate.ready = false
  held : step.after.queue.paused = true
  waiting : step.after.queue.bytes = queue.bytes

/-- Behind a closed gate there is room for the next burst. -/
structure Receptive (sink : Sink) : Prop extends Built sink where
  playing : sink.gate.ready = !sink.queue.paused
  room : sink.gate.ready = false → sink.queue.bytes.length < sink.gate.maxBytes

variable {sink next final : Sink} {call : SinkCall} {answer : SinkAnswer} {steps : List SinkStep}
  {queue : Queue} {thresholds : Thresholds}

theorem Built.receptive_reset (built : Built sink) : Receptive sink.reset.value where
  toBuilt := built.handles .flushed
  playing := rfl
  room := fun _ => Nat.lt_of_lt_of_le built.positive built.ordered

theorem Receptive.of_wrap (two : queue.format.channels = stereo)
    (opened : (wrap queue thresholds).result = .ok sink)
    (room : queue.bytes.length < sink.gate.maxBytes) : Receptive sink := by
  have built := Built.of_wrap two opened
  obtain ⟨_, gate, levels, rfl⟩ := eq_of_wrap_eq_ok opened
  obtain ⟨_, _, _, rfl⟩ := (Gate.ofThresholds_eq_ok_iff _ _ _).mp levels
  exact { built with
    playing := rfl
    room := fun _ => room }

theorem Receptive.depth_of_closed (receptive : Receptive sink)
    (closed : sink.gate.ready = false) : sink.depth = sink.queue.bytes.length :=
  Nat.mod_eq_of_lt (Nat.lt_trans (receptive.room closed) receptive.counted)

/-- The queue that a burst leaves below the start threshold was below it before. -/
theorem Receptive.below_of_closed (receptive : Receptive sink) {burst : Burst}
    (closed : sink.gate.ready = false) (short : sink.depthWith burst < sink.gate.startBytes) :
    sink.queue.bytes.length ≤ (sink.pushed burst).queue.bytes.length ∧
      (sink.pushed burst).queue.bytes.length < sink.gate.startBytes := by
  have counted := Nat.lt_of_le_of_lt receptive.ordered receptive.counted
  have exact := receptive.depth_of_closed closed
  refine ⟨?_, length_pushed_lt receptive.capacity exact counted short⟩
  rw [pushed, List.length_append]
  exact Nat.le_add_right ..

theorem Receptive.taken (receptive : Receptive sink) (wanted : Nat) :
    sink.gate.ready = !(sink.queue.consume wanted).value.2.paused ∧
      (sink.gate.ready = false →
        (sink.queue.consume wanted).value.2.bytes.length < sink.gate.maxBytes) := by
  obtain ⟨_, bytes, paused, _⟩ := sink.queue.consume_spec wanted
  rw [bytes, paused, List.length_drop]
  exact ⟨receptive.playing,
    fun closed => Nat.lt_of_le_of_lt (Nat.sub_le ..) (receptive.room closed)⟩

/-- Every call keeps room behind a closed gate. -/
theorem Receptive.handles (receptive : Receptive sink) (handled : sink.Handles call answer next) :
    Receptive next where
  toBuilt := receptive.toBuilt.handles handled
  playing := by
    cases handled with
    | dropped | waited => exact receptive.playing
    | started | flushed => rfl
    | read slots => exact (receptive.taken _).1
    | consumed wanted => exact (receptive.taken _).1
  room := by
    cases handled with
    | dropped => exact receptive.room
    | @waited burst _ waits =>
      intro closed
      have closed : sink.gate.ready = false := closed
      rcases waits with ready | short
      · exact absurd (closed.symm.trans ready) Bool.false_ne_true
      · exact Nat.lt_of_lt_of_le (receptive.below_of_closed closed short).2 receptive.ordered
    | started =>
      intro impossible
      cases impossible
    | flushed => exact receptive.toBuilt.receptive_reset.room
    | read slots => exact (receptive.taken _).2
    | consumed wanted => exact (receptive.taken _).2

theorem Receptive.playing_of_ready (receptive : Receptive sink) (ready : sink.gate.ready = true) :
    sink.gate.ready = true ∧ sink.queue.paused = false := by
  have playing := receptive.playing
  rw [ready, eq_comm, Bool.not_eq_true'] at playing
  exact ⟨ready, playing⟩

/-- A sink with room behind its closed gate is full only while it plays. -/
theorem Receptive.playing_of_full (receptive : Receptive sink)
    (full : sink.gate.maxBytes ≤ sink.depth) :
    sink.gate.ready = true ∧ sink.queue.paused = false := by
  refine receptive.playing_of_ready ?_
  cases ready : sink.gate.ready with
  | true => rfl
  | false =>
    have room := receptive.room ready
    have exact := receptive.depth_of_closed ready
    omega

/-- A sink with room behind its gate does in every step what its thresholds are for. -/
theorem Receptive.responsive (receptive : Receptive sink)
    (handled : sink.Handles call answer next) :
    Responsive sink.gate.startBytes ⟨sink, call, answer, next⟩ where
  plays := by
    intro burst offered reached
    dsimp only at offered reached ⊢
    cases handled with
    | dropped full => exact receptive.playing_of_full full
    | waited _ waits =>
      refine receptive.playing_of_ready ?_
      cases ready : sink.gate.ready with
      | true => rfl
      | false =>
        have short := waits.resolve_left (ready ▸ Bool.false_ne_true)
        have below := receptive.below_of_closed ready short
        omega
    | started => exact ⟨rfl, rfl⟩
    | flushed | read | consumed => cases offered
  drops := by
    intro depth dropped
    dsimp only at dropped ⊢
    cases handled with
    | dropped full => exact receptive.playing_of_full full
    | waited | started | flushed | read | consumed => cases dropped

theorem Receptive.responsive_of_run (receptive : Receptive sink)
    (run : Run Handles sink steps final) :
    ∀ step ∈ steps, Responsive sink.gate.startBytes step := by
  obtain ⟨_, each⟩ := run.invariant
    (fun {before _ _ _} (known : Receptive before ∧ before.gate.startBytes = sink.gate.startBytes)
      handled => ⟨known.1.handles handled, handled.frame.2.2.1.trans known.2⟩) ⟨receptive, rfl⟩
  intro step member
  obtain ⟨⟨kept, level⟩, handled⟩ := each step member
  exact level ▸ kept.responsive handled

theorem Handles.eq_of_reset (handled : sink.Handles .reset answer next) :
    next = sink.reset.value := by
  cases handled
  rfl

/-- Whatever a sink was built around, a flush makes it as good as new. -/
theorem Built.responsive_of_flushed (built : Built sink) {earlier later : List SinkStep}
    {step : SinkStep} (run : Run Handles sink (earlier ++ step :: later) final)
    (flush : step.call = .reset) : ∀ other ∈ later, Responsive sink.gate.startBytes other := by
  obtain ⟨_, each⟩ := run.invariant
    (fun {before _ _ _} (known : Built before ∧ before.gate.startBytes = sink.gate.startBytes)
      handled => ⟨known.1.handles handled, handled.frame.2.2.1.trans known.2⟩) ⟨built, rfl⟩
  obtain ⟨⟨kept, level⟩, _⟩ := each step (List.mem_append_right _ List.mem_cons_self)
  obtain ⟨handled, rest⟩ := run.cut
  rw [flush] at handled
  rw [handled.eq_of_reset] at rest
  exact level ▸ kept.receptive_reset.responsive_of_run rest

/-- At the max threshold a sink that does not play stands still until it is flushed. -/
theorem Handles.stands_of_full (handled : sink.Handles call answer next)
    (full : sink.gate.maxBytes ≤ sink.depth) (held : sink.queue.paused = true)
    (kept : call ≠ .reset) :
    next.queue = sink.queue ∧ next.gate = sink.gate ∧
      ∀ burst, call = .render burst → answer = .rendered (.dropped sink.depth) := by
  have still (wanted : Nat) : (sink.queue.consume wanted).value.2 = sink.queue := by
    rw [Queue.consume_of_paused held, Logged.pure_value]
  cases handled with
  | dropped => exact ⟨rfl, rfl, fun _ _ => rfl⟩
  | waited room | started room => exact absurd room (Nat.not_lt.mpr full)
  | flushed => exact absurd rfl kept
  | read slots => exact ⟨still _, rfl, fun _ impossible => nomatch impossible⟩
  | consumed wanted => exact ⟨still _, rfl, fun _ impossible => nomatch impossible⟩

theorem stuck_of_full (run : Run Handles sink steps final)
    (full : sink.gate.maxBytes ≤ sink.depth) (closed : sink.gate.ready = false)
    (held : sink.queue.paused = true) (counted : sink.queue.bytes.length < Word.limit)
    {earlier later : List SinkStep} {step : SinkStep} (cut : steps = earlier ++ step :: later)
    (kept : ∀ other ∈ earlier, other.call ≠ .reset) {burst : Burst}
    (offered : step.call = .render burst) : Stuck sink.queue step := by
  induction earlier generalizing sink steps with
  | nil =>
    subst cut
    cases run with
    | cons handled _ =>
      dsimp only at offered
      have kept : _ ≠ SinkCall.reset := fun reset => nomatch offered.symm.trans reset
      obtain ⟨queue, gate, drops⟩ := handled.stands_of_full full held kept
      have exact : sink.depth = sink.queue.bytes.length := Nat.mod_eq_of_lt counted
      exact {
        dropped := exact ▸ drops burst offered
        closed := gate ▸ closed
        held := queue ▸ held
        waiting := congrArg Queue.bytes queue }
  | cons first earlier ih =>
    subst cut
    cases run with
    | cons handled run =>
      obtain ⟨queue, gate, _⟩ :=
        handled.stands_of_full full held (kept _ List.mem_cons_self)
      rw [← queue]
      refine ih run ?_ (gate ▸ closed) (queue ▸ held) (queue ▸ counted) rfl
        fun other member => kept other (List.mem_cons_of_mem _ member)
      rw [depth, gate, queue]
      exact full

/-- A sink around a stereo queue that may hold something already. If the queue stands below the max
threshold, every step of every run does what the thresholds are for. At the max threshold or above
every burst up to the first flush is dropped and nothing is played. After a flush all is well
again. -/
theorem responsive_unless_full (two : queue.format.channels = stereo)
    (counted : queue.bytes.length < Word.limit)
    (opened : (wrap queue thresholds).result = .ok sink) (calls : List SinkCall) :
    ∃ steps final, (performAll perform sink calls).result = .ok (steps, final) ∧
      steps.map Step.call = calls ∧
      (queue.bytes.length < sink.gate.maxBytes →
        ∀ step ∈ steps, Responsive sink.gate.startBytes step) ∧
      (sink.gate.maxBytes ≤ queue.bytes.length →
        ∀ earlier step later, steps = earlier ++ step :: later →
          (∀ other ∈ earlier, other.call ≠ .reset) →
          ∀ burst, step.call = .render burst → Stuck queue step) ∧
      ∀ earlier step later, steps = earlier ++ step :: later → step.call = .reset →
        ∀ other ∈ later, Responsive sink.gate.startBytes other := by
  have built := Built.of_wrap two opened
  obtain ⟨steps, final, ran, made, run⟩ := performAll_runs built.channels calls
  refine ⟨steps, final, ran, made, ?_, ?_, ?_⟩
  · intro room
    exact (Receptive.of_wrap two opened room).responsive_of_run run
  · intro full earlier step later cut kept burst offered
    obtain ⟨_, gate, levels, rfl⟩ := eq_of_wrap_eq_ok opened
    obtain ⟨_, _, _, rfl⟩ := (Gate.ofThresholds_eq_ok_iff _ _ _).mp levels
    have exact : queue.bytes.length % Word.limit = queue.bytes.length := Nat.mod_eq_of_lt counted
    have stuck := stuck_of_full run (Nat.le_trans full (Nat.le_of_eq exact.symm)) rfl rfl counted
      cut kept offered
    exact { stuck with }
  · rintro earlier step later rfl flush
    exact built.responsive_of_flushed run flush

/-- A queue that plays and holds so many bytes. -/
def prefilled (count : Nat) : Queue where
  format := ⟨44100, stereo, 16⟩
  bytes := List.replicate count 0
  paused := false

/-- A burst between takes and, after a flush, one that finds the queue empty. -/
def offersAround : List SinkCall :=
  [.consume 8, .render ⟨[1, 2], 1⟩, .read [0, 0], .reset, .render ⟨[3, 4], 1⟩]

/-- A queue above the start threshold, with a frame that is not complete, and a full one. -/
theorem responsive_unless_full_prefilled :
    (wrap (prefilled 41) {}).result =
        .ok ⟨{ prefilled 41 with paused := true }, .blank 16, ⟨false, 32, 80⟩⟩ ∧
      (∃ steps final,
        (performAll perform ⟨{ prefilled 41 with paused := true }, .blank 16, ⟨false, 32, 80⟩⟩
          offersAround).result = .ok (steps, final) ∧
        steps.map Step.call = offersAround ∧ ∀ step ∈ steps, Responsive 32 step) ∧
      (wrap (prefilled 80) {}).result =
        .ok ⟨{ prefilled 80 with paused := true }, .blank 16, ⟨false, 32, 80⟩⟩ ∧
      ∃ steps final,
        (performAll perform ⟨{ prefilled 80 with paused := true }, .blank 16, ⟨false, 32, 80⟩⟩
          offersAround).result = .ok (steps, final) ∧
        steps.map Step.call = offersAround ∧
        ∀ earlier step later, steps = earlier ++ step :: later →
          (∀ other ∈ earlier, other.call ≠ .reset) →
          ∀ burst, step.call = .render burst → Stuck (prefilled 80) step :=
  have between := responsive_unless_full rfl (by decide)
    (rfl : (wrap (prefilled 41) {}).result = _) offersAround
  have full := responsive_unless_full rfl (by decide)
    (rfl : (wrap (prefilled 80) {}).result = _) offersAround
  ⟨rfl, between.imp fun _ => Exists.imp fun _ known =>
      ⟨known.1, known.2.1, known.2.2.1 (by decide)⟩,
    rfl, full.imp fun _ => Exists.imp fun _ known =>
      ⟨known.1, known.2.1, known.2.2.2.1 (by decide)⟩⟩

/-- A sink is built around a full queue. The first burst is dropped, and the device is held back
with more than the start threshold in its queue. -/
theorem stuck_behind_full_queue :
    ∃ sink step,
      (wrap (prefilled 80) {}).result = .ok sink ∧ sink.gate.startBytes = 32 ∧
        (performAll perform sink [.render ⟨[1, 2], 1⟩]).result = .ok ([step], step.after) ∧
        step.answer = .rendered (.dropped 80) ∧ ¬Responsive 32 step ∧
        step.after.queue.bytes.length = 80 ∧ step.after.queue.paused = true :=
  ⟨_, ⟨_, _, _, _⟩, rfl, rfl, rfl, rfl,
    fun responsive => Bool.false_ne_true (responsive.drops 80 rfl).1, rfl, rfl⟩

end Sink

end PacingHost
