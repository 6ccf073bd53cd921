import PacingHost.Proofs.HostPause
import PacingHost.Proofs.InputBatches
import PacingHost.Proofs.SinkDepth
import PacingHost.Proofs.SinkOffers

/-! # When playback starts

What observers hear of a host, when its sound is turned and what is taken from its queue is kept in
one list of marks. Playback starts with a burst that crosses the start threshold, and not again
before the sound is turned; from there on nothing can be taken until it starts anew. `Playback` says
which lists of marks go this way, and every call of a host keeps to it, however often the queue runs
dry in between.
-/

namespace PacingHost

/-- A mark in the history of a host: a notice, a change of pause or synchronisation, or samples or
bytes that a consumer got. -/
inductive Mark where
  | heard (notice : Notice)
  | turned
  | took (count : Nat)
deriving DecidableEq, Repr

def Event.mark? : Event → Option Mark
  | .notice observed => some (.heard observed)
  | .syncToggled _ | .pauseToggled _ => some .turned
  | _ => none

/-- The marks that some events leave. -/
def marks (events : List Event) : List Mark := events.filterMap Event.mark?

theorem marks_append (first second : List Event) :
    marks (first ++ second) = marks first ++ marks second :=
  List.filterMap_append

/-- The marks that a consumer leaves. -/
def HostAnswer.takes : HostAnswer → List Mark
  | .filled count _ | .consumed count => [.took count]
  | .passed _ | .done | .handled _ => []

/-- Histories of a player that is playing or not before them and after them. It starts with a burst
that crosses the start threshold, and stops whenever the sound is turned. -/
inductive Playback (startBytes : Nat) : Bool → List Mark → Bool → Prop
  | nil (playing : Bool) : Playback startBytes playing [] playing
  | heard {playing last : Bool} {notice : Notice} {marks : List Mark}
      (other : ∀ queued, notice ≠ .soundReady queued)
      (later : Playback startBytes playing marks last) :
      Playback startBytes playing (.heard notice :: marks) last
  | started {last : Bool} {before after : Nat} {marks : List Mark} (below : before < startBytes)
      (reached : startBytes ≤ after) (later : Playback startBytes true marks last) :
      Playback startBytes false
        (.heard (.soundAdded before after) :: .heard (.soundReady after) :: marks) last
  | turned {playing last : Bool} {marks : List Mark}
      (later : Playback startBytes false marks last) : Playback startBytes playing (.turned :: marks) last
  | took {playing last : Bool} {count : Nat} {marks : List Mark}
      (held : playing = false → count = 0) (later : Playback startBytes playing marks last) :
      Playback startBytes playing (.took count :: marks) last

namespace Playback

variable {startBytes queued count : Nat} {playing middle last : Bool} {mark : Mark}
  {earlier between later : List Mark}

theorem append (first : Playback startBytes playing earlier middle)
    (second : Playback startBytes middle later last) :
    Playback startBytes playing (earlier ++ later) last := by
  induction first with
  | nil => exact second
  | heard other _ ih => exact .heard other (ih second)
  | started below reached _ ih => exact .started below reached (ih second)
  | turned _ ih => exact .turned (ih second)
  | took held _ ih => exact .took held (ih second)

/-- Other notices than starts leave the player as it is. -/
theorem of_others (playing : Bool) {notices : List Notice}
    (others : ∀ notice ∈ notices, ∀ queued, notice ≠ .soundReady queued) :
    Playback startBytes playing (notices.map .heard) playing := by
  induction notices with
  | nil => exact .nil playing
  | cons notice notices ih =>
    obtain ⟨first, rest⟩ := List.forall_mem_cons.mp others
    exact .heard first (ih rest)

/-- A history that is cut before a mark. Only a start cannot be told from the burst before it. -/
inductive Cut (startBytes : Nat) (playing : Bool) (earlier : List Mark) (mark : Mark)
    (later : List Mark) (last : Bool) : Prop
  | apart {middle : Bool} (first : Playback startBytes playing earlier middle)
      (rest : Playback startBytes middle (mark :: later) last) :
      Cut startBytes playing earlier mark later last
  | within {first : List Mark} {before queued : Nat} (start : mark = .heard (.soundReady queued))
      (same : earlier = first ++ [.heard (.soundAdded before queued)]) (below : before < startBytes)
      (reached : startBytes ≤ queued) (stopped : Playback startBytes playing first false)
      (rest : Playback startBytes true later last) : Cut startBytes playing earlier mark later last

theorem Cut.prepend {first : List Mark} (head : Playback startBytes playing first middle)
    (cut : Cut startBytes middle earlier mark later last) :
    Cut startBytes playing (first ++ earlier) mark later last := by
  cases cut with
  | apart next rest => exact .apart (head.append next) rest
  | within start same below reached stopped rest =>
    subst same
    exact .within start (List.append_assoc ..).symm below reached (head.append stopped) rest

/-- A first mark that stands alone can be cut off or belongs to the front. -/
theorem Cut.of_first {first : Mark} {marks : List Mark}
    (head : Playback startBytes playing [first] middle)
    (rest : Playback startBytes middle marks last)
    (cut : ∀ {earlier}, earlier ++ mark :: later = marks →
      Cut startBytes middle earlier mark later last)
    (all : earlier ++ mark :: later = first :: marks) :
    Cut startBytes playing earlier mark later last := by
  cases earlier with
  | nil =>
    cases all
    exact .apart (.nil _) (head.append rest)
  | cons _ earlier =>
    cases all
    exact (cut rfl).prepend head

theorem cut (plays : Playback startBytes playing (earlier ++ mark :: later) last) :
    Cut startBytes playing earlier mark later last := by
  generalize all : earlier ++ mark :: later = history at plays
  induction plays generalizing earlier with
  | nil =>
    have impossible := (List.append_eq_nil_iff.mp all).2
    cases impossible
  | heard other rest ih => exact .of_first (.heard other (.nil _)) rest ih all
  | turned rest ih => exact .of_first (.turned (.nil _)) rest ih all
  | took held rest ih => exact .of_first (.took held (.nil _)) rest ih all
  | started below reached rest ih =>
    match earlier with
    | [] =>
      cases all
      exact .apart (.nil _) (.started below reached rest)
    | [_] =>
      cases all
      exact .within rfl (List.nil_append _).symm below reached (.nil _) rest
    | _ :: _ :: earlier =>
      cases all
      exact (ih rfl).prepend (.started below reached (.nil _))

/-- The burst before a start crosses the threshold, and the player plays from there on. -/
theorem of_ready
    (plays : Playback startBytes playing (earlier ++ .heard (.soundReady queued) :: later) last) :
    ∃ first before, earlier = first ++ [.heard (.soundAdded before queued)] ∧
      before < startBytes ∧ startBytes ≤ queued ∧ Playback startBytes playing first false ∧
        Playback startBytes true later last := by
  cases plays.cut with
  | apart _ impossible =>
    cases impossible with
    | heard other => exact absurd rfl (other queued)
  | within start same below reached stopped rest =>
    cases start
    exact ⟨_, _, same, below, reached, stopped, rest⟩

/-- The player does not play once the sound was turned. -/
theorem of_turned (plays : Playback startBytes playing (earlier ++ .turned :: later) last) :
    Playback startBytes false later last := by
  cases plays.cut with
  | apart _ rest =>
    cases rest with
    | turned later => exact later
  | within impossible => cases impossible

theorem turned_of_stopped (plays : Playback startBytes playing between last)
    (before : playing = true) (after : last = false) : .turned ∈ between := by
  induction plays with
  | nil => cases before.symm.trans after
  | heard _ _ ih | took _ _ ih => exact List.mem_cons_of_mem _ (ih before after)
  | started => cases before
  | turned => exact List.mem_cons_self

theorem stopped_of_quiet (plays : Playback startBytes playing between last)
    (before : playing = false) (quiet : ∀ queued, .heard (.soundReady queued) ∉ between) : last = false := by
  induction plays with
  | nil => exact before
  | heard _ _ ih | took _ _ ih =>
    exact ih before fun queued member => quiet queued (List.mem_cons_of_mem _ member)
  | turned _ ih => exact ih rfl fun queued member => quiet queued (List.mem_cons_of_mem _ member)
  | started => exact absurd (List.mem_cons_of_mem _ List.mem_cons_self) (quiet _)

/-- A player that plays has to be turned before it can start again. -/
theorem turned_before_ready
    (plays : Playback startBytes true (between ++ .heard (.soundReady queued) :: later) last) :
    .turned ∈ between := by
  obtain ⟨first, before, rfl, _, _, stopped, _⟩ := plays.of_ready
  exact List.mem_append_left _ (stopped.turned_of_stopped rfl rfl)

/-- From a player that does not play nothing is taken before it starts. -/
theorem nothing_taken (plays : Playback startBytes false (between ++ .took count :: later) last)
    (quiet : ∀ queued, .heard (.soundReady queued) ∉ between) : count = 0 := by
  cases plays.cut with
  | apart first rest =>
    cases rest with
    | took held => exact held (first.stopped_of_quiet rfl quiet)
  | within impossible => cases impossible

end Playback

/-- What is left by the change from one configuration to another. -/
def turns (before after : Config) : List Mark :=
  (if before.noSync = after.noSync then [] else [.turned]) ++
    if before.paused = after.paused then [] else [.turned]

theorem turns_self (config : Config) : turns config config = [] := by
  rw [turns, if_pos rfl, if_pos rfl, List.append_nil]

theorem turned_mem_turns_iff (before after : Config) :
    .turned ∈ turns before after ↔
      before.paused ≠ after.paused ∨ before.noSync ≠ after.noSync := by
  by_cases synced : before.noSync = after.noSync <;>
    by_cases gated : before.paused = after.paused <;>
    simp [turns, synced, gated]

theorem not_turned_mem_heard (notices : List Notice) : .turned ∉ notices.map Mark.heard := by
  intro member
  obtain ⟨_, _, impossible⟩ := List.mem_map.mp member
  cases impossible

/-- A burst leaves the marks of what became of it. -/
theorem Sink.marks_offer (sink : Sink) (burst : Burst) :
    marks (sink.offer burst).events = (sink.offer burst).value.1.notices.map .heard :=
  (sink.heard_offer ⟨fun _ _ _ => rfl, fun _ _ => rfl, fun _ => rfl⟩ burst).trans
    (congrFun List.filterMap_eq_map _)

namespace Outputs

variable {width height : Nat} {outputs next final : Outputs} {service : Service}
  {services : List Service} {outcomes : List Drained}

theorem marks_perform (two : outputs.sink.format.channels = stereo)
    (ran : (outputs.perform width height service).result = .ok (outcomes, next)) :
    marks (outputs.perform width height service).events =
      (outcomes.flatMap Drained.notices).map .heard := by
  cases service with
  | upload pixels =>
    obtain ⟨screen, uploaded, ran⟩ := Report.result_bind_eq_ok_iff.mp ran
    cases ran
    rw [perform, (Report.bind_of_ok uploaded _).2]
    rfl
  | present =>
    cases ran
    rfl
  | render burst =>
    obtain ⟨⟨outcome, sink⟩, rendered, ran⟩ := Report.result_bind_eq_ok_iff.mp ran
    cases ran
    have offered : (outputs.sink.offer burst).value = (outcome, sink) := by
      rw [Sink.render_stereo two] at rendered
      exact Except.ok.inj rendered
    have marked := outputs.sink.marks_offer burst
    rw [offered] at marked
    rw [perform, (Report.bind_of_ok rendered _).2, Sink.render_stereo two, Report.events_lift,
      marks_append, marked, List.flatMap_singleton]
    exact List.append_nil _

theorem marks_performAll (two : outputs.sink.format.channels = stereo)
    (ran : (outputs.performAll width height services).result = .ok (outcomes, final)) :
    marks (outputs.performAll width height services).events =
      (outcomes.flatMap Drained.notices).map .heard := by
  induction services generalizing outputs outcomes with
  | nil =>
    cases ran
    rfl
  | cons service services ih =>
    obtain ⟨⟨first, middle⟩, made, ran⟩ := Report.result_bind_eq_ok_iff.mp ran
    obtain ⟨⟨rest, last⟩, later, ran⟩ := Report.result_bind_eq_ok_iff.mp ran
    cases ran
    have kept := (offered_of_perform two made).format
    rw [performAll, (Report.bind_of_ok made _).2]
    dsimp only
    rw [(Report.bind_of_ok later _).2, marks_append, marks_append, marks_perform two made,
      ih (kept ▸ two) later, List.flatMap_append, List.map_append]
    exact congrArg _ (List.append_nil _)

end Outputs

theorem marks_checkDelta (delta : Float) : marks (Host.checkDelta delta).events = [] := by
  unfold Host.checkDelta
  split <;> rfl

theorem Dispatched.marks_dispatchAll (bindings : Bindings) (state : Dispatched)
    (inputs : List Input) : marks (state.dispatchAll bindings inputs).events = [] :=
  unheard_dispatchAll (fun _ => rfl) bindings state inputs

namespace Queue

theorem marks_account (queue : Queue) (taken wanted : Nat) :
    marks (queue.account taken wanted).events = [] := by
  unfold account
  dsimp only
  split <;> rfl

theorem marks_consume (queue : Queue) (wanted : Nat) :
    marks (queue.consume wanted).events = [] := by
  unfold consume
  split
  · rfl
  · simp only [Logged.bind_events, Logged.pure_events, List.append_nil, marks_account]

theorem marks_read (queue : Queue) (slots : List UInt16) :
    marks (queue.read slots).events = [] := by
  unfold read
  split
  · rfl
  · simp only [Logged.bind_events, Logged.pure_events, List.append_nil, marks_account]

end Queue

theorem Sink.marks_consume (sink : Sink) (wanted : Nat) :
    marks (sink.consume wanted).events = [] := by
  simp only [consume, Logged.bind_events, Logged.pure_events, List.append_nil, Queue.marks_consume]

theorem Sink.marks_read (sink : Sink) (slots : List UInt16) :
    marks (sink.read slots).events = [] := by
  simp only [read, Logged.bind_events, Logged.pure_events, List.append_nil, Queue.marks_read]

namespace Host

variable {σ : Type} {host next : Host σ}

theorem marks_grant (wishes : List Wish) :
    marks (grant wishes).events = (wishes.filterMap Wish.notice?).map .heard := by
  rw [grant_events, marks, List.filterMap_map]
  exact congrFun List.filterMap_eq_map _

/-- Inputs are told of in three parts: unknown channels, wishes, and the configuration. -/
theorem handleInput_events [Engine σ] (host : Host σ) (inputs : List Input) :
    (host.handleInput inputs).events =
      (Dispatched.dispatchAll host.bindings { config := host.config } inputs).events ++
        ((grant (host.dispatched inputs).wishes).events ++
          (host.holding inputs).commitEvents (host.dispatched inputs).config) := by
  simp only [handleInput, commit_eq, Logged.bind_events, Logged.pure_events, List.append_nil]
  rfl

theorem marks_commitEvents (host : Host σ) (next : Config) :
    marks (host.commitEvents next) = turns host.config next := by
  simp only [commitEvents, turns, marks_append]
  split <;> split <;> split <;> rfl

/-- A step ends in a pause. -/
theorem marks_settledEvents (running : host.config.paused = false) :
    marks host.settledEvents = turns host.config host.settled.config := by
  unfold settledEvents settled
  split
  · simp only [turns, Config.afterStep, running, ↓reduceIte, Bool.false_eq_true]
    rfl
  · exact (turns_self _).symm

/-- Taking over a configuration stops the player if it turns the sound. -/
theorem plays_committed [Engine σ] (startBytes : Nat) (host : Host σ) (next : Config) :
    Playback startBytes host.sink.gate.ready (turns host.config next)
      (host.committed next).sink.gate.ready := by
  cases flushed : host.flushes next with
  | false =>
    obtain ⟨synced, gated⟩ := (host.flushes_eq_false_iff next).mp flushed
    have kept : (host.committed next).sink = host.sink := if_neg (flushed ▸ Bool.false_ne_true)
    rw [turns, if_pos synced, if_pos gated, kept]
    exact .nil _
  | true =>
    have reset : (host.committed next).sink = host.sink.reset.value := if_pos flushed
    rw [reset, turns]
    split
    · next synced =>
      split
      · next gated =>
        have kept := (host.flushes_eq_false_iff next).mpr ⟨synced, gated⟩
        exact absurd (kept.symm.trans flushed) Bool.false_ne_true
      · exact .turned (.nil _)
    · split
      · exact .turned (.nil _)
      · exact .turned (.turned (.nil _))

theorem sink_settled_regular (host : Host σ) (regular : host.sink.Regular) :
    host.settled.sink.Regular ∧
      host.settled.sink.gate.startBytes = host.sink.gate.startBytes := by
  unfold settled
  split
  · exact ⟨regular.handles .flushed, rfl⟩
  · exact ⟨regular, rfl⟩

theorem plays_settled (startBytes : Nat) (running : host.config.paused = false) :
    Playback startBytes host.sink.gate.ready (turns host.config host.settled.config)
      host.settled.sink.gate.ready := by
  unfold settled
  split
  · simp only [turns, Config.afterStep, running, ↓reduceIte, Bool.false_eq_true]
    exact .turned (.nil _)
  · rw [turns_self]
    exact .nil _

end Host

namespace Sink

variable {sink next final : Sink} {burst : Burst} {bursts : List Burst} {outcome : Drained}
  {outcomes : List Drained}

/-- A burst that starts playback crosses the threshold, and no other notice tells of a start. -/
theorem Handles.plays (regular : Regular sink)
    (handled : sink.Handles (.render burst) (.rendered outcome) next) :
    Playback sink.gate.startBytes sink.gate.ready (outcome.notices.map .heard) next.gate.ready := by
  have crosses {before after : Nat} (rendered : outcome = .queued before after true) :=
    handled.crosses regular (congrArg SinkAnswer.rendered rendered)
  cases handled with
  | dropped => exact .nil _
  | waited => exact .heard (fun _ impossible => nomatch impossible) (.nil _)
  | started room closed reached =>
    obtain ⟨below, reached⟩ := crosses rfl
    rw [closed]
    exact .started below reached (.nil _)

theorem Offered.plays (offered : Offered sink bursts outcomes final) (regular : Regular sink) :
    Playback sink.gate.startBytes sink.gate.ready ((outcomes.flatMap Drained.notices).map .heard)
        final.gate.ready ∧
      Regular final ∧ final.gate.startBytes = sink.gate.startBytes := by
  induction offered with
  | nil => exact ⟨.nil _, regular, rfl⟩
  | cons handled _ ih =>
    obtain ⟨plays, kept, same⟩ := ih (regular.handles handled)
    have level := handled.frame.2.2.1
    rw [List.flatMap_cons, List.map_append]
    exact ⟨(handled.plays regular).append (level ▸ plays), kept, same.trans level⟩

/-- From a sink that is not ready nothing is due. -/
theorem Regular.due_of_closed (regular : Regular sink) (closed : sink.gate.ready = false)
    (wanted : Nat) : sink.queue.due wanted = 0 := by
  have playing := regular.playing
  rw [closed] at playing
  exact Queue.due_of_paused (Bool.not_eq_eq_eq_not.mp playing.symm) wanted

end Sink

namespace Host

variable {σ : Type} [Engine σ] {host next final : Host σ} {call : HostCall} {answer : HostAnswer}
  {calls : List HostCall} {steps : List (Step (Host σ) HostCall HostAnswer)} {patience : Nat}

/-- The marks of one call of such patience: those of its reports, and what a consumer got. -/
def marksOf (patience : Nat) (step : Step (Host σ) HostCall HostAnswer) : List Mark :=
  marks (step.before.performWithin patience step.call).events ++ step.answer.takes

/-- How a call goes on with the history of a host. -/
structure Continues (patience : Nat) (step : Step (Host σ) HostCall HostAnswer) : Prop where
  turns : ∃ heard : List Notice, marks (step.before.performWithin patience step.call).events =
    heard.map .heard ++ PacingHost.turns step.before.config step.after.config
  plays : Playback step.before.sink.gate.startBytes step.before.sink.gate.ready
    (marksOf patience step) step.after.sink.gate.ready
  regular : step.after.sink.Regular
  level : step.after.sink.gate.startBytes = step.before.sink.gate.startBytes

/-- A turn is marked where the configuration came to differ. -/
theorem Continues.turned_iff {step : Step (Host σ) HostCall HostAnswer}
    (continued : Continues patience step) :
    .turned ∈ marksOf patience step ↔
      step.before.config.paused ≠ step.after.config.paused ∨
        step.before.config.noSync ≠ step.after.config.noSync := by
  obtain ⟨heard, marked⟩ := continued.turns
  have quiet : .turned ∉ step.answer.takes := by
    cases step.answer <;> simp [HostAnswer.takes]
  rw [← turned_mem_turns_iff, marksOf, marked, List.mem_append, List.mem_append]
  have silent := not_turned_mem_heard heard
  simp only [silent, quiet, false_or, or_false]

theorem sink_committed_regular (regular : host.sink.Regular) (next : Config) :
    (host.committed next).sink.Regular ∧
      (host.committed next).sink.gate.startBytes = host.sink.gate.startBytes := by
  unfold committed
  dsimp only
  split
  · exact ⟨regular.handles .flushed, rfl⟩
  · exact ⟨regular, rfl⟩

/-- A pass is heard of burst by burst, and ends a step. -/
theorem Passed.continues {delta : Float} {answers : List (Answer × σ)} {outcomes : List Drained}
    {outputs : Outputs} (regular : host.sink.Regular)
    (passed : host.Passed delta answers outcomes outputs) (patient : answers.length ≤ patience)
    (stats : PassStats)
    (events : (host.performWithin patience (.pass delta)).events =
      (host.passWithin patience delta).events) :
    Continues patience ⟨host, .pass delta, .passed stats, host.afterPass answers outputs⟩ := by
  have two := regular.channels
  have running : (host.moved ((answers.map Prod.snd).getLastD host.engine)
      outputs).config.paused = false := passed.running
  have offered : host.sink.Offered _ outcomes outputs.sink :=
    Outputs.offered_of_performAll two passed.served
  obtain ⟨plays, kept, level⟩ := offered.plays regular
  obtain ⟨still, same⟩ := sink_settled_regular
    (host.moved ((answers.map Prod.snd).getLastD host.engine) outputs) kept
  have marked : marks (host.performWithin patience (.pass delta)).events =
      (outcomes.flatMap Drained.notices).map .heard ++
        PacingHost.turns host.config (host.afterPass answers outputs).config := by
    rw [events, events_of_passed passed patient, marks_append, marks_append, marks_append,
      marks_checkDelta, Outputs.marks_performAll two passed.served]
    rw [List.nil_append]
    exact congrArg _ ((List.append_nil _).trans (marks_settledEvents running))
  exact {
    turns := ⟨_, marked⟩
    plays := by
      rw [marksOf, marked, HostAnswer.takes, List.append_nil]
      exact plays.append (plays_settled _ running)
    regular := still
    level := same.trans level }

/-- No wish starts playback. -/
theorem quiet_of_wish {wishes : List Wish} :
    ∀ notice ∈ wishes.filterMap Wish.notice?, ∀ queued, notice ≠ .soundReady queued := by
  intro notice member queued
  obtain ⟨wish, _, told⟩ := List.mem_filterMap.mp member
  cases wish <;> cases told <;> exact Notice.noConfusion

/-- A configuration is taken over after some wishes were heard. -/
theorem continues_committed (regular : host.sink.Regular) (wishes : List Wish) {config : Config}
    (sink : next.sink = (host.committed config).sink) (taken : next.config = config)
    (marked : marks (host.performWithin patience call).events =
      (wishes.filterMap Wish.notice?).map .heard ++ PacingHost.turns host.config config)
    (takes : answer.takes = []) : Continues patience ⟨host, call, answer, next⟩ := by
  obtain ⟨still, same⟩ := sink_committed_regular regular config
  subst taken
  exact {
    turns := ⟨_, marked⟩
    plays := by
      rw [marksOf, marked, takes, List.append_nil, sink]
      exact (Playback.of_others _ quiet_of_wish).append (host.plays_committed _ next.config)
    regular := sink ▸ still
    level := (congrArg (fun sink => sink.gate.startBytes) sink).trans same }

/-- Consumers get something only from a host that plays. -/
theorem continues_taken (regular : host.sink.Regular) {wanted count : Nat}
    (queue : next.sink = { host.sink with queue := (host.sink.queue.consume wanted).value.2 })
    (config : next.config = host.config)
    (marked : marks (host.performWithin patience call).events = [])
    (takes : answer.takes = [.took count]) (bounded : count ≤ host.sink.queue.due wanted) :
    Continues patience ⟨host, call, answer, next⟩ where
  turns := ⟨[], by rw [marked, config, turns_self]; rfl⟩
  plays := by
    rw [marksOf, marked, takes, queue]
    refine .took (fun closed => ?_) (.nil _)
    rw [regular.due_of_closed closed] at bounded
    exact Nat.le_zero.mp bounded
  regular := queue ▸ regular.taken wanted
  level := by rw [queue]

/-- A call that says nothing and leaves sound and configuration alone. -/
theorem continues_still (regular : host.sink.Regular) (sink : next.sink = host.sink)
    (config : next.config = host.config)
    (marked : marks (host.performWithin patience call).events = [])
    (takes : answer.takes = []) : Continues patience ⟨host, call, answer, next⟩ where
  turns := ⟨[], by rw [marked, config, turns_self]; rfl⟩
  plays := by
    rw [marksOf, marked, takes, sink]
    exact .nil _
  regular := sink ▸ regular
  level := by rw [sink]

/-- Every call goes on with the history. -/
theorem continues_of_perform (regular : host.sink.Regular)
    (ran : (host.performWithin patience call).result = .ok (answer, next)) :
    Continues patience ⟨host, call, answer, next⟩ := by
  cases call with
  | pass delta =>
    obtain ⟨⟨stats, ended⟩, made, ran⟩ := Report.result_bind_eq_ok_iff.mp ran
    cases ran
    have events : (host.performWithin patience (.pass delta)).events =
        (host.passWithin patience delta).events := by
      rw [performWithin, (Report.bind_of_ok made _).2]
      exact List.append_nil _
    rcases passed_of_passWithin made with
      ⟨paused, rfl, rfl⟩ | ⟨answers, outcomes, outputs, passed, patient, rfl, rfl⟩
    · refine continues_still regular rfl rfl ?_ rfl
      rw [events, passWithin_paused paused]
      rfl
    · exact passed.continues regular patient _ events
  | commit config =>
    have events : (host.performWithin patience (.commit config)).events =
        host.commitEvents config := by
      rw [performWithin, (Report.bind_of_lift _ _).2, commit_eq]
      exact List.append_nil _
    cases (performWithin_commit patience host config).symm.trans ran
    have marked := events ▸ host.marks_commitEvents config
    exact continues_committed regular [] rfl rfl marked rfl
  | input inputs =>
    cases (performWithin_input patience host inputs).symm.trans ran
    have marked : marks (host.performWithin patience (.input inputs)).events =
        ((host.dispatched inputs).wishes.filterMap Wish.notice?).map .heard ++
          PacingHost.turns host.config (host.dispatched inputs).config := by
      rw [performWithin, (Report.bind_of_lift _ _).2, handleInput_events, marks_append, marks_append,
        marks_append, Dispatched.marks_dispatchAll, marks_grant, marks_commitEvents]
      exact List.append_nil _
    exact continues_committed regular _ rfl rfl marked rfl
  | bindPress key action | bindHold key action =>
    cases ran
    exact continues_still regular rfl rfl rfl rfl
  | read slots =>
    have marked : marks (host.performWithin patience (.read slots)).events = [] := by
      rw [performWithin, (Report.bind_of_lift _ _).2, marks_append, Sink.marks_read]
      rfl
    have took : (host.sink.queue.read slots).value.1 = host.sink.queue.due (2 * slots.length) / 2 :=
      congrArg Prod.fst (host.sink.queue.read_spec slots)
    cases ran
    refine continues_taken regular ?_ rfl marked rfl
      (Nat.le_trans (Nat.le_of_eq took) (Nat.div_le_self ..))
    rw [← host.sink.queue.queue_read slots]
  | consume wanted =>
    have marked : marks (host.performWithin patience (.consume wanted)).events = [] := by
      rw [performWithin, (Report.bind_of_lift _ _).2, marks_append, Sink.marks_consume]
      rfl
    cases ran
    exact continues_taken regular rfl rfl marked rfl
      (Nat.le_of_eq (host.sink.queue.consume_spec wanted).1)

/-- The marks of a run of such patience, in order. -/
def history (patience : Nat) (steps : List (Step (Host σ) HostCall HostAnswer)) : List Mark :=
  steps.flatMap (marksOf patience)

/-- A whole run is one history of the player. -/
theorem plays_of_performAll (regular : host.sink.Regular)
    (ran : (performAll (performWithin patience) host calls).result = .ok (steps, final)) :
    Playback host.sink.gate.startBytes host.sink.gate.ready (history patience steps)
        final.sink.gate.ready ∧
      ∀ step ∈ steps, Continues patience step := by
  induction calls generalizing host steps with
  | nil =>
    cases ran
    exact ⟨.nil _, fun _ absent => absurd absent List.not_mem_nil⟩
  | cons call calls ih =>
    obtain ⟨answer, next, rest, made, ranRest, rfl⟩ := performAll_cons_eq_ok_iff.mp ran
    have first := continues_of_perform regular made
    obtain ⟨later, each⟩ := ih first.regular ranRest
    refine ⟨?_, List.forall_mem_cons.mpr ⟨first, each⟩⟩
    exact first.plays.append (first.level ▸ later)

/-- In every run of a host that was built with a software queue, whose calls returned with whatever
patience their passes had, playback starts at most once for each time the sound is turned. A step
turns it if the configuration came to differ in pause or synchronisation. Between two starts the
sound was turned; each start directly follows the burst that crosses the start threshold; and from a
turn up to the next start consumers get nothing. -/
theorem playback_starts_once {setup : Setup} {engine : σ} {screen : Screen}
    (built : (build setup engine .software screen).result = .ok host)
    (ran : (performAll (performWithin patience) host calls).result = .ok (steps, final)) :
    (∀ step ∈ steps, .turned ∈ marksOf patience step ↔
      step.before.config.paused ≠ step.after.config.paused ∨
        step.before.config.noSync ≠ step.after.config.noSync) ∧
    (∀ earlier queued between again later,
      history patience steps =
        earlier ++ .heard (.soundReady queued) :: (between ++ .heard (.soundReady again) :: later) →
      .turned ∈ between) ∧
    (∀ earlier queued later,
      history patience steps = earlier ++ .heard (.soundReady queued) :: later →
      ∃ first before, earlier = first ++ [.heard (.soundAdded before queued)] ∧
        before < host.sink.gate.startBytes ∧ host.sink.gate.startBytes ≤ queued) ∧
    ∀ earlier between count later,
      history patience steps = earlier ++ .turned :: (between ++ .took count :: later) →
      (∀ queued, .heard (.soundReady queued) ∉ between) → count = 0 := by
  obtain ⟨_, sink, opened, rfl⟩ := (build_eq_ok_iff ..).mp built
  obtain ⟨plays, each⟩ := plays_of_performAll (Sink.Regular.of_software opened).1 ran
  refine ⟨?_, ?_, ?_, ?_⟩
  · intro step member
    exact (each step member).turned_iff
  · intro earlier queued between again later split
    obtain ⟨_, _, _, _, _, _, playing⟩ := (split ▸ plays).of_ready
    exact playing.turned_before_ready
  · intro earlier queued later split
    obtain ⟨first, before, same, below, reached, _⟩ := (split ▸ plays).of_ready
    exact ⟨first, before, same, below, reached⟩
  · intro earlier between count later split quiet
    exact (split ▸ plays).of_turned.nothing_taken quiet

/-- An engine that makes four bursts in each of its drives. -/
def eightBursts : Script 2 2 := { fourBursts with answers := [2, 2, 3, 6, 2, 2, 2, 6] }

/-- Playback starts, the sound is turned with synchronisation, and playback starts again; consumers
ask before, between and after. -/
def turnedOnce : List HostCall :=
  [.read [0, 0], .pass 10.0, .read [0, 0], .consume 99, .commit { noSync := true }, .consume 8,
    .pass 16.0, .consume 8]

theorem playback_starts_once_again :
    ∃ host steps final,
      (build { audioFrames := 4 } eightBursts .software {}).result = .ok host ∧
        (performAll (performWithin 4) host turnedOnce).result = .ok (steps, final) ∧
        (∀ step ∈ steps, .turned ∈ marksOf 4 step ↔
          step.before.config.paused ≠ step.after.config.paused ∨
            step.before.config.noSync ≠ step.after.config.noSync) ∧
        (∀ earlier queued between again later,
          history 4 steps = earlier ++
            .heard (.soundReady queued) :: (between ++ .heard (.soundReady again) :: later) →
          .turned ∈ between) ∧
        (∀ earlier queued later,
          history 4 steps = earlier ++ .heard (.soundReady queued) :: later →
          ∃ first before, earlier = first ++ [.heard (.soundAdded before queued)] ∧
            before < 64 ∧ 64 ≤ queued) ∧
        ∀ earlier between count later,
          history 4 steps = earlier ++ .turned :: (between ++ .took count :: later) →
          (∀ queued, .heard (.soundReady queued) ∉ between) → count = 0 :=
  ⟨_, _, _, rfl, rfl, playback_starts_once
    (rfl : (build { audioFrames := 4 } eightBursts .software {}).result = _)
    (rfl : (performAll (performWithin 4) _ turnedOnce).result = _)⟩

end Host

end PacingHost
