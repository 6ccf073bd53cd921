import PacingHost.Proofs.HostRun
import PacingHost.Proofs.SinkDepth
import PacingHost.Proofs.SinkOffers
import PacingHost.Proofs.ToneCounts

/-! # How far an unplayed host fills its queue

A tone engine fills its sound buffer again and again, and a host offers each burst to its sink.
While nobody takes anything from the queue, all that becomes of the bursts can be told from how many
there were: the queue grows by one burst at a time up to the max threshold, playback starts with the
burst that reaches the start threshold, and what comes later is dropped. A buffer of the device
holds two bursts, so both thresholds count twice. `Sink.Filled` says this of the sink and
`Host.Unplayed` of the host; passes keep it, however the time is split up into them.
-/

namespace PacingHost

/-- A burst of that many frames, as it is told and as its data has them. -/
structure Burst.Holds (burst : Burst) (frames : Nat) : Prop where
  told : burst.frames = frames
  size : burst.data.length = 2 * frames

namespace Sink

variable {sink next final : Sink} {frames low high count : Nat} {burst : Burst}
  {bursts : List Burst} {outcome : Drained} {outcomes : List Drained}

/-- A sink that starts at `low` bursts and drops at `high`, to which so many were offered while
nobody took anything from its queue. -/
structure Filled (frames low high count : Nat) (sink : Sink) : Prop where
  regular : Regular sink
  positive : 0 < frames
  capacity : sink.staging.capacity = 8 * frames
  start : sink.gate.startBytes = 4 * frames * low
  max : sink.gate.maxBytes = 4 * frames * high
  bytes : sink.queue.bytes.length = 4 * frames * Min.min count high
  ready : sink.gate.ready = true ↔ low ≤ count

/-- What waits is at most the max threshold, so it can be counted. -/
theorem Filled.depth (filled : Filled frames low high count sink) :
    sink.depth = 4 * frames * min count high := by
  have least : 4 * frames * min count high ≤ 4 * frames * high :=
    Nat.mul_le_mul_left _ (Nat.min_le_right ..)
  have counted := filled.regular.counted
  rw [filled.max] at counted
  change sink.queue.bytes.length % Word.limit = _
  rw [filled.bytes]
  exact Nat.mod_eq_of_lt (Nat.lt_of_le_of_lt least counted)

theorem Filled.unit (filled : Filled frames low high count sink) : 0 < 4 * frames :=
  Nat.mul_pos (by decide) filled.positive

theorem Filled.room_iff (filled : Filled frames low high count sink) :
    sink.depth < sink.gate.maxBytes ↔ count < high := by
  rw [filled.depth, filled.max, Nat.mul_lt_mul_left filled.unit]
  omega

/-- The staging buffer takes such a burst in full. -/
theorem Filled.length_widen (filled : Filled frames low high count sink)
    (holds : burst.Holds frames) : (sink.widen burst).length = 4 * frames := by
  have frames := holds.told
  have data := holds.size
  rw [Sink.length_widen, filled.capacity, Burst.fitting, stereoFrame_eq, toNat_stereo]
  omega

/-- A burst below the max threshold makes the queue one burst deeper. -/
theorem Filled.pushed (filled : Filled frames low high count sink) (holds : burst.Holds frames)
    (room : count < high) :
    sink.depthWith burst = 4 * frames * (count + 1) ∧
      (sink.pushed burst).queue.bytes.length = 4 * frames * Min.min (count + 1) high := by
  have size := filled.length_widen holds
  have depth := filled.depth
  have bytes := filled.bytes
  have more : 4 * frames * (count + 1) ≤ 4 * frames * high := Nat.mul_le_mul_left _ room
  have counted := filled.regular.counted
  rw [filled.max] at counted
  rw [Nat.min_eq_left (Nat.le_of_lt room)] at depth bytes
  rw [Nat.min_eq_left room]
  rw [Nat.mul_succ] at more ⊢
  constructor
  · rw [Sink.depthWith, Gate.depthAfter, depth, size, Nat.mod_eq_of_lt (by omega)]
    omega
  · rw [Sink.pushed, List.length_append, bytes, size]

/-- Every burst that is offered fills the sink further. -/
theorem Filled.handles (filled : Filled frames low high count sink) (holds : burst.Holds frames)
    (handled : sink.Handles (.render burst) (.rendered outcome) next) :
    Filled frames low high (count + 1) next := by
  have regular := filled.regular.handles handled
  have kept := filled.ready
  have ordered := filled.regular.ordered
  rw [filled.start, filled.max, Nat.mul_le_mul_left_iff filled.unit] at ordered
  cases handled with
  | dropped full =>
    have full : high ≤ count := by
      rw [← Nat.not_lt, ← filled.room_iff, Nat.not_lt]
      exact full
    have same : min count high = min (count + 1) high := by omega
    exact { filled with
      regular
      bytes := same ▸ filled.bytes
      ready := kept.trans (by omega) }
  | waited room waits =>
    obtain ⟨depth, bytes⟩ := filled.pushed holds (filled.room_iff.mp room)
    rw [depth, filled.start, Nat.mul_lt_mul_left filled.unit, kept] at waits
    exact { filled with
      regular
      bytes
      ready := kept.trans (by omega) }
  | started room closed reached =>
    obtain ⟨depth, bytes⟩ := filled.pushed holds (filled.room_iff.mp room)
    rw [depth, filled.start, Nat.mul_le_mul_left_iff filled.unit] at reached
    exact { filled with
      regular
      bytes
      ready := ⟨fun _ => reached, fun _ => rfl⟩ }

/-- A burst is queued when the queue stands below the max threshold. -/
theorem Handles.queued_iff (handled : sink.Handles (.render burst) (.rendered outcome) next) :
    outcome.isQueued = true ↔ sink.depth < sink.gate.maxBytes := by
  cases handled with
  | dropped full =>
    constructor
    · intro impossible
      cases impossible
    · intro room
      exact absurd full (Nat.not_le.mpr room)
  | waited room | started room => exact ⟨fun _ => room, fun _ => rfl⟩

/-- How far some bursts more bring a sink to which so many were offered: each is queued below the
max threshold and dropped from there on, and the one that reaches the start threshold starts
playback. -/
structure Fills (frames low high count : Nat) (outcomes : List Drained) (final : Sink) : Prop where
  filled : Filled frames low high (count + outcomes.length) final
  queued : outcomes.countP Drained.isQueued + min count high = min (count + outcomes.length) high
  starts : outcomes.countP Drained.starts + (if low ≤ count then 1 else 0) =
    if low ≤ count + outcomes.length then 1 else 0

theorem Filled.fills (filled : Filled frames low high count sink) (holds : burst.Holds frames)
    (handled : sink.Handles (.render burst) (.rendered outcome) next) :
    Fills frames low high count [outcome] next := by
  have grown := filled.handles holds handled
  have queued := handled.queued_iff.trans filled.room_iff
  have starts := handled.starts_iff rfl
  rw [← Bool.not_eq_true, filled.ready, grown.ready] at starts
  refine ⟨grown, ?_, ?_⟩ <;> rw [List.countP_singleton, List.length_singleton]
  · simp only [queued]
    split <;> omega
  · simp only [starts]
    grind

theorem Fills.append {middle : Sink} {more : List Drained}
    (first : Fills frames low high count outcomes middle)
    (second : Fills frames low high (count + outcomes.length) more final) :
    Fills frames low high count (outcomes ++ more) final := by
  obtain ⟨filled, queued, starts⟩ := second
  rw [Nat.add_assoc, ← List.length_append] at filled queued starts
  exact {
    filled
    queued := by rw [List.countP_append, ← queued, ← first.queued]; omega
    starts := by rw [List.countP_append, ← starts, ← first.starts]; omega }

theorem Filled.offered (filled : Filled frames low high count sink)
    (holds : ∀ burst ∈ bursts, burst.Holds frames)
    (offered : Offered sink bursts outcomes final) :
    Fills frames low high count outcomes final := by
  induction offered generalizing count with
  | nil => exact ⟨filled, Nat.zero_add _, Nat.zero_add _⟩
  | cons handled _ ih =>
    obtain ⟨holdsFirst, holdsLater⟩ := List.forall_mem_cons.mp holds
    have first := filled.fills holdsFirst handled
    exact first.append (ih first.filled holdsLater)

/-- A sink that was opened with a software queue starts at two bursts for each buffer of its start
threshold. -/
theorem Filled.of_software {request : Request} {thresholds : Thresholds}
    (opened : (ofRequest .software request thresholds).result = .ok sink) :
    Filled request.frames.toNat (2 * thresholds.start.toNat) (2 * thresholds.max.toNat) 0 sink := by
  obtain ⟨format, two, size, wrapped⟩ := wrap_of_software opened
  have regular := Regular.of_wrap rfl two wrapped
  obtain ⟨nonzero, gate, levels, rfl⟩ := eq_of_wrap_eq_ok wrapped
  obtain ⟨least, _, _, rfl⟩ := (Gate.ofThresholds_eq_ok_iff _ _ _).mp levels
  have least : 0 < thresholds.start.toNat := UInt32.lt_iff_toNat_lt.mp least
  have level (buffers : Nat) : buffers * format.bufferSize.toNat =
      4 * request.frames.toNat * (2 * buffers) := by
    have double : format.bufferSize.toNat = 4 * request.frames.toNat * 2 := by omega
    rw [Nat.mul_comm, double, Nat.mul_assoc]
  have positive : 0 < request.frames.toNat := by
    have filled : 0 < thresholds.start.toNat * format.bufferSize.toNat := regular.positive
    have := Nat.pos_of_mul_pos_left filled
    omega
  exact {
    regular
    positive
    capacity := regular.capacity.trans size
    start := level _
    max := level _
    bytes := by
      rw [Nat.zero_min]
      rfl
    ready := by
      constructor
      · intro impossible
        cases impossible
      · intro small
        omega }

end Sink

namespace Tone

variable {tone : Tone} {pad : Option Pad} {target : Nat} {answers : List (Answer × Tone)}

/-- A drive gives answers, also to a target that lies behind. -/
theorem Regular.answers_exist_anyway (regular : Regular tone) (pad : Option Pad) (target : Nat) :
    ∃ answers, Engine.Answers pad target tone answers := by
  rcases Nat.lt_or_ge tone.cycles target with behind | passed
  · obtain ⟨answers, given, _⟩ := regular.answers_exist pad behind
    exact ⟨answers, given⟩
  · exact ⟨_, .last (runOn_of_reached (tone.emptied_frame.1 ▸ passed)) rfl⟩

/-- Every answer but the last uses up something that is due before the target. -/
theorem Regular.length_answers_le (regular : Regular tone)
    (given : Engine.Answers pad target tone answers) :
    answers.length ≤ tone.remaining target + 1 := by
  induction given with
  | last => exact Nat.le_add_left 1 _
  | @more tone next answer rest ran going later ih =>
    rcases Nat.lt_or_ge tone.cycles target with behind | passed
    · obtain ⟨_, _, same, towards⟩ := regular.run_towards pad behind
      cases ran.symm.trans same
      have fewer := (towards.going going).2
      rw [remaining_emptied] at fewer
      have few := ih towards.regular
      rw [List.length_cons]
      omega
    · have same : Engine.run pad target tone = _ :=
        runOn_of_reached (tone.emptied_frame.1 ▸ passed)
      cases ran.symm.trans same
      cases going

/-- The bursts that such answers bring are those of full sound buffers. -/
theorem Made.holds {final : Tone} (made : Made tone answers final) {burst : Burst}
    (brought : burst ∈ burstsOf answers) : burst.Holds tone.bufferFrames := by
  obtain ⟨answer, member, rfl⟩ := List.mem_map.mp brought
  obtain ⟨member, sound⟩ := List.mem_filter.mp member
  have size : answer.2.sound.toList.length = 2 * tone.bufferFrames :=
    made.sizes answer member sound
  refine ⟨?_, size⟩
  change answer.2.sound.toList.length / stereo.toNat = _
  rw [size, toNat_stereo, Nat.mul_div_cancel_left _ (by decide)]

end Tone

/-- What answers ask to be rendered is their bursts. -/
theorem filterMap_burst_services {σ : Type} [Engine σ] (answers : List (Answer × σ)) :
    (answers.flatMap Answer.services).filterMap Service.burst? = burstsOf answers := by
  induction answers with
  | nil => rfl
  | cons answer answers ih =>
    rw [List.flatMap_cons, List.filterMap_append, ih]
    obtain ⟨⟨picture, sound, reached⟩, engine⟩ := answer
    cases picture <;> cases sound <;> rfl

/-- What some passes count together. -/
def PassStats.total (count : PassStats → Nat) : List PassStats → Nat
  | [] => 0
  | stats :: passes => count stats + total count passes

namespace Host

/-- No pass of a run has more answers than a drive has patience for. -/
def Patient {σ : Type} [Engine σ] : Host σ → List Float → Prop
  | _, [] => True
  | host, delta :: deltas =>
    (∀ answers, Engine.Answers (some host.pad) (host.target (checkDelta delta).value) host.engine
      answers → answers.length < Word.limit) ∧
      ∀ stats next, (host.pass delta).result = .ok (stats, next) → Patient next deltas

variable {host next final : Host Tone} {frames low high : Nat}

/-- A host of a tone engine that runs freely, and whose queue holds what the engine made. -/
structure Unplayed (frames low high : Nat) (host : Host Tone) : Prop where
  regular : host.engine.Regular
  filling : host.engine.Filling
  size : host.engine.bufferFrames = frames
  running : host.config.paused = false
  free : host.config.step = false
  sink : host.sink.Filled frames low high host.engine.bursts

/-- What became of the bursts that the engine made on the way from one such host to another. -/
structure Fills (frames low high : Nat) (host : Host Tone) (outcomes : List Drained)
    (events : List Event) (next : Host Tone) : Prop where
  unplayed : Unplayed frames low high next
  made : next.engine.bursts = host.engine.bursts + outcomes.length
  sink : Sink.Fills frames low high host.engine.bursts outcomes next.sink
  notices : PacingHost.notices events = outcomes.flatMap Drained.notices

variable {delta : Float} {outcomes more : List Drained} {events later : List Event}

/-- A pass keeps the host unplayed and offers every burst that the engine fills. -/
theorem Unplayed.pass (unplayed : Unplayed frames low high host)
    (patient : ∀ answers, Engine.Answers (some host.pad) (host.target (checkDelta delta).value)
      host.engine answers → answers.length < Word.limit) :
    ∃ outcomes stats next, (host.pass delta).result = .ok (stats, next) ∧
      stats.queued = outcomes.countP Drained.isQueued ∧
      stats.queued + stats.dropped = outcomes.length ∧
      Fills frames low high host outcomes (host.pass delta).events next := by
  obtain ⟨answers, given⟩ :=
    unplayed.regular.answers_exist_anyway (some host.pad) (host.target (checkDelta delta).value)
  have made := unplayed.regular.attended_counts unplayed.filling given.attended
  have two := unplayed.sink.regular.channels
  obtain ⟨stats, next, outcomes, outputs, ran, accounted⟩ :=
    pass_accounts unplayed.running two (by decide) given (patient answers given)
  -- The sink has seen the bursts of the answers, each as long as the sound buffer.
  have offered : host.sink.Offered _ outcomes outputs.sink :=
    Outputs.offered_of_performAll two accounted.served
  rw [filterMap_burst_services] at offered
  have fills := unplayed.sink.offered
    (fun burst brought => unplayed.size ▸ made.holds brought) offered
  have bursts := made.bursts
  rw [← accounted.rendered] at bursts
  -- Without a step nothing happens after the last answer.
  have ended : next = host.moved _ outputs :=
    accounted.settled.trans (if_neg (Bool.eq_false_iff.mp unplayed.free))
  subst ended
  refine ⟨outcomes, stats, _, ran, accounted.queued, ?_, ?_⟩
  · rw [accounted.bursts, accounted.rendered]
  · exact {
      unplayed := {
        regular := made.regular
        filling := made.filling
        size := made.alike.frames.trans unplayed.size
        running := unplayed.running
        free := unplayed.free
        sink := bursts ▸ fills.filled }
      made := bursts
      sink := fills
      notices := accounted.notices }

theorem Fills.append (first : Fills frames low high host outcomes events next)
    (second : Fills frames low high next more later final) :
    Fills frames low high host (outcomes ++ more) (events ++ later) final where
  unplayed := second.unplayed
  made := by rw [second.made, first.made, List.length_append, Nat.add_assoc]
  sink := first.sink.append (first.made ▸ second.sink)
  notices := by rw [notices_append, first.notices, second.notices, List.flatMap_append]

/-- Passes that nobody's patience ends are all made, and together do what a single one would. -/
theorem Unplayed.performAll (unplayed : Unplayed frames low high host) {deltas : List Float}
    (patient : host.Patient deltas) :
    ∃ outcomes steps final, (performAll Host.pass host deltas).result = .ok (steps, final) ∧
      steps.map Step.call = deltas ∧
      PassStats.total PassStats.queued (steps.map Step.answer) = outcomes.countP Drained.isQueued ∧
      PassStats.total PassStats.queued (steps.map Step.answer) +
        PassStats.total PassStats.dropped (steps.map Step.answer) = outcomes.length ∧
      Fills frames low high host outcomes (performAll Host.pass host deltas).events final := by
  induction deltas generalizing host with
  | nil =>
    refine ⟨[], [], host, rfl, rfl, rfl, rfl, unplayed, rfl, ⟨unplayed.sink, ?_, ?_⟩, rfl⟩
    · exact Nat.zero_add _
    · exact Nat.zero_add _
  | cons delta deltas ih =>
    obtain ⟨patientFirst, patientLater⟩ := patient
    obtain ⟨outcomes, stats, next, ran, queued, offered, first⟩ := unplayed.pass patientFirst
    obtain ⟨more, steps, final, ranLater, made, queuedLater, offeredLater, second⟩ :=
      ih first.unplayed (patientLater stats next ran)
    refine ⟨outcomes ++ more, ⟨host, delta, stats, next⟩ :: steps, final, ?_, ?_, ?_, ?_, ?_⟩
    · exact performAll_cons_eq_ok_iff.mpr ⟨stats, next, steps, ran, ranLater, rfl⟩
    · rw [List.map_cons, made]
    · rw [List.map_cons, PassStats.total, List.countP_append, queuedLater, ← queued]
    · rw [List.map_cons, PassStats.total, PassStats.total, List.length_append]
      dsimp only
      omega
    · rw [PacingHost.performAll, (Report.bind_of_ok ran _).2]
      dsimp only
      rw [(Report.bind_of_ok ranLater _).2, Report.events_pure, List.append_nil]
      exact first.append second

/-- A host that was built with a software queue around a tone engine with sound buffers of the
frames that were asked for. -/
theorem Unplayed.of_build {setup : Setup} {hz : Float} {screen : Screen}
    (built : (build setup
      (Tone.start setup.cyclesPerSecond setup.audioFrequency setup.audioFrames.toNat hz) .software
      screen).result = .ok host) :
    Unplayed setup.audioFrames.toNat (2 * setup.thresholds.start.toNat)
        (2 * setup.thresholds.max.toNat) host ∧ host.engine.bursts = 0 := by
  obtain ⟨valid, sink, opened, rfl⟩ := (build_eq_ok_iff ..).mp built
  have filled := Sink.Filled.of_software opened
  have fits : setup.audioFrames.toNat < 9223372036854775808 :=
    Nat.lt_trans setup.audioFrames.toNat_lt (by decide)
  have none : (around setup (Tone.start setup.cyclesPerSecond setup.audioFrequency
      setup.audioFrames.toNat hz) sink screen).engine.bursts = 0 := Nat.zero_div _
  refine ⟨?_, none⟩
  exact {
    regular := (Tone.regular_start _ _ fits hz).configure {}
    filling := { Tone.filling_start setup.cyclesPerSecond setup.audioFrequency
      setup.audioFrames.toNat hz with }
    size := Nat.max_eq_left filled.positive
    running := rfl
    free := rfl
    sink := none ▸ filled }

/-- A host built with a software queue around a tone engine fills the queue as long as nobody plays
it: with so many bursts made, it holds all of them up to twice the max threshold, playback has
started if they reach twice the start threshold, and every other burst was dropped. -/
theorem unplayed_host_fills {setup : Setup} {hz : Float} {screen : Screen} {host : Host Tone}
    (built : (build setup
      (Tone.start setup.cyclesPerSecond setup.audioFrequency setup.audioFrames.toNat hz) .software
      screen).result = .ok host)
    {deltas : List Float} (patient : host.Patient deltas) :
    ∃ steps final, (PacingHost.performAll Host.pass host deltas).result = .ok (steps, final) ∧
      steps.map Step.call = deltas ∧
      let bursts := final.engine.samples / setup.audioFrames.toNat
      let held := min bursts (2 * setup.thresholds.max.toNat)
      final.sink.queue.bytes.length = 4 * setup.audioFrames.toNat * held ∧
        (final.sink.gate.ready = true ↔ 2 * setup.thresholds.start.toNat ≤ bursts) ∧
        ({} : Tally).countAll
            (PacingHost.notices (PacingHost.performAll Host.pass host deltas).events) =
          ⟨held, if 2 * setup.thresholds.start.toNat ≤ bursts then 1 else 0⟩ ∧
        PassStats.total PassStats.queued (steps.map Step.answer) = held ∧
        PassStats.total PassStats.dropped (steps.map Step.answer) = bursts - held := by
  obtain ⟨unplayed, none⟩ := Unplayed.of_build built
  obtain ⟨outcomes, steps, final, ran, made, queued, offered, fills⟩ := unplayed.performAll patient
  have bursts : final.engine.bursts = outcomes.length := fills.made.trans (none ▸ Nat.zero_add _)
  have count : final.engine.samples / setup.audioFrames.toNat = outcomes.length := by
    rw [← bursts, ← fills.unplayed.size, Tone.bursts]
  have sink := fills.unplayed.sink
  rw [bursts] at sink
  have total := fills.sink.queued
  have starts := fills.sink.starts
  have early : 0 < 2 * setup.thresholds.start.toNat :=
    Nat.pos_of_mul_pos_left (sink.start ▸ sink.regular.positive)
  rw [none, if_neg (Nat.not_le.mpr early), Nat.add_zero, Nat.zero_add] at starts
  rw [none, Nat.zero_min, Nat.add_zero, Nat.zero_add] at total
  refine ⟨steps, final, ran, made, ?_⟩
  dsimp only
  rw [count]
  refine ⟨sink.bytes, sink.ready, ?_, queued.trans total, by omega⟩
  rw [fills.notices, Tally.countAll_notices, total, starts, Nat.zero_add, Nat.zero_add]

/-- Ten milliseconds bring more bursts than the queue takes. -/
theorem unplayed_host_fills_early :
    ∃ host, (build { audioFrames := 32 } (Tone.start 4194304 44100 32 440.0) .software {}).result =
        .ok host ∧
      host.Patient [10.0] ∧
      ∃ steps final, (PacingHost.performAll Host.pass host [10.0]).result = .ok (steps, final) ∧
        steps.map Step.call = [10.0] ∧
        let bursts := final.engine.samples / 32
        let held := min bursts 10
        final.sink.queue.bytes.length = 128 * held ∧
          (final.sink.gate.ready = true ↔ 4 ≤ bursts) ∧
          ({} : Tally).countAll
              (PacingHost.notices (PacingHost.performAll Host.pass host [10.0]).events) =
            ⟨held, if 4 ≤ bursts then 1 else 0⟩ ∧
          PassStats.total PassStats.queued (steps.map Step.answer) = held ∧
          PassStats.total PassStats.dropped (steps.map Step.answer) = bursts - held := by
  let host : Host Tone := around { audioFrames := 32 } (Tone.start 4194304 44100 32 440.0)
    ⟨.ofFormat ⟨44100, stereo, 256⟩, .blank 256, ⟨false, 512, 1280⟩⟩ {}
  have built : (build { audioFrames := 32 } (Tone.start 4194304 44100 32 440.0) .software
      {}).result = .ok host := rfl
  have patient : host.Patient [10.0] := by
    have regular : host.engine.Regular :=
      (Tone.regular_start 4194304 44100 (by decide) 440.0).configure {}
    have target : host.target (checkDelta 10.0).value = 41943 := by
      decide
    refine ⟨?_, fun _ _ _ => trivial⟩
    intro answers given
    rw [target] at given
    exact Nat.lt_of_le_of_lt (regular.length_answers_le given) (by decide)
  exact ⟨host, built, patient, unplayed_host_fills built patient⟩

end Host

end PacingHost
