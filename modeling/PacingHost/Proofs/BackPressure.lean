import PacingHost.Proofs.Agreement
import PacingHost.Proofs.ToneArrival

/-! # Back-pressure stays in the sink

Whether a burst is queued or dropped hangs on the thresholds, on the size of the device's buffers
and on everybody who takes from the queue. None of this comes back: two hosts that are `Host.Alike`
in all but their sinks answer the same calls alike and stay alike, whatever happens to the queue of
either in the meantime. `Host.alike_whatever_is_heard` says so of any two hosts built around one
engine and one screen. The engine may be one that writes down what it is told.
-/

namespace PacingHost

/-- The calls of a host's owner; the others are made by those who take from its queue. -/
def HostCall.ofOwner : HostCall → Bool
  | .read _ | .consume _ => false
  | .pass _ | .commit _ | .input _ | .bindPress .. | .bindHold .. => true

/-- The calls of the owner among calls that others interrupt. -/
def owned (busy : List (HostCall × Traffic)) : List HostCall :=
  (busy.map Prod.fst).filter HostCall.ofOwner

/-- What an answer tells its owner, but for which bursts were dropped. -/
inductive Seen where
  | passed (target pictures bursts : Nat)
  | done
  | handled (goesOn : Bool)
deriving DecidableEq, Repr

def PassStats.seen (stats : PassStats) : Seen :=
  .passed stats.target stats.pictures (stats.queued + stats.dropped)

def HostAnswer.seen : HostAnswer → Option Seen
  | .passed stats => some stats.seen
  | .done => some .done
  | .handled goesOn => some (.handled goesOn)
  | .filled .. | .consumed _ => none

/-- What a run tells its owner. -/
def seen {σ κ : Type} (steps : List (Step (Host σ) κ HostAnswer)) : List Seen :=
  steps.filterMap fun step => step.answer.seen

theorem seen_cons {σ κ : Type} (step : Step (Host σ) κ HostAnswer)
    (steps : List (Step (Host σ) κ HostAnswer)) :
    seen (step :: steps) = step.answer.seen.toList ++ seen steps := by
  unfold seen
  cases told : step.answer.seen with
  | none => exact List.filterMap_cons_none told
  | some answer => exact List.filterMap_cons_some told

/-! ## The sink -/

/-- Whatever is done to a queue, its format stays. -/
theorem Gate.drainAmid_returns (gate : Gate) (bytes : List UInt8) (queue : Queue) :
    Amid.Returns (fun drained => drained.2.2.format = queue.format)
      (gate.drainAmid bytes queue) := by
  intro traffic
  refine ⟨_, _, rfl, ?_⟩
  simp only [drain]
  split
  · rfl
  · simp only [Logged.bind_value]
    split <;> rfl

theorem Sink.renderAmid_returns {sink : Sink} (two : sink.format.channels = stereo)
    (burst : Burst) :
    Amid.Returns (fun rendered => rendered.2.format = sink.format) (sink.renderAmid burst) := by
  simp only [renderAmid, front_staged two burst]
  split
  · apply Amid.Returns.bind (.logged rfl)
    intro _ _
    apply Amid.Returns.bind (.report rfl rfl)
    intro bytes _
    apply Amid.Returns.bind (sink.gate.drainAmid_returns bytes sink.queue)
    intro drained kept
    exact .pure kept
  · apply Amid.Returns.bind (.report rfl rfl)
    intro bytes _
    apply Amid.Returns.bind (sink.gate.drainAmid_returns bytes sink.queue)
    intro drained kept
    exact .pure kept

theorem Sink.resetAmid_returns (sink : Sink) :
    Amid.Returns (fun flushed => flushed.format = sink.format) sink.resetAmid :=
  fun _ => ⟨_, _, rfl, rfl⟩

/-! ## Outputs -/

namespace Outputs

/-- Outputs that show the same, on two stereo devices. -/
structure Alike (first second : Outputs) : Prop where
  screen : first.screen = second.screen
  two : first.sink.format.channels = stereo
  other : second.sink.format.channels = stereo

variable {first second : Outputs}

/-- What was done to both: a burst was rendered for each call that asked for it. -/
structure Made (services : List Service) (made other : List Drained × Outputs) : Prop where
  length : made.1.length = services.countP Service.isRender
  lengthOther : other.1.length = services.countP Service.isRender
  alike : Alike made.2 other.2

theorem Alike.performAmid (alike : Alike first second) (width height : Nat) (service : Service) :
    Amid.Agree (Made [service]) (first.performAmid width height service)
      (second.performAmid width height service) := by
  cases service with
  | upload pixels =>
    apply Amid.Agree.report
    simp only [perform, alike.screen]
    apply Report.Agree.bind (.refl _)
    intro uploaded other shown
    exact .pure ⟨rfl, rfl, { alike with screen := shown }⟩
  | present =>
    apply Amid.Agree.report
    simp only [perform, alike.screen]
    apply Report.Agree.bind (.refl _)
    intro presented other shown
    exact .pure ⟨rfl, rfl, { alike with screen := shown }⟩
  | render burst =>
    have rendered := Amid.Agree.of_returns (Sink.renderAmid_returns alike.two burst)
      (Sink.renderAmid_returns alike.other burst) And.intro
    apply rendered.bind
    rintro made other ⟨format, formatOther⟩
    exact .pure ⟨rfl, rfl, alike.screen, format ▸ alike.two, formatOther ▸ alike.other⟩

theorem Alike.performAllAmid (alike : Alike first second) (width height : Nat)
    (services : List Service) :
    Amid.Agree (Made services) (first.performAllAmid width height services)
      (second.performAllAmid width height services) := by
  induction services generalizing first second with
  | nil => exact .pure ⟨rfl, rfl, alike⟩
  | cons service services ih =>
    have both : service :: services = [service] ++ services := rfl
    apply Amid.Agree.bind (alike.performAmid width height service)
    intro made madeOther here
    apply Amid.Agree.bind (ih here.alike)
    intro more moreOther later
    refine .pure ⟨?_, ?_, later.alike⟩
    · rw [List.length_append, here.length, later.length, both, List.countP_append]
    · rw [List.length_append, here.lengthOther, later.lengthOther, both, List.countP_append]

end Outputs

/-! ## Hosts -/

namespace Host

variable {σ : Type}

/-- The other host is this one with another sink of the same format. -/
def ButSink (host other : Host σ) : Prop :=
  ∃ sink, sink.format = host.sink.format ∧ other = { host with sink }

theorem ButSink.trans {host next other : Host σ} (same : host.ButSink next)
    (more : next.ButSink other) : host.ButSink other := by
  obtain ⟨_, format, rfl⟩ := same
  obtain ⟨sink, kept, rfl⟩ := more
  exact ⟨sink, kept.trans format, rfl⟩

/-- Two stereo hosts that differ in nothing but their sinks and what these were built from. -/
structure Alike (first second : Host σ) : Prop where
  clock : first.setup.cyclesPerSecond = second.setup.cyclesPerSecond
  config : first.config = second.config
  engine : first.engine = second.engine
  screen : first.screen = second.screen
  bindings : first.bindings = second.bindings
  held : first.held = second.held
  two : first.sink.format.channels = stereo
  other : second.sink.format.channels = stereo

variable {first second : Host σ}

theorem Alike.symm (alike : Alike first second) : Alike second first where
  clock := alike.clock.symm
  config := alike.config.symm
  engine := alike.engine.symm
  screen := alike.screen.symm
  bindings := alike.bindings.symm
  held := alike.held.symm
  two := alike.other
  other := alike.two

theorem Alike.butSink (alike : Alike first second) {next other : Host σ}
    (left : first.ButSink next) (right : second.ButSink other) : Alike next other := by
  obtain ⟨sink, format, rfl⟩ := left
  obtain ⟨sinkOther, formatOther, rfl⟩ := right
  exact { alike with two := format ▸ alike.two, other := formatOther ▸ alike.other }

theorem Alike.moved (alike : Alike first second) (engine : σ) {outputs other : Outputs}
    (shown : outputs.Alike other) :
    Alike (first.moved engine outputs) (second.moved engine other) :=
  { alike with engine := rfl, screen := shown.screen, two := shown.two, other := shown.other }

theorem commitSyncAmid_returns (host : Host σ) (next : Config) :
    Amid.Returns (host.commitSync next).value.ButSink (host.commitSyncAmid next) := by
  simp only [commitSyncAmid, commitSync]
  split
  · exact .pure ⟨host.sink, rfl, rfl⟩
  · apply Amid.Returns.bind (.logged rfl)
    intro _ _
    apply Amid.Returns.bind (.logged rfl)
    intro screen shown
    apply Amid.Returns.bind host.sink.resetAmid_returns
    intro sink kept
    refine .pure ⟨sink, kept, ?_⟩
    rw [← shown]
    rfl

theorem commitPauseAmid_returns (host : Host σ) (next : Config) :
    Amid.Returns (host.commitPause next).value.ButSink (host.commitPauseAmid next) := by
  simp only [commitPauseAmid, commitPause]
  split
  · exact .pure ⟨host.sink, rfl, rfl⟩
  · apply Amid.Returns.bind (.logged rfl)
    intro _ _
    apply Amid.Returns.bind host.sink.resetAmid_returns
    intro sink kept
    exact .pure ⟨sink, kept, rfl⟩

/-- The sink has no part in what else changes. -/
theorem ButSink.commitPause {host other : Host σ} (same : host.ButSink other) (next : Config) :
    (host.commitPause next).value.ButSink (other.commitPause next).value := by
  obtain ⟨sink, format, rfl⟩ := same
  simp only [Host.commitPause]
  split
  · exact ⟨sink, format, rfl⟩
  · exact ⟨sink.reset.value, format, rfl⟩

theorem ButSink.commitFullscreen {host other : Host σ} (same : host.ButSink other)
    (next : Config) :
    (host.commitFullscreen next).value.ButSink (other.commitFullscreen next).value := by
  obtain ⟨sink, format, rfl⟩ := same
  simp only [Host.commitFullscreen]
  split <;> exact ⟨sink, format, rfl⟩

variable [Engine σ]

theorem ButSink.commitLayers {host other : Host σ} (same : host.ButSink other) (next : Config) :
    (host.commitLayers next).ButSink (other.commitLayers next) := by
  obtain ⟨sink, format, rfl⟩ := same
  simp only [Host.commitLayers]
  split <;> exact ⟨sink, format, rfl⟩

/-- Whatever is done to the queue, a configuration is taken over as ever, but for the sink. -/
theorem commitAmid_returns (host : Host σ) (next : Config) :
    Amid.Returns (host.committed next).ButSink (host.commitAmid next) := by
  have value : (host.commit next).value = host.committed next := by rw [commit_eq]
  rw [← value]
  apply Amid.Returns.bind (host.commitSyncAmid_returns next)
  intro synced sameSynced
  apply Amid.Returns.bind (synced.commitPauseAmid_returns next)
  intro gated sameGated
  apply Amid.Returns.bind (.logged rfl)
  intro framed shown
  have same := (sameSynced.commitPause next).trans sameGated
  obtain ⟨sink, format, whole⟩ := (same.commitFullscreen next).commitLayers next
  refine .pure ⟨sink, format, ?_⟩
  rw [← shown, whole]
  rfl

theorem Alike.committed (alike : Alike first second) (next : Config) :
    Alike (first.committed next) (second.committed next) where
  clock := alike.clock
  config := rfl
  engine := by simp only [Host.committed, alike.config, alike.engine]
  screen := by simp only [Host.committed, alike.config, alike.screen]
  bindings := alike.bindings
  held := alike.held
  two := first.format_committed next ▸ alike.two
  other := second.format_committed next ▸ alike.other

theorem Alike.commitAmid (alike : Alike first second) (next : Config) :
    Amid.Agree Alike (first.commitAmid next) (second.commitAmid next) :=
  .of_returns (first.commitAmid_returns next) (second.commitAmid_returns next)
    (alike.committed next).butSink

theorem Alike.endStepAmid (alike : Alike first second) :
    Amid.Agree Alike first.endStepAmid second.endStepAmid := by
  simp only [Host.endStepAmid, alike.config]
  split
  · exact alike.commitAmid _
  · exact .pure alike

theorem Alike.target (alike : Alike first second) (delta : Float) :
    first.target delta = second.target delta := by
  simp only [Host.target, budget, alike.engine, alike.clock]

/-- Both are told of all bursts, though not of the same drops. -/
theorem seen_ofServed {target : Nat} {answers : List (Answer × σ)}
    (few : answers.length < Word.limit) {outcomes : List Drained}
    (rendered : outcomes.length = (answers.flatMap Answer.services).countP Service.isRender) :
    (PassStats.ofServed target answers outcomes).seen =
      .passed target (answers.countP fun answer => answer.1.picture)
        (answers.countP fun answer => answer.1.sound) := by
  rw [countP_isRender_services] at rendered
  have bursts : outcomes.length < Word.limit :=
    Nat.lt_of_le_of_lt (rendered ▸ List.countP_le_length) few
  obtain ⟨queued, dropped⟩ := PassStats.queued_ofServed target answers bursts
  rw [PassStats.seen, PassStats.pictures_ofServed target outcomes few, queued, dropped,
    countP_isQueued_add, rendered]
  rfl

theorem Alike.servingAmid (alike : Alike first second) (target : Nat) :
    Amid.Agree (fun made other => made.1.seen = other.1.seen ∧ Alike made.2 other.2)
      (first.servingAmid target) (second.servingAmid target) := by
  have pad : first.pad = second.pad := congrArg (PadMap.read {}) alike.held
  have outputs : first.outputs.Alike second.outputs := ⟨alike.screen, alike.two, alike.other⟩
  simp only [Host.servingAmid, pad, alike.engine]
  have few := Engine.length_driveFor_le (some second.pad) target Engine.patience second.engine
  generalize Engine.driveFor (some second.pad) target Engine.patience second.engine = drive at few
  have counted : drive.answers.length < Word.limit := Nat.lt_of_le_pred (by decide) few
  apply Amid.Agree.bind (outputs.performAllAmid _ _ _)
  intro served servedOther made
  apply Amid.Agree.bind (.report (.refl _))
  intro _ _ _
  refine .pure ⟨?_, alike.moved _ made.alike⟩
  rw [seen_ofServed counted made.length, seen_ofServed counted made.lengthOther]

theorem Alike.passAmid (alike : Alike first second) (delta : Float) :
    Amid.Agree (fun ran other => ran.1.seen = other.1.seen ∧ Alike ran.2 other.2)
      (first.passAmid delta) (second.passAmid delta) := by
  simp only [Host.passAmid, alike.config]
  split
  · exact .pure ⟨rfl, alike⟩
  · apply Amid.Agree.bind (.logged rfl)
    rintro span _ rfl
    rw [alike.target]
    apply Amid.Agree.bind (alike.servingAmid (second.target span))
    rintro served other ⟨same, alike⟩
    apply Amid.Agree.bind alike.endStepAmid
    intro ended endedOther alike
    refine Amid.Agree.bind (.logged rfl) ?_
    intro _ _ _
    exact .pure ⟨same, alike⟩

theorem Alike.handleInputAmid (alike : Alike first second) (inputs : List Input) :
    Amid.Agree (fun made other => made.1 = other.1 ∧ Alike made.2 other.2)
      (first.handleInputAmid inputs) (second.handleInputAmid inputs) := by
  have holding : (first.holding inputs).Alike (second.holding inputs) :=
    { alike with held := congrArg (inputs.foldl HeldKeys.update) alike.held }
  simp only [Host.handleInputAmid, alike.bindings, alike.config]
  apply Amid.Agree.bind (.logged rfl)
  rintro dispatched _ rfl
  apply Amid.Agree.bind (.logged rfl)
  intro goesOn goesOnOther same
  apply Amid.Agree.bind (holding.commitAmid dispatched.config)
  intro committed other alike
  exact .pure ⟨same, alike⟩

/-- Hosts that are alike answer alike and stay alike, whatever is done to their queues. -/
theorem Alike.performAmid (alike : Alike first second) {call : HostCall}
    (owner : call.ofOwner = true) (traffic other : Traffic) :
    Report.Agree (fun ran other => ran.1.seen = other.1.seen ∧ Alike ran.2 other.2)
      (first.performAmid (call, traffic)) (second.performAmid (call, other)) := by
  apply Amid.Agree.run'
  cases call with
  | pass delta =>
    apply Amid.Agree.bind (alike.passAmid delta)
    rintro ran other ⟨same, alike⟩
    exact .pure ⟨congrArg some same, alike⟩
  | commit config =>
    apply Amid.Agree.bind (alike.commitAmid config)
    intro committed other alike
    exact .pure ⟨rfl, alike⟩
  | input inputs =>
    apply Amid.Agree.bind (alike.handleInputAmid inputs)
    rintro handled other ⟨same, alike⟩
    exact .pure ⟨congrArg (some ∘ Seen.handled) same, alike⟩
  | bindPress key action =>
    have bindings := congrArg (Bindings.bindPress · key action) alike.bindings
    exact .report (.pure ⟨rfl, { alike with bindings }⟩)
  | bindHold key action =>
    have bindings := congrArg (Bindings.bindHold · key action) alike.bindings
    exact .report (.pure ⟨rfl, { alike with bindings }⟩)
  | read | consume => cases owner

/-- Who takes from the queue changes nothing but the sink, and tells the owner nothing. -/
theorem performAmid_of_taking (host : Host σ) {call : HostCall} (taking : call.ofOwner = false)
    (traffic : Traffic) :
    ∃ answer next, (host.performAmid (call, traffic)).result = .ok (answer, next) ∧
      answer.seen = none ∧ host.ButSink next := by
  cases call with
  | pass | commit | input | bindPress | bindHold => cases taking
  | read slots => exact ⟨_, _, rfl, rfl, _, host.sink.format_read slots, rfl⟩
  | consume wanted => exact ⟨_, _, rfl, rfl, _, host.sink.format_consume wanted, rfl⟩

/-- A run amid traffic is, for its owner, a run of the owner's calls alone. -/
theorem Alike.performAllAmid (alike : Alike first second) (busy : List (HostCall × Traffic)) :
    Report.Agree (fun ran other => seen ran.1 = seen other.1 ∧ Alike ran.2 other.2)
      (performAll Host.performAmid first busy) (performAll perform second (owned busy)) := by
  induction busy generalizing first second with
  | nil => exact .pure ⟨rfl, alike⟩
  | cons call busy ih =>
    obtain ⟨call, traffic⟩ := call
    cases owner : call.ofOwner with
    | false =>
      -- The other run makes no call in the meantime.
      obtain ⟨answer, next, ran, silent, same⟩ := first.performAmid_of_taking owner traffic
      have rest := ih (alike.butSink same ⟨second.sink, rfl, rfl⟩)
      have fewer : owned ((call, traffic) :: busy) = owned busy :=
        List.filter_cons_of_neg (Bool.eq_false_iff.mp owner)
      have wait : performAll perform second (owned busy) =
          performAll perform second (owned busy) >>= pure := (bind_pure _).symm
      rw [fewer, performAll, Report.Agree, (Report.bind_of_ok ran _).1, wait]
      apply Report.Agree.bind rest
      rintro made other ⟨told, alike⟩
      refine .pure ⟨?_, alike⟩
      rw [seen_cons, silent, told]
      rfl
    | true =>
      have more : owned ((call, traffic) :: busy) = call :: owned busy :=
        List.filter_cons_of_pos owner
      rw [more, performAll, performAll, ← performAmid_quiet]
      apply Report.Agree.bind (alike.performAmid owner traffic [])
      rintro made other ⟨answer, alike⟩
      apply Report.Agree.bind (ih alike)
      rintro rest restOther ⟨told, alike⟩
      refine .pure ⟨?_, alike⟩
      rw [seen_cons, seen_cons, answer, told]

/-- Hosts built around one engine and one screen for the same clock and scale are alike. -/
theorem Alike.of_build {setup other : Setup} {engine : σ} {opener openerOther : Opener}
    {screen : Screen} (built : (build setup engine opener screen).result = .ok first)
    (builtOther : (build other engine openerOther screen).result = .ok second)
    (two : first.sink.format.channels = stereo) (twoOther : second.sink.format.channels = stereo)
    (clock : setup.cyclesPerSecond = other.cyclesPerSecond)
    (scale : setup.renderScale = other.renderScale) : Alike first second := by
  obtain ⟨_, _, _, rfl⟩ := (build_eq_ok_iff ..).mp built
  obtain ⟨_, _, _, rfl⟩ := (build_eq_ok_iff ..).mp builtOther
  exact {
    clock
    config := rfl
    engine := rfl
    screen := by simp only [around, scale]
    bindings := rfl
    held := rfl
    two
    other := twoOther }

/-- Two hosts are built around one engine and one screen, with the same clock and scale but with any
thresholds, rate, buffers and opener, on stereo devices. Their owners make the same calls, while the
queue of each is used in between and meanwhile by anybody in any way. If one run returns, so does
the other; then the engines are the same, with all they may have written down of their targets and
configurations, and so are the screens, the configurations, the held keys and everything the owners
were told but for which bursts were dropped. Both return if the engine arrives in all passes that the
owner makes. What observers hear is no part of it, and may differ. -/
theorem alike_whatever_is_heard {setup other : Setup} {engine : σ} {opener openerOther : Opener}
    {screen : Screen} {first second : Host σ} {busy busyOther : List (HostCall × Traffic)}
    (built : (build setup engine opener screen).result = .ok first)
    (builtOther : (build other engine openerOther screen).result = .ok second)
    (two : first.sink.format.channels = stereo) (twoOther : second.sink.format.channels = stereo)
    (clock : setup.cyclesPerSecond = other.cyclesPerSecond)
    (scale : setup.renderScale = other.renderScale) (same : owned busy = owned busyOther) :
    (∀ steps final, (performAll performAmid first busy).result = .ok (steps, final) →
      ∃ stepsOther finalOther,
        (performAll performAmid second busyOther).result = .ok (stepsOther, finalOther) ∧
        final.engine = finalOther.engine ∧ final.screen = finalOther.screen ∧
        final.config = finalOther.config ∧ final.held = finalOther.held ∧
        seen steps = seen stepsOther) ∧
    (first.Arrives (owned busy) → Engine.width σ * Engine.height σ < Word.longLimit →
      ∃ steps final, (performAll performAmid first busy).result = .ok (steps, final)) := by
  have alike := Alike.of_build built builtOther two twoOther clock scale
  have itself := Alike.of_build built built two two rfl rfl
  -- Both runs are compared with the first host left alone by everybody but its owner.
  have agree := itself.performAllAmid busy
  constructor
  · intro steps final ran
    obtain ⟨⟨alone, last⟩, ranAlone, told, ends⟩ := agree.right ran
    rw [same] at ranAlone
    obtain ⟨⟨stepsOther, finalOther⟩, ranOther, toldOther, endsOther⟩ :=
      (alike.symm.performAllAmid busyOther).left ranAlone
    exact ⟨stepsOther, finalOther, ranOther, ends.engine.trans endsOther.engine.symm,
      ends.screen.trans endsOther.screen.symm, ends.config.trans endsOther.config.symm,
      ends.held.trans endsOther.held.symm, told.trans toldOther.symm⟩
  · intro arrives countable
    obtain ⟨_, _, ran⟩ := performAll_of_arrives two countable arrives
    obtain ⟨⟨steps, final⟩, ranAmid, _⟩ := agree.left ran
    exact ⟨steps, final, ranAmid⟩

/-- An engine that makes four bursts on its first drive and two on its second. -/
def sixBursts : Script 2 2 where
  answers := [1, 2, 2, 2, 6, 2, 3, 4]
  frame := #[1, 2, 3, 4]
  sound := ⟨[1, 2, 3, 4, 5, 6, 7, 8], 4⟩

/-- Calls around a step; some of the sound is read. -/
def calmCalls : List (HostCall × Traffic) :=
  [(.pass 10.0, []), (.read [0, 0], []), (.bindPress .x .step, []),
    (.input [.press .x, .release .x], []), (.pass 16.0, []),
    (.commit { noSync := true, hideObjects := true }, [])]

/-- The same calls, with others at the queue in between and meanwhile. -/
def crowdedCalls : List (HostCall × Traffic) :=
  [(.pass 10.0, [id, id, fun queue => { queue with bytes := [] }]), (.bindPress .x .step, []),
    (.consume 4, []), (.input [.press .x, .release .x], []), (.consume 99, []),
    (.pass 16.0, [fun queue => { queue with bytes := queue.bytes.drop 4 }]),
    (.commit { noSync := true, hideObjects := true }, [id])]

/-- Calls to a host of a tone engine, with others at its queue. -/
def hummingCalls : List (HostCall × Traffic) :=
  [(.pass 16.0, [id, fun queue => { queue with bytes := [] }]), (.consume 8, []),
    (.commit { noSync := true }, [id]), (.pass 250.0, [])]

/-- One host has room for everything, the other for a single small buffer; both are built around a
script first, and then around a tone engine. -/
theorem alike_whatever_is_heard_crowded :
    (∃ first second steps final stepsOther finalOther,
      (build { audioFrames := 4 } sixBursts .software {}).result = .ok first ∧
        (build { audioFrames := 1, audioFrequency := 8000, thresholds := ⟨1, 1⟩ } sixBursts .paced
          {}).result = .ok second ∧
        (performAll performAmid first calmCalls).result = .ok (steps, final) ∧
        (performAll performAmid second crowdedCalls).result = .ok (stepsOther, finalOther) ∧
        final.engine = finalOther.engine ∧ final.screen = finalOther.screen ∧
        final.config = finalOther.config ∧ final.held = finalOther.held ∧
        seen steps = seen stepsOther) ∧
    ∃ first second steps final stepsOther finalOther,
      (build { audioFrames := 4 } (Tone.start 4194304 44100 4 440.0) .software {}).result =
          .ok first ∧
        (build { audioFrames := 1, audioFrequency := 8000, thresholds := ⟨1, 1⟩ }
          (Tone.start 4194304 44100 4 440.0) .paced {}).result = .ok second ∧
        (performAll performAmid first hummingCalls).result = .ok (steps, final) ∧
        (performAll performAmid second hummingCalls).result = .ok (stepsOther, finalOther) ∧
        final.engine = finalOther.engine ∧ final.screen = finalOther.screen ∧
        final.config = finalOther.config ∧ final.held = finalOther.held ∧
        seen steps = seen stepsOther := by
  constructor
  · obtain ⟨first, built, two, script⟩ :
        ∃ first, (build { audioFrames := 4 } sixBursts .software {}).result = .ok first ∧
          first.sink.format.channels = stereo ∧ first.engine.answers = sixBursts.answers :=
      ⟨_, rfl, rfl, rfl⟩
    obtain ⟨second, builtOther, twoOther⟩ :
        ∃ second, (build { audioFrames := 1, audioFrequency := 8000, thresholds := ⟨1, 1⟩ }
          sixBursts .paced {}).result = .ok second ∧ second.sink.format.channels = stereo :=
      ⟨_, rfl, rfl⟩
    have same : owned calmCalls = owned crowdedCalls := rfl
    have few : first.engine.answers.length + 1 < Word.limit := by
      rw [script]
      decide
    obtain ⟨alike, returns⟩ := alike_whatever_is_heard built builtOther two twoOther rfl rfl same
    obtain ⟨steps, final, ran⟩ :=
      returns (arrives_of_kind (Script.reaches 2 2) few (owned calmCalls)) (by decide)
    obtain ⟨stepsOther, finalOther, ranOther, equal⟩ := alike steps final ran
    exact ⟨first, second, steps, final, stepsOther, finalOther, built, builtOther, ran, ranOther,
      equal⟩
  · let first : Host Tone := around { audioFrames := 4 } (Tone.start 4194304 44100 4 440.0)
      ⟨.ofFormat ⟨44100, stereo, 32⟩, .blank 32, ⟨false, 64, 160⟩⟩ {}
    have built : (build { audioFrames := 4 } (Tone.start 4194304 44100 4 440.0) .software
        {}).result = .ok first := rfl
    obtain ⟨second, builtOther, twoOther⟩ :
        ∃ second, (build { audioFrames := 1, audioFrequency := 8000, thresholds := ⟨1, 1⟩ }
          (Tone.start 4194304 44100 4 440.0) .paced {}).result = .ok second ∧
            second.sink.format.channels = stereo := ⟨_, rfl, rfl⟩
    have reached : Tone.Reached first.engine :=
      .configured {} (.started 4194304 44100 (by decide) 440.0)
    have counted : first.engine.Counted
        (first.engine.cycles + first.asksInAll (owned hummingCalls)) := by
      have cycles : first.engine.cycles + first.asksInAll (owned hummingCalls) = 1115684 := by
        decide
      rw [cycles]
      unfold Tone.Counted
      decide
    obtain ⟨alike, returns⟩ := alike_whatever_is_heard built builtOther rfl twoOther rfl rfl
      (rfl : owned hummingCalls = owned hummingCalls)
    obtain ⟨steps, final, ran⟩ := returns (arrives_of_counted reached counted) (by decide)
    obtain ⟨stepsOther, finalOther, ranOther, equal⟩ := alike steps final ran
    exact ⟨first, second, steps, final, stepsOther, finalOther, built, builtOther, ran, ranOther,
      equal⟩

end Host

end PacingHost
