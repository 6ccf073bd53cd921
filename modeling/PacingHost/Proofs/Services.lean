import PacingHost.Host.Pass
import PacingHost.Proofs.SinkGate

/-! # What a host asks of its outputs

For every answer of the engine the host calls on its screen and its sink. `Answer.services` lists
these calls: a complete picture is uploaded and then presented, a full sound buffer is rendered
after that. `Host.serveAll_eq` says that serving answers comes to nothing but these calls, in order,
and to counting them. Where the device plays stereo and pictures can be counted, every call
succeeds; `Outputs.Served` says what all of them did together.
-/

namespace PacingHost

/-- A call on the outputs of a host. -/
inductive Service where
  | upload (pixels : Array UInt32)
  | present
  | render (burst : Burst)
deriving DecidableEq, Repr

/-- The calls an answer asks for, with the engine as it was then. -/
def Answer.services {σ : Type} [Engine σ] (answer : Answer × σ) : List Service :=
  (if answer.1.picture then [.upload (Engine.frame answer.2), .present] else []) ++
    if answer.1.sound then [.render (Engine.sound answer.2)] else []

structure Outputs where
  screen : Screen
  sink : Sink
deriving DecidableEq, Repr

namespace Outputs

/-- Make one call for pictures of that size; the result is what became of bursts. -/
def perform (width height : Nat) (outputs : Outputs) :
    Service → Report Fault (List Drained × Outputs)
  | .upload pixels => do
    let screen ← Report.ofExcept (outputs.screen.upload pixels width height)
    pure ([], { outputs with screen })
  | .present => do
    let screen ← ExceptT.lift outputs.screen.present
    pure ([], { outputs with screen })
  | .render burst => do
    let (outcome, sink) ← outputs.sink.render burst
    pure ([outcome], { outputs with sink })

def performAll (width height : Nat) (outputs : Outputs) :
    List Service → Report Fault (List Drained × Outputs)
  | [] => pure ([], outputs)
  | service :: services => do
    let (outcomes, next) ← outputs.perform width height service
    let (more, final) ← next.performAll width height services
    pure (outcomes ++ more, final)

theorem performAll_append (width height : Nat) (outputs : Outputs) (first second : List Service) :
    outputs.performAll width height (first ++ second) = (do
      let (outcomes, next) ← outputs.performAll width height first
      let (more, final) ← next.performAll width height second
      pure (outcomes ++ more, final)) := by
  induction first generalizing outputs with
  | nil =>
    simp only [List.nil_append, performAll, pure_bind]
    exact (bind_pure _).symm
  | cons service services ih =>
    simp only [List.cons_append, performAll, ih, bind_assoc, pure_bind, List.append_assoc]

end Outputs

/-- The screen after a call. -/
def Screen.after (width height : Nat) (screen : Screen) : Service → Screen
  | .upload pixels =>
    { screen with frame := pixels.take (width * height), uploads := screen.uploads + 1 }
  | .present => { screen with presents := screen.presents + 1 }
  | .render _ => screen

def Service.isRender : Service → Bool
  | .render _ => true
  | .upload _ | .present => false

/-- What an observer hears of a burst. -/
def Drained.notices : Drained → List Notice
  | .queued before after started =>
    .soundAdded before after :: if started then [.soundReady after] else []
  | .dropped _ => []

section Heard

variable {β : Type} {hear : Event → Option β}

/-- Of what is said of a burst only the notices are heard. -/
structure HearsNotices (hear : Event → Option β) : Prop where
  full : ∀ queued max dropped, hear (.queueFull queued max dropped) = none
  truncated : ∀ fitting frames, hear (.burstTruncated fitting frames) = none
  started : ∀ queued, hear (.playbackStarted queued) = none

/-- Every burst that is queued is heard of, and the start of playback. -/
theorem Gate.heard_drain {δ : Type} [Device δ] (only : HearsNotices hear) (gate : Gate)
    (bytes : List UInt8) (device : δ) :
    (gate.drain bytes device).events.filterMap hear =
      (gate.drain bytes device).value.1.notices.filterMap fun notice => hear (.notice notice) := by
  unfold drain
  dsimp only
  split
  · exact List.filterMap_cons_none (only.full ..)
  · simp only [Logged.bind_events, Logged.bind_value]
    split
    · change List.filterMap hear
        ([.notice (.soundAdded ..), .notice (.soundReady _)] ++ [.playbackStarted _]) = _
      rw [List.filterMap_append, List.filterMap_cons_none (only.started _), List.filterMap_nil,
        List.append_nil]
      rfl
    · rfl

/-- What was cut off a burst is not heard of. -/
theorem Sink.heard_offer (only : HearsNotices hear) (sink : Sink) (burst : Burst) :
    (sink.offer burst).events.filterMap hear =
      (sink.offer burst).value.1.notices.filterMap fun notice => hear (.notice notice) := by
  rw [offer_value, ← Gate.heard_drain only]
  unfold offer
  dsimp only
  split
  · simp only [Logged.bind_events, Logged.pure_events, List.append_nil, List.filterMap_append]
    exact congrArg (· ++ _) (List.filterMap_cons_none (only.truncated ..))
  · simp only [Logged.bind_events, Logged.pure_events, List.append_nil]

end Heard

theorem Sink.notices_offer (sink : Sink) (burst : Burst) :
    notices (sink.offer burst).events = (sink.offer burst).value.1.notices :=
  (sink.heard_offer ⟨fun _ _ _ => rfl, fun _ _ => rfl, fun _ => rfl⟩ burst).trans
    List.filterMap_some

namespace Outputs

/-- What calls did together: to the screen, to bursts, to observers and to the gate. -/
structure Served (width height : Nat) (start : Outputs) (services : List Service)
    (outcomes : List Drained) (final : Outputs) (events : List Event) : Prop where
  screen : final.screen = services.foldl (Screen.after width height) start.screen
  format : final.sink.format = start.sink.format
  length : outcomes.length = services.countP Service.isRender
  notices : PacingHost.notices events = outcomes.flatMap Drained.notices
  opens : start.sink.gate.ready = true → final.sink.gate.ready = true
  starts : outcomes.countP Drained.starts =
    if start.sink.gate.ready = false ∧ final.sink.gate.ready = true then 1 else 0

variable {width height : Nat} {start middle final : Outputs} {services later : List Service}
  {outcomes more : List Drained} {events rest : List Event}

theorem Served.nil (width height : Nat) (outputs : Outputs) :
    Served width height outputs [] [] outputs [] where
  screen := rfl
  format := rfl
  length := rfl
  notices := rfl
  opens := id
  starts := by
    rw [if_neg]
    · rfl
    · rintro ⟨closed, ready⟩
      exact absurd (closed.symm.trans ready) Bool.false_ne_true

theorem Served.append (first : Served width height start services outcomes middle events)
    (second : Served width height middle later more final rest) :
    Served width height start (services ++ later) (outcomes ++ more) final (events ++ rest) where
  screen := by rw [List.foldl_append, ← first.screen, second.screen]
  format := second.format.trans first.format
  length := by rw [List.length_append, first.length, second.length, List.countP_append]
  notices := by rw [notices_append, first.notices, second.notices, List.flatMap_append]
  opens := fun ready => second.opens (first.opens ready)
  starts := by
    have opensFirst := first.opens
    have opensSecond := second.opens
    rw [List.countP_append, first.starts, second.starts]
    revert opensFirst opensSecond
    cases start.sink.gate.ready <;> cases middle.sink.gate.ready <;>
      cases final.sink.gate.ready <;> decide

/-- On a stereo device, with pictures that can be counted, every call succeeds. -/
theorem perform_served {outputs : Outputs} (two : outputs.sink.format.channels = stereo)
    (countable : width * height < Word.longLimit) (service : Service) :
    ∃ outcomes next, (outputs.perform width height service).result = .ok (outcomes, next) ∧
      Served width height outputs [service] outcomes next
        (outputs.perform width height service).events := by
  cases service with
  | upload pixels =>
    have uploaded : outputs.screen.upload pixels width height =
        .ok (outputs.screen.after width height (.upload pixels)) := if_pos countable
    refine ⟨[], { outputs with screen := outputs.screen.after width height (.upload pixels) },
      ?_, ?_⟩
    · rw [perform, uploaded]
      rfl
    · rw [perform, uploaded]
      exact { Served.nil width height outputs with screen := rfl, length := rfl }
  | present =>
    refine ⟨[], { outputs with screen := outputs.screen.after width height .present }, rfl, ?_⟩
    exact { Served.nil width height outputs with screen := rfl, length := rfl, notices := rfl }
  | render burst =>
    obtain ⟨outcome, next, ran, handled⟩ := Sink.render_handles two burst
    have offered : (outputs.sink.offer burst).value = (outcome, next) := by
      rw [Sink.render_stereo two] at ran
      exact Except.ok.inj ran
    refine ⟨[outcome], { outputs with sink := next }, ?_, ?_⟩
    · rw [perform, (Report.bind_of_ok ran _).1]
      rfl
    · exact {
        screen := rfl
        format := handled.frame.1
        length := rfl
        notices := by
          have heard := outputs.sink.notices_offer burst
          rw [offered] at heard
          rw [perform, (Report.bind_of_ok ran _).2, Sink.render_stereo two, Report.events_lift,
            notices_append, heard]
          rfl
        opens := handled.stays_ready rfl
        starts := by
          have starts := handled.starts_iff rfl
          rw [List.countP_singleton]
          simp only [starts] }

theorem performAll_served {outputs : Outputs} (two : outputs.sink.format.channels = stereo)
    (countable : width * height < Word.longLimit) (services : List Service) :
    ∃ outcomes final, (outputs.performAll width height services).result = .ok (outcomes, final) ∧
      Served width height outputs services outcomes final
        (outputs.performAll width height services).events := by
  induction services generalizing outputs with
  | nil => exact ⟨[], outputs, rfl, .nil width height outputs⟩
  | cons service services ih =>
    obtain ⟨outcomes, next, ran, served⟩ := perform_served two countable service
    obtain ⟨more, final, ranLater, servedLater⟩ := ih (served.format ▸ two)
    refine ⟨outcomes ++ more, final, ?_, ?_⟩
    · rw [performAll, (Report.bind_of_ok ran _).1]
      dsimp only
      rw [(Report.bind_of_ok ranLater _).1]
      rfl
    · rw [performAll, (Report.bind_of_ok ran _).2]
      dsimp only
      rw [(Report.bind_of_ok ranLater _).2, Report.events_pure, List.append_nil]
      exact served.append servedLater

end Outputs

/-- The burst was queued. -/
def Drained.isQueued : Drained → Bool
  | .queued .. => true
  | .dropped _ => false

namespace PassStats

/-- The statistics with so many pictures and these bursts more. -/
def served (stats : PassStats) (pictures : Nat) (outcomes : List Drained) : PassStats :=
  { stats with
    pictureCount := stats.pictureCount + UInt32.ofNat pictures
    queuedCount := stats.queuedCount + UInt32.ofNat (outcomes.countP Drained.isQueued)
    droppedCount := stats.droppedCount +
      UInt32.ofNat (outcomes.countP fun outcome => !outcome.isQueued) }

theorem served_zero (stats : PassStats) : stats.served 0 [] = stats := by
  simp only [served, List.countP_nil, UInt32.reduceOfNat, UInt32.add_zero]

theorem served_served (stats : PassStats) (first second : Nat) (earlier later : List Drained) :
    (stats.served first earlier).served second later =
      stats.served (first + second) (earlier ++ later) := by
  simp only [served, List.countP_append, UInt32.ofNat_add, UInt32.add_assoc]

theorem addPicture_eq (stats : PassStats) : stats.addPicture = stats.served 1 [] := by
  simp only [addPicture, served, List.countP_nil, UInt32.reduceOfNat, UInt32.add_zero]

theorem addBurst_eq (stats : PassStats) (outcome : Drained) :
    stats.addBurst outcome = stats.served 0 [outcome] := by
  cases outcome <;> simp [addBurst, served, Drained.isQueued]

end PassStats

namespace Host

variable {σ : Type} [Engine σ]

def outputs (host : Host σ) : Outputs := ⟨host.screen, host.sink⟩

/-- The host once its engine and its outputs have moved on. -/
def moved (host : Host σ) (engine : σ) (outputs : Outputs) : Host σ :=
  { host with engine, screen := outputs.screen, sink := outputs.sink }

theorem servePictureOf_eq (answer : Answer) (stats : PassStats) (host : Host σ) :
    servePictureOf answer stats host = (do
      let (outcomes, outputs) ← host.outputs.performAll (Engine.width σ) (Engine.height σ)
        (if answer.picture then [.upload (Engine.frame host.engine), .present] else [])
      pure (stats.served (if answer.picture then 1 else 0) outcomes,
        host.moved host.engine outputs)) := by
  unfold servePictureOf
  cases answer.picture with
  | false =>
    simp only [Bool.false_eq_true, ↓reduceIte, Outputs.performAll, pure_bind,
      PassStats.served_zero]
    rfl
  | true =>
    simp only [↓reduceIte, servePicture, Outputs.performAll, Outputs.perform, bind_assoc, pure_bind,
      PassStats.addPicture_eq]
    rfl

theorem serveSoundOf_eq (answer : Answer) (stats : PassStats) (host : Host σ) :
    serveSoundOf answer stats host = (do
      let (outcomes, outputs) ← host.outputs.performAll (Engine.width σ) (Engine.height σ)
        (if answer.sound then [.render (Engine.sound host.engine)] else [])
      pure (stats.served 0 outcomes, host.moved host.engine outputs)) := by
  unfold serveSoundOf
  cases answer.sound with
  | false =>
    simp only [Bool.false_eq_true, ↓reduceIte, Outputs.performAll, pure_bind,
      PassStats.served_zero]
    rfl
  | true =>
    simp only [↓reduceIte, serveSound, Outputs.performAll, Outputs.perform, bind_assoc, pure_bind,
      PassStats.addBurst_eq]
    rfl

/-- Serving an answer makes its calls and counts them. -/
theorem serve_eq (answer : Answer) (engine : σ) (stats : PassStats) (host : Host σ) :
    serve answer engine stats host = (do
      let (outcomes, outputs) ← host.outputs.performAll (Engine.width σ) (Engine.height σ)
        (Answer.services (answer, engine))
      pure (stats.served (if answer.picture then 1 else 0) outcomes,
        host.moved engine outputs)) := by
  simp only [serve, servePictureOf_eq, serveSoundOf_eq, Answer.services, Outputs.performAll_append,
    bind_assoc, pure_bind, PassStats.served_served, Nat.add_zero]
  rfl

/-- Serving answers makes their calls in order and counts them. -/
theorem serveAll_eq (answers : List (Answer × σ)) (stats : PassStats) (host : Host σ) :
    serveAll answers stats host = (do
      let (outcomes, outputs) ← host.outputs.performAll (Engine.width σ) (Engine.height σ)
        (answers.flatMap Answer.services)
      pure (stats.served (answers.countP fun answer => answer.1.picture) outcomes,
        host.moved ((answers.map Prod.snd).getLastD host.engine) outputs)) := by
  induction answers generalizing stats host with
  | nil =>
    simp only [serveAll, List.flatMap_nil, Outputs.performAll, pure_bind, List.countP_nil,
      PassStats.served_zero]
    rfl
  | cons first answers ih =>
    obtain ⟨answer, engine⟩ := first
    simp only [serveAll, serve_eq, ih, List.flatMap_cons, Outputs.performAll_append, bind_assoc,
      pure_bind, PassStats.served_served, List.map_cons, List.getLastD_cons, List.countP_cons,
      Nat.add_comm]
    rfl

end Host

end PacingHost
