import PacingHost.Engine.Script
import PacingHost.Proofs.PassRun

/-! # The accounts of a pass

`Host.Accounted` is the account of a pass whose engine gives certain answers up to its target: how
often the engine was run and to what, what the screen and the sink were asked to do, and how the
counters, the outcomes of bursts and the notices agree. On a stereo device, with pictures that can
be counted, every such pass can be accounted for.
-/

namespace PacingHost

namespace Engine

variable {σ : Type} [Engine σ] {pad : Option Pad} {target : Nat} {engine : σ}
  {answers : List (Answer × σ)}

/-- An engine that writes down its targets was run once for each answer, to the one target. -/
theorem Answers.calls_last {calls : σ → List Nat}
    (records : ∀ pad target engine answer next, run pad target engine = .ok (answer, next) →
      calls next = calls engine ++ [target])
    (given : Answers pad target engine answers) :
    calls ((answers.map Prod.snd).getLastD engine) =
      calls engine ++ List.replicate answers.length target := by
  induction given with
  | last ran reached => exact records _ _ _ _ _ ran
  | more ran going later ih =>
    rw [List.map_cons, List.getLastD_cons, ih, records _ _ _ _ _ ran, List.append_assoc]
    rfl

/-- The last of some answers is one of them. -/
theorem Answers.last_mem (given : Answers pad target engine answers) :
    (answers.map Prod.snd).getLastD engine ∈ answers.map Prod.snd := by
  induction given with
  | last => exact List.mem_singleton.mpr rfl
  | more _ _ _ ih =>
    rw [List.map_cons, List.getLastD_cons]
    exact List.mem_cons_of_mem _ ih

/-- What an engine keeps when it runs it has kept with its last answer. -/
theorem Answers.last_keeps (Kind : σ → Prop)
    (keeps : ∀ {engine pad target answer next}, Kind engine →
      run pad target engine = .ok (answer, next) → Kind next)
    (given : Answers pad target engine answers) (kind : Kind engine) :
    Kind ((answers.map Prod.snd).getLastD engine) := by
  induction given with
  | last ran reached => exact keeps kind ran
  | more ran going later ih =>
    rw [List.map_cons, List.getLastD_cons]
    exact ih (keeps kind ran)

/-- What an engine keeps when it runs holds with each of its answers. -/
theorem Answers.all_keep (Kind : σ → Prop)
    (keeps : ∀ {engine pad target answer next}, Kind engine →
      run pad target engine = .ok (answer, next) → Kind next)
    (given : Answers pad target engine answers) (kind : Kind engine) :
    ∀ answer ∈ answers, Kind answer.2 := by
  induction given with
  | last ran reached =>
    intro answer member
    rw [List.mem_singleton.mp member]
    exact keeps kind ran
  | more ran going later ih =>
    intro answer member
    rcases List.mem_cons.mp member with rfl | member
    · exact keeps kind ran
    · exact ih (keeps kind ran) answer member

end Engine

/-- The screen once a picture of that size has been uploaded and presented. -/
def Screen.shown (width height : Nat) (screen : Screen) (pixels : Array UInt32) : Screen :=
  { screen with
    frame := pixels.take (width * height)
    uploads := screen.uploads + 1
    presents := screen.presents + 1 }

section Answers

variable {σ : Type} [Engine σ]

/-- The frames of all answers that have a picture. -/
def framesOf (answers : List (Answer × σ)) : List (Array UInt32) :=
  (answers.filter fun answer => answer.1.picture).map fun answer => Engine.frame answer.2

theorem length_framesOf (answers : List (Answer × σ)) :
    (framesOf answers).length = answers.countP fun answer => answer.1.picture := by
  rw [framesOf, List.length_map, List.countP_eq_length_filter]

/-- On a screen the calls of answers come to showing their pictures. -/
theorem foldl_after_services (width height : Nat) (answers : List (Answer × σ)) (screen : Screen) :
    (answers.flatMap Answer.services).foldl (Screen.after width height) screen =
      (framesOf answers).foldl (Screen.shown width height) screen := by
  induction answers generalizing screen with
  | nil => rfl
  | cons answer answers ih =>
    rw [List.flatMap_cons, List.foldl_append, ih]
    obtain ⟨⟨picture, sound, reached⟩, engine⟩ := answer
    cases picture <;> cases sound <;> rfl

theorem countP_isRender_services (answers : List (Answer × σ)) :
    (answers.flatMap Answer.services).countP Service.isRender =
      answers.countP fun answer => answer.1.sound := by
  induction answers with
  | nil => rfl
  | cons answer answers ih =>
    rw [List.flatMap_cons, List.countP_append, ih, List.countP_cons, Nat.add_comm]
    obtain ⟨⟨picture, sound, reached⟩, engine⟩ := answer
    cases picture <;> cases sound <;> rfl

end Answers

theorem Screen.counts_foldl_shown (width height : Nat) (frames : List (Array UInt32))
    (screen : Screen) :
    (frames.foldl (shown width height) screen).uploads = screen.uploads + frames.length ∧
      (frames.foldl (shown width height) screen).presents = screen.presents + frames.length := by
  induction frames generalizing screen with
  | nil => exact ⟨rfl, rfl⟩
  | cons frame frames ih =>
    obtain ⟨uploads, presents⟩ := ih (screen.shown width height frame)
    rw [List.foldl_cons, uploads, presents, List.length_cons]
    constructor <;> simp only [shown] <;> omega

/-- A tally counts the bursts that were queued and the starts of playback. -/
theorem Tally.countAll_notices (tally : Tally) (outcomes : List Drained) :
    tally.countAll (outcomes.flatMap Drained.notices) =
      ⟨tally.added + outcomes.countP Drained.isQueued,
        tally.ready + outcomes.countP Drained.starts⟩ := by
  induction outcomes generalizing tally with
  | nil => rfl
  | cons outcome outcomes ih =>
    rw [List.flatMap_cons, countAll_append, ih, List.countP_cons, List.countP_cons]
    rcases outcome with ⟨before, after, started⟩ | depth
    · cases started <;>
        simp [Drained.notices, Drained.isQueued, Drained.starts, countAll, count, Nat.add_assoc,
          Nat.add_comm 1]
    · simp [Drained.notices, Drained.isQueued, Drained.starts, countAll]

/-- Every burst is either queued or dropped. -/
theorem countP_isQueued_add (outcomes : List Drained) :
    outcomes.countP Drained.isQueued + outcomes.countP (fun outcome => !outcome.isQueued) =
      outcomes.length := by
  have split : outcomes.length = _ := List.length_eq_countP_add_countP Drained.isQueued
  simp only [Bool.not_eq_true, Bool.decide_eq_false] at split
  exact split.symm

namespace Host

variable {σ : Type} [Engine σ]

/-- What a pass comes to whose engine gave these answers: what became of their bursts, and the
outputs once all answers are served. -/
structure Accounted (host : Host σ) (delta : Float) (answers : List (Answer × σ))
    (stats : PassStats) (ended : Host σ) (outcomes : List Drained) (outputs : Outputs) : Prop where
  /-- The target is the budget beyond the cycle count of the engine, as far as cycles go. -/
  target : stats.target =
    min (Engine.cycles host.engine + host.budget (checkDelta delta).value) (Word.longLimit - 1)
  /-- The engine was run once for each answer and to no other target. -/
  calls : ∀ calls : σ → List Nat,
    (∀ pad target engine answer next, Engine.run pad target engine = .ok (answer, next) →
      calls next = calls engine ++ [target]) →
    calls ended.engine = calls host.engine ++ List.replicate answers.length stats.target
  /-- The outputs were asked for what the answers have, in their order. -/
  served : (host.outputs.performAll (Engine.width σ) (Engine.height σ)
    (answers.flatMap Answer.services)).result = .ok (outcomes, outputs)
  /-- The engine stands where it gave the last answer; a step has ended. -/
  settled : ended = (host.moved ((answers.map Prod.snd).getLastD host.engine) outputs).settled
  /-- Every picture was shown once, as it was then and cut to its size. -/
  screen : ended.screen =
    (framesOf answers).foldl (Screen.shown (Engine.width σ) (Engine.height σ)) host.screen
  uploads : ended.screen.uploads = host.screen.uploads + stats.pictures
  presents : ended.screen.presents = host.screen.presents + stats.pictures
  pictures : stats.pictures = answers.countP fun answer => answer.1.picture
  /-- Every burst was rendered once. -/
  bursts : stats.queued + stats.dropped = answers.countP fun answer => answer.1.sound
  rendered : outcomes.length = answers.countP fun answer => answer.1.sound
  queued : stats.queued = outcomes.countP Drained.isQueued
  /-- The observer heard what became of the bursts, in their order. -/
  notices : PacingHost.notices (host.pass delta).events = outcomes.flatMap Drained.notices
  /-- It was told of each queued burst, and of a start of playback at most once. -/
  tally : ({} : Tally).countAll (PacingHost.notices (host.pass delta).events) =
    ⟨stats.queued,
      if host.sink.gate.ready = false ∧ outputs.sink.gate.ready = true then 1 else 0⟩
  /-- Nothing else was reported than the calls report, and the pass itself. -/
  events : (host.pass delta).events =
    (checkDelta delta).events ++
      ((host.outputs.performAll (Engine.width σ) (Engine.height σ)
          (answers.flatMap Answer.services)).events ++
        ((if host.config.step then [.pauseToggled true, .queueReset] else []) ++
          [.passDone (checkDelta delta).value stats.target stats.pictures stats.bursts]))

theorem notices_checkDelta (delta : Float) : notices (checkDelta delta).events = [] := by
  unfold checkDelta
  split <;> rfl

/-- A pass serves everything its engine answers, each answer once and in order, and nothing more. -/
theorem pass_accounts {host : Host σ} {delta : Float} {answers : List (Answer × σ)}
    (running : host.config.paused = false) (two : host.sink.format.channels = stereo)
    (countable : Engine.width σ * Engine.height σ < Word.longLimit)
    (given : Engine.Answers (some host.pad) (host.target (checkDelta delta).value) host.engine
      answers)
    (patient : answers.length < Word.limit) :
    ∃ stats ended outcomes outputs, (host.pass delta).result = .ok (stats, ended) ∧
      host.Accounted delta answers stats ended outcomes outputs := by
  have opened : host.outputs.sink.format.channels = stereo := two
  obtain ⟨outcomes, outputs, ran, served⟩ :=
    Outputs.performAll_served opened countable (answers.flatMap Answer.services)
  have passed : host.Passed delta answers outcomes outputs := ⟨running, given, ran⟩
  have within : answers.length ≤ Engine.patience := Nat.le_pred_of_lt patient
  have done := (passWithin_eq_ok_iff running).mpr
    ⟨answers, outcomes, outputs, passed, within, rfl, rfl⟩
  have all := events_of_passed passed within
  refine ⟨_, _, outcomes, outputs, done, ?_⟩
  -- What the pass adds to the reports of its calls is not for the observer.
  have heard : notices (host.pass delta).events = outcomes.flatMap Drained.notices := by
    rw [pass, all, notices_append, notices_append, notices_append, notices_checkDelta,
      notices_settledEvents, served.notices]
    exact List.append_nil _
  have screen : outputs.screen =
      (framesOf answers).foldl (Screen.shown (Engine.width σ) (Engine.height σ)) host.screen :=
    served.screen.trans (foldl_after_services _ _ answers host.screen)
  obtain ⟨uploads, presents⟩ := Screen.counts_foldl_shown (Engine.width σ) (Engine.height σ)
    (framesOf answers) host.screen
  rw [← screen, length_framesOf] at uploads presents
  have rendered := served.length.trans (countP_isRender_services answers)
  -- So few answers are counted exactly.
  have bursts : outcomes.length < Word.limit :=
    Nat.lt_of_le_of_lt (rendered ▸ List.countP_le_length) patient
  have pictures :=
    PassStats.pictures_ofServed (host.target (checkDelta delta).value) outcomes patient
  obtain ⟨queued, dropped⟩ :=
    PassStats.queued_ofServed (host.target (checkDelta delta).value) answers bursts
  have tally : ({} : Tally).countAll (outcomes.flatMap Drained.notices) =
      ⟨outcomes.countP Drained.isQueued, outcomes.countP Drained.starts⟩ := by
    rw [Tally.countAll_notices, Nat.zero_add, Nat.zero_add]
  exact {
    target := rfl
    calls := by
      intro calls records
      rw [engine_afterPass]
      exact given.calls_last records
    served := ran
    settled := rfl
    screen := (screen_afterPass ..).trans screen
    uploads := (congrArg Screen.uploads (screen_afterPass ..)).trans (pictures ▸ uploads)
    presents := (congrArg Screen.presents (screen_afterPass ..)).trans (pictures ▸ presents)
    pictures
    bursts := by rw [queued, dropped, countP_isQueued_add, rendered]
    rendered
    queued
    notices := heard
    tally := by
      rw [heard, tally, served.starts, queued]
      rfl
    events := all }

/-- A host whose engine answers with single, combined and unknown bits, and has an answer left. -/
def rehearsal : Host (Script 2 2) where
  setup := {}
  engine :=
    { answers := [1, 2, 0x103, 8, 6, 1]
      frame := #[10, 20, 30, 40, 50]
      sound := ⟨[1, 2, 3, 4, 5, 6, 7, 8], 4⟩ }
  sink := ⟨.ofFormat ⟨44100, stereo, 16⟩, .blank 16, ⟨false, 32, 80⟩⟩
  screen := {}

/-- Ten milliseconds, over which the queue is filled to its start threshold. -/
theorem pass_accounts_rehearsal :
    ∃ stats ended outcomes outputs, (rehearsal.pass 10.0).result = .ok (stats, ended) ∧
      rehearsal.Accounted 10.0
        (Engine.driveFor (some rehearsal.pad) (rehearsal.target (checkDelta 10.0).value) 5
          rehearsal.engine).answers
        stats ended outcomes outputs :=
  pass_accounts rfl rfl (by decide) (Engine.answers_of_driveFor rfl) (by decide)

end Host

end PacingHost
