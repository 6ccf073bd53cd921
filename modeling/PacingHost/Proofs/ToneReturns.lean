import PacingHost.Proofs.HostRun
import PacingHost.Proofs.PipelineFill
import PacingHost.Proofs.ToneSchedule

/-! # Runs of the tone engine return

Samples can crowd at a cycle, so a run need not come closer to its target with each of them. What it
does between two looks at its target is `Tone.advance`, and `Tone.Loops` lists the states in which it
looks. `Tone.Steady` holds of every state an engine reaches: it is never ahead of what is due next.
From that follow the bounds of all numbers in a run, `Tone.Contract`, which says what one run answers
with, and how often runs have to be repeated until the target is reached.
-/

namespace PacingHost

namespace Tone

variable {tone next final : Tone} {pad : Option Pad} {target : Nat} {answer : Answer}
  {supply : Nat → Turn} {targets : List Nat} {answers : List (Answer × Tone)}

/-- A run, with the states in which it looks at its target. -/
inductive Loops (pad : Option Pad) (target : Nat) : Tone → List Tone → Answer → Tone → Prop
  | passed {tone : Tone} (passed : target ≤ tone.cycles) :
      Loops pad target tone [tone] ⟨false, false, true⟩ tone
  | told {tone next : Tone} {answer : Answer} (behind : tone.cycles < target)
      (moved : tone.advance pad target = .ok (answer, next)) (reason : answer.isEmpty = false) :
      Loops pad target tone [tone] answer next
  | again {tone middle next : Tone} {first answer : Answer} {visited : List Tone}
      (behind : tone.cycles < target) (moved : tone.advance pad target = .ok (first, middle))
      (silent : first.isEmpty = true) (later : Loops pad target middle visited answer next) :
      Loops pad target tone (tone :: visited) answer next

theorem Loops.runOn {visited : List Tone} (loops : Loops pad target tone visited answer next) :
    tone.runOn pad target = .ok (answer, next) := by
  induction loops with
  | passed passed => exact runOn_of_reached passed
  | told behind moved reason =>
    rw [Tone.runOn, if_neg (Nat.not_le.mpr behind)]
    split
    · next stopped =>
      rw [moved] at stopped
      cases stopped
    · next again =>
      cases moved.symm.trans again
      rw [reason]
      rfl
  | again behind moved silent _ ih =>
    rw [Tone.runOn, if_neg (Nat.not_le.mpr behind)]
    split
    · next stopped =>
      rw [moved] at stopped
      cases stopped
    · next again =>
      cases moved.symm.trans again
      rw [dif_pos silent]
      exact ih

/-- The engine has made nothing that is not due yet, and nothing is due behind it. -/
structure Timely (tone : Tone) : Prop where
  samplesMade : tone.samples * tone.cyclesPerSecond / tone.sampleRate ≤ tone.cycles
  sampleAhead : tone.cycles ≤ tone.nextSample
  picturesMade : tone.pictures * cyclesPerPicture ≤ tone.cycles
  pictureAhead : tone.cycles < tone.nextPicture

theorem Timely.le_due (timely : Timely tone) : tone.cycles ≤ tone.due := by
  have sample := timely.sampleAhead
  have picture := timely.pictureAhead
  unfold due
  omega

theorem timely_start (cyclesPerSecond sampleRate : UInt32) (bufferFrames : Nat) (hz : Float) :
    Timely (start cyclesPerSecond sampleRate bufferFrames hz) where
  samplesMade := by
    change 0 * _ / _ ≤ 0
    simp only [Nat.zero_mul, Nat.zero_div, Nat.le_refl]
  sampleAhead := Nat.zero_le _
  picturesMade := Nat.le_of_eq (Nat.zero_mul _)
  pictureAhead := by
    change 0 < (0 + 1) * cyclesPerPicture
    decide

theorem Timely.event (timely : Timely tone) (pad : Option Pad) : Timely (tone.event pad) := by
  have ahead := timely.le_due
  have first : tone.due ≤ tone.nextSample ∧ tone.due ≤ tone.nextPicture :=
    ⟨Nat.min_le_left .., Nat.min_le_right ..⟩
  obtain ⟨cycles, clock, rate, _⟩ := tone.event_frame pad
  obtain ⟨samples, pictures⟩ := tone.event_counts pad
  refine ⟨?_, ?_, ?_, ?_⟩
  · rw [samples, clock, rate, cycles]
    split
    · next sample => exact Nat.le_of_eq sample.symm
    · exact Nat.le_trans timely.samplesMade ahead
  · -- Of two samples the later one is due at the same cycle or at a later one.
    have later : tone.nextSample ≤ (tone.event pad).nextSample := by
      rw [nextSample, nextSample, samples, clock, rate]
      exact Nat.div_le_div_right (Nat.mul_le_mul_right _ (by omega))
    rw [cycles]
    exact Nat.le_trans first.1 later
  · rw [pictures, cycles]
    split
    · next picture => exact Nat.le_of_eq picture.symm
    · exact Nat.le_trans timely.picturesMade ahead
  · rw [nextPicture, pictures, cycles]
    split
    · next picture =>
      rw [picture, nextPicture, cyclesPerPicture]
      omega
    · next noPicture => exact Nat.lt_of_le_of_ne first.2 noPicture

theorem Runs.timely (runs : Runs pad target tone answer next) (timely : Timely tone)
    (behind : tone.cycles ≤ target) : Timely next := by
  induction runs with
  | stopped early =>
    unfold due at early
    exact {
      samplesMade := Nat.le_trans timely.samplesMade behind
      sampleAhead := Nat.le_of_lt (Nat.lt_of_lt_of_le early (Nat.min_le_left ..))
      picturesMade := Nat.le_trans timely.picturesMade behind
      pictureAhead := Nat.lt_of_lt_of_le early (Nat.min_le_right ..) }
  | told => exact timely.event pad
  | @silent tone next answer within silent later ih =>
    exact ih (timely.event pad) ((tone.event_frame pad).1 ▸ within)

/-- What holds of an engine in every state that it reaches. -/
structure Steady (tone : Tone) : Prop where
  regular : Regular tone
  filling : Filling tone
  timely : Timely tone
  clock : tone.cyclesPerSecond < Word.limit

theorem Steady.configure (steady : Steady tone) (config : Config) :
    Steady (Engine.configure config tone) where
  regular := steady.regular.configure config
  filling := { steady.filling with }
  timely := { steady.timely with }
  clock := steady.clock

theorem Timely.emptied (timely : Timely tone) : Timely tone.emptied := by
  unfold Tone.emptied
  split
  · exact { timely with }
  · exact timely

theorem Steady.run (steady : Steady tone)
    (ran : Engine.run pad target tone = .ok (answer, next)) : Steady next := by
  obtain ⟨counts, alike⟩ := steady.regular.run_counts steady.filling ran
  exact {
    regular := steady.regular.run ran
    filling := counts.filling
    timely := by
      rcases steady.regular.run_cases ran with ⟨_, _, rfl⟩ | ⟨behind, runs⟩
      · exact steady.timely.emptied
      · exact runs.timely steady.timely.emptied (tone.emptied_frame.1 ▸ Nat.le_of_lt behind)
    clock := alike.clock ▸ steady.clock }

theorem Reached.steady (reached : Reached tone) : Steady tone := by
  induction reached with
  | started cyclesPerSecond sampleRate countable hz =>
    exact {
      regular := regular_start cyclesPerSecond sampleRate countable hz
      filling := filling_start ..
      timely := timely_start ..
      clock := Nat.max_lt.mpr ⟨cyclesPerSecond.toNat_lt, by decide⟩ }
  | ran _ ran ih => exact ih.run ran
  | configured config _ ih => exact ih.configure config

/-- What a run computes when it looks at its target can be counted: the next sample and picture and
their cycles, the size of the sound buffer and the columns of the pattern. -/
structure Fits (tone : Tone) : Prop where
  nextCount : tone.samples + 1 < Word.longLimit
  product : (tone.samples + 1) * tone.cyclesPerSecond < Word.longLimit * Word.longLimit
  sampleCycle : tone.nextSample < Word.longLimit
  pictureCount : tone.pictures + 1 < Word.longLimit
  pictureCycle : tone.nextPicture < Word.longLimit
  columns : tone.pictures + width < Word.longLimit
  buffer : tone.bufferSize < Word.longLimit
  sound : tone.sound.size + 2 ≤ tone.bufferSize

/-- A cycle up to which samples and cycles stay below half of what can be counted. -/
structure Within (tone : Tone) (cycle : Nat) : Prop where
  half : cycle ≤ 9223372036854775808
  samples : (cycle + 1) * tone.sampleRate ≤ 9223372036854775808 * tone.cyclesPerSecond

theorem Within.of_le {cycle later : Nat} (within : Within tone later) (before : cycle ≤ later) :
    Within tone cycle where
  half := Nat.le_trans before within.half
  samples := Nat.le_trans (Nat.mul_le_mul_right _ (Nat.succ_le_succ before)) within.samples

theorem BuiltAlike.within {cycle : Nat} (alike : BuiltAlike tone next)
    (within : Within tone cycle) : Within next cycle where
  half := within.half
  samples := by
    rw [alike.rate, alike.clock]
    exact within.samples

/-- The samples that were made are fewer than the bound on cycles, and the next one is due at most
one period of the clock later. -/
theorem Steady.sample_bounds (steady : Steady tone) (within : Within tone tone.cycles) :
    tone.samples < 9223372036854775808 ∧
      tone.nextSample < tone.cycles + 1 + tone.cyclesPerSecond := by
  have rate := steady.regular.rate
  have made : tone.samples * tone.cyclesPerSecond < (tone.cycles + 1) * tone.sampleRate := by
    rw [← Nat.div_lt_iff_lt_mul rate]
    exact Nat.lt_succ_of_le steady.timely.samplesMade
  constructor
  · exact Nat.lt_of_mul_lt_mul_right (Nat.lt_of_lt_of_le made within.samples)
  · have period := Nat.le_mul_of_pos_right tone.cyclesPerSecond rate
    rw [nextSample, Nat.div_lt_iff_lt_mul rate, Nat.succ_mul, Nat.add_mul]
    omega

theorem Steady.fits (steady : Steady tone) (opened : tone.full = false)
    (within : Within tone tone.cycles) : Fits tone := by
  obtain ⟨samples, nextSample⟩ := steady.sample_bounds within
  have half := within.half
  have clock := steady.clock
  have pictures : tone.pictures * 70224 ≤ tone.cycles := steady.timely.picturesMade
  have frames := Nat.mod_lt tone.samples steady.filling.positive
  have size := steady.filling.opened opened
  have buffer : tone.bufferSize = 2 * tone.bufferFrames := rfl
  have picture : tone.nextPicture = (tone.pictures + 1) * 70224 := rfl
  have columns : width = 160 := rfl
  have word : Word.limit = 4294967296 := rfl
  have long : Word.longLimit = 18446744073709551616 := rfl
  exact {
    nextCount := by omega
    product := Nat.mul_lt_mul_of_lt_of_le (by omega) (by omega) (by omega)
    sampleCycle := by omega
    pictureCount := by omega
    pictureCycle := by omega
    columns := by omega
    buffer := steady.regular.countable
    sound := by omega }

theorem Steady.event (steady : Steady tone) (opened : tone.full = false) (pad : Option Pad) :
    Steady (tone.event pad) where
  regular := steady.regular.event pad
  filling := (steady.filling.event opened pad).1
  timely := steady.timely.event pad
  clock := (builtAlike_event tone pad).clock ▸ steady.clock

theorem Steady.emptied (steady : Steady tone) : Steady tone.emptied where
  regular := steady.regular.emptied
  filling := steady.filling.emptied.1
  timely := steady.timely.emptied
  clock := (builtAlike_emptied tone).clock ▸ steady.clock

/-- A state in which a run looks at its target. -/
structure Visited (tone : Tone) (last : Nat) (state : Tone) : Prop where
  steady : Steady state
  opened : state.full = false
  alike : BuiltAlike tone state
  early : state.cycles ≤ last

theorem Visited.fits {last : Nat} {state : Tone} (visited : Visited tone last state)
    (within : Within tone last) : Fits state :=
  visited.steady.fits visited.opened ((visited.alike.within within).of_le visited.early)

/-- A run looks at its target once more than it makes samples in silence. -/
theorem Runs.loops (runs : Runs pad target tone answer next) (steady : Steady tone)
    (opened : tone.full = false) (behind : tone.cycles < target) :
    ∃ visited, Loops pad target tone visited answer next ∧
      visited.length + tone.samples ≤ next.samples + 1 ∧
      ∀ state ∈ visited, Visited tone target state := by
  induction runs with
  | @stopped tone early =>
    have here : Visited tone target tone := ⟨steady, opened, .refl tone, Nat.le_of_lt behind⟩
    refine ⟨[tone], .told behind (advance_of_not_due early) rfl, Nat.le_of_eq (Nat.add_comm ..), ?_⟩
    intro state member
    rwa [List.mem_singleton.mp member]
  | @told tone within reason =>
    have here : Visited tone target tone := ⟨steady, opened, .refl tone, Nat.le_of_lt behind⟩
    have samples := (tone.event_counts pad).1
    refine ⟨[tone], .told behind (steady.regular.advance_of_due within) reason, ?_, ?_⟩
    · rw [samples, List.length_singleton]
      omega
    · intro state member
      rwa [List.mem_singleton.mp member]
  | @silent tone next answer within silent later ih =>
    have here : Visited tone target tone := ⟨steady, opened, .refl tone, Nat.le_of_lt behind⟩
    obtain ⟨noPicture, quiet, early⟩ := silent_answer silent
    have samples := (tone.event_counts pad).1
    have sample : tone.due = tone.nextSample := by
      unfold due at noPicture ⊢
      omega
    obtain ⟨visited, loops, few, all⟩ := ih (steady.event opened pad)
      ((full_event opened pad).trans quiet) ((tone.event_frame pad).1 ▸ early)
    refine ⟨tone :: visited, .again behind (steady.regular.advance_of_due within) silent loops,
      ?_, ?_⟩
    · rw [if_pos sample] at samples
      rw [List.length_cons]
      omega
    · intro state member
      rcases List.mem_cons.mp member with rfl | member
      · exact here
      · have found := all state member
        exact { found with alike := (builtAlike_event tone pad).trans found.alike }

/-- A run of the engine comes to an end, whatever the target. -/
theorem Steady.run_loops (steady : Steady tone) (pad : Option Pad) (target : Nat) :
    ∃ visited answer next, Loops pad target tone.emptied visited answer next ∧
      Engine.run pad target tone = .ok (answer, next) ∧
      visited.length + tone.samples ≤ next.samples + 1 ∧
      ∀ state ∈ visited, Visited tone (max tone.cycles target) state := by
  obtain ⟨cycles, opened, _, samples, _⟩ := tone.emptied_frame
  have alike := builtAlike_emptied tone
  rcases Nat.lt_or_ge tone.cycles target with behind | passed
  · have behind : tone.emptied.cycles < target := cycles ▸ behind
    obtain ⟨answer, next, ran, runs⟩ := steady.regular.emptied.runOn_runs pad behind
    obtain ⟨visited, loops, few, all⟩ := runs.loops steady.emptied opened behind
    refine ⟨visited, answer, next, loops, ran, samples ▸ few, ?_⟩
    intro state member
    have found := all state member
    exact { found with
      alike := alike.trans found.alike
      early := Nat.le_trans found.early (Nat.le_max_right ..) }
  · have passed : target ≤ tone.emptied.cycles := cycles ▸ passed
    refine ⟨[tone.emptied], ⟨false, false, true⟩, tone.emptied, .passed passed,
      runOn_of_reached passed, ?_, ?_⟩
    · rw [samples, List.length_singleton]
      omega
    · intro state member
      rw [List.mem_singleton.mp member]
      exact ⟨steady.emptied, opened, alike, cycles ▸ Nat.le_max_left ..⟩

/-- What one run toward a target answers with, and what it leaves. -/
structure Contract (tone : Tone) (target : Nat) (answer : Answer) (next : Tone) : Prop where
  reason : answer.isEmpty = false
  forward : tone.cycles ≤ next.cycles
  bounded : next.cycles ≤ max tone.cycles target
  reached : answer.reached = true ↔ target ≤ next.cycles
  picture : answer.picture = true ↔ tone.pictures < next.pictures
  /-- Pictures come one by one, each at its cycle. -/
  drawn : answer.picture = true →
    next.pictures = tone.pictures + 1 ∧ next.cycles = next.pictures * 70224
  sound : answer.sound = true ↔ tone.samples < next.samples ∧ next.full = true
  burst : answer.sound = true → (Engine.sound next).frames = tone.bufferFrames
  room : answer.sound = false → (Engine.sound next).frames < tone.bufferFrames
  kept : tone.samples ≤ next.samples ∧ tone.pictures ≤ next.pictures

theorem Runs.reason (runs : Runs pad target tone answer next) : answer.isEmpty = false := by
  induction runs with
  | stopped => rfl
  | told _ reason => exact reason
  | silent _ _ _ ih => exact ih

theorem Runs.cycles (runs : Runs pad target tone answer next) (timely : Timely tone)
    (behind : tone.cycles ≤ target) : tone.cycles ≤ next.cycles ∧ next.cycles ≤ target := by
  induction runs with
  | stopped => exact ⟨behind, Nat.le_refl target⟩
  | @told tone within =>
    rw [(tone.event_frame pad).1]
    exact ⟨timely.le_due, within⟩
  | @silent tone next answer within silent later ih =>
    have cycles := (tone.event_frame pad).1
    obtain ⟨forward, bounded⟩ := ih (timely.event pad) (cycles ▸ within)
    exact ⟨Nat.le_trans timely.le_due (cycles ▸ forward), bounded⟩

theorem Runs.reached_iff (runs : Runs pad target tone answer next) :
    answer.reached = true ↔ target ≤ next.cycles := by
  induction runs with
  | stopped => exact ⟨fun _ => Nat.le_refl target, fun _ => rfl⟩
  | @told tone =>
    rw [(tone.event_frame pad).1]
    exact decide_eq_true_iff
  | silent _ _ _ ih => exact ih

/-- A picture is told of at its own cycle. -/
theorem Runs.at_picture (runs : Runs pad target tone answer next)
    (picture : answer.picture = true) : next.cycles = next.pictures * cyclesPerPicture := by
  induction runs with
  | stopped => cases picture
  | @told tone =>
    have due : tone.due = tone.nextPicture := of_decide_eq_true picture
    have pictures := (tone.event_counts pad).2
    rw [if_pos due] at pictures
    rw [(tone.event_frame pad).1, pictures, due, nextPicture]
  | silent _ _ _ ih => exact ih picture

/-- Samples are only added, and a full sound buffer has one more. -/
theorem Runs.samples (runs : Runs pad target tone answer next) :
    tone.samples ≤ next.samples ∧ (answer.sound = true → tone.samples < next.samples) := by
  induction runs with
  | stopped =>
    refine ⟨Nat.le_refl _, ?_⟩
    intro impossible
    cases impossible
  | @told tone =>
    have samples := (tone.event_counts pad).1
    refine ⟨samples ▸ Nat.le_add_right .., ?_⟩
    intro sound
    rw [if_pos (tone.fills_iff.mp sound).1] at samples
    omega
  | @silent tone next answer within silent later ih =>
    have samples := (tone.event_counts pad).1
    obtain ⟨kept, grown⟩ := ih
    have first : tone.samples ≤ (tone.event pad).samples := samples ▸ Nat.le_add_right ..
    exact ⟨Nat.le_trans first kept, fun sound => Nat.lt_of_le_of_lt first (grown sound)⟩

theorem frames_sound (tone : Tone) : (Engine.sound tone).frames = tone.sound.size / 2 := by
  change tone.sound.toList.length / 2 = _
  rw [Array.length_toList]

/-- A full sound buffer holds its frames, and an open one fewer. -/
theorem Filling.frames_sound (filling : Filling tone) :
    (tone.full = true → (Engine.sound tone).frames = tone.bufferFrames) ∧
      (tone.full = false → (Engine.sound tone).frames < tone.bufferFrames) := by
  rw [Tone.frames_sound]
  constructor
  · intro full
    have size := (filling.closed full).1
    omega
  · intro opened
    have size := filling.opened opened
    have short := Nat.mod_lt tone.samples filling.positive
    omega

/-- What an answer tells of a run besides the counts of pictures and bursts. -/
theorem Steady.run_moves (steady : Steady tone)
    (ran : Engine.run pad target tone = .ok (answer, next)) :
    answer.isEmpty = false ∧ tone.cycles ≤ next.cycles ∧ next.cycles ≤ max tone.cycles target ∧
      (answer.reached = true ↔ target ≤ next.cycles) ∧
      (answer.picture = true → next.cycles = next.pictures * cyclesPerPicture) ∧
      tone.samples ≤ next.samples ∧ (answer.sound = true → tone.samples < next.samples) := by
  obtain ⟨cycles, _, _, samples, _⟩ := tone.emptied_frame
  rcases steady.regular.run_cases ran with ⟨passed, rfl, rfl⟩ | ⟨behind, runs⟩
  · rw [cycles, samples]
    exact ⟨rfl, Nat.le_refl _, Nat.le_max_left .., ⟨fun _ => passed, fun _ => rfl⟩, nofun,
      Nat.le_refl _, nofun⟩
  · obtain ⟨forward, bounded⟩ := runs.cycles steady.timely.emptied (cycles ▸ Nat.le_of_lt behind)
    rw [cycles] at forward
    rw [← samples]
    exact ⟨runs.reason, forward, Nat.le_trans bounded (Nat.le_max_right ..), runs.reached_iff,
      runs.at_picture, runs.samples⟩

theorem Steady.contract (steady : Steady tone)
    (ran : Engine.run pad target tone = .ok (answer, next)) :
    Contract tone target answer next := by
  obtain ⟨counts, alike⟩ := steady.regular.run_counts steady.filling ran
  obtain ⟨reason, forward, bounded, reached, drawn, kept, grown⟩ := steady.run_moves ran
  obtain ⟨whole, part⟩ := counts.filling.frames_sound
  have pictures := counts.pictures
  rw [counts.full, alike.frames] at whole part
  exact {
    reason, forward, bounded, reached
    picture := by
      cases picture : answer.picture with
      | true => simp [pictures, picture]
      | false => simp [pictures, picture]
    drawn := by
      intro picture
      rw [if_pos picture] at pictures
      exact ⟨pictures, drawn picture⟩
    sound := by
      rw [counts.full]
      exact ⟨fun sound => ⟨grown sound, sound⟩, fun told => told.2⟩
    burst := whole
    room := part
    kept := ⟨kept, pictures ▸ Nat.le_add_right ..⟩ }

theorem Reached.prepared (reached : Reached tone) (turn : Turn) :
    Reached (Engine.prepared tone turn) := by
  obtain ⟨configs, pad⟩ := turn
  induction configs generalizing tone with
  | nil => exact reached
  | cons config configs ih => exact ih (reached.configured config)

/-- A run keeps its contract whatever the engine is told before. -/
theorem Reached.turn_contract (reached : Reached tone) {turn : Turn}
    (ran : Engine.run turn.pad target (Engine.prepared tone turn) = .ok (answer, next)) :
    Reached next ∧ BuiltAlike tone next ∧ Contract tone target answer next := by
  have prepared := reached.prepared turn
  obtain ⟨_, _, alike⟩ :=
    reached.steady.regular.turn_counts reached.steady.filling ran
  obtain ⟨config, same⟩ := tone.prepared_eq turn
  have contract := prepared.steady.contract ran
  rw [same] at contract
  exact ⟨prepared.ran ran, alike, { contract with }⟩

theorem Contract.early (contract : Contract tone target answer next) {last : Nat}
    (within : target ≤ last) : next.cycles ≤ max tone.cycles last := by
  have bounded := contract.bounded
  omega

/-- An answer that does not reach the target tells of a picture or of a sample. -/
theorem Contract.progress (contract : Contract tone target answer next)
    (going : answer.reached = false) :
    tone.samples + tone.pictures < next.samples + next.pictures := by
  obtain ⟨samples, pictures⟩ := contract.kept
  have reason := contract.reason
  simp only [Answer.isEmpty, going, Bool.or_false, Bool.not_eq_eq_eq_not, Bool.not_false,
    Bool.or_eq_true] at reason
  rcases reason with picture | sound
  · have drawn := contract.picture.mp picture
    omega
  · have made := (contract.sound.mp sound).1
    omega

/-- There are no more answers than samples, pictures and targets. -/
theorem Reached.attended_length (reached : Reached tone)
    (attended : Engine.Attended supply tone targets answers final) :
    answers.length + tone.samples + tone.pictures ≤
        final.samples + final.pictures + targets.length ∧
      tone.samples ≤ final.samples ∧ tone.pictures ≤ final.pictures := by
  induction attended with
  | nil =>
    refine ⟨?_, Nat.le_refl _, Nat.le_refl _⟩
    simp only [List.length_nil]
    omega
  | reached ran _ _ ih =>
    obtain ⟨still, _, contract⟩ := reached.turn_contract ran
    obtain ⟨few, samples, pictures⟩ := ih still
    have kept := contract.kept
    rw [List.length_cons, List.length_cons]
    omega
  | going ran going _ ih =>
    obtain ⟨still, _, contract⟩ := reached.turn_contract ran
    obtain ⟨few, samples, pictures⟩ := ih still
    have kept := contract.kept
    have more := contract.progress going
    rw [List.length_cons]
    omega

/-- A state on the way to some targets, of which this is the last. -/
structure OnWay (tone : Tone) (last : Nat) (state : Tone) : Prop where
  reached : Reached state
  alike : BuiltAlike tone state
  early : state.cycles ≤ max tone.cycles last

theorem OnWay.after {last : Nat} {state : Tone} (later : OnWay next last state)
    (alike : BuiltAlike tone next) (early : next.cycles ≤ max tone.cycles last) :
    OnWay tone last state where
  reached := later.reached
  alike := alike.trans later.alike
  early := by
    have := later.early
    omega

theorem Reached.attended_onWay (reached : Reached tone) {last : Nat}
    (attended : Engine.Attended supply tone targets answers final)
    (within : ∀ target ∈ targets, target ≤ last) : ∀ told ∈ answers, OnWay tone last told.2 := by
  induction attended with
  | nil => exact fun _ absent => absurd absent List.not_mem_nil
  | reached ran _ _ ih =>
    obtain ⟨still, alike, contract⟩ := reached.turn_contract ran
    have early := contract.early (within _ List.mem_cons_self)
    refine List.forall_mem_cons.mpr ⟨⟨still, alike, early⟩, fun told member => ?_⟩
    exact (ih still (fun other more => within other (List.mem_cons_of_mem _ more)) told
      member).after alike early
  | going ran _ _ ih =>
    obtain ⟨still, alike, contract⟩ := reached.turn_contract ran
    have early := contract.early (within _ List.mem_cons_self)
    refine List.forall_mem_cons.mpr ⟨⟨still, alike, early⟩, fun told member => ?_⟩
    exact (ih still within told member).after alike early

/-- A target is reached, whatever the engine is told and shown on the way. -/
theorem Reached.attended_exists (reached : Reached tone) (supply : Nat → Turn) (target : Nat) :
    ∃ answers final, Engine.Attended supply tone [target] answers final := by
  rcases Nat.le_total tone.cycles target with behind | passed
  · exact reached.steady.regular.attended_exists supply
      (List.pairwise_cons.mpr ⟨by simpa using behind, by simp⟩)
  · obtain ⟨visited, answer, next, _, ran, _⟩ :=
      (reached.prepared (supply 0)).steady.run_loops (supply 0).pad target
    obtain ⟨_, _, contract⟩ := reached.turn_contract ran
    have reached := contract.reached.mpr (Nat.le_trans passed contract.forward)
    exact ⟨_, _, .reached ran reached (.nil ..)⟩

/-- A pass over the engine returns, once it is patient enough for what the engine makes. -/
theorem Reached.pass_returns {host : Host Tone} (reached : Reached host.engine)
    (running : host.config.paused = false) (two : host.sink.format.channels = stereo)
    (delta : Float) :
    ∃ stats ended, ∀ patience,
      (ended.engine.samples - host.engine.samples) +
        (ended.engine.pictures - host.engine.pictures) + 1 ≤ patience →
      (host.passWithin patience delta).result = .ok (stats, ended) := by
  obtain ⟨answers, given⟩ := reached.steady.regular.answers_exist_anyway (some host.pad)
    (host.target (Host.checkDelta delta).value)
  have few := (reached.attended_length given.attended).1
  obtain ⟨stats, ended, last, ran⟩ := Host.passWithin_returns running two (by decide) given
  refine ⟨stats, ended, fun patience patient => ran patience ?_⟩
  rw [last] at patient
  rw [List.length_singleton] at few
  omega

/-- While cycles and samples stay below half of what can be counted, a run of an engine in any state
that it reaches ends: it looks at its target once more than it makes samples at most, every number on
the way can be counted, and the answer keeps the contract. Repeated runs reach the target after at
most one run for each sample and each picture and one more, so a pass over the engine returns. -/
theorem run_returns (reached : Reached tone) (now : tone.cycles ≤ 9223372036854775808)
    (ahead : target ≤ 9223372036854775808)
    (samples : (max tone.cycles target + 1) * tone.sampleRate ≤
      9223372036854775808 * tone.cyclesPerSecond) :
    (∀ pad, ∃ visited answer next, Loops pad target tone.emptied visited answer next ∧
      Engine.run pad target tone = .ok (answer, next) ∧
      visited.length ≤ (next.samples - tone.samples) + 1 ∧ (∀ state ∈ visited, Fits state) ∧
      Contract tone target answer next) ∧
    (∀ supply, (∃ answers final, Engine.Attended supply tone [target] answers final) ∧
      ∀ answers final, Engine.Attended supply tone [target] answers final →
        answers.length ≤
            (final.samples - tone.samples) + (final.pictures - tone.pictures) + 1 ∧
          ∀ told ∈ answers, Reached told.2 ∧ Within told.2 (max told.2.cycles target)) ∧
    ∀ (host : Host Tone) (delta : Float), host.engine = tone → host.config.paused = false →
      host.sink.format.channels = stereo → host.target (Host.checkDelta delta).value = target →
      ∃ stats ended, ∀ patience,
        (ended.engine.samples - tone.samples) + (ended.engine.pictures - tone.pictures) + 1 ≤
          patience →
        (host.passWithin patience delta).result = .ok (stats, ended) := by
  have within : Within tone (max tone.cycles target) := ⟨Nat.max_le.mpr ⟨now, ahead⟩, samples⟩
  refine ⟨?_, ?_, ?_⟩
  · intro pad
    obtain ⟨visited, answer, next, loops, ran, few, all⟩ := reached.steady.run_loops pad target
    exact ⟨visited, answer, next, loops, ran, by omega,
      fun state member => (all state member).fits within, reached.steady.contract ran⟩
  · intro supply
    refine ⟨reached.attended_exists supply target, ?_⟩
    intro answers final attended
    have few := (reached.attended_length attended).1
    rw [List.length_singleton] at few
    refine ⟨by omega, ?_⟩
    intro told member
    have onWay := reached.attended_onWay attended
      (fun other only => Nat.le_of_eq (List.mem_singleton.mp only)) told member
    exact ⟨onWay.reached, (onWay.alike.within within).of_le
      (Nat.max_le.mpr ⟨onWay.early, Nat.le_max_right ..⟩)⟩
  · rintro host delta rfl running two _
    exact reached.pass_returns running two delta

/-- A host whose engine makes ten samples at a cycle. -/
def crowdedHost : Host Tone where
  setup := { cyclesPerSecond := 10 }
  engine := start 10 100 4 440.0
  sink := ⟨.ofFormat ⟨44100, 2, 16⟩, .blank 16, ⟨false, 32, 80⟩⟩
  screen := {}

theorem run_returns_crowded :
    (max (start 10 100 4 440.0).cycles 5 + 1) * (start 10 100 4 440.0).sampleRate ≤
        9223372036854775808 * (start 10 100 4 440.0).cyclesPerSecond ∧
      (∃ answer next, Engine.run none 5 (start 10 100 4 440.0) = .ok (answer, next) ∧
        Contract (start 10 100 4 440.0) 5 answer next) ∧
      crowdedHost.target (Host.checkDelta 500.0).value = 5 ∧
      ∃ stats ended enough, ∀ patience, enough ≤ patience →
        (crowdedHost.passWithin patience 500.0).result = .ok (stats, ended) := by
  have bounded : (max (start 10 100 4 440.0).cycles 5 + 1) * (start 10 100 4 440.0).sampleRate ≤
      9223372036854775808 * (start 10 100 4 440.0).cyclesPerSecond := by decide
  have aimed : crowdedHost.target (Host.checkDelta 500.0).value = 5 := by decide +kernel
  obtain ⟨one, _, host⟩ :=
    run_returns (.started 10 100 (by decide : 4 < 9223372036854775808) 440.0)
      (Nat.zero_le _) (by decide : 5 ≤ 9223372036854775808) bounded
  obtain ⟨_, answer, next, _, ran, _, _, contract⟩ := one none
  obtain ⟨stats, ended, ran'⟩ := host crowdedHost 500.0 rfl rfl rfl aimed
  exact ⟨bounded, ⟨answer, next, ran, contract⟩, aimed, stats, ended, _, ran'⟩

end Tone

end PacingHost
