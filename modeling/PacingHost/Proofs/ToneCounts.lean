import PacingHost.Proofs.ToneChunks

/-! # Pictures and bursts are counted as they are told

`Tone.Runs` says how a run of the tone engine goes, one constructor for each way to go on. What the
run tells is what it has made: each picture it counts is told by one answer, and so is each burst
that its samples come to. `Engine.Attended` drives an engine that is told configurations and shown
pads on the way; `Tone.Regular.attended_counts` adds up the answers of such a drive.
-/

namespace PacingHost

namespace Tone

/-- How a run toward a target goes: samples are made in silence until there is something to tell or
nothing more is due before the target. -/
inductive Runs (pad : Option Pad) (target : Nat) : Tone → Answer → Tone → Prop
  | stopped {tone : Tone} (early : target < tone.due) :
      Runs pad target tone ⟨false, false, true⟩ { tone with cycles := target }
  | told {tone : Tone} (within : tone.due ≤ target)
      (reason : (tone.answer target).isEmpty = false) :
      Runs pad target tone (tone.answer target) (tone.event pad)
  | silent {tone next : Tone} {answer : Answer} (within : tone.due ≤ target)
      (silent : (tone.answer target).isEmpty = true)
      (later : Runs pad target (tone.event pad) answer next) : Runs pad target tone answer next

variable {tone next final : Tone} {pad : Option Pad} {target : Nat} {answer : Answer}

/-- An event of which there is nothing to tell is a sample before the target. -/
theorem silent_answer (silent : (tone.answer target).isEmpty = true) :
    tone.due ≠ tone.nextPicture ∧ tone.fills = false ∧ tone.due < target := by
  simp only [Answer.isEmpty, answer, Bool.not_eq_true', Bool.or_eq_false_iff,
    decide_eq_false_iff_not] at silent
  obtain ⟨⟨noPicture, quiet⟩, going⟩ := silent
  exact ⟨noPicture, quiet, by omega⟩

theorem Regular.runOn_runs (regular : Regular tone) (pad : Option Pad)
    (behind : tone.cycles < target) :
    ∃ answer next, tone.runOn pad target = .ok (answer, next) ∧
      Runs pad target tone answer next := by
  refine regular.induction_due (motive := fun tone => tone.cycles < target →
    ∃ answer next, tone.runOn pad target = .ok (answer, next) ∧ Runs pad target tone answer next)
    pad target (fun tone regular ih behind => ?_) behind
  rcases Nat.lt_or_ge target tone.due with early | within
  · exact ⟨_, _, runOn_of_not_due behind early, .stopped early⟩
  · rw [regular.runOn_of_due behind within]
    cases empty : (tone.answer target).isEmpty with
    | false => exact ⟨_, _, rfl, .told within empty⟩
    | true =>
      have cycles := (tone.event_frame pad).1
      obtain ⟨answer, next, ran, runs⟩ := ih within (cycles ▸ (silent_answer empty).2.2)
      exact ⟨answer, next, ran, .silent within empty runs⟩

/-- A run of the engine stands still at a target that lies behind, and otherwise goes on from an
open sound buffer. -/
theorem Regular.run_cases (regular : Regular tone)
    (ran : Engine.run pad target tone = .ok (answer, next)) :
    (target ≤ tone.cycles ∧ answer = ⟨false, false, true⟩ ∧ next = tone.emptied) ∨
      (tone.cycles < target ∧ Runs pad target tone.emptied answer next) := by
  have cycles := tone.emptied_frame.1
  have same : tone.emptied.runOn pad target = .ok (answer, next) := ran
  rcases Nat.lt_or_ge tone.cycles target with behind | passed
  · obtain ⟨_, _, ran', runs⟩ := regular.emptied.runOn_runs pad (cycles ▸ behind)
    cases same.symm.trans ran'
    exact .inr ⟨behind, runs⟩
  · rw [runOn_of_reached (cycles ▸ passed)] at same
    cases same
    exact .inl ⟨passed, rfl, rfl⟩

/-- Two engines have the same clock, the same rate and sound buffers of the same size. -/
structure BuiltAlike (tone next : Tone) : Prop where
  clock : next.cyclesPerSecond = tone.cyclesPerSecond
  rate : next.sampleRate = tone.sampleRate
  frames : next.bufferFrames = tone.bufferFrames

theorem BuiltAlike.refl (tone : Tone) : BuiltAlike tone tone := ⟨rfl, rfl, rfl⟩

theorem BuiltAlike.trans (first : BuiltAlike tone next) (second : BuiltAlike next final) :
    BuiltAlike tone final where
  clock := second.clock.trans first.clock
  rate := second.rate.trans first.rate
  frames := second.frames.trans first.frames

theorem builtAlike_event (tone : Tone) (pad : Option Pad) : BuiltAlike tone (tone.event pad) := by
  obtain ⟨_, clock, rate, frames⟩ := tone.event_frame pad
  exact ⟨clock, rate, frames⟩

theorem builtAlike_emptied (tone : Tone) : BuiltAlike tone tone.emptied := by
  unfold emptied
  split <;> exact ⟨rfl, rfl, rfl⟩

theorem Runs.builtAlike (runs : Runs pad target tone answer next) : BuiltAlike tone next := by
  induction runs with
  | stopped => exact ⟨rfl, rfl, rfl⟩
  | told => exact builtAlike_event ..
  | silent within silent later ih => exact (builtAlike_event ..).trans ih

/-- Sound buffers that were filled. -/
def bursts (tone : Tone) : Nat := tone.samples / tone.bufferFrames

/-- The sound buffer holds the samples that were made since the last burst. -/
structure Filling (tone : Tone) : Prop where
  positive : 0 < tone.bufferFrames
  opened : tone.full = false → tone.sound.size = 2 * (tone.samples % tone.bufferFrames)
  closed : tone.full = true →
    tone.sound.size = 2 * tone.bufferFrames ∧ tone.samples % tone.bufferFrames = 0

theorem filling_start (cyclesPerSecond sampleRate : UInt32) (bufferFrames : Nat) (hz : Float) :
    Filling (start cyclesPerSecond sampleRate bufferFrames hz) where
  positive := Nat.lt_of_lt_of_le Nat.zero_lt_one (Nat.le_max_right ..)
  opened := by
    intro _
    change 0 = 2 * (0 % _)
    rw [Nat.zero_mod]
  closed := by
    intro impossible
    cases impossible

theorem Filling.emptied (filling : Filling tone) :
    Filling tone.emptied ∧ tone.emptied.bursts = tone.bursts := by
  unfold Tone.emptied
  split
  · next full =>
    have whole := (filling.closed full).2
    refine ⟨⟨filling.positive, ?_, ?_⟩, rfl⟩
    · intro _
      change 0 = 2 * (tone.samples % tone.bufferFrames)
      rw [whole]
    · intro impossible
      cases impossible
  · exact ⟨filling, rfl⟩

/-- One sample more fills a buffer of which all but one frame is filled. -/
theorem succ_div_mod (samples : Nat) {frames : Nat} (positive : 0 < frames) :
    if samples % frames + 1 = frames then
      (samples + 1) / frames = samples / frames + 1 ∧ (samples + 1) % frames = 0
    else
      (samples + 1) / frames = samples / frames ∧
        (samples + 1) % frames = samples % frames + 1 := by
  have whole := Nat.div_add_mod samples frames
  have short := Nat.mod_lt samples positive
  split
  · next last =>
    refine (Nat.div_mod_unique positive).mpr ⟨?_, positive⟩
    rw [Nat.mul_add, Nat.mul_one]
    omega
  · exact (Nat.div_mod_unique positive).mpr ⟨by omega, by omega⟩

/-- A sample puts one frame into the sound buffer, a picture none. -/
theorem sound_event (tone : Tone) (pad : Option Pad) :
    (tone.event pad).sound.size =
      tone.sound.size + if tone.due = tone.nextSample then 2 else 0 := by
  unfold event moved
  split <;> split <;> simp only [draw, sampled, Array.size_push] <;> rfl

theorem fills_iff (tone : Tone) :
    tone.fills = true ↔
      tone.due = tone.nextSample ∧ 2 * tone.bufferFrames ≤ tone.sound.size + 2 := by
  unfold fills moved
  by_cases sample : tone.due = tone.nextSample
  · simp only [sample, ↓reduceIte, sampled, bufferSize, toNat_stereo, true_and,
      decide_eq_true_eq]
    exact decide_eq_true_iff
  · simp only [sample, false_and, decide_false, Bool.false_eq_true]

/-- The sample that is due fills the sound buffer when all but one frame is filled. -/
theorem Filling.fills_iff (filling : Filling tone) (opened : tone.full = false) :
    tone.fills = true ↔
      tone.due = tone.nextSample ∧ tone.samples % tone.bufferFrames + 1 = tone.bufferFrames := by
  have size := filling.opened opened
  have short := Nat.mod_lt tone.samples filling.positive
  rw [Tone.fills_iff]
  omega

theorem Filling.event_of_fills (filling : Filling tone) (opened : tone.full = false)
    (fills : tone.fills = true) (pad : Option Pad) :
    Filling (tone.event pad) ∧ (tone.event pad).bursts = tone.bursts + 1 := by
  obtain ⟨sample, last⟩ := (filling.fills_iff opened).mp fills
  obtain ⟨_, _, _, frames⟩ := tone.event_frame pad
  have size := filling.opened opened
  have grown := tone.sound_event pad
  have samples := (tone.event_counts pad).1
  have counted := succ_div_mod tone.samples filling.positive
  rw [if_pos sample] at grown samples
  rw [if_pos last] at counted
  constructor
  · exact {
      positive := frames ▸ filling.positive
      opened := by
        rw [full_event opened pad, fills]
        intro impossible
        cases impossible
      closed := by
        intro _
        rw [frames, samples]
        exact ⟨by omega, counted.2⟩ }
  · rw [bursts, bursts, samples, frames, counted.1]

theorem Filling.event_of_waits (filling : Filling tone) (opened : tone.full = false)
    (waits : tone.fills = false) (pad : Option Pad) :
    Filling (tone.event pad) ∧ (tone.event pad).bursts = tone.bursts := by
  obtain ⟨_, _, _, frames⟩ := tone.event_frame pad
  have size := filling.opened opened
  have grown := tone.sound_event pad
  have samples := (tone.event_counts pad).1
  have counted := succ_div_mod tone.samples filling.positive
  have moved : (tone.event pad).samples / tone.bufferFrames = tone.bursts ∧
      (tone.event pad).sound.size = 2 * ((tone.event pad).samples % tone.bufferFrames) := by
    rw [samples, grown]
    split
    · next sample =>
      have notLast : ¬tone.samples % tone.bufferFrames + 1 = tone.bufferFrames := fun last =>
        Bool.false_ne_true (waits.symm.trans ((filling.fills_iff opened).mpr ⟨sample, last⟩))
      rw [if_neg notLast] at counted
      exact ⟨counted.1, by omega⟩
    · exact ⟨rfl, size⟩
  constructor
  · exact {
      positive := frames ▸ filling.positive
      opened := fun _ => frames ▸ moved.2
      closed := by
        rw [full_event opened pad, waits]
        intro impossible
        cases impossible }
  · rw [bursts, frames, moved.1]

/-- An event counts a burst when it fills the sound buffer. -/
theorem Filling.event (filling : Filling tone) (opened : tone.full = false) (pad : Option Pad) :
    Filling (tone.event pad) ∧
      (tone.event pad).bursts = tone.bursts + if tone.fills then 1 else 0 := by
  cases fills : tone.fills with
  | true => exact filling.event_of_fills opened fills pad
  | false => exact filling.event_of_waits opened fills pad

/-- What an answer tells is what was made for it. -/
structure Counts (tone : Tone) (answer : Answer) (next : Tone) : Prop where
  filling : Filling next
  full : next.full = answer.sound
  pictures : next.pictures = tone.pictures + if answer.picture then 1 else 0
  bursts : next.bursts = tone.bursts + if answer.sound then 1 else 0

theorem Runs.counts (runs : Runs pad target tone answer next) (filling : Filling tone)
    (opened : tone.full = false) : Counts tone answer next := by
  induction runs with
  | stopped early =>
    exact {
      filling := { filling with }
      full := opened
      pictures := rfl
      bursts := rfl }
  | @told tone within reason =>
    obtain ⟨filled, bursts⟩ := filling.event opened pad
    have pictures := (tone.event_counts pad).2
    exact {
      filling := filled
      full := full_event opened pad
      pictures := by
        rw [pictures]
        simp only [Tone.answer, decide_eq_true_eq]
      bursts }
  | @silent tone next answer within silent later ih =>
    obtain ⟨noPicture, quiet, _⟩ := silent_answer silent
    obtain ⟨filled, bursts⟩ := filling.event opened pad
    have pictures := (tone.event_counts pad).2
    rw [quiet, if_neg Bool.false_ne_true] at bursts
    rw [if_neg noPicture] at pictures
    have counts := ih filled ((full_event opened pad).trans quiet)
    exact { counts with
      pictures := by rw [counts.pictures, pictures, Nat.add_zero]
      bursts := by rw [counts.bursts, bursts, Nat.add_zero] }

/-- Every run of the engine counts what it tells, and leaves what the engine is built from. -/
theorem Regular.run_counts (regular : Regular tone) (filling : Filling tone)
    (ran : Engine.run pad target tone = .ok (answer, next)) :
    Counts tone answer next ∧ BuiltAlike tone next := by
  obtain ⟨_, opened, _, _, pictures⟩ := tone.emptied_frame
  obtain ⟨emptied, bursts⟩ := filling.emptied
  rcases regular.run_cases ran with ⟨_, rfl, rfl⟩ | ⟨_, runs⟩
  · exact ⟨⟨emptied, opened, pictures, bursts⟩, tone.builtAlike_emptied⟩
  · have counts := runs.counts emptied opened
    exact ⟨{ counts with
      pictures := by rw [counts.pictures, pictures]
      bursts := by rw [counts.bursts, bursts] }, tone.builtAlike_emptied.trans runs.builtAlike⟩

end Tone

/-- What happens before one run of an engine: it is told some configurations, and a pad is put
before it. -/
structure Turn where
  configs : List Config := []
  pad : Option Pad := none

namespace Engine

variable {σ : Type} [Engine σ]

/-- The engine once it was told the configurations of a turn. -/
def prepared (engine : σ) (turn : Turn) : σ :=
  turn.configs.foldl (fun engine config => configure config engine) engine

/-- Drives to some targets in order, with a turn of others before each run: all answers, and the
engine at the end. -/
inductive Attended : (Nat → Turn) → σ → List Nat → List (Answer × σ) → σ → Prop
  | nil (supply : Nat → Turn) (engine : σ) : Attended supply engine [] [] engine
  | reached {supply : Nat → Turn} {engine next final : σ} {target : Nat} {targets : List Nat}
      {answer : Answer} {answers : List (Answer × σ)}
      (ran : run (supply 0).pad target (prepared engine (supply 0)) = .ok (answer, next))
      (reached : answer.reached = true)
      (later : Attended (fun turn => supply (turn + 1)) next targets answers final) :
      Attended supply engine (target :: targets) ((answer, next) :: answers) final
  | going {supply : Nat → Turn} {engine next final : σ} {target : Nat} {targets : List Nat}
      {answer : Answer} {answers : List (Answer × σ)}
      (ran : run (supply 0).pad target (prepared engine (supply 0)) = .ok (answer, next))
      (going : answer.reached = false)
      (later : Attended (fun turn => supply (turn + 1)) next (target :: targets) answers final) :
      Attended supply engine (target :: targets) ((answer, next) :: answers) final

/-- A drive that nobody attends is one in which every turn only shows the pad. -/
theorem Answers.attended {pad : Option Pad} {target : Nat} {engine : σ}
    {answers : List (Answer × σ)} (given : Answers pad target engine answers) :
    Attended (fun _ => { pad }) engine [target] answers
      ((answers.map Prod.snd).getLastD engine) := by
  induction given with
  | last ran reached => exact .reached ran reached (.nil ..)
  | more ran going later ih =>
    rw [List.map_cons, List.getLastD_cons]
    exact .going ran going ih

end Engine

namespace Tone

variable {tone next final : Tone} {target : Nat} {answer : Answer} {supply : Nat → Turn}
  {targets : List Nat} {answers : List (Answer × Tone)}

/-- Of all that an engine has, a turn changes the configuration. -/
theorem prepared_eq (tone : Tone) (turn : Turn) :
    ∃ config, Engine.prepared tone turn = { tone with config } := by
  obtain ⟨configs, pad⟩ := turn
  induction configs generalizing tone with
  | nil => exact ⟨tone.config, rfl⟩
  | cons config configs ih =>
    obtain ⟨last, same⟩ := ih (Engine.configure config tone)
    exact ⟨last, same⟩

/-- A run with a turn before it counts what it tells. -/
theorem Regular.turn_counts (regular : Regular tone) (filling : Filling tone) {turn : Turn}
    (ran : Engine.run turn.pad target (Engine.prepared tone turn) = .ok (answer, next)) :
    Regular next ∧ Counts tone answer next ∧ BuiltAlike tone next := by
  obtain ⟨config, same⟩ := tone.prepared_eq turn
  rw [same] at ran
  have told : Regular { tone with config } := { regular with }
  have filled : Filling { tone with config } := { filling with }
  obtain ⟨counts, alike⟩ := told.run_counts filled ran
  exact ⟨told.run ran, { counts with }, { alike with }⟩

/-- What was made from one engine to another is what some answers tell, and every burst they tell
of stood in a full sound buffer. -/
structure Made (tone : Tone) (answers : List (Answer × Tone)) (final : Tone) : Prop where
  regular : Regular final
  filling : Filling final
  alike : BuiltAlike tone final
  pictures : final.pictures = tone.pictures + answers.countP fun answer => answer.1.picture
  bursts : final.bursts = tone.bursts + answers.countP fun answer => answer.1.sound
  sizes : ∀ answer ∈ answers, answer.1.sound = true →
    answer.2.sound.size = 2 * tone.bufferFrames

theorem Made.nil (regular : Regular tone) (filling : Filling tone) : Made tone [] tone where
  regular
  filling
  alike := .refl tone
  pictures := rfl
  bursts := rfl
  sizes := fun _ absent => absurd absent List.not_mem_nil

theorem Made.cons (counts : Counts tone answer next) (alike : BuiltAlike tone next)
    (made : Made next answers final) : Made tone ((answer, next) :: answers) final where
  regular := made.regular
  filling := made.filling
  alike := alike.trans made.alike
  pictures := by
    rw [made.pictures, counts.pictures, List.countP_cons]
    dsimp only
    omega
  bursts := by
    rw [made.bursts, counts.bursts, List.countP_cons]
    dsimp only
    omega
  sizes := by
    intro told member sound
    rw [← alike.frames]
    rcases List.mem_cons.mp member with rfl | member
    · exact (counts.filling.closed (counts.full.trans sound)).1
    · exact made.sizes told member sound

theorem Regular.attended_counts (regular : Regular tone) (filling : Filling tone)
    (attended : Engine.Attended supply tone targets answers final) : Made tone answers final := by
  induction attended with
  | nil supply tone => exact .nil regular filling
  | reached ran _ _ ih | going ran _ _ ih =>
    obtain ⟨still, counts, alike⟩ := regular.turn_counts filling ran
    exact .cons counts alike (ih still counts.filling)

end Tone

end PacingHost
