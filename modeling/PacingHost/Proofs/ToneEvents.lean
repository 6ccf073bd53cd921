import PacingHost.Engine.Tone

/-! # What is due in the tone engine

Samples and pictures have their cycles, whatever the engine is driven to: `Tone.event` is what
happens at the next of them, and a target only says how far to go. A run makes silent samples until
something is to be told. Each event uses up one of the samples and pictures that are left before the
target, so runs end; `Tone.Regular.induction_due` is induction over the events up to a target, and
`Tone.runOn_towards` says what a run toward one target has to do with runs toward later ones.
`Tone.Carries` is for what holds between the two ends of any run, whether it counts events or not.
-/

namespace PacingHost

namespace Answer

/-- The answer without the news that the target was reached. -/
def onTheWay (answer : Answer) : Answer := { answer with reached := false }

theorem onTheWay_of_going {answer : Answer} (going : answer.reached = false) :
    answer.onTheWay = answer := by
  obtain ⟨picture, sound, reached⟩ := answer
  cases going
  rfl

/-- There is nothing to tell but that the target was reached. -/
theorem isEmpty_onTheWay (answer : Answer) :
    answer.onTheWay.isEmpty = true ↔ answer.picture = false ∧ answer.sound = false := by
  simp only [isEmpty, onTheWay, Bool.or_false, Bool.not_eq_true', Bool.or_eq_false_iff]

end Answer

namespace Tone

/-- Clock and rate are positive, and a full sound buffer can be counted. -/
structure Regular (tone : Tone) : Prop where
  clock : 0 < tone.cyclesPerSecond
  rate : 0 < tone.sampleRate
  countable : tone.bufferSize < Word.longLimit

theorem regular_start (cyclesPerSecond sampleRate : UInt32) {bufferFrames : Nat}
    (countable : bufferFrames < 9223372036854775808) (hz : Float) :
    Regular (start cyclesPerSecond sampleRate bufferFrames hz) where
  clock := Nat.lt_of_lt_of_le Nat.zero_lt_one (Nat.le_max_right ..)
  rate := Nat.lt_of_lt_of_le Nat.zero_lt_one (Nat.le_max_right ..)
  countable := by
    have size : (start cyclesPerSecond sampleRate bufferFrames hz).bufferSize =
        2 * max bufferFrames 1 := rfl
    rw [size, Word.longLimit]
    omega

theorem Regular.configure {tone : Tone} (regular : Regular tone) (config : Config) :
    Regular (Engine.configure config tone) :=
  { regular with }

theorem Regular.emptied {tone : Tone} (regular : Regular tone) : Regular tone.emptied := by
  unfold Tone.emptied
  split
  · exact { regular with }
  · exact regular

theorem emptied_frame (tone : Tone) :
    tone.emptied.cycles = tone.cycles ∧ tone.emptied.full = false ∧
      tone.emptied.sampleRate = tone.sampleRate ∧ tone.emptied.samples = tone.samples ∧
      tone.emptied.pictures = tone.pictures := by
  unfold emptied
  split
  · exact ⟨rfl, rfl, rfl, rfl, rfl⟩
  · next opened => exact ⟨rfl, Bool.eq_false_iff.mpr opened, rfl, rfl, rfl⟩

theorem emptied_of_opened {tone : Tone} (opened : tone.full = false) : tone.emptied = tone := by
  rw [emptied, if_neg (opened ▸ Bool.false_ne_true)]

/-- The cycle at which something is due next. -/
def due (tone : Tone) : Nat := min tone.nextSample tone.nextPicture

/-- The tone once its next sample is made. -/
def sampled (tone : Tone) : Tone :=
  { tone with
    sound := (tone.sound.push (mix tone.voices)).push (mix tone.voices)
    samples := tone.samples + 1
    full := tone.bufferSize ≤ tone.sound.size + 2 }

/-- The tone at the cycle that is due, with the sample if it is due there. -/
def moved (tone : Tone) : Tone :=
  if tone.due = tone.nextSample then { tone with cycles := tone.due }.sampled
  else { tone with cycles := tone.due }

/-- The next event is a sample that fills the sound buffer. -/
def fills (tone : Tone) : Bool := tone.due = tone.nextSample ∧ tone.moved.full

/-- The tone once what is due next has happened: first the sample, then the picture. -/
def event (tone : Tone) (pad : Option Pad) : Tone :=
  if tone.due = tone.nextPicture then tone.moved.draw pad else tone.moved

/-- What there is to tell of the next event on the way to a target. -/
def answer (tone : Tone) (target : Nat) : Answer :=
  ⟨tone.due = tone.nextPicture, tone.fills, target ≤ tone.due⟩

variable {tone : Tone} {pad : Option Pad} {target : Nat}

theorem Regular.makeSample_eq (regular : Regular tone) : tone.makeSample = .ok tone.sampled :=
  if_pos regular.countable

theorem Regular.moveTo_due (regular : Regular tone) : tone.moveTo tone.due = .ok tone.moved := by
  have still : Regular { tone with cycles := tone.due } := { regular with }
  unfold moveTo moved
  split
  · exact still.makeSample_eq
  · rfl

/-- Up to the target an event happens as it is due. -/
theorem Regular.advance_of_due (regular : Regular tone) (within : tone.due ≤ target) :
    tone.advance pad target = .ok (tone.answer target, tone.event pad) := by
  have stop : tone.nextStop target = tone.due := Nat.min_eq_left within
  simp only [advance, stop, regular.moveTo_due]
  rfl

/-- Before anything is due the engine only moves to the target. -/
theorem advance_of_not_due (early : target < tone.due) :
    tone.advance pad target = .ok (⟨false, false, true⟩, { tone with cycles := target }) := by
  have noSample : target ≠ tone.nextSample := by
    unfold due at early
    omega
  have noPicture : target ≠ tone.nextPicture := by
    unfold due at early
    omega
  have stop : tone.nextStop target = target := Nat.min_eq_right (Nat.le_of_lt early)
  simp only [advance, stop, moveTo, noSample, noPicture, ↓reduceIte, decide_false, false_and,
    Nat.le_refl, decide_true]

/-- Everything a run does with an engine leads to a related state, and such steps can be chained. -/
structure Carries (pad : Option Pad) (Related : Tone → Tone → Prop) : Prop where
  trans : ∀ {tone middle next}, Related tone middle → Related middle next → Related tone next
  moves : ∀ tone now, Related tone { tone with cycles := now }
  samples : ∀ {tone next}, tone.makeSample = .ok next → Related tone next
  draws : ∀ tone, Related tone (tone.draw pad)

section Carries

variable {Related : Tone → Tone → Prop} {next : Tone} {answer : Answer}

theorem Carries.moveTo (carries : Carries pad Related) {now : Nat}
    (moved : tone.moveTo now = .ok next) : Related tone next := by
  have arrived := carries.moves tone now
  unfold Tone.moveTo at moved
  split at moved
  · exact carries.trans arrived (carries.samples moved)
  · cases moved
    exact arrived

theorem Carries.advance (carries : Carries pad Related)
    (moved : tone.advance pad target = .ok (answer, next)) : Related tone next := by
  unfold Tone.advance at moved
  cases stepped : tone.moveTo (tone.nextStop target) with
  | error fault => simp only [stepped, reduceCtorEq] at moved
  | ok sounded =>
    simp only [stepped, Except.ok.injEq, Prod.mk.injEq] at moved
    obtain ⟨_, rfl⟩ := moved
    have first := carries.moveTo stepped
    split
    · exact carries.trans first (carries.draws sounded)
    · exact first

/-- A run leads to a related state. -/
theorem Carries.runOn (carries : Carries pad Related)
    (ran : tone.runOn pad target = .ok (answer, next)) : Related tone next := by
  fun_induction tone.runOn pad target with
  | case1 tone reached =>
    have stays := carries.moves tone tone.cycles
    cases ran
    exact stays
  | case2 tone behind fault stopped => cases ran
  | case3 tone behind first middle moved silent ih =>
    exact carries.trans (carries.advance moved) (ih ran)
  | case4 tone behind first last moved reason =>
    cases ran
    exact carries.advance moved

end Carries

theorem runOn_of_reached (reached : target ≤ tone.cycles) :
    tone.runOn pad target = .ok (⟨false, false, true⟩, tone) := by
  rw [runOn, if_pos reached]

theorem runOn_of_not_due (behind : tone.cycles < target) (early : target < tone.due) :
    tone.runOn pad target = .ok (⟨false, false, true⟩, { tone with cycles := target }) := by
  rw [runOn, if_neg (Nat.not_le.mpr behind)]
  split
  · next stopped =>
    rw [advance_of_not_due early] at stopped
    cases stopped
  · next moved =>
    rw [advance_of_not_due early] at moved
    cases moved
    rfl

/-- A run goes on after an event of which there is nothing to tell. -/
theorem Regular.runOn_of_due (regular : Regular tone) (behind : tone.cycles < target)
    (within : tone.due ≤ target) :
    tone.runOn pad target =
      if (tone.answer target).isEmpty then (tone.event pad).runOn pad target
      else .ok (tone.answer target, tone.event pad) := by
  rw [runOn, if_neg (Nat.not_le.mpr behind)]
  split
  · next stopped =>
    rw [regular.advance_of_due within] at stopped
    cases stopped
  · next moved =>
    rw [regular.advance_of_due within] at moved
    cases moved
    rfl

/-- What a run does depends on the past only through what is due. -/
theorem Regular.runOn_congr_cycles (regular : Regular tone) (behind : tone.cycles < target)
    {cycles : Nat} (also : cycles < target) :
    { tone with cycles }.runOn pad target = tone.runOn pad target := by
  have moved : Regular { tone with cycles } := { regular with }
  rcases Nat.lt_or_ge target tone.due with early | within
  · rw [runOn_of_not_due behind early]
    exact runOn_of_not_due also early
  · rw [regular.runOn_of_due behind within]
    exact moved.runOn_of_due also within

/-- An event takes place at the cycle at which it is due and leaves what the engine is built from.
-/
theorem event_frame (tone : Tone) (pad : Option Pad) :
    (tone.event pad).cycles = tone.due ∧
      (tone.event pad).cyclesPerSecond = tone.cyclesPerSecond ∧
      (tone.event pad).sampleRate = tone.sampleRate ∧
      (tone.event pad).bufferFrames = tone.bufferFrames := by
  unfold event moved
  split <;> split <;> exact ⟨rfl, rfl, rfl, rfl⟩

theorem Regular.event (regular : Regular tone) (pad : Option Pad) : Regular (tone.event pad) := by
  obtain ⟨_, clock, rate, frames⟩ := tone.event_frame pad
  exact {
    clock := clock ▸ regular.clock
    rate := rate ▸ regular.rate
    countable := by
      rw [bufferSize, frames]
      exact regular.countable }

/-- Samples and pictures are counted one by one. -/
theorem event_counts (tone : Tone) (pad : Option Pad) :
    (tone.event pad).samples = tone.samples + (if tone.due = tone.nextSample then 1 else 0) ∧
      (tone.event pad).pictures =
        tone.pictures + if tone.due = tone.nextPicture then 1 else 0 := by
  unfold event moved
  split <;> split <;> exact ⟨rfl, rfl⟩

/-- An event fills the sound buffer or leaves it open. -/
theorem full_event (opened : tone.full = false) (pad : Option Pad) :
    (tone.event pad).full = tone.fills := by
  have same : (tone.event pad).full = tone.moved.full := by
    unfold event
    split <;> rfl
  rw [same, fills]
  by_cases sample : tone.due = tone.nextSample
  · simp only [sample, true_and, Bool.decide_eq_true]
  · simp only [moved, sample, ↓reduceIte, false_and, decide_false, opened]

/-- A bound on the samples and pictures that are left up to a target. -/
def remaining (tone : Tone) (target : Nat) : Nat :=
  ((target + 1) * tone.sampleRate - tone.samples) + (target - tone.pictures)

theorem remaining_emptied (tone : Tone) (target : Nat) :
    tone.emptied.remaining target = tone.remaining target := by
  obtain ⟨_, _, rate, samples, pictures⟩ := tone.emptied_frame
  rw [remaining, remaining, rate, samples, pictures]

/-- The samples up to a target are fewer than the rate times its cycles. -/
theorem Regular.samples_lt (regular : Regular tone) (within : tone.nextSample ≤ target) :
    tone.samples < (target + 1) * tone.sampleRate := by
  have early : (tone.samples + 1) * tone.cyclesPerSecond < (target + 1) * tone.sampleRate := by
    rw [← Nat.div_lt_iff_lt_mul regular.rate]
    exact Nat.lt_succ_of_le within
  have least := Nat.le_mul_of_pos_right (tone.samples + 1) regular.clock
  omega

theorem pictures_lt (within : tone.nextPicture ≤ target) : tone.pictures < target := by
  unfold nextPicture cyclesPerPicture at within
  omega

theorem Regular.remaining_event (regular : Regular tone) (within : tone.due ≤ target) :
    (tone.event pad).remaining target < tone.remaining target := by
  obtain ⟨_, _, rate, _⟩ := tone.event_frame pad
  obtain ⟨samples, pictures⟩ := tone.event_counts pad
  have one : tone.due = tone.nextSample ∨ tone.due = tone.nextPicture := by
    unfold due
    omega
  unfold remaining
  rw [rate, samples, pictures]
  by_cases sample : tone.due = tone.nextSample
  · have left := regular.samples_lt (sample ▸ within)
    rw [if_pos sample]
    omega
  · have picture := one.resolve_left sample
    have left := pictures_lt (picture ▸ within)
    rw [if_neg sample, if_pos picture]
    omega

/-- Induction over the events up to a target. -/
theorem Regular.induction_due {motive : Tone → Prop} (pad : Option Pad) (target : Nat)
    (step : ∀ tone, Regular tone → (tone.due ≤ target → motive (tone.event pad)) → motive tone)
    (regular : Regular tone) : motive tone := by
  induction left : tone.remaining target using Nat.strongRecOn generalizing tone with
  | ind _ ih =>
    refine step tone regular fun within => ?_
    exact ih _ (left ▸ regular.remaining_event within) (regular.event pad) rfl

/-- What came of a run toward a target of a tone whose sound buffer is open. A later target would
have been told of the same event, or would have gone on where this one stopped for itself. -/
structure Towards (tone : Tone) (pad : Option Pad) (target : Nat) (answer : Answer) (next : Tone) :
    Prop where
  regular : Regular next
  reason : answer.isEmpty = false
  reached : answer.reached = true → next.cycles = target
  going : answer.reached = false →
    next.cycles < target ∧ next.remaining target < tone.remaining target
  opened : answer.sound = false → next.full = false
  later : ∀ later, target < later → tone.runOn pad later =
    if answer.onTheWay.isEmpty then next.runOn pad later else .ok (answer.onTheWay, next)

theorem Regular.runOn_towards (regular : Regular tone) (pad : Option Pad)
    (behind : tone.cycles < target) (opened : tone.full = false) :
    ∃ answer next, tone.runOn pad target = .ok (answer, next) ∧
      Towards tone pad target answer next := by
  refine regular.induction_due (motive := fun tone => tone.cycles < target → tone.full = false →
    ∃ answer next, tone.runOn pad target = .ok (answer, next) ∧
      Towards tone pad target answer next) pad target (fun tone regular ih behind opened => ?_)
    behind opened
  have cycles := (tone.event_frame pad).1
  have filled := full_event opened pad
  rcases Nat.lt_or_ge target tone.due with early | within
  · -- The target comes first, and is no event of a later run.
    refine ⟨⟨false, false, true⟩, { tone with cycles := target }, runOn_of_not_due behind early, ?_⟩
    exact {
      regular := { regular with }
      reason := rfl
      reached := fun _ => rfl
      going := by
        intro impossible
        cases impossible
      opened := fun _ => opened
      later := by
        intro later after
        exact (regular.runOn_congr_cycles (Nat.lt_trans behind after) after).symm }
  · have laterAnswer {later : Nat} (after : target < later) :
        tone.answer later = (tone.answer target).onTheWay := by
      have notYet : ¬later ≤ tone.due := by omega
      simp only [answer, Answer.onTheWay, notYet, decide_false]
    have laterRun {later : Nat} (after : target < later) :
        tone.runOn pad later =
          if (tone.answer target).onTheWay.isEmpty then (tone.event pad).runOn pad later
          else .ok ((tone.answer target).onTheWay, tone.event pad) := by
      rw [regular.runOn_of_due (Nat.lt_trans behind after) (by omega), laterAnswer after]
    cases empty : (tone.answer target).isEmpty with
    | false =>
      refine ⟨tone.answer target, tone.event pad, ?_, ?_⟩
      · rw [regular.runOn_of_due behind within, empty]
        rfl
      · exact {
          regular := regular.event pad
          reason := empty
          reached := by
            intro reached
            have reached : target ≤ tone.due := of_decide_eq_true reached
            omega
          going := by
            intro going
            have going : ¬target ≤ tone.due := of_decide_eq_false going
            exact ⟨by omega, regular.remaining_event within⟩
          opened := fun quiet => filled.trans quiet
          later := fun later after => laterRun after }
    | true =>
      -- Of a silent sample nothing is told, so no target of the run lies there.
      obtain ⟨⟨noPicture, quiet⟩, going⟩ : ((tone.answer target).picture = false ∧
          (tone.answer target).sound = false) ∧ (tone.answer target).reached = false := by
        simpa only [Answer.isEmpty, Bool.not_eq_true', Bool.or_eq_false_iff] using empty
      have going : ¬target ≤ tone.due := of_decide_eq_false going
      obtain ⟨found, next, ran, towards⟩ := ih within (by omega) (filled.trans quiet)
      refine ⟨found, next, ?_, ?_⟩
      · rw [regular.runOn_of_due behind within, empty]
        exact ran
      · exact { towards with
          going := by
            intro going
            obtain ⟨short, fewer⟩ := towards.going going
            exact ⟨short, Nat.lt_trans fewer (regular.remaining_event within)⟩
          later := by
            intro later after
            have silent : (tone.answer target).onTheWay.isEmpty = true :=
              (Answer.isEmpty_onTheWay _).mpr ⟨noPicture, quiet⟩
            rw [laterRun after, silent]
            exact towards.later later after }

/-- A run of the engine toward a target that lies ahead. -/
theorem Regular.run_towards (regular : Regular tone) (pad : Option Pad)
    (behind : tone.cycles < target) :
    ∃ answer next, Engine.run pad target tone = .ok (answer, next) ∧
      Towards tone.emptied pad target answer next := by
  obtain ⟨cycles, opened, _⟩ := tone.emptied_frame
  exact regular.emptied.runOn_towards pad (cycles ▸ behind) opened

theorem Regular.run {answer : Answer} {next : Tone} (regular : Regular tone)
    (ran : Engine.run pad target tone = .ok (answer, next)) : Regular next := by
  rcases Nat.lt_or_ge tone.cycles target with behind | passed
  · obtain ⟨_, _, same, towards⟩ := regular.run_towards pad behind
    cases ran.symm.trans same
    exact towards.regular
  · have still : Engine.run pad target tone = _ :=
      runOn_of_reached (tone.emptied_frame.1 ▸ passed)
    cases ran.symm.trans still
    exact regular.emptied

/-- The states of an engine whose full sound buffer can be counted: it was started, run toward any
targets with any pads, and told of any configurations. -/
inductive Reached : Tone → Prop
  | started (cyclesPerSecond sampleRate : UInt32) {bufferFrames : Nat}
      (countable : bufferFrames < 9223372036854775808) (hz : Float) :
      Reached (start cyclesPerSecond sampleRate bufferFrames hz)
  | ran {tone next : Tone} {pad : Option Pad} {target : Nat} {answer : Answer}
      (before : Reached tone) (ran : Engine.run pad target tone = .ok (answer, next)) :
      Reached next
  | configured {tone : Tone} (config : Config) (before : Reached tone) :
      Reached (Engine.configure config tone)

theorem Reached.regular (reached : Reached tone) : Regular tone := by
  induction reached with
  | started clock rate countable hz => exact regular_start clock rate countable hz
  | ran _ ran ih => exact ih.run ran
  | configured config _ ih => exact ih.configure config

end Tone

end PacingHost
