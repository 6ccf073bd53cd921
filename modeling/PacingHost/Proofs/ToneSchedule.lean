import PacingHost.Proofs.ToneCounts

/-! # The schedule of the tone engine

The `n`-th picture is due at the cycle `70224 * n` and the `n`-th sample at `n * clock / rate`
rounded down. An engine whose rate is at most its clock has at most one sample at a cycle, so
wherever it stops everything that was due has been made and nothing else: `Tone.Punctual` says so,
and every event keeps it. The counts of an engine that was driven to a cycle can be read off the
cycle, however many stops there were before and whatever was told to the engine in between.
-/

namespace PacingHost

namespace Tone

variable {tone next final : Tone} {pad : Option Pad} {target : Nat} {answer : Answer}
  {supply : Nat → Turn} {targets : List Nat} {answers : List (Answer × Tone)}

/-- All samples and pictures up to the current cycle have been made, and none beyond it. -/
structure Punctual (tone : Tone) : Prop where
  samplesMade : tone.samples * tone.cyclesPerSecond / tone.sampleRate ≤ tone.cycles
  sampleAhead : tone.cycles < tone.nextSample
  picturesMade : tone.pictures * cyclesPerPicture ≤ tone.cycles
  pictureAhead : tone.cycles < tone.nextPicture

/-- An engine whose samples do not crowd at a cycle. -/
abbrev Slow (tone : Tone) : Prop := tone.sampleRate ≤ tone.cyclesPerSecond

theorem BuiltAlike.slow (alike : BuiltAlike tone next) (slow : Slow tone) : Slow next := by
  rw [Slow, alike.rate, alike.clock]
  exact slow

theorem Punctual.ahead (punctual : Punctual tone) : tone.cycles < tone.due := by
  have sample := punctual.sampleAhead
  have picture := punctual.pictureAhead
  unfold due
  omega

/-- Samples do not crowd: after one sample the next is due at a later cycle. -/
theorem Regular.sample_later (regular : Regular tone) (slow : Slow tone) (samples : Nat) :
    samples * tone.cyclesPerSecond / tone.sampleRate <
      (samples + 1) * tone.cyclesPerSecond / tone.sampleRate := by
  calc
    samples * tone.cyclesPerSecond / tone.sampleRate <
        samples * tone.cyclesPerSecond / tone.sampleRate + 1 := Nat.lt_succ_self _
    _ = (samples * tone.cyclesPerSecond + tone.sampleRate) / tone.sampleRate :=
      (Nat.add_div_right _ regular.rate).symm
    _ ≤ (samples + 1) * tone.cyclesPerSecond / tone.sampleRate := by
      rw [Nat.succ_mul]
      exact Nat.div_le_div_right (Nat.add_le_add_left slow _)

theorem punctual_start (cyclesPerSecond sampleRate : UInt32) (bufferFrames : Nat) (hz : Float)
    (slow : Slow (start cyclesPerSecond sampleRate bufferFrames hz)) :
    Punctual (start cyclesPerSecond sampleRate bufferFrames hz) where
  samplesMade := by
    change 0 * _ / _ ≤ 0
    simp only [Nat.zero_mul, Nat.zero_div, Nat.le_refl]
  sampleAhead := by
    have least : 0 < max sampleRate.toNat 1 :=
      Nat.lt_of_lt_of_le Nat.zero_lt_one (Nat.le_max_right ..)
    change 0 < (0 + 1) * _ / max sampleRate.toNat 1
    rw [Nat.zero_add, Nat.one_mul]
    exact Nat.div_pos slow least
  picturesMade := Nat.le_of_eq (Nat.zero_mul _)
  pictureAhead := by
    change 0 < (0 + 1) * cyclesPerPicture
    decide

theorem Punctual.event (punctual : Punctual tone) (regular : Regular tone) (slow : Slow tone)
    (pad : Option Pad) : Punctual (tone.event pad) := by
  have ahead := punctual.ahead
  have first : tone.due ≤ tone.nextSample ∧ tone.due ≤ tone.nextPicture :=
    ⟨Nat.min_le_left .., Nat.min_le_right ..⟩
  obtain ⟨cycles, clock, rate, _⟩ := tone.event_frame pad
  obtain ⟨samples, pictures⟩ := tone.event_counts pad
  refine ⟨?_, ?_, ?_, ?_⟩
  · rw [samples, clock, rate, cycles]
    split
    · next sample => exact Nat.le_of_eq sample.symm
    · exact Nat.le_trans punctual.samplesMade (Nat.le_of_lt ahead)
  · rw [nextSample, samples, clock, rate, cycles]
    split
    · next sample =>
      rw [sample]
      exact regular.sample_later slow _
    · next noSample => exact Nat.lt_of_le_of_ne first.1 noSample
  · rw [pictures, cycles]
    split
    · next picture => exact Nat.le_of_eq picture.symm
    · exact Nat.le_trans punctual.picturesMade (Nat.le_of_lt ahead)
  · rw [nextPicture, pictures, cycles]
    split
    · next picture =>
      rw [picture, nextPicture, cyclesPerPicture]
      omega
    · next noPicture => exact Nat.lt_of_le_of_ne first.2 noPicture

theorem Runs.punctual (runs : Runs pad target tone answer next) (punctual : Punctual tone)
    (regular : Regular tone) (slow : Slow tone) (behind : tone.cycles ≤ target) :
    Punctual next := by
  induction runs with
  | stopped early =>
    unfold due at early
    exact {
      samplesMade := Nat.le_trans punctual.samplesMade behind
      sampleAhead := Nat.lt_of_lt_of_le early (Nat.min_le_left ..)
      picturesMade := Nat.le_trans punctual.picturesMade behind
      pictureAhead := Nat.lt_of_lt_of_le early (Nat.min_le_right ..) }
  | told => exact punctual.event regular slow pad
  | @silent tone next answer within silent later ih =>
    refine ih (punctual.event regular slow pad) (regular.event pad)
      ((tone.builtAlike_event pad).slow slow) ?_
    rw [(tone.event_frame pad).1]
    exact within

/-- A run leaves the engine punctual, wherever it stops. -/
theorem Punctual.turn (punctual : Punctual tone) (regular : Regular tone) (slow : Slow tone)
    {turn : Turn}
    (ran : Engine.run turn.pad target (Engine.prepared tone turn) = .ok (answer, next)) :
    Punctual next := by
  obtain ⟨config, same⟩ := tone.prepared_eq turn
  rw [same] at ran
  have told : Regular { tone with config } := { regular with }
  have emptied : Punctual { tone with config }.emptied := by
    unfold Tone.emptied
    split <;> exact { punctual with }
  rcases told.run_cases ran with ⟨_, rfl, rfl⟩ | ⟨behind, runs⟩
  · exact emptied
  · refine runs.punctual emptied told.emptied ((builtAlike_emptied _).slow slow) ?_
    rw [(emptied_frame _).1]
    exact Nat.le_of_lt behind

/-- Driven to a cycle, a punctual engine has made what was due up to it. -/
theorem Punctual.counts (punctual : Punctual tone) (regular : Regular tone) :
    tone.pictures = tone.cycles / cyclesPerPicture ∧
      tone.samples = ((tone.cycles + 1) * tone.sampleRate - 1) / tone.cyclesPerSecond := by
  constructor
  · exact (Nat.div_eq_of_lt_le punctual.picturesMade punctual.pictureAhead).symm
  · have made : _ < tone.cycles + 1 := Nat.lt_succ_of_le punctual.samplesMade
    rw [Nat.div_lt_iff_lt_mul regular.rate] at made
    have ahead : tone.cycles + 1 ≤ tone.nextSample := punctual.sampleAhead
    rw [nextSample, Nat.le_div_iff_mul_le regular.rate] at ahead
    exact (Nat.div_eq_of_lt_le (by omega) (by omega)).symm

/-- The samples that are due up to a cycle. -/
theorem Regular.sample_due_iff (regular : Regular tone) (target samples : Nat) :
    samples * tone.cyclesPerSecond / tone.sampleRate ≤ target ↔
      samples ≤ ((target + 1) * tone.sampleRate - 1) / tone.cyclesPerSecond := by
  have positive : 0 < (target + 1) * tone.sampleRate :=
    Nat.mul_pos (Nat.succ_pos target) regular.rate
  rw [← Nat.lt_add_one_iff, Nat.div_lt_iff_lt_mul regular.rate, Nat.le_div_iff_mul_le regular.clock]
  omega

/-- A run comes closer to a target that is not behind. -/
theorem Regular.turn_arrives (regular : Regular tone) (turn : Turn)
    (behind : tone.cycles ≤ target) :
    ∃ answer next, Engine.run turn.pad target (Engine.prepared tone turn) = .ok (answer, next) ∧
      Regular next ∧ (answer.reached = true → next.cycles = target) ∧
      (answer.reached = false →
        next.cycles < target ∧ next.remaining target < tone.remaining target) := by
  obtain ⟨config, same⟩ := tone.prepared_eq turn
  rw [same]
  have told : Regular { tone with config } := { regular with }
  have cycles := (emptied_frame { tone with config }).1
  rcases Nat.lt_or_eq_of_le behind with behind | arrived
  · obtain ⟨answer, next, ran, towards⟩ := told.run_towards turn.pad behind
    refine ⟨answer, next, ran, towards.regular, towards.reached, ?_⟩
    intro going
    have closer := towards.going going
    rwa [remaining_emptied] at closer
  · refine ⟨⟨false, false, true⟩, { tone with config }.emptied, ?_, told.emptied, ?_, ?_⟩
    · exact runOn_of_reached (Nat.le_of_eq (arrived.symm.trans cycles.symm))
    · intro _
      exact cycles.trans arrived
    · intro impossible
      cases impossible

theorem Regular.turn_ends (regular : Regular tone) (behind : tone.cycles ≤ target) {turn : Turn}
    (ran : Engine.run turn.pad target (Engine.prepared tone turn) = .ok (answer, next)) :
    (answer.reached = true → next.cycles = target) ∧
      (answer.reached = false → next.cycles < target) := by
  obtain ⟨_, _, same, _, arrives, goes⟩ := regular.turn_arrives turn behind
  cases ran.symm.trans same
  exact ⟨arrives, fun going => (goes going).1⟩

theorem ascending_cons {cycles : Nat} (behind : cycles ≤ target)
    (later : (target :: targets).Pairwise (· ≤ ·)) :
    (cycles :: target :: targets).Pairwise (· ≤ ·) := by
  refine List.pairwise_cons.mpr ⟨?_, later⟩
  intro other member
  rcases List.mem_cons.mp member with rfl | member
  · exact behind
  · exact Nat.le_trans behind ((List.pairwise_cons.mp later).1 other member)

/-- Whatever happens between the runs, targets that lie one after the other are reached. -/
theorem Regular.attended_exists (regular : Regular tone) (supply : Nat → Turn)
    (ascending : (tone.cycles :: targets).Pairwise (· ≤ ·)) :
    ∃ answers final, Engine.Attended supply tone targets answers final := by
  induction targets generalizing tone supply with
  | nil => exact ⟨[], tone, .nil supply tone⟩
  | cons target targets ih =>
    induction left : tone.remaining target using Nat.strongRecOn generalizing tone supply with
    | ind _ closer =>
      obtain ⟨ahead, later⟩ := List.pairwise_cons.mp ascending
      obtain ⟨answer, next, ran, still, arrives, goes⟩ :=
        regular.turn_arrives (supply 0) (ahead target List.mem_cons_self)
      cases going : answer.reached with
      | true =>
        rw [← arrives going] at later
        obtain ⟨answers, final, attended⟩ := ih still (fun turn => supply (turn + 1)) later
        exact ⟨_, final, .reached ran going attended⟩
      | false =>
        obtain ⟨behind, fewer⟩ := goes going
        obtain ⟨answers, final, attended⟩ := closer _ (left ▸ fewer) still
          (fun turn => supply (turn + 1)) (ascending_cons (Nat.le_of_lt behind) later) rfl
        exact ⟨_, final, .going ran going attended⟩

/-- Targets that lie one after the other are driven to up to the last of them, and the engine is
punctual there. -/
theorem Punctual.attended (punctual : Punctual tone) (regular : Regular tone)
    (filling : Filling tone) (slow : Slow tone)
    (ascending : (tone.cycles :: targets).Pairwise (· ≤ ·))
    (attended : Engine.Attended supply tone targets answers final) :
    Punctual final ∧ final.cycles = targets.getLastD tone.cycles := by
  induction attended with
  | nil => exact ⟨punctual, rfl⟩
  | reached ran reached _ ih =>
    obtain ⟨ahead, later⟩ := List.pairwise_cons.mp ascending
    obtain ⟨still, counts, alike⟩ := regular.turn_counts filling ran
    have arrived := (regular.turn_ends (ahead _ List.mem_cons_self) ran).1 reached
    obtain ⟨punctual, cycles⟩ := ih (punctual.turn regular slow ran) still counts.filling
      (alike.slow slow) (arrived ▸ later)
    refine ⟨punctual, ?_⟩
    rw [cycles, arrived, List.getLastD_cons]
  | going ran going _ ih =>
    obtain ⟨ahead, later⟩ := List.pairwise_cons.mp ascending
    obtain ⟨still, counts, alike⟩ := regular.turn_counts filling ran
    have behind := (regular.turn_ends (ahead _ List.mem_cons_self) ran).2 going
    exact ih (punctual.turn regular slow ran) still counts.filling (alike.slow slow)
      (ascending_cons (Nat.le_of_lt behind) later)

/-- An engine with at most one sample at a cycle, driven to a cycle with any stops on the way and
whatever is told and shown to it in between, stands at that cycle and has made exactly what was due
up to it. Each picture was told by one answer and each full sound buffer by one. -/
theorem counts_on_schedule {cyclesPerSecond sampleRate : UInt32} (sounding : 1 ≤ sampleRate)
    (slow : sampleRate ≤ cyclesPerSecond) {bufferFrames : Nat} (present : 1 ≤ bufferFrames)
    (countable : bufferFrames < 9223372036854775808) (hz : Float) (supply : Nat → Turn)
    {stops : List Nat} {target : Nat} (ascending : (stops ++ [target]).Pairwise (· < ·)) :
    let tone := start cyclesPerSecond sampleRate bufferFrames hz
    (∃ answers final, Engine.Attended supply tone (stops ++ [target]) answers final) ∧
      ∀ answers final, Engine.Attended supply tone (stops ++ [target]) answers final →
        final.cycles = target ∧
          final.pictures = target / 70224 ∧
          final.samples =
            ((target + 1) * sampleRate.toNat - 1) / cyclesPerSecond.toNat ∧
          (∀ samples, samples * cyclesPerSecond.toNat / sampleRate.toNat ≤ target ↔
            samples ≤ final.samples) ∧
          (answers.countP fun answer => answer.1.picture) = final.pictures ∧
          (answers.countP fun answer => answer.1.sound) = final.samples / bufferFrames := by
  intro tone
  have rate : tone.sampleRate = sampleRate.toNat := Nat.max_eq_left sounding
  have clock : tone.cyclesPerSecond = cyclesPerSecond.toNat :=
    Nat.max_eq_left (Nat.le_trans sounding slow)
  have frames : tone.bufferFrames = bufferFrames := Nat.max_eq_left present
  have crowdless : Slow tone := by
    rw [Slow, rate, clock]
    exact slow
  have regular : Regular tone := regular_start cyclesPerSecond sampleRate countable hz
  have filling : Filling tone := filling_start cyclesPerSecond sampleRate bufferFrames hz
  have punctual : Punctual tone :=
    punctual_start cyclesPerSecond sampleRate bufferFrames hz crowdless
  have ahead : (tone.cycles :: (stops ++ [target])).Pairwise (· ≤ ·) :=
    List.pairwise_cons.mpr ⟨fun _ _ => Nat.zero_le _, ascending.imp Nat.le_of_lt⟩
  refine ⟨regular.attended_exists supply ahead, fun answers final attended => ?_⟩
  have made := regular.attended_counts filling attended
  obtain ⟨onTime, cycles⟩ := punctual.attended regular filling crowdless ahead attended
  have cycles : final.cycles = target := by
    rw [cycles, List.getLastD_concat]
  obtain ⟨pictures, samples⟩ := onTime.counts made.regular
  rw [cycles] at pictures samples
  have due := made.regular.sample_due_iff target
  rw [made.alike.rate, made.alike.clock, rate, clock] at samples due
  refine ⟨cycles, pictures, samples, ?_, ?_, ?_⟩
  · intro count
    rw [due, samples]
  · exact (made.pictures.trans (Nat.zero_add _)).symm
  · have bursts : final.samples / final.bufferFrames = 0 / tone.bufferFrames + _ := made.bursts
    rw [Nat.zero_div, Nat.zero_add, made.alike.frames, frames] at bursts
    exact bursts.symm

/-- A stop at the first picture and one between two samples; a voice is muted before the second run
and a button held before the third. -/
theorem counts_on_schedule_interrupted :
    (1 : UInt32) ≤ 44100 ∧ (44100 : UInt32) ≤ 4194304 ∧ 1 ≤ 512 ∧ 512 < 9223372036854775808 ∧
      ([70224, 100000] ++ [200000]).Pairwise (· < ·) ∧
      ∃ answers final,
        Engine.Attended
          (fun turn =>
            if turn = 1 then { configs := [{ muted := #v[true, false, false, false] }] }
            else if turn = 2 then { pad := some { a := true } }
            else {})
          (start 4194304 44100 512 440.0) ([70224, 100000] ++ [200000]) answers final ∧
          final.cycles = 200000 ∧ final.pictures = 2 ∧ final.samples = 2102 ∧
          (answers.countP fun answer => answer.1.picture) = 2 ∧
          (answers.countP fun answer => answer.1.sound) = 4 := by
  refine ⟨by decide, by decide, by decide, by decide, by decide, ?_⟩
  obtain ⟨⟨answers, final, attended⟩, schedule⟩ :=
    @counts_on_schedule 4194304 44100 (by decide) (by decide) 512 (by decide) (by decide) 440.0
      (fun turn =>
        if turn = 1 then { configs := [{ muted := #v[true, false, false, false] }] }
        else if turn = 2 then { pad := some { a := true } }
        else {})
      [70224, 100000] 200000 (by decide)
  obtain ⟨cycles, pictures, samples, _, told, sounded⟩ := schedule answers final attended
  have samples : final.samples = 2102 := samples
  rw [pictures] at told
  rw [samples] at sounded
  exact ⟨answers, final, attended, cycles, pictures, samples, told, sounded⟩

end Tone

end PacingHost
