import PacingHost.Proofs.PassAccounts
import PacingHost.Proofs.ToneEvents

/-! # Driving in chunks

A tone engine that is driven to some targets one after the other ends as if it had been driven to
the last of them at once, and shows the same pictures and the same bursts on the way. A stop at a
target either comes with an event, which a longer drive would have told without stopping, or lies
between two events, where a longer drive goes on.
-/

namespace PacingHost

/-- The bursts of all answers that have sound. -/
def burstsOf {σ : Type} [Engine σ] (answers : List (Answer × σ)) : List Burst :=
  (answers.filter fun answer => answer.1.sound).map fun answer => Engine.sound answer.2

namespace Engine

variable {σ : Type} [Engine σ] {pad : Option Pad}

/-- Drives to some targets in order, with the answers of all of them and the engine at the end. -/
inductive Drives (pad : Option Pad) : σ → List Nat → List (Answer × σ) → σ → Prop
  | nil (engine : σ) : Drives pad engine [] [] engine
  | cons {engine final : σ} {target : Nat} {targets : List Nat} {answers rest : List (Answer × σ)}
      (given : Answers pad target engine answers)
      (later : Drives pad ((answers.map Prod.snd).getLastD engine) targets rest final) :
      Drives pad engine (target :: targets) (answers ++ rest) final

end Engine

namespace Tone

variable {tone : Tone} {pad : Option Pad} {target : Nat}

/-- A drive to a target that lies ahead ends there. -/
theorem Regular.answers_exist (regular : Regular tone) (pad : Option Pad)
    (behind : tone.cycles < target) :
    ∃ answers, Engine.Answers pad target tone answers ∧
      Regular ((answers.map Prod.snd).getLastD tone) ∧
      ((answers.map Prod.snd).getLastD tone).cycles = target := by
  induction left : tone.remaining target using Nat.strongRecOn generalizing tone with
  | ind _ ih =>
    obtain ⟨answer, next, ran, towards⟩ := regular.run_towards pad behind
    cases going : answer.reached with
    | true =>
      exact ⟨[(answer, next)], .last ran going, towards.regular, towards.reached going⟩
    | false =>
      obtain ⟨short, fewer⟩ := towards.going going
      rw [remaining_emptied, left] at fewer
      obtain ⟨rest, given, ends, arrives⟩ := ih _ fewer towards.regular short rfl
      refine ⟨(answer, next) :: rest, .more ran going given, ?_, ?_⟩
      · rwa [List.map_cons, List.getLastD_cons]
      · rwa [List.map_cons, List.getLastD_cons]

/-- Answers that show the same and end the same. -/
structure Alike (tone : Tone) (answers others : List (Answer × Tone)) : Prop where
  frames : framesOf answers = framesOf others
  bursts : burstsOf answers = burstsOf others
  ends : (answers.map Prod.snd).getLastD tone = (others.map Prod.snd).getLastD tone

theorem Alike.refl (tone : Tone) (answers : List (Answer × Tone)) : Alike tone answers answers :=
  ⟨rfl, rfl, rfl⟩

/-- Answers of the same event show the same, whether the target was reached with it or not. -/
theorem Alike.cons {next : Tone} {answer other : Answer} {answers others : List (Answer × Tone)}
    (picture : answer.picture = other.picture) (sound : answer.sound = other.sound)
    (alike : Alike next answers others) :
    Alike tone ((answer, next) :: answers) ((other, next) :: others) where
  frames := by
    have rest := alike.frames
    unfold framesOf at rest ⊢
    simp only [List.filter_cons, picture]
    split
    · rw [List.map_cons, List.map_cons, rest]
    · exact rest
  bursts := by
    have rest := alike.bursts
    unfold burstsOf at rest ⊢
    simp only [List.filter_cons, sound]
    split
    · rw [List.map_cons, List.map_cons, rest]
    · exact rest
  ends := by
    simp only [List.map_cons, List.getLastD_cons]
    exact alike.ends

/-- An answer that only tells of the target shows nothing. -/
theorem Alike.of_silent {next : Tone} {answer : Answer} {answers others : List (Answer × Tone)}
    (picture : answer.picture = false) (sound : answer.sound = false)
    (alike : Alike next answers others) (nonempty : answers ≠ []) :
    Alike tone answers ((answer, next) :: others) where
  frames := by
    rw [alike.frames, framesOf, framesOf, List.filter_cons, if_neg (picture ▸ Bool.false_ne_true)]
  bursts := by
    rw [alike.bursts, burstsOf, burstsOf, List.filter_cons, if_neg (sound ▸ Bool.false_ne_true)]
  ends := by
    rw [List.map_cons, List.getLastD_cons, ← alike.ends]
    obtain ⟨first, rest, rfl⟩ := List.exists_cons_of_ne_nil nonempty
    rw [List.map_cons, List.getLastD_cons, List.getLastD_cons]

/-- A drive to a later target shows what two drives show, one to an earlier target and one from
there. -/
theorem Regular.answers_append (regular : Regular tone) {later : Nat}
    (behind : tone.cycles < target) (after : target < later) {answers rest : List (Answer × Tone)}
    (given : Engine.Answers pad target tone answers)
    (givenRest : Engine.Answers pad later ((answers.map Prod.snd).getLastD tone) rest) :
    ∃ all, Engine.Answers pad later tone all ∧ Alike tone all (answers ++ rest) := by
  induction given with
  | @last tone next answer ran reached =>
    obtain ⟨_, _, ran', towards⟩ := regular.run_towards pad behind
    cases ran.symm.trans ran'
    have laterRun : Engine.run pad later tone = _ := towards.later later after
    cases silent : answer.onTheWay.isEmpty with
    | true =>
      -- The stop lies between two events: a longer drive goes on from there.
      obtain ⟨noPicture, quiet⟩ := (Answer.isEmpty_onTheWay _).mp silent
      rw [silent, if_pos rfl, ← emptied_of_opened (towards.opened quiet)] at laterRun
      refine ⟨rest, ?_, .of_silent noPicture quiet (.refl next rest) ?_⟩
      · cases givenRest with
        | last ranRest reachedRest => exact .last (laterRun.trans ranRest) reachedRest
        | more ranRest going later => exact .more (laterRun.trans ranRest) going later
      · cases givenRest <;> exact List.cons_ne_nil _ _
    | false =>
      rw [silent, if_neg Bool.false_ne_true] at laterRun
      exact ⟨(answer.onTheWay, next) :: rest, .more laterRun rfl givenRest,
        .cons rfl rfl (.refl next rest)⟩
  | @more tone next answer answers ran going given ih =>
    obtain ⟨_, _, ran', towards⟩ := regular.run_towards pad behind
    cases ran.symm.trans ran'
    have laterRun : Engine.run pad later tone = _ := towards.later later after
    have told : answer.onTheWay.isEmpty = false := by
      rw [Answer.onTheWay_of_going going]
      exact towards.reason
    rw [told, if_neg Bool.false_ne_true, Answer.onTheWay_of_going going] at laterRun
    rw [List.map_cons, List.getLastD_cons] at givenRest
    obtain ⟨all, givenAll, alike⟩ := ih towards.regular (towards.going going).1 givenRest
    exact ⟨(answer, next) :: all, .more laterRun going givenAll, .cons rfl rfl alike⟩

theorem framesOf_append (first second : List (Answer × Tone)) :
    framesOf (first ++ second) = framesOf first ++ framesOf second := by
  rw [framesOf, List.filter_append, List.map_append]
  rfl

theorem burstsOf_append (first second : List (Answer × Tone)) :
    burstsOf (first ++ second) = burstsOf first ++ burstsOf second := by
  rw [burstsOf, List.filter_append, List.map_append]
  rfl

theorem getLastD_append {α : Type} (first second : List α) (start : α) :
    (first ++ second).getLastD start = second.getLastD (first.getLastD start) := by
  simp only [List.getLastD_eq_getLast?, List.getLast?_append, Option.getD_or]

/-- Driving to each of some targets in turn ends as driving to the last of them at once, and both
show the same pictures and the same bursts, in the same order. `Reached.regular` makes every state
of a started engine regular. -/
theorem drives_at_once (regular : Regular tone) (pad : Option Pad) {targets : List Nat}
    (present : targets ≠ []) (ascending : (tone.cycles :: targets).Pairwise (· < ·)) :
    ∃ chunked final atOnce, Engine.Drives pad tone targets chunked final ∧
      Engine.Answers pad (targets.getLast present) tone atOnce ∧
      (atOnce.map Prod.snd).getLastD tone = final ∧
      framesOf chunked = framesOf atOnce ∧ burstsOf chunked = burstsOf atOnce := by
  induction targets generalizing tone with
  | nil => exact absurd rfl present
  | cons target targets ih =>
    obtain ⟨ahead, ascending⟩ := List.pairwise_cons.mp ascending
    have behind := ahead target List.mem_cons_self
    obtain ⟨answers, given, ends, arrives⟩ := regular.answers_exist pad behind
    cases targets with
    | nil =>
      refine ⟨answers ++ [], _, answers, .cons given (.nil _), given, rfl, ?_, ?_⟩ <;>
        rw [List.append_nil]
    | cons second targets =>
      have more : second :: targets ≠ [] := List.cons_ne_nil _ _
      rw [← arrives] at ascending
      obtain ⟨chunked, final, atOnce, drives, givenRest, same, frames, bursts⟩ :=
        ih ends more ascending
      have after : target < (second :: targets).getLast more := by
        rw [← arrives]
        exact (List.pairwise_cons.mp ascending).1 _ (List.getLast_mem more)
      obtain ⟨all, givenAll, alike⟩ := regular.answers_append behind after given givenRest
      refine ⟨answers ++ chunked, final, all, .cons given drives, ?_, ?_, ?_, ?_⟩
      · rw [List.getLast_cons more]
        exact givenAll
      · rw [alike.ends, List.map_append, getLastD_append]
        exact same
      · rw [framesOf_append, frames, alike.frames, framesOf_append]
      · rw [burstsOf_append, bursts, alike.bursts, burstsOf_append]

/-- An engine with five samples in two cycles that has just filled its sound buffer. Another sample
is still due at this cycle, and a picture and three samples at the next. -/
def crowded : Tone :=
  { start 2 5 2 440.0 with
    cycles := 70223
    samples := 175558
    sound := #[0x88, 0x88, 0x78, 0x78]
    full := true }

/-- Stops at the picture, one cycle later, and between two cycles with samples. -/
theorem drives_at_once_crowded :
    Regular crowded ∧ [70224, 70225, 70300] ≠ [] ∧
      (crowded.cycles :: [70224, 70225, 70300]).Pairwise (· < ·) ∧
      ∃ chunked final atOnce,
        Engine.Drives (some { a := true }) crowded [70224, 70225, 70300] chunked final ∧
          Engine.Answers (some { a := true }) 70300 crowded atOnce ∧
          (atOnce.map Prod.snd).getLastD crowded = final ∧
          framesOf chunked = framesOf atOnce ∧ burstsOf chunked = burstsOf atOnce :=
  have regular : Regular crowded := { @regular_start 2 5 2 (by decide) 440.0 with }
  ⟨regular, by decide, by decide,
    drives_at_once regular (some { a := true }) (by decide) (by decide)⟩

end Tone

end PacingHost
