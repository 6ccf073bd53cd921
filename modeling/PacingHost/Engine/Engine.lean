import PacingHost.Config
import PacingHost.Controls.Pad
import PacingHost.Number.Word
import PacingHost.Sound.Widening

/-! # Engines

An engine is run toward a cycle count and answers with the reasons why it came back: a complete
picture, a full sound buffer, the target. Driving it repeats this until the target is reached and
keeps every answer with the engine as it was then, so the host can serve them one by one.
-/

namespace PacingHost

/-- Why an engine came back. -/
structure Answer where
  /-- A complete picture is in the frame buffer. -/
  picture : Bool
  /-- The sound buffer is full. -/
  sound : Bool
  /-- The target was reached. -/
  reached : Bool
deriving DecidableEq, Repr

namespace Answer

/-- An answer as a bit mask; further bits mean nothing. -/
def ofBits (bits : UInt32) : Answer where
  picture := bits &&& 1 ≠ 0
  sound := bits &&& 2 ≠ 0
  reached := bits &&& 4 ≠ 0

def toBits (answer : Answer) : UInt32 :=
  (if answer.picture then 1 else 0) + (if answer.sound then 2 else 0) +
    (if answer.reached then 4 else 0)

theorem ofBits_toBits (answer : Answer) : ofBits answer.toBits = answer := by
  obtain ⟨picture, sound, reached⟩ := answer
  cases picture <;> cases sound <;> cases reached <;> rfl

/-- An engine never comes back without a reason. -/
def isEmpty (answer : Answer) : Bool := !(answer.picture || answer.sound || answer.reached)

end Answer

/-- Something that runs in cycles and makes pictures and sound. -/
class Engine (σ : Type) where
  /-- Pixels in a row of a picture. -/
  width : Nat
  /-- Rows of a picture. -/
  height : Nat
  /-- Cycles since the engine was switched on. -/
  cycles : σ → Nat
  /-- The last picture. -/
  frame : σ → Array UInt32
  /-- The sound made since the buffer was last full. -/
  sound : σ → Burst
  /-- Tell the engine about mutes and layers. -/
  configure : Config → σ → σ
  /-- Run to a number of cycles or to an earlier reason to come back. The pad is what the engine
  sees when it looks; without one its buttons stay as they are. -/
  run : Option Pad → Nat → σ → Except Fault (Answer × σ)

/-- The answers of a driven engine, each with the engine as it was then, and how the drive ended. -/
structure Drive (σ : Type) where
  answers : List (Answer × σ)
  fault : Option Fault

namespace Engine

variable {σ : Type} [Engine σ]

/-- Run an engine until it reaches the target, at most so many times. -/
def driveFor (pad : Option Pad) (target : Nat) : Nat → σ → Drive σ
  | 0, _ => ⟨[], some .runaway⟩
  | fuel + 1, engine =>
    match run pad target engine with
    | .error fault => ⟨[], some fault⟩
    | .ok (answer, next) =>
      if answer.reached then ⟨[(answer, next)], none⟩
      else
        let rest := driveFor pad target fuel next
        ⟨(answer, next) :: rest.answers, rest.fault⟩

/-- The usual patience with an engine: as many answers as 32 bits can count. -/
def patience : Nat := Word.limit - 1

/-- An engine that gives some answers, of which only the last reaches the target. -/
inductive Answers (pad : Option Pad) (target : Nat) : σ → List (Answer × σ) → Prop
  | last {engine next : σ} {answer : Answer} (ran : run pad target engine = .ok (answer, next))
      (reached : answer.reached = true) : Answers pad target engine [(answer, next)]
  | more {engine next : σ} {answer : Answer} {rest : List (Answer × σ)}
      (ran : run pad target engine = .ok (answer, next)) (going : answer.reached = false)
      (later : Answers pad target next rest) : Answers pad target engine ((answer, next) :: rest)

/-- A drive that is patient enough finds the answers an engine gives. -/
theorem driveFor_of_answers {pad : Option Pad} {target : Nat} {engine : σ}
    {answers : List (Answer × σ)} (given : Answers pad target engine answers) {fuel : Nat}
    (patient : answers.length ≤ fuel) : driveFor pad target fuel engine = ⟨answers, none⟩ := by
  induction given generalizing fuel with
  | last ran reached =>
    cases fuel with
    | zero => simp only [List.length_cons, List.length_nil] at patient; omega
    | succ fuel => simp only [driveFor, ran, reached, ↓reduceIte]
  | more ran going _ ih =>
    cases fuel with
    | zero => simp only [List.length_cons] at patient; omega
    | succ fuel =>
      have patient : _ ≤ fuel := Nat.le_of_succ_le_succ patient
      have shorter := ih patient
      simp only [driveFor, ran, going, Bool.false_eq_true, ↓reduceIte, shorter]

/-- A drive keeps no more answers than it has patience for. -/
theorem length_driveFor_le (pad : Option Pad) (target fuel : Nat) (engine : σ) :
    (driveFor pad target fuel engine).answers.length ≤ fuel := by
  induction fuel generalizing engine with
  | zero => exact Nat.le_refl 0
  | succ fuel ih =>
    rw [driveFor]
    split
    · exact Nat.zero_le _
    · dsimp only
      split
      · exact Nat.succ_le_succ (Nat.zero_le fuel)
      · exact Nat.succ_le_succ (ih _)

/-- A drive that ended in no fault has found answers of which only the last reaches the target. -/
theorem answers_of_driveFor {pad : Option Pad} {target : Nat} {engine : σ} {fuel : Nat}
    (sound : (driveFor pad target fuel engine).fault = none) :
    Answers pad target engine (driveFor pad target fuel engine).answers := by
  induction fuel generalizing engine with
  | zero => cases sound
  | succ fuel ih =>
    rw [driveFor] at sound ⊢
    split
    · next ran => rw [ran] at sound; cases sound
    · next answer next ran =>
      rw [ran] at sound
      dsimp only at sound ⊢
      split
      · next reached => exact .last ran reached
      · next going =>
        rw [if_neg going] at sound
        exact .more ran (Bool.eq_false_iff.mpr going) (ih sound)

theorem driveFor_eq_iff {pad : Option Pad} {target : Nat} {engine : σ} {fuel : Nat}
    {answers : List (Answer × σ)} :
    driveFor pad target fuel engine = ⟨answers, none⟩ ↔
      Answers pad target engine answers ∧ answers.length ≤ fuel := by
  constructor
  · intro driven
    have given := answers_of_driveFor (congrArg Drive.fault driven)
    have patient := length_driveFor_le pad target fuel engine
    rw [driven] at given patient
    exact ⟨given, patient⟩
  · rintro ⟨given, patient⟩
    exact driveFor_of_answers given patient

end Engine

end PacingHost
