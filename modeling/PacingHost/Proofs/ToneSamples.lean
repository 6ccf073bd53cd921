import Mathlib.Data.Bool.Count
import PacingHost.Proofs.Run
import PacingHost.Proofs.ToneEvents

/-! # The samples of a tone engine

The sound buffer of a tone engine is filled by several runs and emptied late, so what waits in it
may have been made under different configurations. Samples count in the order in which they are
made: the run that took the count past a number made the sample of that number, under the
configuration that was told last before it (`Tone.InForce`). Every sample is a mix of the voices
that were not muted then (`Config.Mixes`). `Tone.Recorded` says both of a whole sound buffer, and
every call keeps it. Nothing is assumed of when a voice is high.
-/

namespace PacingHost

/-- What is asked of an engine. -/
inductive EngineCall where
  | configure (config : Config)
  | run (pad : Option Pad) (target : Nat)
deriving Repr

/-- What comes of a call. -/
inductive EngineAnswer where
  | done
  | ran (answer : Answer)
deriving DecidableEq, Repr

/-- The configuration a call tells the engine. -/
def EngineCall.told? : EngineCall → Option Config
  | .configure config => some config
  | .run .. => none

namespace Engine

variable {σ : Type}

/-- The configuration that was told last. Until there is one, everything is shown and sounds. -/
def toldLast (steps : List (Step σ EngineCall EngineAnswer)) : Config :=
  ((steps.map Step.call).filterMap EngineCall.told?).getLastD {}

theorem toldLast_concat (steps : List (Step σ EngineCall EngineAnswer))
    (step : Step σ EngineCall EngineAnswer) :
    toldLast (steps ++ [step]) = step.call.told?.getD (toldLast steps) := by
  unfold toldLast
  rw [List.map_append, List.map_singleton, List.filterMap_append]
  cases told : step.call.told? with
  | none => rw [List.filterMap_cons_none told, List.filterMap_nil, List.append_nil, Option.getD_none]
  | some config =>
    rw [List.filterMap_cons_some told, List.filterMap_nil, List.getLastD_concat, Option.getD_some]

variable [Engine σ]

def perform (engine : σ) : EngineCall → Report Fault (EngineAnswer × σ)
  | .configure config => pure (.done, configure config engine)
  | .run pad target => do
    let (answer, next) ← Report.ofExcept (run pad target engine)
    pure (.ran answer, next)

/-- What one call does to an engine. -/
inductive Handles (engine : σ) : EngineCall → EngineAnswer → σ → Prop
  | configured (config : Config) :
      Handles engine (.configure config) .done (configure config engine)
  | ran {pad : Option Pad} {target : Nat} {answer : Answer} {next : σ}
      (ran : run pad target engine = .ok (answer, next)) :
      Handles engine (.run pad target) (.ran answer) next

theorem handles_of_perform {engine next : σ} {call : EngineCall} {answer : EngineAnswer}
    (ran : (perform engine call).result = .ok (answer, next)) : Handles engine call answer next := by
  cases call with
  | configure config =>
    cases ran
    exact .configured config
  | run pad target =>
    obtain ⟨⟨reason, after⟩, made, told⟩ := Report.result_bind_eq_ok_iff.mp ran
    cases told
    exact .ran made

end Engine

/-! ## One sample -/

namespace Config

variable {config : Config} {sample : UInt8}

/-- Sound channels that are not muted. -/
def audible (config : Config) : Nat :=
  (List.finRange soundChannels).countP fun channel => !config.muted.get channel

theorem audible_le (config : Config) : config.audible ≤ soundChannels :=
  Nat.le_trans List.countP_le_length (Nat.le_of_eq List.length_finRange)

theorem audible_of_muted (muted : config.muted = .replicate soundChannels true) :
    config.audible = 0 := by
  rw [audible, muted]
  decide

/-- A sample that the audible channels make together when some of them are high and the others low:
each moves it by one step up or down. -/
def Mixes (config : Config) (sample : UInt8) : Prop :=
  ∃ high low : Nat, high + low = config.audible ∧
    (sample.toNat : Int) = 0x80 + 8 * ((high : Int) - low)

theorem Mixes.bounds (mixes : config.Mixes sample) : 0x60 ≤ sample ∧ sample ≤ 0xa0 := by
  obtain ⟨high, low, all, value⟩ := mixes
  have few := config.audible_le
  rw [soundChannels] at few
  rw [UInt8.le_iff_toNat_le, UInt8.le_iff_toNat_le]
  change 96 ≤ sample.toNat ∧ sample.toNat ≤ 160
  omega

theorem Mixes.of_muted (mixes : config.Mixes sample)
    (muted : config.muted = .replicate soundChannels true) : sample = 0x80 := by
  obtain ⟨high, low, all, value⟩ := mixes
  rw [audible_of_muted muted] at all
  apply UInt8.toNat_inj.mp
  change sample.toNat = 128
  omega

end Config

namespace Tone

variable {tone middle next : Tone} {pad : Option Pad} {target : Nat} {answer : Answer}

theorem length_voices (tone : Tone) : tone.voices.length = tone.config.audible := by
  rw [voices, List.length_filterMap_eq_countP, Config.audible]
  apply List.countP_congr
  intro channel _
  change (if tone.config.muted.get channel = true then none else some _).isSome = true ↔ _
  cases tone.config.muted.get channel <;> exact Iff.rfl

theorem mixes_voices (tone : Tone) : tone.config.Mixes (mix tone.voices) := by
  have all := List.count_true_add_count_false tone.voices
  have few := tone.config.audible_le
  rw [soundChannels] at few
  rw [length_voices] at all
  refine ⟨tone.voices.count true, tone.voices.count false, all, ?_⟩
  rw [mix, UInt8.toNat_ofNat', midpoint, amplitude]
  omega

/-! ## One run -/

/-- Samples as they stand in a stereo buffer: on the left and on the right. -/
def onBothSides (samples : List UInt8) : List UInt8 := samples.flatMap fun sample => [sample, sample]

theorem onBothSides_append (first second : List UInt8) :
    onBothSides (first ++ second) = onBothSides first ++ onBothSides second :=
  List.flatMap_append

/-- The engine went on under its configuration and added the samples it made to its sound. -/
structure Grows (tone next : Tone) (made : List UInt8) : Prop where
  config : next.config = tone.config
  samples : next.samples = tone.samples + made.length
  sound : next.sound.toList = tone.sound.toList ++ onBothSides made
  mixes : ∀ sample ∈ made, tone.config.Mixes sample

theorem Grows.of_silent (config : next.config = tone.config) (samples : next.samples = tone.samples)
    (sound : next.sound = tone.sound) : Grows tone next [] where
  config := config
  samples := samples
  sound := by rw [sound]; exact (List.append_nil _).symm
  mixes := nofun

theorem Grows.trans {first second : List UInt8} (early : Grows tone middle first)
    (late : Grows middle next second) : Grows tone next (first ++ second) where
  config := late.config.trans early.config
  samples := by rw [late.samples, early.samples, List.length_append, Nat.add_assoc]
  sound := by
    rw [late.sound, early.sound, onBothSides_append, List.append_assoc]
  mixes := by
    intro sample member
    rcases List.mem_append.mp member with member | member
    · exact early.mixes sample member
    · exact early.config ▸ late.mixes sample member

theorem grows_of_makeSample (made : tone.makeSample = .ok next) :
    Grows tone next [mix tone.voices] := by
  unfold makeSample at made
  split at made
  · cases made
    exact {
      config := rfl
      samples := rfl
      sound := by
        rw [Array.toList_push, Array.toList_push, List.append_assoc]
        rfl
      mixes := by
        intro sample member
        rw [List.mem_singleton.mp member]
        exact tone.mixes_voices }
  · cases made

theorem carries_grows (pad : Option Pad) :
    Carries pad fun tone next => ∃ made, Grows tone next made where
  trans := fun ⟨early, grown⟩ ⟨late, more⟩ => ⟨early ++ late, grown.trans more⟩
  moves := fun _ _ => ⟨[], .of_silent rfl rfl rfl⟩
  samples := fun made => ⟨_, grows_of_makeSample made⟩
  draws := fun _ => ⟨[], .of_silent rfl rfl rfl⟩

/-! ## Many calls -/

section Calls

variable {steps : List (Step Tone EngineCall EngineAnswer)} {number gone : Nat} {config : Config}
  {waiting : List UInt8}

/-- The configuration that was in force when one of these steps made the sample of that number. -/
def InForce (steps : List (Step Tone EngineCall EngineAnswer)) (number : Nat) (config : Config) :
    Prop :=
  ∃ earlier step later pad target, steps = earlier ++ step :: later ∧ step.call = .run pad target ∧
    step.before.samples ≤ number ∧ number < step.after.samples ∧ config = Engine.toldLast earlier

theorem InForce.concat (inForce : InForce steps number config)
    (step : Step Tone EngineCall EngineAnswer) : InForce (steps ++ [step]) number config := by
  obtain ⟨earlier, made, later, pad, target, rfl, ran, first, last, same⟩ := inForce
  refine ⟨earlier, made, later ++ [step], pad, target, ?_, ran, first, last, same⟩
  rw [List.append_assoc, List.cons_append]

/-- After these steps so many samples are gone, and those that wait in the sound buffer were mixed
under the configurations that were in force. -/
structure Recorded (steps : List (Step Tone EngineCall EngineAnswer)) (tone : Tone) (gone : Nat)
    (waiting : List UInt8) : Prop where
  config : tone.config = Engine.toldLast steps
  samples : tone.samples = gone + waiting.length
  sound : tone.sound.toList = onBothSides waiting
  origin : ∀ frame sample, waiting[frame]? = some sample →
    ∃ config, InForce steps (gone + frame) config ∧ config.Mixes sample

theorem recorded_start (cyclesPerSecond sampleRate : UInt32) (bufferFrames : Nat) (hz : Float) :
    Recorded [] (start cyclesPerSecond sampleRate bufferFrames hz) 0 [] where
  config := rfl
  samples := rfl
  sound := rfl
  origin := nofun

/-- Emptying the sound buffer lets all samples go or none. -/
theorem Recorded.emptied (recorded : Recorded steps tone gone waiting) :
    ∃ gone waiting, Recorded steps tone.emptied gone waiting := by
  unfold Tone.emptied
  split
  · exact ⟨gone + waiting.length, [],
      { recorded with sound := rfl, origin := nofun }⟩
  · exact ⟨gone, waiting, recorded⟩

/-- A further step takes nothing off the record. -/
theorem Recorded.origin_concat (recorded : Recorded steps tone gone waiting)
    (step : Step Tone EngineCall EngineAnswer) {frame : Nat} {sample : UInt8}
    (found : waiting[frame]? = some sample) :
    ∃ config, InForce (steps ++ [step]) (gone + frame) config ∧ config.Mixes sample := by
  obtain ⟨config, inForce, mixes⟩ := recorded.origin frame sample found
  exact ⟨config, inForce.concat step, mixes⟩

theorem Recorded.configured (recorded : Recorded steps tone gone waiting) (next : Config) :
    Recorded (steps ++ [⟨tone, .configure next, .done, Engine.configure next tone⟩])
      (Engine.configure next tone) gone waiting where
  config := by
    rw [Engine.toldLast_concat]
    rfl
  samples := recorded.samples
  sound := recorded.sound
  origin := fun _ _ found => recorded.origin_concat _ found

/-- A run adds samples to those that it finds or starts over if the sound buffer was full. -/
theorem Recorded.ran (recorded : Recorded steps tone gone waiting)
    (ran : Engine.run pad target tone = .ok (answer, next)) :
    ∃ gone waiting,
      Recorded (steps ++ [⟨tone, .run pad target, .ran answer, next⟩]) next gone waiting := by
  obtain ⟨gone, waiting, found⟩ := recorded.emptied
  obtain ⟨made, grows⟩ := (carries_grows pad).runOn ran
  have before := tone.emptied_frame.2.2.2.1
  have start := found.samples
  have after := grows.samples
  refine ⟨gone, waiting ++ made, ?_, ?_, ?_, ?_⟩
  · rw [Engine.toldLast_concat]
    exact grows.config.trans found.config
  · rw [List.length_append]
    omega
  · rw [grows.sound, found.sound, onBothSides_append]
  · intro frame sample there
    rcases Nat.lt_or_ge frame waiting.length with old | new
    · rw [List.getElem?_append_left old] at there
      exact found.origin_concat _ there
    · rw [List.getElem?_append_right new] at there
      have within := (List.getElem?_eq_some_iff.mp there).1
      refine ⟨tone.emptied.config, ⟨steps, _, [], pad, target, rfl, rfl, ?_, ?_, found.config⟩,
        grows.mixes sample (List.mem_of_getElem? there)⟩
      · dsimp only
        omega
      · dsimp only
        omega

theorem Recorded.handles {call : EngineCall} {reply : EngineAnswer}
    (recorded : Recorded steps tone gone waiting) (handled : Engine.Handles tone call reply next) :
    ∃ gone waiting, Recorded (steps ++ [⟨tone, call, reply, next⟩]) next gone waiting := by
  cases handled with
  | configured config => exact ⟨gone, waiting, recorded.configured config⟩
  | ran ran => exact recorded.ran ran

/-- The sound buffer of an engine that was started is on record, whatever was asked of it. -/
theorem recorded_of_run {clock rate : UInt32} {frames : Nat} {hz : Float} {final : Tone}
    (run : Run Engine.Handles (start clock rate frames hz) steps final) :
    ∃ gone waiting, Recorded steps final gone waiting :=
  run.history (fun steps tone => ∃ gone waiting, Recorded steps tone gone waiting)
    (fun ⟨_, _, recorded⟩ handled => recorded.handles handled)
    ⟨0, [], recorded_start clock rate frames hz⟩

/-- A call can be made, if a full sound buffer can be counted. -/
theorem Regular.handles (regular : Regular tone) (call : EngineCall) :
    ∃ reply next, (Engine.perform tone call).result = .ok (reply, next) ∧
      Engine.Handles tone call reply next ∧ Regular next := by
  cases call with
  | configure config => exact ⟨_, _, rfl, .configured config, regular.configure config⟩
  | run pad target =>
    have ran : ∃ answer next, Engine.run pad target tone = .ok (answer, next) := by
      rcases Nat.lt_or_ge tone.cycles target with behind | passed
      · obtain ⟨answer, next, ran, _⟩ := regular.run_towards pad behind
        exact ⟨answer, next, ran⟩
      · exact ⟨_, _, runOn_of_reached (tone.emptied_frame.1 ▸ passed)⟩
    obtain ⟨answer, next, ran⟩ := ran
    refine ⟨.ran answer, next, ?_, .ran ran, regular.run ran⟩
    rw [Engine.perform, ran]
    rfl

end Calls

end Tone

end PacingHost
