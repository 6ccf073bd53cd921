import PacingHost.Proofs.HostReturns
import PacingHost.Proofs.ToneReturns

/-! # Tone engines arrive

Each answer of a tone engine on the way to its target tells of a picture or of samples that it has
made. So it arrives as long as the samples and pictures up to the target are fewer than a counter
holds, and a host around it arrives in every run that asks for no more cycles than that. At 44100
samples a second this takes it through a day of play.
-/

namespace PacingHost

namespace Tone

variable {tone next : Tone} {pad : Option Pad} {target cycle : Nat}
  {answers : List (Answer × Tone)}

/-- The samples and pictures up to a cycle, and an answer more, are fewer than a counter holds. -/
def Counted (tone : Tone) (cycle : Nat) : Prop :=
  (cycle + 1) * tone.sampleRate / tone.cyclesPerSecond + cycle / cyclesPerPicture + 1 < Word.limit

/-- What was made up to a cycle. -/
theorem Steady.made_le (steady : Steady tone) :
    tone.samples ≤ (tone.cycles + 1) * tone.sampleRate / tone.cyclesPerSecond ∧
      tone.pictures ≤ tone.cycles / cyclesPerPicture := by
  constructor
  · rw [Nat.le_div_iff_mul_le steady.regular.clock]
    apply Nat.le_of_lt
    rw [← Nat.div_lt_iff_lt_mul steady.regular.rate]
    exact Nat.lt_succ_of_le steady.timely.samplesMade
  · rw [Nat.le_div_iff_mul_le (by decide)]
    exact steady.timely.picturesMade

theorem Counted.alike (counted : Counted tone cycle) (alike : BuiltAlike tone next) :
    Counted next cycle := by
  rw [Counted, alike.rate, alike.clock]
  exact counted

theorem Counted.of_le {later : Nat} (counted : Counted tone later) (before : cycle ≤ later) :
    Counted tone cycle := by
  have samples : (cycle + 1) * tone.sampleRate / tone.cyclesPerSecond ≤
      (later + 1) * tone.sampleRate / tone.cyclesPerSecond :=
    Nat.div_le_div_right (Nat.mul_le_mul_right _ (Nat.succ_le_succ before))
  have pictures : cycle / cyclesPerPicture ≤ later / cyclesPerPicture :=
    Nat.div_le_div_right before
  unfold Counted at counted ⊢
  omega

/-- Answers lead the engine on to their target. -/
theorem Reached.last_onWay (reached : Reached tone)
    (given : Engine.Answers pad target tone answers) :
    OnWay tone target ((answers.map Prod.snd).getLastD tone) := by
  obtain ⟨told, member, same⟩ := List.mem_map.mp given.last_mem
  rw [← same]
  exact reached.attended_onWay given.attended
    (fun other only => Nat.le_of_eq (List.mem_singleton.mp only)) told member

/-- The engine arrives at a target up to which it makes no more than can be counted. -/
theorem Reached.arrives (reached : Reached tone) (pad : Option Pad)
    (counted : Counted tone (max tone.cycles target)) : Engine.Arrives pad target tone := by
  obtain ⟨answers, given⟩ := reached.steady.regular.answers_exist_anyway pad target
  have onWay := reached.last_onWay given
  obtain ⟨samples, pictures⟩ := onWay.reached.steady.made_le
  have few := (reached.attended_length given.attended).1
  rw [List.length_singleton] at few
  have bound := (counted.of_le onWay.early).alike onWay.alike
  unfold Counted at bound
  exact ⟨answers, given, by omega⟩

end Tone

namespace Host

variable {host next : Host Tone} {call : HostCall} {answer : HostAnswer}

/-- The cycles that a call asks the engine for. -/
def asks (host : Host Tone) : HostCall → Nat
  | .pass delta => host.budget (checkDelta delta).value
  | _ => 0

/-- The cycles that some calls ask the engine for. -/
def asksInAll (host : Host Tone) : List HostCall → Nat
  | [] => 0
  | call :: calls => host.asks call + host.asksInAll calls

/-- A call leads the engine on by as many cycles as it asks for, and leaves the clock. -/
theorem Handles.onWay (handled : host.Handles call answer next)
    (reached : Tone.Reached host.engine) :
    next.setup = host.setup ∧
      Tone.OnWay host.engine (host.engine.cycles + host.asks call) next.engine := by
  have still : Tone.OnWay host.engine (host.engine.cycles + host.asks call) host.engine :=
    ⟨reached, .refl _, Nat.le_max_left ..⟩
  have told {host' : Host Tone} (same : host'.engine = host.engine) (config : Config) :
      Tone.OnWay host.engine (host.engine.cycles + host.asks call)
        (host'.committed config).engine := by
    simp only [Host.committed, same]
    split
    · exact still
    · exact ⟨reached.configured config, ⟨rfl, rfl, rfl⟩, Nat.le_max_left ..⟩
  cases handled with
  | stood | boundPress | boundHold | read | consumed => exact ⟨rfl, still⟩
  | @passed delta answers _ outputs passed =>
    have onWay := reached.last_onWay passed.given
    have aim : host.target (checkDelta delta).value ≤ host.engine.cycles + host.asks (.pass delta) :=
      host.target_le _
    have early := onWay.early
    refine ⟨?_, ?_⟩
    · unfold afterPass settled
      split <;> rfl
    · rw [engine_afterPass]
      exact { onWay with early := by omega }
  | committed config => exact ⟨rfl, told rfl config⟩
  | handled inputs => exact ⟨rfl, told rfl _⟩

/-- What calls ask for hangs on the clock alone. -/
theorem asksInAll_of_setup (same : next.setup = host.setup) (calls : List HostCall) :
    next.asksInAll calls = host.asksInAll calls := by
  have asks : next.asks = host.asks := by
    funext call
    cases call with
    | pass delta => simp only [Host.asks, budget, same]
    | commit | input | bindPress | bindHold | read | consume => rfl
  induction calls with
  | nil => rfl
  | cons call calls ih => rw [asksInAll, asksInAll, asks, ih]

/-- A host of a tone engine arrives in every run that asks for no more cycles than can be counted. -/
theorem arrives_of_counted (reached : Tone.Reached host.engine) {calls : List HostCall}
    (counted : host.engine.Counted (host.engine.cycles + host.asksInAll calls)) :
    host.Arrives calls := by
  induction calls generalizing host with
  | nil => trivial
  | cons call calls ih =>
    rw [asksInAll] at counted
    constructor
    · rintro delta rfl _
      have aim : host.target (checkDelta delta).value ≤
          host.engine.cycles + host.asks (.pass delta) := host.target_le _
      exact reached.arrives _ (counted.of_le (by omega))
    · intro answer next ran
      obtain ⟨same, onWay⟩ := (handles_of_perform ran).onWay reached
      have early := onWay.early
      apply ih onWay.reached
      rw [asksInAll_of_setup same]
      exact (counted.of_le (by omega)).alike onWay.alike

end Host

end PacingHost
