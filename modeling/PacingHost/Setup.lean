import PacingHost.Sound.Gate

/-! # Construction parameters -/

namespace PacingHost

/-- What a host is built from; nothing of it changes later. -/
structure Setup where
  audioFrequency : UInt32 := 44100
  audioFrames : UInt32 := 2048
  /-- Engine cycles in one second. -/
  cyclesPerSecond : UInt32 := 4194304
  /-- Window pixels for one pixel of the engine. -/
  renderScale : UInt32 := 4
  thresholds : Thresholds := {}
deriving DecidableEq, Repr

/-- The device a host asks for. -/
def Setup.request (setup : Setup) : Request := ⟨setup.audioFrequency, setup.audioFrames⟩

/-- Parameters that no device can be opened with are refused before one is asked. -/
def Setup.validate (setup : Setup) : Except SetupError Unit :=
  if setup.cyclesPerSecond = 0 then .error .zeroClock
  else if setup.renderScale = 0 then .error .zeroScale
  else if setup.audioFrames = 0 ∨ setup.audioFrequency = 0 then
    .error (.silentSound setup.audioFrequency setup.audioFrames)
  else .ok ()

theorem Setup.validate_eq_ok_iff (setup : Setup) :
    setup.validate = .ok () ↔
      setup.cyclesPerSecond ≠ 0 ∧ setup.renderScale ≠ 0 ∧ setup.audioFrames ≠ 0 ∧
        setup.audioFrequency ≠ 0 := by
  unfold validate
  split
  · next zero => simp only [zero, reduceCtorEq, ne_eq, not_true_eq_false, false_and]
  · next clock =>
    split
    · next zero =>
      simp only [zero, reduceCtorEq, ne_eq, not_true_eq_false, false_and, and_false]
    · next scale =>
      split
      · next silent =>
        simp only [reduceCtorEq, false_iff]
        rintro ⟨_, _, frames, rate⟩
        exact silent.elim frames rate
      · next sounding =>
        exact ⟨fun _ => ⟨clock, scale, not_or.mp sounding⟩, fun _ => rfl⟩

end PacingHost
