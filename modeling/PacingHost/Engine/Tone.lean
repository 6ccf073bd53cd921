import PacingHost.Engine.Engine
import PacingHost.Number.Binary64

/-! # The tone engine

An engine with the timing of a handheld: a picture every 70224 cycles, and stereo sound in bursts of
fixed size. It scrolls a pattern over the screen and plays a chord of four square waves, one for
each sound channel, on both sides. The `n`-th sample is due at the cycle `n * clock / rate` rounded down.
A full sound buffer is emptied by the next run, so it can be looked at until then.
-/

namespace PacingHost

structure Tone where
  cyclesPerSecond : Nat
  sampleRate : Nat
  /-- Frequency of the lowest voice. -/
  hz : Float
  /-- Frames that fill the sound buffer. -/
  bufferFrames : Nat
  cycles : Nat := 0
  /-- Samples made so far, on each side. -/
  samples : Nat := 0
  /-- Pictures drawn so far. -/
  pictures : Nat := 0
  sound : Array UInt8 := #[]
  /-- The sound buffer is full. -/
  full : Bool := false
  frame : Array UInt32
  /-- The pad as it was when the last picture was drawn. -/
  pad : Pad := {}
  config : Config := {}

namespace Tone

def width : Nat := 160

def height : Nat := 144

def cyclesPerPicture : Nat := 70224

/-- The sample of a wave without amplitude. -/
def midpoint : Nat := 0x80

/-- How far one voice moves the sample. -/
def amplitude : Nat := 8

/-- Frequencies of the voices over the lowest: root, third, fifth, octave. -/
def ratios : Vector Float soundChannels := #v[1.0, 1.25, 1.5, 2.0]

/-- An engine that has not run; clock, rate and buffer are at least one. -/
def start (cyclesPerSecond sampleRate : UInt32) (bufferFrames : Nat) (hz : Float) : Tone where
  cyclesPerSecond := max cyclesPerSecond.toNat 1
  sampleRate := max sampleRate.toNat 1
  hz := hz
  bufferFrames := max bufferFrames 1
  frame := Array.replicate (width * height) 0

/-- The cycle at which the next sample is due. -/
def nextSample (tone : Tone) : Nat := (tone.samples + 1) * tone.cyclesPerSecond / tone.sampleRate

/-- The cycle at which the next picture is due. -/
def nextPicture (tone : Tone) : Nat := (tone.pictures + 1) * cyclesPerPicture

/-- A voice is in the upper half of its wave. -/
def isHigh (tone : Tone) (ratio : Float) : Bool :=
  let time := Float.ofNat tone.samples / Float.ofNat tone.sampleRate
  (Binary64.ofFloat (time * tone.hz * ratio)).fractionBelowHalf

/-- The halves in which the voices that are not muted stand. -/
def voices (tone : Tone) : List Bool :=
  (List.finRange soundChannels).filterMap fun channel =>
    if tone.config.muted[channel] then none else some (tone.isHigh ratios[channel])

/-- The sample of some voices together. -/
def mix (voices : List Bool) : UInt8 :=
  UInt8.ofNat (midpoint + amplitude * voices.count true - amplitude * voices.count false)

/-- The size in bytes of a full sound buffer. -/
def bufferSize (tone : Tone) : Nat := stereo.toNat * tone.bufferFrames

/-- Put the next sample into the sound buffer. -/
def makeSample (tone : Tone) : Except Fault Tone :=
  if tone.bufferSize < Word.longLimit then
    let sample := mix tone.voices
    .ok { tone with
      sound := (tone.sound.push sample).push sample
      samples := tone.samples + 1
      full := tone.bufferSize ≤ tone.sound.size + 2 }
  else .error .bufferOverflow

/-- The pixel of the pattern at a place. -/
def pixel (tone : Tone) (column row : Nat) : UInt32 :=
  if tone.config.hideBackground then 0xff000000
  else
    let shade := (UInt32.ofNat (column + tone.pictures) ^^^ UInt32.ofNat row) &&& 0xff
    let tint : UInt32 := if tone.pad.a then 0xffff0000 else 0xff000000
    tint ||| (shade <<< 8) ||| shade

/-- Look at the pad and draw the next picture. -/
def draw (tone : Tone) (pad : Option Pad) : Tone :=
  let seen := { tone with pad := pad.getD tone.pad }
  { seen with
    frame := Array.ofFn fun place : Fin (width * height) =>
      seen.pixel (place.val % width) (place.val / width)
    pictures := tone.pictures + 1 }

/-- The cycle up to which nothing is due. -/
def nextStop (tone : Tone) (target : Nat) : Nat := min (min tone.nextSample tone.nextPicture) target

/-- Move to a cycle and make the sample that is due there. -/
def moveTo (tone : Tone) (now : Nat) : Except Fault Tone :=
  if now = tone.nextSample then { tone with cycles := now }.makeSample
  else .ok { tone with cycles := now }

/-- Move on to the next sample, the next picture or the target, and do what is due there. -/
def advance (tone : Tone) (pad : Option Pad) (target : Nat) : Except Fault (Answer × Tone) :=
  let now := tone.nextStop target
  match tone.moveTo now with
  | .error fault => .error fault
  | .ok moved =>
    .ok (⟨now = tone.nextPicture, now = tone.nextSample ∧ moved.full, target ≤ now⟩,
      if now = tone.nextPicture then moved.draw pad else moved)

/-- Making a sample grows the sound by one stereo frame. -/
theorem makeSample_eq_ok {tone next : Tone} (made : tone.makeSample = .ok next) :
    next.bufferSize = tone.bufferSize ∧ next.sound.size = tone.sound.size + 2 ∧
      next.full = decide (next.bufferSize ≤ next.sound.size) := by
  unfold makeSample at made
  split at made
  · cases made
    exact ⟨rfl, by simp only [Array.size_push], by simp only [Array.size_push, bufferSize]; rfl⟩
  · cases made

/-- Without a reason to come back a sample was made and the sound buffer is not full yet. -/
theorem advance_isEmpty {tone next : Tone} {pad : Option Pad} {target : Nat} {answer : Answer}
    (moved : tone.advance pad target = .ok (answer, next)) (going : answer.isEmpty = true) :
    next.bufferSize = tone.bufferSize ∧ next.sound.size = tone.sound.size + 2 ∧
      next.sound.size < next.bufferSize := by
  unfold advance at moved
  cases stepped : tone.moveTo (tone.nextStop target) with
  | error fault => simp only [stepped, reduceCtorEq] at moved
  | ok sounded =>
    simp only [stepped, Except.ok.injEq, Prod.mk.injEq] at moved
    obtain ⟨rfl, rfl⟩ := moved
    simp only [Answer.isEmpty, Bool.not_eq_true', Bool.or_eq_false_iff,
      decide_eq_false_iff_not] at going
    obtain ⟨⟨noPicture, notFull⟩, notReached⟩ := going
    have due : tone.nextStop target = tone.nextSample := by unfold nextStop at *; omega
    rw [moveTo, if_pos due] at stepped
    obtain ⟨same, grown, full⟩ := makeSample_eq_ok stepped
    rw [if_neg noPicture]
    have room : ¬sounded.bufferSize ≤ sounded.sound.size := by
      intro filled
      exact notFull ⟨due, by rw [full, decide_eq_true filled]⟩
    exact ⟨same, grown, by omega⟩

/-- Move on until there is a reason to come back. -/
def runOn (tone : Tone) (pad : Option Pad) (target : Nat) : Except Fault (Answer × Tone) :=
  if target ≤ tone.cycles then .ok (⟨false, false, true⟩, tone)
  else
    match _ : tone.advance pad target with
    | .error fault => .error fault
    | .ok (answer, next) =>
      if _ : answer.isEmpty = true then next.runOn pad target else .ok (answer, next)
termination_by tone.bufferSize - tone.sound.size
decreasing_by
  have := advance_isEmpty ‹_› ‹_›
  omega

/-- A full sound buffer is emptied before more is put into it. -/
def emptied (tone : Tone) : Tone :=
  if tone.full then { tone with sound := #[], full := false } else tone

instance : Engine Tone where
  width := width
  height := height
  cycles := Tone.cycles
  frame := Tone.frame
  sound tone := .ofData tone.sound.toList
  configure config tone := { tone with config }
  run pad target tone := tone.emptied.runOn pad target

end Tone

end PacingHost
