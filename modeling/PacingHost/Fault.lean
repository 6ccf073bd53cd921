/-! # Faults

A fault ends a call for good: the host was asked for something that has no answer, and the state it
was in is not used again. Faults differ from errors, which are answers to the caller.
-/

namespace PacingHost

inductive Fault where
  /-- A format without channels has frames of no size. -/
  | noChannels
  /-- More bytes were asked for than the staging buffer holds. -/
  | stagingOverrun (wanted capacity : Nat)
  /-- A picture of that many pixels cannot be counted in 64 bits. -/
  | pixelOverflow
  /-- A sound buffer of that many bytes cannot be counted in 64 bits. -/
  | bufferOverflow
  /-- A duration of that many seconds cannot be held in 64 bits. -/
  | durationOverflow
  /-- An engine gave as many answers as there was patience for, and did not reach its target. -/
  | runaway
  /-- A text was to be cut inside a character. -/
  | splitCharacter
deriving DecidableEq, Repr

end PacingHost
