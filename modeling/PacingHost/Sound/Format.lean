import PacingHost.Fault

/-! # Sound formats

A device plays unsigned 16-bit samples, little end first, interleaved by channel. Its format fixes
the sizes of a frame and of one device buffer, and how long a number of bytes plays.
-/

namespace PacingHost

/-- Channels of the sound an engine produces. -/
def stereo : UInt8 := 2

@[simp] theorem toNat_stereo : stereo.toNat = 2 := rfl

/-- Bytes of one sample on the device. -/
def sampleSize : Nat := 2

/-- Bytes of one stereo frame on the device. -/
def stereoFrame : Nat := sampleSize * stereo.toNat

@[simp] theorem stereoFrame_eq : stereoFrame = 4 := rfl

/-- The sample that plays as silence. -/
def silence : UInt16 := 0x8000

/-- What a caller asks a device for. -/
structure Request where
  sampleRate : UInt32
  /-- Frames in one device buffer. -/
  frames : UInt32
deriving DecidableEq, Repr

/-- What was agreed with a device, for as long as it is open. -/
structure Format where
  sampleRate : UInt32
  channels : UInt8
  /-- Bytes in one device buffer. -/
  bufferSize : UInt32
deriving DecidableEq, Repr

namespace Format

/-- Bytes of one frame. -/
def frameSize (format : Format) : Nat := sampleSize * format.channels.toNat

theorem frameSize_stereo {format : Format} (two : format.channels = stereo) :
    format.frameSize = stereoFrame := by
  rw [frameSize, two, stereoFrame]

/-- Whole frames in one device buffer. -/
def bufferFrames (format : Format) : Except Fault Nat :=
  if format.frameSize = 0 then .error .noChannels
  else .ok (format.bufferSize.toNat / format.frameSize)

theorem bufferFrames_eq_ok_iff (format : Format) (frames : Nat) :
    format.bufferFrames = .ok frames ↔
      format.channels ≠ 0 ∧ frames = format.bufferSize.toNat / format.frameSize := by
  have zero : format.frameSize = 0 ↔ format.channels = 0 := by
    rw [frameSize, sampleSize, ← UInt8.toNat_inj, UInt8.toNat_zero]
    omega
  unfold bufferFrames
  by_cases none : format.channels = 0
  · simp [none, zero.mpr none]
  · simp [none, mt zero.mp none, eq_comm]

/-- Bytes played in one second. -/
def bytesPerSecond (format : Format) : Nat := format.sampleRate.toNat * format.frameSize

/-- How long some bytes play, in milliseconds. -/
def milliseconds (format : Format) (bytes : UInt32) : Float :=
  Float.ofNat bytes.toNat * 1000.0 / Float.ofNat format.bytesPerSecond

/-- The format as messages name it. -/
def text (format : Format) : String :=
  s!"{format.sampleRate.toNat}Hz {format.channels.toNat}ch u16, {format.bufferSize.toNat} byte buffer"

end Format

end PacingHost
