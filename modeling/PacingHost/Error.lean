import PacingHost.Sound.Format

/-! # Errors

An error tells the caller why something was refused. Each constructor is a cause; the wording of
all of them is in the `message` functions. `reported` holds a text that came from outside.
-/

namespace PacingHost

/-- Why construction parameters cannot be used. -/
inductive SetupError where
  | zeroClock
  | zeroScale
  | silentSound (rate frames : UInt32)
  | tooManyFrames (frames : UInt32)
  | tooManySamples (samples : UInt32)
  | zeroStart
  | maxBelowStart (max start : UInt32)
  | startOverflow
  | maxOverflow
  | reported (text : String)
deriving DecidableEq, Repr

namespace SetupError

def message : SetupError → String
  | .zeroClock => "cycles_per_second must be non-zero"
  | .zeroScale => "render_scale must be non-zero"
  | .silentSound rate frames =>
    s!"audio needs a non-zero rate and buffer, got {rate.toNat} Hz / {frames.toNat} frames"
  | .tooManyFrames frames => s!"{frames.toNat} audio frames per buffer is too large"
  | .tooManySamples samples => s!"audio buffer of {samples.toNat} samples is too large"
  | .zeroStart => "audio start threshold must be at least one buffer"
  | .maxBelowStart max start =>
    s!"audio max threshold ({max.toNat} buffers) is below the start threshold ({start.toNat} buffers)"
  | .startOverflow => "audio start threshold overflows"
  | .maxOverflow => "audio max threshold overflows"
  | .reported text => text

end SetupError

/-- Why a device could not be opened. -/
inductive DeviceError where
  | emptyRequest (request : Request)
  | reported (text : String)
deriving DecidableEq, Repr

namespace DeviceError

def message : DeviceError → String
  | .emptyRequest request =>
    s!"cannot open device with {request.sampleRate.toNat} Hz and {request.frames.toNat} frames"
  | .reported text => text

end DeviceError

/-- Why a device's format cannot be driven. -/
inductive FormatError where
  | smallBuffer (format : Format)
  | reported (text : String)
deriving DecidableEq, Repr

namespace FormatError

def message : FormatError → String
  | .smallBuffer format => s!"device buffer too small: {format.text}"
  | .reported text => text

end FormatError

/-- Why a settings file could not be used. -/
inductive SettingsError where
  | access (path text : String)
  | parse (path text : String)
deriving DecidableEq, Repr

namespace SettingsError

def message : SettingsError → String
  | .access path text => s!"Failed to access config file '{path}': {text}"
  | .parse path text => s!"Failed to parse config file '{path}': {text}"

end SettingsError

/-- Everything the host can refuse. -/
inductive HostError where
  | device (cause : DeviceError)
  | noDevice
  | unsupportedFormat (cause : FormatError)
  | setup (cause : SetupError)
  | settings (cause : SettingsError)
  | system (text : String)
deriving DecidableEq, Repr

namespace HostError

def message : HostError → String
  | .device cause => "Audio device error: " ++ cause.message
  | .noDevice => "No audio output device available"
  | .unsupportedFormat cause => "Unsupported audio format: " ++ cause.message
  | .setup cause => "Invalid configuration: " ++ cause.message
  | .settings cause => cause.message
  | .system text => "IO error: " ++ text

/-- The error arose while sound output was set up. -/
def isSoundSetup : HostError → Bool
  | .device _ | .noDevice | .unsupportedFormat _ => true
  | .setup _ | .settings _ | .system _ => false

end HostError

end PacingHost
