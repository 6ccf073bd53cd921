import PacingHost.Error
import PacingHost.Journal.Notice
import PacingHost.Number.FixedPlaces
import PacingHost.Number.Shortest
import PacingHost.Screen.Swap
import PacingHost.Text.Quoted

/-! # Events

Everything the program reports while it runs, one constructor for each kind of report, with its
severity, the area it comes from and its wording. The notices of the host are events too, so a log
shows them between the others in the order in which they happened.
-/

namespace PacingHost

/-- Severities, the gravest first. -/
inductive Level where
  | error
  | warn
  | info
  | debug
  | trace
deriving DecidableEq, Repr

namespace Level

def text : Level → String
  | .error => "ERROR"
  | .warn => "WARN"
  | .info => "INFO"
  | .debug => "DEBUG"
  | .trace => "TRACE"

/-- The graver a level, the smaller its rank. -/
def rank : Level → Nat
  | .error => 1
  | .warn => 2
  | .info => 3
  | .debug => 4
  | .trace => 5

end Level

inductive Event where
  | notice (observed : Notice)
  -- sound
  | queueOpened (format : Format)
  | playerOpened (format : Format)
  | thresholdsSet (start max : Nat)
  | sinkReady (format : Format)
  | burstTruncated (fitting frames : Nat)
  | queueFull (queued max dropped : Nat)
  | playbackStarted (queued : Nat)
  | queueReset
  | underrun (wanted taken : Nat)
  -- screen
  | windowSized (width height : UInt32)
  | pictureShown (count : Nat)
  | swapSet (mode : Swap)
  | fullscreenSet (on : Bool)
  -- controls
  | unknownChannel (channel : Nat)
  -- host
  | hostBuilt (clock : UInt32) (width height : Nat) (format : Format)
  | invalidDelta (delta : Float)
  | passDone (delta : Float) (target pictures bursts : Nat)
  | syncToggled (disabled : Bool)
  | pauseToggled (paused : Bool)
  | deltaClamped (delta limit : Float)
  -- settings
  | settingsLoaded (path : String)
  | settingsAbsent (path : String)
  -- command line
  | startFailed (error : HostError)
  | windowKnown (width height : UInt32)
  | running
  | interrupted
  | stopped (seconds : Float) (pictures queued dropped started : Nat)

namespace Event

def level : Event → Level
  | .notice (.soundAdded ..) | .burstTruncated .. | .queueFull .. | .queueReset | .underrun ..
  | .pictureShown _ | .passDone .. => .trace
  | .queueOpened _ | .thresholdsSet .. | .playbackStarted _ | .windowSized .. | .swapSet _
  | .fullscreenSet _ | .unknownChannel _ | .syncToggled _ | .pauseToggled _ | .deltaClamped ..
  | .settingsAbsent _ => .debug
  | .notice _ | .playerOpened _ | .sinkReady _ | .hostBuilt .. | .settingsLoaded _
  | .windowKnown .. | .running | .interrupted | .stopped .. => .info
  | .invalidDelta _ => .warn
  | .startFailed _ => .error

/-- The part of the program an event comes from, as log filters name it. -/
def area : Event → String
  | .notice _ => "emuhost::hooks"
  | .queueOpened _ | .playerOpened _ | .underrun .. => "emuhost::audio::queue"
  | .thresholdsSet .. | .queueFull .. | .playbackStarted _ | .queueReset =>
    "emuhost::audio::hysteresis"
  | .sinkReady _ | .burstTruncated .. => "emuhost::audio::sink"
  | .windowSized .. | .pictureShown _ | .swapSet _ | .fullscreenSet _ => "emuhost::video"
  | .unknownChannel _ => "emuhost::input"
  | .hostBuilt .. | .invalidDelta _ | .passDone .. | .syncToggled _ | .pauseToggled _ =>
    "emuhost::host"
  | .deltaClamped .. => "emuhost::clock"
  | .settingsLoaded _ | .settingsAbsent _ => "emuhost::config::settings"
  | .startFailed _ | .windowKnown .. | .running | .interrupted | .stopped .. => "emuhost"

def message : Event → String
  | .notice (.soundAdded before after) => s!"Audio buffer added: {before} -> {after} bytes"
  | .notice (.soundReady queued) => s!"Audio buffer ready with {queued} bytes queued"
  | .notice .writeState => "Save state requested"
  | .notice .readState => "Load state requested"
  | .queueOpened format => s!"Opened software audio queue: {format.text}"
  | .playerOpened format => s!"Opened paced audio queue: {format.text}"
  | .thresholdsSet start max => s!"Audio thresholds: start={start} bytes, max={max} bytes"
  | .sinkReady format => s!"Audio sink ready: {format.text}"
  | .burstTruncated fitting frames => s!"Audio buffer truncated: {fitting} of {frames} frames fit"
  | .queueFull queued max dropped =>
    s!"Audio queue full ({queued} >= {max} bytes), dropping {dropped} bytes"
  | .playbackStarted queued => s!"Audio playback started with {queued} bytes queued"
  | .queueReset => "Audio queue reset"
  | .underrun wanted taken => s!"Audio underrun: wanted {wanted} bytes, had {taken}"
  | .windowSized width height => s!"Window size: {width.toNat}x{height.toNat}"
  | .pictureShown count => s!"Presented frame {count}"
  | .swapSet mode => s!"Swap interval: {mode.text}"
  | .fullscreenSet on => if on then "Fullscreen: true" else "Fullscreen: false"
  | .unknownChannel channel => s!"Ignoring toggle for unknown sound channel {channel}"
  | .hostBuilt clock width height format =>
    s!"Host initialized: {clock.toNat} cycles/s, {width}x{height} frame, audio {format.text}"
  | .invalidDelta delta => s!"Ignoring invalid run delta {Number.plainFloat delta}ms"
  | .passDone delta target pictures bursts =>
    s!"Ran {Number.fixedPlaces 3 delta}ms to cycle {target}: {pictures} frames, {bursts} audio buffers"
  | .syncToggled disabled => if disabled then "Sync disabled" else "Sync enabled"
  | .pauseToggled paused => if paused then "Paused" else "Resumed"
  | .deltaClamped delta limit =>
    s!"Clamping frame delta {Number.fixedPlaces 2 delta}ms to {Number.fixedPlaces 2 limit}ms"
  | .settingsLoaded path => s!"Loaded settings from {Text.quoted path}"
  | .settingsAbsent path => s!"No settings file at {Text.quoted path}, using defaults"
  | .startFailed error => s!"Failed to start host: {error.message}"
  | .windowKnown width height => s!"Headless window {width.toNat}x{height.toNat}"
  | .running => "Running. Press Ctrl+C to stop."
  | .interrupted => "Received Ctrl+C, stopping..."
  | .stopped seconds pictures queued dropped started =>
    s!"Stopped after {Number.fixedPlaces 1 seconds}s: {pictures} frames, " ++
      s!"{queued} audio buffers queued, {dropped} dropped, playback started {started} times"

/-- An event as a line of a log. -/
def line (event : Event) : String := event.level.text ++ " " ++ event.message

/-- An event as a line of a log with the time at which it happened; messages stand in a column. -/
def stampedLine (time : String) (event : Event) : String :=
  let margin := if event.level.text.length < 5 then " " else ""
  time ++ " " ++ margin ++ event.line

/-- The notice an observer gets, if the event is one. -/
def notice? : Event → Option Notice
  | .notice observed => some observed
  | _ => none

end Event

/-- The notices among some events, in order. -/
def notices (events : List Event) : List Notice := events.filterMap Event.notice?

theorem notices_append (first second : List Event) :
    notices (first ++ second) = notices first ++ notices second :=
  List.filterMap_append

end PacingHost
