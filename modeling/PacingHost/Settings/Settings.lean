import PacingHost.Setup
import PacingHost.Toml.Document
import PacingHost.Toml.Quoting

/-! # Settings

The settings of a user, kept in a file as one `key = value` line for each field. A file may leave
fields out and may hold keys that are not settings; what it says lies over the defaults.
-/

namespace PacingHost

structure Settings where
  audioFrequency : UInt32 := 44100
  audioFrames : UInt32 := 2048
  cyclesPerSecond : UInt32 := 4194304
  renderScale : UInt32 := 4
  startBuffers : UInt32 := 2
  maxBuffers : UInt32 := 5
  logLevel : String := "info"
  /-- The file a log goes to, if it is not empty. -/
  logFile : String := ""
deriving DecidableEq, Repr

/-- The host that some settings ask for. -/
def Settings.toSetup (settings : Settings) : Setup where
  audioFrequency := settings.audioFrequency
  audioFrames := settings.audioFrames
  cyclesPerSecond := settings.cyclesPerSecond
  renderScale := settings.renderScale
  thresholds := ⟨settings.startBuffers, settings.maxBuffers⟩

/-- The settings that are numbers. -/
inductive WordField where
  | audioFrequency
  | audioFrames
  | cyclesPerSecond
  | renderScale
  | startBuffers
  | maxBuffers
deriving DecidableEq, Repr

namespace WordField

def name : WordField → String
  | .audioFrequency => "audio_frequency"
  | .audioFrames => "audio_frames"
  | .cyclesPerSecond => "cycles_per_second"
  | .renderScale => "render_scale"
  | .startBuffers => "audio_start_buffers"
  | .maxBuffers => "audio_max_buffers"

def get (settings : Settings) : WordField → UInt32
  | .audioFrequency => settings.audioFrequency
  | .audioFrames => settings.audioFrames
  | .cyclesPerSecond => settings.cyclesPerSecond
  | .renderScale => settings.renderScale
  | .startBuffers => settings.startBuffers
  | .maxBuffers => settings.maxBuffers

def set (settings : Settings) (value : UInt32) : WordField → Settings
  | .audioFrequency => { settings with audioFrequency := value }
  | .audioFrames => { settings with audioFrames := value }
  | .cyclesPerSecond => { settings with cyclesPerSecond := value }
  | .renderScale => { settings with renderScale := value }
  | .startBuffers => { settings with startBuffers := value }
  | .maxBuffers => { settings with maxBuffers := value }

end WordField

/-- The settings that are texts. -/
inductive TextField where
  | logLevel
  | logFile
deriving DecidableEq, Repr

namespace TextField

def name : TextField → String
  | .logLevel => "log_level"
  | .logFile => "log_file"

def get (settings : Settings) : TextField → String
  | .logLevel => settings.logLevel
  | .logFile => settings.logFile

def set (settings : Settings) (value : String) : TextField → Settings
  | .logLevel => { settings with logLevel := value }
  | .logFile => { settings with logFile := value }

end TextField

inductive Field where
  | word (field : WordField)
  | text (field : TextField)
deriving DecidableEq, Repr

namespace Field

/-- All fields, in the order in which they are written. -/
def all : List Field :=
  [.word .audioFrequency, .word .audioFrames, .word .cyclesPerSecond, .word .renderScale,
    .word .startBuffers, .word .maxBuffers, .text .logLevel, .text .logFile]

def name : Field → String
  | .word field => field.name
  | .text field => field.name

def ofName? (name : String) : Option Field := all.find? fun field => field.name = name

theorem ofName?_name (field : Field) : ofName? field.name = some field := by
  rcases field with field | field <;> cases field <;> decide

/-- Set a field to a value of its kind; numbers have to fit 32 bits. -/
def set (settings : Settings) : Field → Toml.Value → Option Settings
  | .word field, .integer value =>
    if 0 ≤ value ∧ value.toNat < Word.limit then
      some (field.set settings (UInt32.ofNat value.toNat))
    else none
  | .text field, .string content => some (field.set settings content)
  | _, _ => none

/-- The value of a field as it is written. -/
def valueText (settings : Settings) : Field → List Char
  | .word field => Nat.toDigits 10 (field.get settings).toNat
  | .text field => Toml.quote (field.get settings).toList

/-- The line of a field. -/
def line (settings : Settings) (field : Field) : List Char :=
  field.name.toList ++ [' ', '=', ' '] ++ field.valueText settings ++ ['\n']

end Field

namespace Settings

/-- Lay one entry of a file over some settings. -/
def overlay (settings : Settings) (entry : String × Toml.Value) : Option Settings :=
  match Field.ofName? entry.1 with
  | some field => field.set settings entry.2
  | none => some settings

/-- Lay the entries of a file over the defaults. -/
def ofEntries (entries : Toml.Entries) : Option Settings := entries.foldlM overlay {}

/-- Read settings from the text of a file. -/
def parse (text : String) : Option Settings := (Toml.parse text.toList).bind ofEntries

/-- The text of a file that holds some settings. -/
def render (settings : Settings) : String :=
  String.ofList (Field.all.flatMap (Field.line settings))

example : parse "render_scale = 2 # twice" = some { renderScale := 2 } := by decide +kernel

end Settings

end PacingHost
