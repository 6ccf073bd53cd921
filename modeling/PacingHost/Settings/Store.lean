import PacingHost.Files.Tree
import PacingHost.Journal.Logged
import PacingHost.Settings.Settings

/-! # Settings files

Loading settings from a file and saving them to one. The standard file is looked for in the user's
configuration directory; when it is not there the defaults hold.
-/

namespace PacingHost

/-- What the settings of a user depend on. -/
structure Environment where
  configHome : Option String := none
  home : Option String := none
  /-- The home directory of the account, for users that name none. -/
  accountHome : Option String := none
deriving DecidableEq, Repr

namespace Environment

/-- The directory in which the user's programs keep their settings. -/
def configDirectory (environment : Environment) : Option String :=
  match environment.configHome.filter Path.isAbsolute with
  | some directory => some directory
  | none =>
    let home := (environment.home.filter fun home => !home.isEmpty) <|> environment.accountHome
    home.map fun home => Path.join home ".config"

/-- The standard settings file. -/
def settingsPath (environment : Environment) : Option String :=
  environment.configDirectory.map fun directory =>
    Path.join (Path.join directory "emuhost") "config.toml"

end Environment

namespace Settings

/-- The text of a file, if it is one. -/
def decode (content : List UInt8) : Option String := String.fromUTF8? ⟨content.toArray⟩

/-- Read settings from what a file holds. -/
def ofContent (path : String) (content : Except FileError (List UInt8)) :
    Except SettingsError Settings :=
  match content with
  | .error cause => .error (.access path cause.message)
  | .ok data =>
    match decode data with
    | none => .error (.access path FileError.notText.message)
    | some text =>
      match parse text with
      | none => .error (.parse path "TOML parse error")
      | some settings => .ok settings

/-- Load settings from a file. -/
def load (tree : FileTree) (path : String) : Report SettingsError Settings := do
  let settings ← Report.ofExcept (ofContent path (tree.read path))
  Report.tell (.settingsLoaded path)
  pure settings

/-- Load settings from the standard file, or take the defaults. -/
def loadStandard (tree : FileTree) (environment : Environment) : Report SettingsError Settings :=
  match environment.settingsPath with
  | none => pure {}
  | some path =>
    if tree.isThere path then load tree path
    else do
      Report.tell (.settingsAbsent path)
      pure {}

/-- Save settings to a file, and make the directories it lies in. -/
def save (tree : FileTree) (path : String) (settings : Settings) :
    FileTree × Except SettingsError Unit :=
  let (written, failed) := tree.writeDeep path settings.render.toUTF8.toList
  (written, match failed with
    | some (place, cause) => .error (.access place cause.message)
    | none => .ok ())

/-- A settings file with every setting at its default. -/
def sample : String :=
  "# emuhost configuration\n\n" ++
  "# Output sample rate in Hz (default: 44100)\naudio_frequency = 44100\n\n" ++
  "# Audio frames per device buffer (default: 2048)\naudio_frames = 2048\n\n" ++
  "# Emulated clock rate in cycles per second (default: 4194304)\n" ++
  "cycles_per_second = 4194304\n\n" ++
  "# Window scale factor (default: 4)\nrender_scale = 4\n\n" ++
  "# Playback starts once this many device buffers are queued (default: 2)\n" ++
  "audio_start_buffers = 2\n\n" ++
  "# New audio is dropped while this many device buffers are queued (default: 5)\n" ++
  "audio_max_buffers = 5\n\n" ++
  "# Log level: trace, debug, info, warn, error (default: info)\nlog_level = \"info\"\n\n" ++
  "# Log file path (empty = log to stderr)\nlog_file = \"\"\n"

end Settings

end PacingHost
