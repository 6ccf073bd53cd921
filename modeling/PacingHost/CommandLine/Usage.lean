import PacingHost.CommandLine.Options

/-! # Usage

What the program tells about its command line: the help on every command, from the tables of the
flags, and the wording of what it did not take.
-/

namespace PacingHost

def programName : String := "emuhost"

def version : String := "0.1.0"

/-- The line that names the version. -/
def versionLine : String := s!"{programName} {version}\n"

namespace Options

/-- What a flag does, in a few words. -/
def Flag.summary : Flag → String
  | .config => "Settings file (defaults to the platform config directory)"
  | .verbose => "Verbose output (can be repeated for more verbosity)"
  | .quiet => "Quiet mode - only show errors"
  | .log => "Log output to file"
  | .help => "Print help"
  | .version => "Print version"
  | .seconds => "Stop after this many seconds (runs until Ctrl+C if omitted)"
  | .frames => "Audio frames per device buffer, overriding the settings file"
  | .tone => "Tone frequency in Hz [default: 440]"
  | .pauseAt => "Pause after this many seconds, then resume one second later"
  | .native => "Use the native audio device instead of the paced software sink"

/-- The name of a flag's value. -/
def Flag.valueName (flag : Flag) : String :=
  String.ofList (flag.name.toList.map fun c => if c = '-' then '_' else c.toUpper)

/-- A flag as it is written on a command line; dots follow one that counts. -/
def Flag.spelling (flag : Flag) : String :=
  let short := match flag.letter? with
    | some letter => "-" ++ String.singleton letter ++ ", "
    | none => "    "
  let value := if flag.takesValue then " <" ++ flag.valueName ++ ">"
    else if flag = .verbose then "..."
    else ""
  short ++ "--" ++ flag.name ++ value

def Scope.summary : Scope → String
  | .program =>
    "Real-time pacing host for cycle-stepped emulators - audio queue hysteresis and run-loop timing"
  | .run => "Run the test tone emulator through the host"
  | .config => "Print a sample settings file"
  | .help => "Print this message or the help of the given subcommand(s)"

def Scope.usage : Scope → String
  | .program => s!"{programName} [OPTIONS] [COMMAND]"
  | .run => s!"{programName} run [OPTIONS]"
  | .config => s!"{programName} config [OPTIONS]"
  | .help => s!"{programName} help [COMMAND]..."

/-- The words that may follow the options of a scope. -/
def Scope.wordHelp : Scope → String
  | .program =>
    s!"Commands:\n  run     {Scope.run.summary}\n  config  {Scope.config.summary}\n" ++
      s!"  help    {Scope.help.summary}\n\n"
  | .run | .config => ""
  | .help => "Arguments:\n  [COMMAND]...  Print help for the subcommand(s)\n"

/-- Spaces that make a text so many characters long. -/
def padding (width : Nat) (text : String) : String :=
  String.ofList (List.replicate (width - text.length) ' ')

/-- The flags of a scope, one a line. -/
def Scope.flagHelp (scope : Scope) : String :=
  let width := (scope.flags.map fun flag => flag.spelling.length).foldl max 0
  let line (flag : Flag) : String :=
    "  " ++ flag.spelling ++ padding width flag.spelling ++ "  " ++ flag.summary ++ "\n"
  if scope.flags.isEmpty then "" else "Options:\n" ++ String.join (scope.flags.map line)

/-- The help on the program or on a command. -/
def Scope.explain (scope : Scope) : String :=
  s!"{scope.summary}\n\nUsage: {scope.usage}\n\n{scope.wordHelp}{scope.flagHelp}"

end Options

/-- What is wrong with a command line. -/
def UsageError.message : UsageError → String
  | .unknownArgument word => s!"unexpected argument '{word}' found"
  | .invalidSubcommand word => s!"unrecognized subcommand '{word}'"
  | .invalidValue option => s!"a value is required for '--{option}'"
  | .valueValidation option value => s!"invalid value '{value}' for '--{option}'"
  | .tooManyValues option value => s!"unexpected value '{value}' for '--{option}' found"
  | .argumentConflict option => s!"the argument '--{option}' cannot be used multiple times"
  | .displayHelp scope => scope.explain
  | .displayVersion => versionLine

end PacingHost
