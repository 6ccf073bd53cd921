import PacingHost.Journal.Event
import PacingHost.Number.Literal

/-! # Options

The command line of the program: options of its own, then at most one command with options of its
own. Options that hold for every command may stand on either side of it, and the later side wins.
Words are read from left to right. A value is looked at when the next option comes or when the words
end, so a word that nothing knows is reported before a bad value in front of it.
-/

namespace PacingHost

/-- What options are given to. -/
inductive Options.Scope where
  | program
  | run
  | config
  | help
deriving DecidableEq, Repr

/-- Why a command line was not taken, or what it asks for instead. -/
inductive UsageError where
  | unknownArgument (word : String)
  | invalidSubcommand (word : String)
  /-- A value is missing, or is none of those an option takes. -/
  | invalidValue (option : String)
  /-- A value does not read as the kind of an option. -/
  | valueValidation (option value : String)
  | tooManyValues (option value : String)
  | argumentConflict (option : String)
  | displayHelp (scope : Options.Scope)
  | displayVersion
deriving DecidableEq, Repr

structure RunOptions where
  seconds : Option Float := none
  frames : Option UInt32 := none
  tone : Float := 440.0
  pauseAt : Option Float := none
  native : Bool := false

inductive Command where
  | run (options : RunOptions)
  | config

/-- Without a command the program runs. -/
def Command.default : Command := .run {}

structure Options where
  command : Option Command := none
  config : Option String := none
  verbose : Nat := 0
  quiet : Bool := false
  log : Option String := none

namespace Options

inductive Flag where
  | config | verbose | quiet | log | help | version
  | seconds | frames | tone | pauseAt | native
deriving DecidableEq, Repr

namespace Flag

/-- The name of a flag after two dashes. -/
def name : Flag → String
  | .config => "config"
  | .verbose => "verbose"
  | .quiet => "quiet"
  | .log => "log"
  | .help => "help"
  | .version => "version"
  | .seconds => "seconds"
  | .frames => "frames"
  | .tone => "tone"
  | .pauseAt => "pause-at"
  | .native => "native"

/-- The letter of a flag after one dash. -/
def letter? : Flag → Option Char
  | .config => some 'c'
  | .verbose => some 'v'
  | .quiet => some 'q'
  | .help => some 'h'
  | .version => some 'V'
  | .seconds => some 's'
  | .frames => some 'f'
  | .log | .tone | .pauseAt | .native => none

def takesValue : Flag → Bool
  | .config | .log | .seconds | .frames | .tone | .pauseAt => true
  | .verbose | .quiet | .help | .version | .native => false

end Flag

/-- The flags that may stand where options are given to something, in the order of its help. The
flags of a command and those of the program are counted from one start, and the program has two
commands before its first flag. -/
def Scope.flags : Scope → List Flag
  | .program => [.config, .verbose, .quiet, .log, .help, .version]
  | .run => [.seconds, .frames, .config, .tone, .pauseAt, .verbose, .native, .quiet, .log, .help]
  | .config => [.config, .verbose, .quiet, .log, .help]
  | .help => []

def Scope.named? (scope : Scope) (name : String) : Option Flag :=
  scope.flags.find? fun flag => flag.name = name

def Scope.lettered? (scope : Scope) (letter : Char) : Option Flag :=
  scope.flags.find? fun flag => flag.letter? = some letter

/-- The options given in one scope so far. -/
structure Given where
  config : Option String := none
  verbose : Option Nat := none
  quiet : Bool := false
  log : Option String := none
  seconds : Option Float := none
  frames : Option UInt32 := none
  tone : Option Float := none
  pauseAt : Option Float := none
  native : Bool := false

/-- Repeating a flag counts no further than this. -/
def countLimit : Nat := 255

namespace Given

/-- An option that has been given already. -/
def has (given : Given) : Flag → Bool
  | .config => given.config.isSome
  | .quiet => given.quiet
  | .log => given.log.isSome
  | .seconds => given.seconds.isSome
  | .frames => given.frames.isSome
  | .tone => given.tone.isSome
  | .pauseAt => given.pauseAt.isSome
  | .native => given.native
  | .verbose | .help | .version => false

/-- The value of an option that is a float. -/
def floatOf (flag : Flag) (value : String) : Except UsageError Float :=
  match Number.readFloat? value.toList with
  | some x => .ok x
  | none => .error (.valueValidation flag.name value)

/-- The value of an option that is a word. -/
def wordOf (flag : Flag) (value : String) : Except UsageError UInt32 :=
  match Number.readWord? value.toList with
  | some word => .ok word
  | none => .error (.valueValidation flag.name value)

/-- Take a flag without a value. -/
def raise (scope : Scope) (given : Given) (flag : Flag) : Except UsageError Given :=
  if given.has flag then .error (.argumentConflict flag.name)
  else
    match flag with
    | .verbose => .ok { given with verbose := some (min (given.verbose.getD 0 + 1) countLimit) }
    | .quiet => .ok { given with quiet := true }
    | .native => .ok { given with native := true }
    | .help => .error (.displayHelp scope)
    | .version => .error .displayVersion
    | .config | .log | .seconds | .frames | .tone | .pauseAt => .error (.invalidValue flag.name)

/-- Take an option with its value. -/
def accept (given : Given) (flag : Flag) (value : String) : Except UsageError Given :=
  if given.has flag then .error (.argumentConflict flag.name)
  else
    match flag with
    | .config =>
      if value.isEmpty then .error (.invalidValue flag.name)
      else .ok { given with config := some value }
    | .log => .ok { given with log := some value }
    | .seconds => do return { given with seconds := some (← floatOf flag value) }
    | .frames => do return { given with frames := some (← wordOf flag value) }
    | .tone => do return { given with tone := some (← floatOf flag value) }
    | .pauseAt => do return { given with pauseAt := some (← floatOf flag value) }
    | .verbose | .quiet | .help | .version | .native => .error (.tooManyValues flag.name value)

end Given

/-- An option that has been read but not taken yet. -/
inductive Pending where
  | nothing
  /-- The next word is the value of an option. -/
  | waiting (flag : Flag)
  | held (flag : Flag) (value : String)
deriving DecidableEq, Repr

/-- Take the option that is pending. -/
def settle (given : Given) : Pending → Except UsageError Given
  | .nothing => .ok given
  | .waiting flag => .error (.invalidValue flag.name)
  | .held flag value => given.accept flag value

/-- A flag whose value, if it takes one, has yet to come. -/
def announce (scope : Scope) (given : Given) (pending : Pending) (flag : Flag) :
    Except UsageError (Given × Pending) := do
  let settled ← settle given pending
  if flag.takesValue then return (settled, .waiting flag)
  else return (← Given.raise scope settled flag, .nothing)

/-- A flag with its value in the same word. -/
def attach (given : Given) (pending : Pending) (flag : Flag) (value : String) :
    Except UsageError (Given × Pending) := do
  let settled ← settle given pending
  return (← settled.accept flag value, .nothing)

/-- The letters of a word after one dash. The first that takes a value takes the rest of the word,
less an equals sign. -/
def readLetters (scope : Scope) (given : Given) (pending : Pending) :
    List Char → Except UsageError (Given × Pending)
  | [] => .ok (given, pending)
  | letter :: rest =>
    match scope.lettered? letter with
    | none => .error (.unknownArgument ("-" ++ String.singleton letter))
    | some flag =>
      if flag.takesValue && !rest.isEmpty then
        let value := match rest with
          | '=' :: value => value
          | value => value
        attach given pending flag (String.ofList value)
      else do
        let (given, pending) ← announce scope given pending flag
        readLetters scope given pending rest

/-- A word after two dashes, with or without an equals sign and a value. -/
def readName (scope : Scope) (given : Given) (pending : Pending) (word : List Char) :
    Except UsageError (Given × Pending) :=
  let name := String.ofList (word.takeWhile (· ≠ '='))
  let value := word.dropWhile (· ≠ '=')
  match scope.named? name, value with
  | none, _ => .error (.unknownArgument ("--" ++ name))
  | some flag, [] => announce scope given pending flag
  | some flag, _ :: value =>
    if flag.takesValue then attach given pending flag (String.ofList value)
    else .error (.tooManyValues flag.name (String.ofList value))

/-- What was given on the whole line. -/
structure Line where
  program : Given
  command : Option (Scope × Given) := none

/-- Words that ask for help on a command. -/
def readHelp : List String → UsageError
  | [] => .displayHelp .program
  | ["help"] => .displayHelp .help
  | ["run"] => .displayHelp .run
  | ["config"] => .displayHelp .config
  | "run" :: word :: _ | "config" :: word :: _ | "help" :: word :: _ | word :: _ =>
    .invalidSubcommand word

/-- A word that is neither an option nor a value; `escaped` tells that it stands behind two
dashes. -/
def refuse (scope : Scope) (escaped : Bool) (word : String) : UsageError :=
  if scope ≠ .program then .unknownArgument word
  else if escaped && ["run", "config", "help"].contains word then .unknownArgument word
  else .invalidSubcommand word

/-- The words of one scope. Behind two dashes every word would be a value of its own. -/
def readWords (scope : Scope) (given : Given) (pending : Pending) (escaped : Bool) :
    List String → Except UsageError Line
  | [] => do return { program := ← settle given pending }
  | word :: rest =>
    let waits := match pending with
      | .waiting _ => true
      | _ => false
    let enter (inner : Scope) (read : Except UsageError Line) : Except UsageError Line := do
      let line ← read
      return { program := ← settle given pending, command := some (inner, line.program) }
    if escaped then .error (refuse scope true word)
    else if scope = .program && !waits && word = "run" then
      enter .run (readWords .run {} .nothing false rest)
    else if scope = .program && !waits && word = "config" then
      enter .config (readWords .config {} .nothing false rest)
    else if scope = .program && !waits && word = "help" then .error (readHelp rest)
    else
      match word.toList with
      | ['-', '-'] => readWords scope given pending true rest
      | '-' :: '-' :: name => do
        let (given, pending) ← readName scope given pending name
        readWords scope given pending false rest
      | '-' :: letter :: letters => do
        let (given, pending) ← readLetters scope given pending (letter :: letters)
        readWords scope given pending false rest
      | _ =>
        match pending with
        | .waiting flag => readWords scope given (.held flag word) false rest
        | _ => .error (refuse scope false word)

/-- The options of a line. -/
def ofLine (line : Line) : Options :=
  let inner := (line.command.map Prod.snd).getD {}
  let command := line.command.map fun (scope, given) =>
    if scope = .config then Command.config
    else .run {
      seconds := given.seconds
      frames := given.frames
      tone := given.tone.getD 440.0
      pauseAt := given.pauseAt
      native := given.native }
  { command
    config := inner.config <|> line.program.config
    verbose := (inner.verbose <|> line.program.verbose).getD 0
    quiet := inner.quiet || line.program.quiet
    log := inner.log <|> line.program.log }

/-- Read a command line, without the name of the program. -/
def ofWords (words : List String) : Except UsageError Options := do
  return ofLine (← readWords .program {} .nothing false words)

/-- The level of the log that the options ask for; silence wins. -/
def level (options : Options) : Level :=
  if options.quiet then .error
  else
    match options.verbose with
    | 0 => .info
    | 1 => .debug
    | _ => .trace

/-- The options leave the level of the log to the settings. -/
def leavesLevel (options : Options) : Bool := options.verbose = 0 && !options.quiet

end Options

end PacingHost
