import PacingHost.CommandLine.LogFilter
import PacingHost.CommandLine.Session
import PacingHost.CommandLine.Usage
import PacingHost.Settings.Store

/-! # The program

What the program does with the words of its command line, for any console that lets it read files,
write text and wait. Settings are loaded first, then the log is set up, and only then does a command
begin, so whatever happens before is not in the log.
-/

namespace PacingHost

/-- What the program needs of its surroundings. -/
structure Console (m : Type → Type) where
  environment : m Environment
  readFile : String → m (Except FileError (List UInt8))
  isThere : String → m Bool
  print : String → m Unit
  /-- Write to where errors go. -/
  complain : String → m Unit
  /-- Empty a file, or make it, and write the log to it from now on. -/
  openLog : String → m (Except FileError Unit)
  log : Event → m Unit
  /-- The reading of a clock that never goes back, in milliseconds. -/
  now : m Float
  sleep : Duration → m Unit
  /-- The user wants the program to stop. -/
  interrupted : m Bool

/-- How the program ended. -/
inductive Ending where
  | done
  | failed
  | misused
  | faulted
deriving DecidableEq, Repr

/-- The exit code of an ending. -/
def Ending.code : Ending → UInt32
  | .done => 0
  | .failed => 1
  | .misused => 2
  | .faulted => 101

/-- Why a command did not come to its end. -/
inductive Stop where
  | error (message : String) (cause : Option String)
  | fault (fault : Fault)
deriving DecidableEq, Repr

namespace Stop

/-- An error with the cause below it. -/
def ofSettings (error : SettingsError) : Stop :=
  match error with
  | .access _ cause | .parse _ cause => .error error.message (some cause)

def text : Stop → String
  | .error message none => s!"Error: {message}\n"
  | .error message (some cause) => s!"Error: {message}\n\nCaused by:\n    {cause}\n"
  | .fault _ => "\nError: the program has failed\n"

def ending : Stop → Ending
  | .error .. => .failed
  | .fault _ => .faulted

end Stop

namespace Program

variable {m : Type → Type} [Monad m]

/-- Load the settings file that is named, or the standard one if it is there. -/
def loadSettings (console : Console m) (options : Options) : m (Except SettingsError Settings) := do
  match options.config with
  | some path => return Settings.ofContent path (← console.readFile path)
  | none =>
    match (← console.environment).settingsPath with
    | none => return .ok {}
    | some path =>
      if ← console.isThere path then return Settings.ofContent path (← console.readFile path)
      else return .ok {}

/-- The text of the log filter: the level that the options ask for, or what the settings say. -/
def filterText (options : Options) (settings : Settings) : String :=
  if options.leavesLevel then settings.logLevel else options.level.text

/-- The file that the log goes to. -/
def logFile (options : Options) (settings : Settings) : Option String :=
  options.log <|> (if settings.logFile.isEmpty then none else some settings.logFile)

/-- Read the log filter and open the log. -/
def openLog (console : Console m) (options : Options) (settings : Settings) :
    m (Except Stop LogFilter) := do
  let reading := LogFilter.ofText (filterText options settings)
  for (piece, problem) in reading.problems do
    console.complain s!"ignoring `{piece}`: {problem.message}\n"
  match reading.result, logFile options settings with
  | .error fault, _ => return .error (.fault fault)
  | .ok filter, none => return .ok filter
  | .ok filter, some path =>
    match ← console.openLog path with
    | .ok _ => return .ok filter
    | .error cause =>
      return .error (.error s!"Failed to create log file '{path}'" (some cause.message))

/-- Write the events that the filter lets through. -/
def report (console : Console m) (filter : LogFilter) (events : List Event) : m Unit :=
  (events.filter filter.admits).forM console.log

/-- Rest, and let the player play. -/
def restFor (console : Console m) (filter : LogFilter) (session : Session) :
    List Duration → m Session
  | [] => return session
  | slice :: slices => do
    console.sleep slice
    let played := session.play (← console.now)
    report console filter played.events
    restFor console filter played.value slices

/-- One turn of a session; the result says whether there is another one. -/
def turn (console : Console m) (filter : LogFilter) (session : Session) :
    m (Except Fault (Bool × Session)) := do
  if ← console.interrupted then
    report console filter [.interrupted]
    return .ok (false, session)
  let now ← console.now
  if session.isOver now then return .ok (false, session)
  let entered := session.enter now
  report console filter entered.events
  let (goesOn, session) := entered.value
  let session := session.count entered.events
  if !goesOn then return .ok (false, session)
  let advanced := session.advance (← console.now)
  report console filter (Report.events advanced)
  match Report.result advanced with
  | .error fault => return .error fault
  | .ok next =>
    let session := next.count (Report.events advanced)
    match session.rest (← console.now) with
    | .error fault => return .error fault
    | .ok rest => return .ok (true, ← restFor console filter session (Session.slices rest))

/-- No session has more turns than this. -/
def mostTurns : Nat := 1000000000000000000

/-- The turns of a session, at most so many. -/
def turns (console : Console m) (filter : LogFilter) :
    Nat → Session → m (Except Fault Session)
  | 0, session => return .ok session
  | count + 1, session => do
    match ← turn console filter session with
    | .error fault => return .error fault
    | .ok (false, session) => return .ok session
    | .ok (true, session) => turns console filter count session

/-- Run the tone engine. -/
def run (console : Console m) (filter : LogFilter) (settings : Settings) (options : RunOptions) :
    m (Except Stop Unit) := do
  if options.native then
    return .error (.error "native audio requires building with the \"cpal\" feature" none)
  let standard := settings.toSetup
  let setup := { standard with audioFrames := options.frames.getD standard.audioFrames }
  let started := Session.start setup options (← console.now)
  report console filter (Report.events started)
  match Report.result started with
  | .error (.fault fault) => return .error (.fault fault)
  | .error (.error error) =>
    report console filter [.startFailed error]
    return .error (.error error.message none)
  | .ok session =>
    match ← turns console filter mostTurns session with
    | .error fault => return .error (.fault fault)
    | .ok session =>
      report console filter [session.summary (← console.now)]
      return .ok ()

/-- Carry out what the options ask for. -/
def perform (console : Console m) (options : Options) : m (Except Stop Unit) := do
  match ← loadSettings console options with
  | .error error => return .error (.ofSettings error)
  | .ok settings =>
    match ← openLog console options settings with
    | .error stop => return .error stop
    | .ok filter =>
      match options.command.getD .default with
      | .config =>
        console.print Settings.sample
        return .ok ()
      | .run runOptions => run console filter settings runOptions

/-- The program on the words of a command line. -/
def execute (console : Console m) (words : List String) : m Ending := do
  match Options.ofWords words with
  | .error (.displayHelp scope) =>
    console.print scope.explain
    return .done
  | .error .displayVersion =>
    console.print versionLine
    return .done
  | .error error =>
    console.complain s!"error: {error.message}\n\nUsage: {Options.Scope.program.usage}\n"
    return .misused
  | .ok options =>
    match ← perform console options with
    | .ok _ => return .done
    | .error stop =>
      console.complain stop.text
      return stop.ending

end Program

end PacingHost
