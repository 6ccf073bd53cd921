import PacingHost.CommandLine.Program
import Std.Time.Format

/-! # The command line

The program at a real console: files of the system, a real clock, and standard output for the log
unless a file is named.
-/

namespace PacingHost

/-- An error of the system as the program names it. -/
def fileErrorOf : IO.Error → FileError
  | .noFileOrDirectory .. => .missing
  | .inappropriateType _ code details | .permissionDenied _ code details
  | .resourceExhausted _ code details | .alreadyExists _ code details
  | .invalidArgument _ code details =>
    if code = 20 then .notDirectory
    else if code = 21 then .isDirectory
    else if code = 36 then .nameTooLong
    else .reported s!"{details} (os error {code.toNat})"
  | cause => .reported (toString cause)

/-- Try to do something with a file. -/
def attempt {α : Type} (action : IO α) : IO (Except FileError α) := do
  try return .ok (← action)
  catch cause => return .error (fileErrorOf cause)

/-- The time of day as logs show it. -/
def timeStamp : IO String := do
  let moment := Std.Time.DateTime.ofTimestamp (← Std.Time.Timestamp.now) .UTC
  return moment.format "uuuu-MM-dd'T'HH:mm:ss.SSSSSS'Z'"

/-- The console of the system. -/
def systemConsole (log : IO.Ref (Option IO.FS.Handle)) : Console IO where
  environment := do
    return { configHome := ← IO.getEnv "XDG_CONFIG_HOME", home := ← IO.getEnv "HOME" }
  readFile path := attempt do
    return (← IO.FS.readBinFile path).toList
  isThere path := do
    match ← attempt (IO.FS.Handle.mk path .read) with
    | .ok _ => return true
    | .error .missing | .error .notDirectory | .error .nameTooLong => return false
    | .error _ => return true
  print text := IO.print text
  complain text := IO.eprint text
  openLog path := attempt do
    log.set (some (← IO.FS.Handle.mk path .write))
  log event := do
    let line := event.stampedLine (← timeStamp)
    match ← log.get with
    | some file =>
      file.putStrLn line
      file.flush
    | none => IO.println line
  now := return Float.ofNat (← IO.monoNanosNow) / 1000000.0
  sleep rest := IO.sleep (UInt32.ofNat ((rest.nanos + 999999) / 1000000))
  interrupted := IO.checkCanceled

end PacingHost

def main (words : List String) : IO UInt32 := do
  let log ← IO.mkRef none
  return (← PacingHost.Program.execute (PacingHost.systemConsole log) words).code
