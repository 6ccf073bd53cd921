import PacingHost.CommandLine.Program

/-! # Rehearsals

A rehearsal carries the program out without an operating system: its files are a tree, its clock
goes on by exactly the time that the program rests, its output is kept, and nobody interrupts it.
-/

namespace PacingHost

structure Rehearsal where
  tree : FileTree := {}
  environment : Environment := {}
  /-- The time that has passed. -/
  clock : Duration := ⟨0⟩
  output : String := ""
  complaints : String := ""
  /-- The file that the log goes to, if it does not go to the output. -/
  logPath : Option String := none
deriving DecidableEq, Repr

namespace Rehearsal

/-- Milliseconds that have passed. -/
def now (rehearsal : Rehearsal) : Float := Float.ofNat rehearsal.clock.nanos / 1000000.0

def print (text : String) (rehearsal : Rehearsal) : Rehearsal :=
  { rehearsal with output := rehearsal.output ++ text }

/-- Write a line of the log; a file that is gone takes no more lines. -/
def log (event : Event) (rehearsal : Rehearsal) : Rehearsal :=
  let line := event.line ++ "\n"
  match rehearsal.logPath with
  | none => rehearsal.print line
  | some path =>
    match rehearsal.tree.append path line.toUTF8.toList with
    | .ok tree => { rehearsal with tree }
    | .error _ => rehearsal

def openLog (path : String) (rehearsal : Rehearsal) : Except FileError Unit × Rehearsal :=
  match rehearsal.tree.write path [] with
  | .ok tree => (.ok (), { rehearsal with tree, logPath := some path })
  | .error cause => (.error cause, rehearsal)

def sleep (rest : Duration) (rehearsal : Rehearsal) : Rehearsal :=
  { rehearsal with clock := ⟨rehearsal.clock.nanos + rest.nanos⟩ }

/-- The console of a rehearsal. -/
def console : Console (StateM Rehearsal) where
  environment := return (← get).environment
  readFile path := return (← get).tree.read path
  isThere path := return (← get).tree.isThere path
  print text := modify (print text)
  complain text := modify fun rehearsal =>
    { rehearsal with complaints := rehearsal.complaints ++ text }
  openLog path := modifyGet (openLog path)
  log event := modify (log event)
  now := return (← get).now
  sleep rest := modify (sleep rest)
  interrupted := pure false

/-- Carry the program out. -/
def perform (rehearsal : Rehearsal) (words : List String) : Ending × Rehearsal :=
  (Program.execute console words).run rehearsal

end Rehearsal

end PacingHost
