import PacingHost.Fault
import PacingHost.Journal.Event
import PacingHost.Number.Literal
import PacingHost.Pattern.Pattern
import PacingHost.Text.Cut

/-! # Log filters

A log filter says which events go to a log. Its text holds directives between commas. A directive
is a level, which holds for all events, or a target with a level, which holds for the areas whose
names begin with the target; a target alone lets everything through. Brackets behind a target ask
for a span, or for a field, whose value may be given as a pattern. The most special directive that
fits an event decides, and of two for the same target the later one.
`admits_eq_false_of_none_fits` says that an event which no directive fits stays out.
-/

namespace PacingHost

/-- What one piece of a filter lets through. -/
structure Directive where
  /-- The directive is for areas whose names begin with this. -/
  target : Option String := none
  /-- The directive is for events that carry a field of this name. -/
  field : Option String := none
  /-- The directive is for what happens inside a span or with a value of a field. -/
  confined : Bool := false
  /-- The least grave level that is let through; without one there is none. -/
  level : Option Level := some .trace
deriving DecidableEq, Repr

namespace Directive

/-- The only field of an event. -/
def messageField : String := "message"

/-- A directive that is for an event. Events happen outside all spans. -/
def fits (directive : Directive) (event : Event) : Bool :=
  let named := directive.target.all fun target => target.toList.isPrefixOf event.area.toList
  !directive.confined && named && directive.field.all (· = messageField)

/-- The more special a directive, the greater its weight: a longer target, then a field. -/
def weight (directive : Directive) : Nat :=
  2 * (match directive.target with
    | some target => target.utf8ByteSize + 1
    | none => 0) + (if directive.field.isSome then 1 else 0)

def admits (directive : Directive) (event : Event) : Bool :=
  directive.level.any fun level => event.level.rank ≤ level.rank

end Directive

/-- Why a piece of a filter was passed over. -/
inductive FilterProblem where
  | invalidDirective
  | invalidLevel
  /-- The value of a field is no pattern that can be used. -/
  | invalidField (problem : Pattern.Problem)
deriving DecidableEq, Repr

def FilterProblem.message : FilterProblem → String
  | .invalidDirective => "invalid filter directive"
  | .invalidLevel =>
    "error parsing level filter: expected one of \"off\", \"error\", \"warn\", \"info\", " ++
      "\"debug\", \"trace\", or a number 0-5"
  | .invalidField problem => "invalid field filter: " ++ problem.message

/-- The directives of a filter, in the order of its text. -/
structure LogFilter where
  directives : List Directive
deriving DecidableEq, Repr

namespace LogFilter

/-- The directive that decides on an event. -/
def deciding (filter : LogFilter) (event : Event) : Option Directive :=
  (filter.directives.filter (·.fits event)).foldl
    (fun best directive =>
      if best.all (·.weight ≤ directive.weight) then some directive else best) none

/-- An event goes to the log. -/
def admits (filter : LogFilter) (event : Event) : Bool :=
  (filter.deciding event).any (·.admits event)

theorem admits_eq_false_of_none_fits {filter : LogFilter} {event : Event}
    (none_fits : ∀ directive ∈ filter.directives, directive.fits event = false) :
    filter.admits event = false := by
  have empty : filter.directives.filter (·.fits event) = [] :=
    List.filter_eq_nil_iff.mpr fun directive member =>
      Bool.not_eq_true _ ▸ none_fits directive member
  simp only [admits, deciding, empty, List.foldl_nil, Option.any_none]

/-! ## Reading -/

/-- The words for levels; nothing is let through when the log is off. -/
def levelWords : List (String × Option Level) :=
  [("off", none), ("error", some .error), ("warn", some .warn), ("info", some .info),
    ("debug", some .debug), ("trace", some .trace)]

/-- A level as a whole number with an optional plus. -/
def levelOfNumber? (text : List Char) : Option (Option Level) :=
  let digits := match text with
    | '+' :: rest => rest
    | _ => text
  if digits.isEmpty || !digits.all Char.isDigit then none
  else (levelWords.map Prod.snd)[Nat.ofDigitChars 10 digits 0]?

/-- A level as a number or a word in any case. -/
def level? (text : List Char) : Option (Option Level) :=
  levelOfNumber? text <|> levelWords.lookup (String.ofList (text.map Char.toLower))

/-- Why a piece of a filter was not read. -/
inductive Unread where
  | problem (problem : FilterProblem)
  | fault (fault : Fault)
deriving DecidableEq, Repr

/-- The level behind an equals sign; without one everything is let through. -/
def readLevel (text : List Char) : Except Unread (Option Level) :=
  if text.isEmpty then .ok (some .trace)
  else
    match level? text with
    | some level => .ok level
    | none => .error (.problem .invalidLevel)

/-- Signs that a directive may begin with: letters, numerals, and those that stand in names. -/
def beginsName (c : Char) : Bool :=
  c = '-' || c = ':' || c = '_' || Text.isLetter c || Text.isNumeral c

/-- The first sign of a kind in a text that begins at a place, with its place and what follows. -/
def seek (isSign : Char → Bool) : Nat → List Char → Option (Nat × Char × List Char)
  | _, [] => none
  | place, c :: rest =>
    if isSign c then some (place, c, rest) else seek isSign (place + c.utf8Size) rest

/-- A value that a field is compared with is a truth value, a number or a pattern. -/
def valueProblem? (value : List Char) : Option Pattern.Problem :=
  if value = "true".toList || value = "false".toList || (Number.readFloat? value).isSome then none
  else Pattern.problem? value

/-- A field by its name and an optional value between equals signs. -/
def readField (text : List Char) (directive : Directive) : Except Unread Directive :=
  let field := some (String.ofList (text.takeWhile (· ≠ '=')))
  match text.dropWhile (· ≠ '=') with
  | [] => .ok { directive with field }
  | _ :: rest =>
    match valueProblem? (rest.takeWhile (· ≠ '=')) with
    | none => .ok { directive with field, confined := true }
    | some problem => .error (.problem (.invalidField problem))

/-! Signs are looked for in a piece without the blanks at its ends, but names are cut, at the same
places, from the piece as it is. A cut inside a character is a fault. -/

/-- The part of a piece from one place to another. -/
def cut (piece : List Char) (start stop : Nat) : Except Unread (List Char) :=
  match (Text.splitAt? stop piece).bind fun (front, _) => Text.splitAt? start front with
  | some (_, part) => .ok part
  | none => .error (.fault .splitCharacter)

/-- The part of a piece from a place on. -/
def cutFrom (piece : List Char) (start : Nat) : Except Unread (List Char) :=
  cut piece start (Text.byteSize piece)

/-- What stands behind a closing bracket: nothing, or an equals sign and a level. -/
def readEnd (piece : List Char) (place : Nat) (directive : Directive) :
    List Char → Except Unread Directive
  | [] => .ok directive
  | '=' :: _ => do return { directive with level := ← readLevel (← cutFrom piece (place + 1)) }
  | _ :: _ => .error (.problem .invalidDirective)

/-- A field up to its closing brace, which a closing bracket follows. -/
def readBraces (piece : List Char) (place : Nat) (directive : Directive) (text : List Char) :
    Except Unread Directive := do
  match seek (· = '}') place text with
  | none => .error (.problem .invalidDirective)
  | some (stop, _, rest) =>
    let field ← cut piece place stop
    if field.isEmpty then .error (.problem .invalidDirective)
    else
      let directive ← readField field directive
      match rest with
      | ']' :: rest => readEnd piece (stop + 2) directive rest
      | _ => .error (.problem .invalidDirective)

/-- A span up to its closing bracket, with an optional field. -/
def readSpan (piece : List Char) (place : Nat) (directive : Directive) (text : List Char) :
    Except Unread Directive := do
  match seek (fun c => c = ']' || c = '{') place text with
  | none => .error (.problem .invalidDirective)
  | some (stop, sign, rest) =>
    let span ← cut piece place stop
    if sign = ']' then readEnd piece (stop + 1) { directive with confined := true } rest
    else readBraces piece (stop + 1) { directive with confined := !span.isEmpty } rest

/-- A piece without signs is a level, or else a target. -/
def readPlain (piece : List Char) : Directive :=
  match level? piece with
  | some level => { level }
  | none => { target := some (String.ofList piece) }

/-- Read a piece as a directive. -/
def readPiece (piece : List Char) : Except Unread Directive := do
  match Text.trim piece with
  | [] => .error (.problem .invalidDirective)
  | '[' :: rest => readSpan piece 1 {} rest
  | first :: rest =>
    if beginsName first then
      match seek (fun c => c = '=' || c = '[') 0 (first :: rest) with
      | none => .ok (readPlain piece)
      | some (stop, sign, rest) =>
        let directive : Directive := { target := some (String.ofList (← cut piece 0 stop)) }
        if sign = '=' then readEnd piece stop directive (sign :: rest)
        else readSpan piece (stop + 1) directive rest
    else .error (.problem .invalidDirective)

/-- What stands between the commas of a text. -/
def pieces : List Char → List (List Char)
  | [] => [[]]
  | c :: rest =>
    if c = ',' then [] :: pieces rest
    else
      match pieces rest with
      | first :: more => (c :: first) :: more
      | [] => [[c]]

/-- Without a directive only errors are let through. -/
def ofDirectives (directives : List Directive) : LogFilter :=
  ⟨if directives.isEmpty then [{ level := some .error }] else directives⟩

/-- What became of the pieces of a filter, up to a fault. -/
structure Reading where
  directives : List Directive := []
  /-- The pieces that are no directives, which are passed over and told. -/
  problems : List (String × FilterProblem) := []
  fault : Option Fault := none
deriving DecidableEq, Repr

/-- The filter that was read, unless there was a fault. -/
def Reading.result (reading : Reading) : Except Fault LogFilter :=
  match reading.fault with
  | none => .ok (ofDirectives reading.directives)
  | some fault => .error fault

/-- Read pieces until one of them is a fault. -/
def readPieces : List (List Char) → Reading
  | [] => {}
  | piece :: rest =>
    match readPiece piece with
    | .ok directive =>
      let later := readPieces rest
      { later with directives := directive :: later.directives }
    | .error (.problem problem) =>
      let later := readPieces rest
      { later with problems := (String.ofList piece, problem) :: later.problems }
    | .error (.fault fault) => { fault := some fault }

/-- Read the text of a filter. -/
def ofText (text : String) : Reading :=
  readPieces ((pieces text.toList).filter (!·.isEmpty))

example : ofText "info,emuhost::host=3" = { directives := [{ level := some .info },
    { target := some "emuhost::host", level := some .info }] } := by decide +kernel

example : ofText "loud=very" = { problems := [("loud=very", .invalidLevel)] } := by
  decide +kernel

example : ofText "[\x7bmessage=(\x7d]" =
    { problems := [("[\x7bmessage=(\x7d]", .invalidField .malformed)] } := by decide +kernel

example : ofText "\u00a0[s]" = { fault := some .splitCharacter } := by decide +kernel

end LogFilter

end PacingHost
