import PacingHost.Toml.Quoting

/-! # Strings that were written are read back

`quote` picks one of four forms for a string and `readText` reads it back from each of them. Between
double quotes a character stands for itself or as an escape, and `Escaped` says what a reader makes
of either. In the forms with three quotes a reader looks two characters ahead at every quote, so it
matters which quotes stand in a row: only the last two of a string touch the closing three.
-/

namespace PacingHost.Toml

/-- Characters that a test tells apart are not the same. -/
theorem ne_of_test {test : Char → Bool} {c other : Char} (passes : test c = true)
    (fails : test other = false) : c ≠ other := by
  rintro rfl
  exact Bool.false_ne_true (fails.symm.trans passes)

/-- What a character is written as between double quotes: an escape that reads as this character, or
itself. -/
inductive Escaped (c : Char) : List Char → Prop
  | escape (code : List Char)
      (reads : ∀ tail, readEscape (code ++ tail) = some (c, tail))
      (joins : ∀ tail, lineEnd? (skipSpace (code ++ tail)) = none) : Escaped c ('\\' :: code)
  | itself (plain : isPlain c = true) (solid : c ≠ '\\') : Escaped c [c]

/-- A character that is no control may stand for itself in a line. -/
theorem isPlain_of_not_control {c : Char} (free : isControl c = false) (inLine : c ≠ '\n') :
    isPlain c = true := by
  simp only [isControl, Bool.or_eq_false_iff, Bool.and_eq_false_iff, decide_eq_false_iff_not,
    bne_eq_false_iff_eq, Char.not_lt] at free
  simp only [isPlain, Bool.or_eq_true, Bool.and_eq_true, decide_eq_true_eq, bne_iff_ne]
  obtain ⟨(visible | tab) | line, other⟩ := free
  · exact .inr ⟨visible, other⟩
  · exact .inl tab
  · exact absurd line inLine

theorem toNat_of_isControl {c : Char} (control : isControl c = true) : c.toNat < 128 := by
  simp only [isControl, Bool.or_eq_true, Bool.and_eq_true, decide_eq_true_eq] at control
  rcases control with ⟨⟨low, _⟩, _⟩ | rfl
  · exact Nat.lt_trans (Char.lt_def.mp low) (by decide)
  · decide

/-- Four digits read as the character they number. -/
theorem readCode_hexWord {c : Char} (small : c.toNat < 65536) (tail : List Char) :
    readCode 4 (Number.hexWord c.toNat ++ tail) = some (c, tail) := by
  have digits : (Number.hexWord c.toNat ++ tail).take 4 = Number.hexWord c.toNat :=
    List.take_left' rfl
  have rest : (Number.hexWord c.toNat ++ tail).drop 4 = tail := List.drop_left' rfl
  have each : (Number.hexWord c.toNat).all (Number.isDigitOf 16) = true := by
    simp only [Number.hexWord, Number.isDigitOf, List.all_cons, List.all_nil,
      Number.digitValue_hexDigit (Nat.mod_lt _ (by decide : 0 < 16)),
      Nat.mod_lt _ (by decide : 0 < 16), decide_true, Bool.and_true]
  have code := Number.ofDigits_hexWord small
  simp only [readCode, digits, rest, each, code, Char.ofNat_toNat]
  exact if_pos ⟨rfl, trivial, c.valid⟩

/-- Every character but the line feed is escaped so that a reader finds it. -/
theorem escaped_escapeChar {c : Char} (inLine : c ≠ '\n') : Escaped c (escapeChar c) := by
  unfold escapeChar
  split
  · next same => exact same ▸ .escape ['t'] (fun _ => rfl) fun _ => rfl
  split
  · next same => exact same ▸ .escape ['b'] (fun _ => rfl) fun _ => rfl
  split
  · next same => exact same ▸ .escape ['f'] (fun _ => rfl) fun _ => rfl
  split
  · next same => exact same ▸ .escape ['r'] (fun _ => rfl) fun _ => rfl
  split
  · next same => exact same ▸ .escape ['\\'] (fun _ => rfl) fun _ => rfl
  split
  · next control =>
    have small := toNat_of_isControl control
    exact .escape ('u' :: Number.hexWord c.toNat) (readCode_hexWord (by omega)) fun _ => rfl
  · next solid free =>
    exact .itself (isPlain_of_not_control (Bool.eq_false_iff.mpr free) inLine) solid

/-! ## One line -/

theorem readBasic_quote (rest : List Char) : readBasic ('"' :: rest) = some ([], rest) := by
  rw [readBasic]

theorem readBasic_escape {c : Char} {input after : List Char}
    (read : readEscape input = some (c, after)) :
    readBasic ('\\' :: input) = (readBasic after).cons c := by
  rw [readBasic]
  split
  · next none => rw [none] at read; cases read
  · next found => rw [found] at read; cases read; rfl

theorem readBasic_plain {c : Char} (plain : isPlain c = true) (noQuote : c ≠ '"')
    (noEscape : c ≠ '\\') (input : List Char) :
    readBasic (c :: input) = (readBasic input).cons c := by
  rw [readBasic, if_pos plain]
  · exact noQuote
  · exact noEscape

/-- A character that was written between double quotes is read first. -/
theorem Escaped.readBasic {c : Char} {written : List Char} (escaped : Escaped c written)
    (noQuote : c ≠ '"') (input : List Char) :
    readBasic (written ++ input) = (readBasic input).cons c := by
  cases escaped with
  | escape code reads _ => exact readBasic_escape (reads input)
  | itself plain solid => exact readBasic_plain plain noQuote solid input

/-- A string without line feeds is read back from between double quotes. -/
theorem readBasic_escape_text {text : List Char} (oneLine : '\n' ∉ text) (rest : List Char) :
    readBasic (escape text ++ '"' :: rest) = some (text, rest) := by
  induction text with
  | nil => exact readBasic_quote rest
  | cons c text ih =>
    have later : Read.cons c (readBasic (escape text ++ '"' :: rest)) = some (c :: text, rest) := by
      rw [ih (List.not_mem_of_not_mem_cons oneLine), Read.cons_some]
    rw [escape, List.flatMap_cons, List.append_assoc]
    split
    · next same =>
      rw [same] at later ⊢
      exact (readBasic_escape rfl).trans later
    · next noQuote =>
      have escaped := escaped_escapeChar (List.ne_of_not_mem_cons oneLine).symm
      exact (escaped.readBasic noQuote _).trans later

/-- A string of plain characters but single quotes is read back from between single quotes. -/
theorem readLiteral_text {text : List Char} (plain : ∀ c ∈ text, isPlain c = true)
    (noQuote : '\'' ∉ text) (rest : List Char) :
    readLiteral (text ++ '\'' :: rest) = some (text, rest) := by
  induction text with
  | nil => rfl
  | cons c text ih =>
    have later := ih (fun d member => plain d (List.mem_cons_of_mem _ member))
      (List.not_mem_of_not_mem_cons noQuote)
    rw [List.cons_append, readLiteral, if_pos (plain c List.mem_cons_self), later, Read.cons_some]
    exact (List.ne_of_not_mem_cons noQuote).symm

/-! ## Several lines -/

theorem readLongBasic_triple (rest : List Char) :
    readLongBasic (doubles ++ rest) = some (readExtra '"' rest) := by
  rw [doubles, List.cons_append, List.cons_append, List.cons_append, List.nil_append,
    readLongBasic]

/-- No quote stands between the closing three and the end of a line. -/
theorem readExtra_line {quote : Char} (other : '\n' ≠ quote) (rest : List Char) :
    readExtra quote ('\n' :: rest) = ([], '\n' :: rest) := by
  cases rest <;> exact if_neg other

/-- A quote is read for itself unless two more follow. -/
theorem readLongBasic_quote {input : List Char} (single : ∀ rest, input ≠ '"' :: '"' :: rest) :
    readLongBasic ('"' :: input) = (readLongBasic input).cons '"' := by
  rw [readLongBasic]
  exact single

theorem readLongBasic_line (input : List Char) :
    readLongBasic ('\n' :: input) = (readLongBasic input).cons '\n' := by
  rw [readLongBasic]

theorem readLongBasic_escape {c : Char} {input after : List Char}
    (joins : lineEnd? (skipSpace input) = none) (read : readEscape input = some (c, after)) :
    readLongBasic ('\\' :: input) = (readLongBasic after).cons c := by
  rw [readLongBasic]
  split
  · next found => rw [joins] at found; cases found
  · split
    · next none => rw [none] at read; cases read
    · next found => rw [found] at read; cases read; rfl

theorem readLongBasic_plain {c : Char} (plain : isPlain c = true) (noQuote : c ≠ '"')
    (noEscape : c ≠ '\\') (input : List Char) :
    readLongBasic (c :: input) = (readLongBasic input).cons c := by
  have line : c ≠ '\n' := ne_of_test plain rfl
  have mark : c ≠ '\r' := ne_of_test plain rfl
  rw [readLongBasic, if_pos plain]
  · exact fun _ same _ => noQuote same
  · exact noQuote
  · exact fun _ same _ => mark same
  · exact line
  · exact noEscape

theorem Escaped.readLongBasic {c : Char} {written : List Char} (escaped : Escaped c written)
    (noQuote : c ≠ '"') (input : List Char) :
    readLongBasic (written ++ input) = (readLongBasic input).cons c := by
  cases escaped with
  | escape code reads joins => exact readLongBasic_escape (joins input) (reads input)
  | itself plain solid => exact readLongBasic_plain plain noQuote solid input

/-- A character other than a quote is read from a string in several lines, a line feed as itself. -/
theorem readLongBasic_escapeChar {c : Char} (noQuote : c ≠ '"') (input : List Char) :
    readLongBasic (escapeChar c ++ input) = (readLongBasic input).cons c := by
  by_cases line : c = '\n'
  · subst line
    exact readLongBasic_line input
  · exact (escaped_escapeChar line).readLongBasic noQuote input

/-- What a character other than a quote is written as does not start with a quote. -/
theorem escapeChar_front {c : Char} (noQuote : c ≠ '"') :
    ∃ front rest, escapeChar c = front :: rest ∧ front ≠ '"' := by
  by_cases line : c = '\n'
  · exact ⟨'\n', [], by rw [line]; rfl, by decide⟩
  · have escaped := escaped_escapeChar line
    generalize escapeChar c = written at escaped
    cases escaped with
    | escape code => exact ⟨'\\', code, rfl, by decide⟩
    | itself => exact ⟨c, [], rfl, noQuote⟩

/-- After two quotes a string goes on with no quote, whatever it goes on with. -/
theorem escapeLong_two_front {text : List Char} (more : text ≠ []) (input : List Char) :
    ∃ front rest, escapeLong 2 text ++ input = front :: rest ∧ front ≠ '"' := by
  cases text with
  | nil => exact absurd rfl more
  | cons c text =>
    by_cases same : c = '"'
    · subst same
      exact ⟨'\\', _, rfl, by decide⟩
    · obtain ⟨front, rest, written, other⟩ := escapeChar_front same
      refine ⟨front, rest ++ (escapeLong 0 text ++ input), ?_, other⟩
      rw [escapeLong, if_neg same, written, List.append_assoc]
      rfl

/-- After a quote two more follow only where a string ends. -/
theorem escapeLong_single {quotes : Nat} {text : List Char} (one : 0 < quotes)
    (more : text ≠ []) (other : quotes = 1 → text ≠ ['"']) (input rest : List Char) :
    escapeLong quotes text ++ input ≠ '"' :: '"' :: rest := by
  cases text with
  | nil => exact absurd rfl more
  | cons c text =>
    by_cases same : c = '"'
    · subst same
      by_cases room : quotes < 2
      · have first : quotes = 1 := by omega
        have goesOn : text ≠ [] := fun ends => other first (ends ▸ rfl)
        obtain ⟨front, after, written, solid⟩ := escapeLong_two_front goesOn input
        rw [escapeLong, if_pos rfl, if_pos room, first, List.cons_append, written]
        intro impossible
        cases impossible
        exact solid rfl
      · rw [escapeLong, if_pos rfl, if_neg room]
        intro impossible
        cases impossible
    · obtain ⟨front, after, written, solid⟩ := escapeChar_front same
      rw [escapeLong, if_neg same, written]
      intro impossible
      exact solid (List.cons.inj impossible).1

/-- A string is read back from between three double quotes, whatever quotes were read before. -/
theorem readLongBasic_escapeLong (quotes : Nat) (text rest : List Char) :
    readLongBasic (escapeLong quotes text ++ (doubles ++ '\n' :: rest)) =
      some (text, '\n' :: rest) := by
  induction text generalizing quotes with
  | nil =>
    have ended : readLongBasic (doubles ++ '\n' :: rest) = _ := readLongBasic_triple _
    rwa [readExtra_line (by decide)] at ended
  | cons c text ih =>
    by_cases same : c = '"'
    · subst same
      by_cases room : quotes < 2
      · rw [escapeLong, if_pos rfl, if_pos room, List.cons_append]
        -- The last two quotes of a string stand together with the three that close it.
        by_cases last : text = []
        · subst last
          exact readLongBasic_triple ('"' :: '\n' :: rest)
        by_cases lastTwo : quotes + 1 = 1 ∧ text = ['"']
        · obtain ⟨first, rfl⟩ := lastTwo
          rw [first]
          exact readLongBasic_triple ('"' :: '"' :: '\n' :: rest)
        · have single := escapeLong_single (Nat.succ_pos quotes) last
            (fun first two => lastTwo ⟨first, two⟩) (doubles ++ '\n' :: rest)
          rw [readLongBasic_quote single, ih, Read.cons_some]
      · rw [escapeLong, if_pos rfl, if_neg room, List.cons_append, List.cons_append,
          readLongBasic_escape rfl rfl, ih, Read.cons_some]
    · rw [escapeLong, if_neg same, List.append_assoc, readLongBasic_escapeChar same, ih,
        Read.cons_some]

theorem hasTriple_tail {quote c : Char} {text : List Char}
    (none : hasTriple quote (c :: text) = false) : hasTriple quote text = false := by
  match text, none with
  | [], _ | [_], _ => rfl
  | _ :: _ :: _, none =>
    rw [hasTriple, Bool.or_eq_false_iff] at none
    exact none.2

/-- Without three quotes in a row, two more follow a quote only where a string ends. -/
theorem text_single {quote : Char} {text : List Char} (more : text ≠ []) (two : text ≠ [quote])
    (none : hasTriple quote (quote :: text) = false) (input rest : List Char) :
    text ++ input ≠ quote :: quote :: rest := by
  intro same
  match text, more, two, none with
  | [], more, _, _ => exact more rfl
  | [c], _, two, _ => exact two (congrArg ([·]) (List.cons.inj same).1)
  | first :: second :: text, _, _, none =>
    obtain ⟨rfl, same⟩ := List.cons.inj same
    obtain ⟨rfl, _⟩ := List.cons.inj same
    simp only [hasTriple, decide_true, Bool.and_self, Bool.true_or, Bool.true_eq_false] at none

theorem readLongLiteral_triple (rest : List Char) :
    readLongLiteral (singles ++ rest) = some (readExtra '\'' rest) := rfl

theorem readLongLiteral_quote {input : List Char}
    (single : ∀ rest, input ≠ '\'' :: '\'' :: rest) :
    readLongLiteral ('\'' :: input) = (readLongLiteral input).cons '\'' := by
  rw [readLongLiteral]
  exact single

theorem readLongLiteral_plain {c : Char} (plain : isPlain c = true) (noQuote : c ≠ '\'')
    (input : List Char) :
    readLongLiteral (c :: input) = (readLongLiteral input).cons c := by
  have line : c ≠ '\n' := ne_of_test plain rfl
  have mark : c ≠ '\r' := ne_of_test plain rfl
  rw [readLongLiteral, if_pos plain]
  · exact fun _ same _ => noQuote same
  · exact noQuote
  · exact fun _ same _ => mark same
  · exact line

/-- A string of plain characters and line feeds without three single quotes in a row is read back
from between three of them. -/
theorem readLongLiteral_text {text : List Char}
    (plain : ∀ c ∈ text, isPlain c = true ∨ c = '\n') (none : hasTriple '\'' text = false)
    (rest : List Char) :
    readLongLiteral (text ++ (singles ++ '\n' :: rest)) = some (text, '\n' :: rest) := by
  induction text with
  | nil =>
    have ended : readLongLiteral (singles ++ '\n' :: rest) = _ := readLongLiteral_triple _
    rwa [readExtra_line (by decide)] at ended
  | cons c text ih =>
    have later := ih (fun d member => plain d (List.mem_cons_of_mem _ member)) (hasTriple_tail none)
    rw [List.cons_append]
    by_cases same : c = '\''
    · subst same
      by_cases last : text = []
      · subst last
        exact readLongLiteral_triple ('\'' :: '\n' :: rest)
      by_cases lastTwo : text = ['\'']
      · subst lastTwo
        exact readLongLiteral_triple ('\'' :: '\'' :: '\n' :: rest)
      · have single := text_single last lastTwo none (singles ++ '\n' :: rest)
        rw [readLongLiteral_quote single, later, Read.cons_some]
    · rcases plain c List.mem_cons_self with visible | rfl
      · rw [readLongLiteral_plain visible same, later, Read.cons_some]
      · rw [readLongLiteral, later, Read.cons_some]

/-! ## All forms -/

/-- What a string has to be like for a form to hold it. -/
def Form.Holds (text : List Char) : Form → Prop
  | .basic => '\n' ∉ text
  | .literal => (∀ c ∈ text, isPlain c = true) ∧ '\'' ∉ text
  | .longBasic => True
  | .longLiteral => (∀ c ∈ text, isPlain c = true ∨ c = '\n') ∧ hasTriple '\'' text = false

/-- A string in one of the forms, with its quotes. -/
def Form.write (text : List Char) : Form → List Char
  | .basic => '"' :: escape text ++ ['"']
  | .literal => '\'' :: text ++ ['\'']
  | .longBasic => doubles ++ opening text ++ escapeLong 0 text ++ doubles
  | .longLiteral => singles ++ opening text ++ text ++ singles

theorem quote_eq (text : List Char) : quote text = (formOf text).write text := by
  unfold quote
  cases formOf text <;> rfl

/-- The form of a string holds it. -/
theorem holds_formOf (text : List Char) : (formOf text).Holds text := by
  have free : text.any isControl = false → ∀ c ∈ text, isControl c = false := by
    intro none c member
    rw [List.any_eq_false] at none
    exact Bool.eq_false_iff.mpr (none c member)
  unfold formOf
  simp only [Bool.and_eq_true, Bool.not_eq_true', List.contains_eq_mem, decide_eq_false_iff_not]
  split
  · next held => exact held.2
  split
  · next held =>
    obtain ⟨⟨controls, quotes⟩, line⟩ := held
    refine ⟨fun c member => ?_, quotes⟩
    exact isPlain_of_not_control (free controls c member) fun same => line (same ▸ member)
  split
  · exact True.intro
  split
  · next held =>
    obtain ⟨controls, quotes⟩ := held
    refine ⟨fun c member => ?_, quotes⟩
    by_cases line : c = '\n'
    · exact .inr line
    · exact .inl (isPlain_of_not_control (free controls c member) line)
  split
  · next held => exact held
  · exact True.intro

/-- The line end after the opening quotes is dropped, and nothing else. -/
theorem dropFirstLineEnd_opening (text : List Char) {input : List Char}
    (goesOn : '\n' ∉ text → lineEnd? input = none) :
    dropFirstLineEnd (opening text ++ input) = input := by
  unfold opening
  split
  · rfl
  · next none =>
    rw [List.nil_append, dropFirstLineEnd, goesOn, Option.getD_none]
    simpa using none

theorem lineEnd?_eq_none {c : Char} (line : c ≠ '\n') (mark : c ≠ '\r') (rest : List Char) :
    lineEnd? (c :: rest) = none := by
  unfold lineEnd?
  split
  · next same => exact absurd (List.cons.inj same).1 line
  · next same => exact absurd (List.cons.inj same).1 mark
  · rfl

/-- A string without line feeds does not start with a line end when it is written between three
double quotes. -/
theorem lineEnd?_escapeLong {text : List Char} (oneLine : '\n' ∉ text) (input : List Char) :
    lineEnd? (escapeLong 0 text ++ (doubles ++ input)) = none := by
  cases text with
  | nil => rfl
  | cons c text =>
    by_cases same : c = '"'
    · subst same
      rfl
    · have escaped := escaped_escapeChar (List.ne_of_not_mem_cons oneLine).symm
      rw [escapeLong, if_neg same]
      generalize escapeChar c = written at escaped
      cases escaped with
      | escape code => rfl
      | itself plain =>
        exact lineEnd?_eq_none (List.ne_of_not_mem_cons oneLine).symm (ne_of_test plain rfl) _

/-- Neither does one between three single quotes, if it has no controls. -/
theorem lineEnd?_text {text : List Char} (plain : ∀ c ∈ text, isPlain c = true ∨ c = '\n')
    (oneLine : '\n' ∉ text) (input : List Char) :
    lineEnd? (text ++ (singles ++ input)) = none := by
  cases text with
  | nil => rfl
  | cons c text =>
    have line := (List.ne_of_not_mem_cons oneLine).symm
    have visible := (plain c List.mem_cons_self).resolve_right line
    exact lineEnd?_eq_none line (ne_of_test visible rfl) _

/-- Two more double quotes never follow the one that opens a line of text. -/
theorem escape_single (text input rest : List Char) :
    escape text ++ '"' :: '\n' :: input ≠ '"' :: '"' :: rest := by
  cases text with
  | nil =>
    intro impossible
    cases impossible
  | cons c text =>
    rw [escape, List.flatMap_cons]
    split
    · intro impossible
      cases impossible
    · next other =>
      obtain ⟨front, after, written, solid⟩ := escapeChar_front other
      rw [written]
      intro impossible
      exact solid (List.cons.inj impossible).1

theorem literal_single {text : List Char} (noQuote : '\'' ∉ text) (input rest : List Char) :
    text ++ '\'' :: '\n' :: input ≠ '\'' :: '\'' :: rest := by
  cases text with
  | nil =>
    intro impossible
    cases impossible
  | cons c text =>
    intro impossible
    exact List.ne_of_not_mem_cons noQuote (List.cons.inj impossible).1.symm

/-- A string that was written in a form that holds it is read back up to the end of its line. -/
theorem Form.Holds.readText {form : Form} {text : List Char} (holds : form.Holds text)
    (rest : List Char) :
    readText (form.write text ++ '\n' :: rest) = some (text, '\n' :: rest) := by
  cases form with
  | basic =>
    have read := readBasic_escape_text holds ('\n' :: rest)
    simp only [write, List.append_assoc, List.cons_append, List.nil_append]
    rw [Toml.readText, read]
    exact escape_single text rest
  | literal =>
    have read := readLiteral_text holds.1 holds.2 ('\n' :: rest)
    simp only [write, List.append_assoc, List.cons_append, List.nil_append]
    rw [Toml.readText, read]
    exact literal_single holds.2 rest
  | longBasic =>
    have opened := dropFirstLineEnd_opening text fun oneLine =>
      lineEnd?_escapeLong oneLine ('\n' :: rest)
    have read := readLongBasic_escapeLong 0 text rest
    rw [← opened] at read
    simp only [write, List.append_assoc]
    exact read
  | longLiteral =>
    have opened := dropFirstLineEnd_opening text fun oneLine =>
      lineEnd?_text holds.1 oneLine ('\n' :: rest)
    have read := readLongLiteral_text holds.1 holds.2 rest
    rw [← opened] at read
    simp only [write, List.append_assoc]
    exact read

end PacingHost.Toml
