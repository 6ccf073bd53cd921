import PacingHost.Proofs.TomlText
import PacingHost.Toml.Statement

/-! # Lines that were written are read back

A line of a document that was written is a bare key, an equals sign and a value. The value is a
string with its quotes or the decimal digits of a number. Digits could also start a date or a time,
but those need other characters between them before the line ends.
-/

namespace PacingHost.Toml

/-! ## Digits -/

theorem digitValue_of_isDigit {c : Char} (digit : c.isDigit = true) :
    Number.digitValue c = c.toNat - '0'.toNat := by
  simp only [Char.isDigit, Bool.and_eq_true, decide_eq_true_eq] at digit
  exact if_pos digit

theorem foldl_digitValue {digits : List Char} (decimal : ∀ c ∈ digits, c.isDigit = true)
    (start : Nat) :
    digits.foldl (fun value c => 10 * value + Number.digitValue c) start =
      Nat.ofDigitChars 10 digits start := by
  induction digits generalizing start with
  | nil => rfl
  | cons c digits ih =>
    rw [List.foldl_cons, Nat.ofDigitChars_cons,
      digitValue_of_isDigit (decimal c List.mem_cons_self),
      ih fun d member => decimal d (List.mem_cons_of_mem _ member)]

theorem isDigit_toDigits (number : Nat) : ∀ c ∈ Nat.toDigits 10 number, c.isDigit = true :=
  fun _ => Nat.isDigit_of_mem_toDigits (by decide) (by decide)

/-- The digits that are written for a number are worth it. -/
theorem ofDigits_toDigits (number : Nat) :
    Number.ofDigits 10 (Nat.toDigits 10 number) = number := by
  rw [Number.ofDigits, foldl_digitValue (isDigit_toDigits number),
    Nat.ofDigitChars_toDigits (by decide) (by decide)]

/-- Only zero starts with a zero. -/
theorem toDigits_front {number : Nat} (positive : 0 < number) :
    ∃ c digits, Nat.toDigits 10 number = c :: digits ∧ c ≠ '0' := by
  induction number using Nat.strongRecOn with
  | ind number ih =>
    rcases Nat.lt_or_ge number 10 with small | large
    · refine ⟨_, [], Nat.toDigits_of_lt_base small, ?_⟩
      have each : ∀ digit : Fin 10, 0 < digit.val → digit.val.digitChar ≠ '0' := by decide
      exact each ⟨number, small⟩ positive
    · obtain ⟨c, digits, written, other⟩ :=
        ih (number / 10) (Nat.div_lt_self positive (by decide)) (by omega)
      refine ⟨c, digits ++ [(number % 10).digitChar], ?_, other⟩
      rw [Nat.toDigits_of_base_le (by decide) large, written, List.cons_append]

/-- Digits are read up to the end of their line. -/
theorem moreDigits_line {digits : List Char} (decimal : ∀ c ∈ digits, c.isDigit = true)
    (rest : List Char) :
    moreDigits Char.isDigit (digits ++ '\n' :: rest) = some (digits, '\n' :: rest) := by
  induction digits with
  | nil => rfl
  | cons c digits ih =>
    have digit := decimal c List.mem_cons_self
    have solid : c ≠ '_' := ne_of_test digit rfl
    rw [List.cons_append, moreDigits, if_pos digit,
      ih fun d member => decimal d (List.mem_cons_of_mem _ member), Read.cons_some]
    · exact fun _ _ same _ => solid same
    · exact fun same _ => solid same

/-- The digits of a number are read as a whole number. -/
theorem readWhole_toDigits (number : Nat) (rest : List Char) :
    readWhole (Nat.toDigits 10 number ++ '\n' :: rest) =
      some (Nat.toDigits 10 number, '\n' :: rest) := by
  rcases Nat.eq_zero_or_pos number with rfl | positive
  · rfl
  · have decimal := isDigit_toDigits number
    obtain ⟨c, digits, written, other⟩ := toDigits_front positive
    rw [written] at decimal ⊢
    rw [List.cons_append, readWhole, readDigits, if_pos (decimal c List.mem_cons_self),
      moreDigits_line fun d member => decimal d (List.mem_cons_of_mem _ member), Read.cons_some]
    exact fun _ same => other (List.cons.inj same).1

theorem readDecimal_toDigits (negative : Bool) (number : Nat) (rest : List Char) :
    readDecimal negative (Nat.toDigits 10 number ++ '\n' :: rest) =
      (checkedInteger (if negative then -(number : Int) else number)).map
        fun value => (value, '\n' :: rest) := by
  have noFraction : readFraction ('\n' :: rest) = some ([], '\n' :: rest) := rfl
  have noExponent : readExponent ('\n' :: rest) = some (none, '\n' :: rest) := rfl
  simp only [readDecimal, readWhole_toDigits, noFraction, noExponent, Option.bind_eq_bind,
    Option.bind_some, List.append_nil, ofDigits_toDigits, List.isEmpty_nil, and_self, ↓reduceIte]
  cases checkedInteger (if negative then -(number : Int) else number) <;> rfl

/-- An integer in decimal. -/
def decimal (value : Int) : List Char :=
  if value < 0 then '-' :: Nat.toDigits 10 value.natAbs else Nat.toDigits 10 value.natAbs

theorem decimal_natCast (number : Nat) : decimal number = Nat.toDigits 10 number :=
  if_neg (Int.not_lt.mpr (Int.natCast_nonneg number))

/-- What starts with a digit is no infinity and no NaN. -/
theorem readSpecial_digit {c : Char} (digit : c.isDigit = true) (negative : Bool)
    (rest : List Char) : readSpecial negative (c :: rest) = none := by
  rw [readSpecial]
  all_goals exact fun _ same => ne_of_test digit rfl (List.cons.inj same).1

theorem readNumber_unsigned (number : Nat) (rest : List Char) :
    readNumber (Nat.toDigits 10 number ++ '\n' :: rest) =
      (checkedInteger number).map fun value => (value, '\n' :: rest) := by
  have read := readDecimal_toDigits false number rest
  have digits := isDigit_toDigits number
  rcases Nat.eq_zero_or_pos number with rfl | positive
  · exact read
  · obtain ⟨c, more, written, other⟩ := toDigits_front positive
    rw [written] at read digits ⊢
    have digit := digits c List.mem_cons_self
    rw [List.cons_append] at read ⊢
    have unsigned : Number.takeSign (c :: (more ++ '\n' :: rest)) =
        (false, c :: (more ++ '\n' :: rest)) := by
      rw [Number.takeSign]
      all_goals exact fun _ same => ne_of_test digit rfl (List.cons.inj same).1
    rw [readNumber]
    · simp only [unsigned, readSpecial_digit digit, read]
      rfl
    all_goals exact fun _ same => other (List.cons.inj same).1

theorem readNumber_negative (number : Nat) (rest : List Char) :
    readNumber ('-' :: (Nat.toDigits 10 number ++ '\n' :: rest)) =
      (checkedInteger (-number)).map fun value => (value, '\n' :: rest) := by
  have read := readDecimal_toDigits true number rest
  have digits := isDigit_toDigits number
  cases written : Nat.toDigits 10 number with
  | nil => exact absurd written Nat.toDigits_ne_nil
  | cons c more =>
    rw [written] at read digits
    rw [List.cons_append] at read ⊢
    change (readSpecial true (c :: (more ++ '\n' :: rest)) <|> readDecimal true _) = _
    rw [readSpecial_digit (digits c List.mem_cons_self), read]
    rfl

/-- An integer is read from its digits, if it has 64 bits. -/
theorem readNumber_decimal (value : Int) (rest : List Char) :
    readNumber (decimal value ++ '\n' :: rest) =
      (checkedInteger value).map fun value => (value, '\n' :: rest) := by
  unfold decimal
  split
  · have same : -(value.natAbs : Int) = value := by omega
    rw [List.cons_append, readNumber_negative, same]
  · have same : (value.natAbs : Int) = value := by omega
    rw [readNumber_unsigned, same]

/-! ## No moments -/

theorem expect_line {c : Char} (noDigit : c.isDigit = false) (line : c ≠ '\n')
    {digits : List Char} (decimal : ∀ d ∈ digits, d.isDigit = true) (rest : List Char) :
    expect c (digits ++ '\n' :: rest) = none := by
  cases digits with
  | nil => exact if_neg line.symm
  | cons d digits => exact if_neg (ne_of_test (decimal d List.mem_cons_self) noDigit)

/-- A field that is read from digits leaves digits. -/
theorem readField_line {width least most value : Nat} {digits rest after : List Char}
    (decimal : ∀ c ∈ digits, c.isDigit = true)
    (read : readField width least most (digits ++ '\n' :: rest) = some (value, after)) :
    ∃ left, (∀ c ∈ left, c.isDigit = true) ∧ after = left ++ '\n' :: rest := by
  simp only [readField] at read
  split at read
  · next held =>
    cases read
    rw [List.all_eq_true] at held
    have short : width ≤ digits.length := by
      rcases Nat.lt_or_ge digits.length width with long | short
      · obtain ⟨more, rfl⟩ : ∃ more, width = digits.length + (more + 1) :=
          ⟨width - digits.length - 1, by omega⟩
        have line : '\n' ∈ (digits ++ '\n' :: rest).take (digits.length + (more + 1)) := by
          rw [List.take_length_add_append, List.take_succ_cons]
          exact List.mem_append_right _ List.mem_cons_self
        exact absurd (held.2.1 _ line) (by decide)
      · exact short
    exact ⟨digits.drop width, fun c member => decimal c (List.mem_of_mem_drop member),
      List.drop_append_of_le_length short⟩
  · cases read

/-- Where digits are read as a field, no sign follows it. -/
theorem expect_after_field {c : Char} (noDigit : c.isDigit = false) (line : c ≠ '\n')
    {width least most value : Nat} {digits rest after : List Char}
    (decimal : ∀ c ∈ digits, c.isDigit = true)
    (read : readField width least most (digits ++ '\n' :: rest) = some (value, after)) :
    expect c after = none := by
  obtain ⟨left, leftDecimal, rfl⟩ := readField_line decimal read
  exact expect_line noDigit line leftDecimal rest

/-- Digits alone are no date and no time. -/
theorem readMoment_line {digits : List Char} (decimal : ∀ c ∈ digits, c.isDigit = true)
    (rest : List Char) : readMoment (digits ++ '\n' :: rest) = none := by
  have noDate : skipDate? (digits ++ '\n' :: rest) = none := by
    rw [skipDate?]
    cases year : readField 4 0 9999 (digits ++ '\n' :: rest) with
    | none => rfl
    | some read =>
      have noDash := expect_after_field (by decide : '-'.isDigit = false) (by decide) decimal year
      simp only [Option.bind_eq_bind, Option.bind_some, noDash, Option.bind_none]
  have noMinutes : skipMinutes? (digits ++ '\n' :: rest) = none := by
    rw [skipMinutes?]
    cases hour : readField 2 0 23 (digits ++ '\n' :: rest) with
    | none => rfl
    | some read =>
      have noColon := expect_after_field (by decide : ':'.isDigit = false) (by decide) decimal hour
      simp only [Option.bind_eq_bind, Option.bind_some, noColon, Option.bind_none]
  have noTime : skipTime? (digits ++ '\n' :: rest) = none := by
    rw [skipTime?, noMinutes]
    rfl
  rw [readMoment, skipMoment?, noDate]
  dsimp only
  rw [noTime, Option.map_none]

/-- Neither is a number with a sign. -/
theorem readMoment_sign (rest : List Char) : readMoment ('-' :: rest) = none := by
  have noField : ∀ width least most, readField (width + 1) least most ('-' :: rest) = none := by
    intro width least most
    simp [readField]
  simp [readMoment, skipMoment?, skipDate?, skipTime?, skipMinutes?, noField]

theorem readMoment_decimal (value : Int) (rest : List Char) :
    readMoment (decimal value ++ '\n' :: rest) = none := by
  unfold decimal
  split
  · exact readMoment_sign _
  · exact readMoment_line (isDigit_toDigits _) rest

/-! ## Values -/

/-- What a text is read as where a line ends behind it, at any depth: a value, or nothing if it is
refused. -/
structure Reads (text : List Char) (value? : Option Value) : Prop where
  solid : ∃ c rest, text = c :: rest ∧ isSpace c = false
  reads : ∀ depth rest, readValue depth (text ++ '\n' :: rest) =
    value?.map fun value => (value, '\n' :: rest)

theorem isSpace_eq_false {c : Char} (blank : c ≠ ' ') (tab : c ≠ '\t') : isSpace c = false := by
  simp only [isSpace, blank, tab, decide_false, Bool.or_self]

/-- A value that opens no collection is no collection. -/
theorem readValue_eq_readScalar {c : Char} (array : c ≠ '[') (table : c ≠ '{') (depth : Nat)
    (rest : List Char) : readValue depth (c :: rest) = readScalar (c :: rest) := by
  rw [readValue]
  · exact fun _ _ _ same => array (List.cons.inj same).1
  · exact fun _ _ _ same => table (List.cons.inj same).1
  · exact fun _ _ same => array (List.cons.inj same).1
  · exact fun _ _ same => table (List.cons.inj same).1

/-- A string is read from its quotes. -/
theorem Form.Holds.reads {form : Form} {text : List Char} (holds : form.Holds text) :
    Reads (form.write text) (some (.string (String.ofList text))) := by
  have read := holds.readText
  have front : ∃ rest, form.write text = '"' :: rest ∨ form.write text = '\'' :: rest := by
    cases form with
    | basic => exact ⟨_, .inl rfl⟩
    | literal => exact ⟨_, .inr rfl⟩
    | longBasic => exact ⟨_, .inl rfl⟩
    | longLiteral => exact ⟨_, .inr rfl⟩
  obtain ⟨written, front⟩ := front
  rcases front with same | same
  all_goals
    rw [same] at read ⊢
    refine ⟨⟨_, _, rfl, by decide⟩, fun depth rest => ?_⟩
    rw [List.cons_append, readValue_eq_readScalar (by decide) (by decide)]
    have read := read rest
    rw [List.cons_append] at read
    rw [readScalar, read, Option.map_some, Option.map_some]

theorem decimal_front (value : Int) :
    ∃ c rest, decimal value = c :: rest ∧ (c = '-' ∨ c.isDigit = true) := by
  unfold decimal
  split
  · exact ⟨'-', _, rfl, .inl rfl⟩
  · cases written : Nat.toDigits 10 value.natAbs with
    | nil => exact absurd written Nat.toDigits_ne_nil
    | cons c digits =>
      exact ⟨c, digits, rfl, .inr (isDigit_toDigits _ c (written ▸ List.mem_cons_self))⟩

/-- An integer is read from its digits, and refused if it has more than 64 bits. -/
theorem reads_decimal (value : Int) : Reads (decimal value) (checkedInteger value) := by
  have read := readNumber_decimal value
  have noMoment := readMoment_decimal value
  obtain ⟨c, digits, written, front⟩ := decimal_front value
  have front : ∀ {other : Char}, other ≠ '-' → other.isDigit = false → c ≠ other := by
    rintro other noSign noDigit rfl
    rcases front with sign | digit
    · exact noSign sign
    · exact Bool.false_ne_true (noDigit.symm.trans digit)
  rw [written] at read noMoment ⊢
  have solid := isSpace_eq_false (front (by decide) rfl) (front (by decide) rfl)
  refine ⟨⟨c, digits, rfl, solid⟩, fun depth rest => ?_⟩
  rw [List.cons_append, readValue_eq_readScalar (front (by decide) rfl) (front (by decide) rfl),
    ← List.cons_append, readScalar, noMoment, read]
  · rfl
  all_goals exact fun _ same => front (by decide) rfl (List.cons.inj same).1

/-- A truth value. -/
def truth : Bool → List Char
  | true => ['t', 'r', 'u', 'e']
  | false => ['f', 'a', 'l', 's', 'e']

theorem reads_truth (value : Bool) : Reads (truth value) (some (.boolean value)) := by
  cases value with
  | true =>
    exact ⟨⟨_, _, rfl, by decide⟩, fun depth _ =>
      readValue_eq_readScalar (by decide) (by decide) depth _⟩
  | false =>
    exact ⟨⟨_, _, rfl, by decide⟩, fun depth _ =>
      readValue_eq_readScalar (by decide) (by decide) depth _⟩

/-! ## Lines -/

/-- A key that needs no quotes. -/
structure Bare (key : List Char) : Prop where
  named : key ≠ []
  bare : ∀ c ∈ key, isBare c = true

theorem bare_iff (key : List Char) : (!key.isEmpty && key.all isBare) = true ↔ Bare key := by
  rw [Bool.and_eq_true, Bool.not_eq_true', List.isEmpty_eq_false_iff, List.all_eq_true]
  exact ⟨fun both => ⟨both.1, both.2⟩, fun bare => ⟨bare.named, bare.bare⟩⟩

instance (key : List Char) : Decidable (Bare key) := decidable_of_iff _ (bare_iff key)

section Lines

variable {key text rest : List Char} {value? : Option Value}

/-- A bare key starts with no space. -/
theorem Bare.front (bare : Bare key) :
    ∃ c rest, key = c :: rest ∧ isSpace c = false ∧ isBare c = true := by
  cases key with
  | nil => exact absurd rfl bare.named
  | cons c key =>
    have first := bare.bare c List.mem_cons_self
    exact ⟨c, key, rfl, isSpace_eq_false (ne_of_test first rfl) (ne_of_test first rfl), first⟩

/-- A bare key is read up to the space behind it. -/
theorem Bare.readSimpleKey (bare : Bare key) (rest : List Char) :
    readSimpleKey (key ++ ' ' :: rest) = some (String.ofList key, ' ' :: rest) := by
  have taken : (key ++ ' ' :: rest).takeWhile isBare = key := by
    rw [List.takeWhile_append_of_pos bare.bare]
    exact List.append_nil key
  have left : (key ++ ' ' :: rest).dropWhile isBare = ' ' :: rest := by
    rw [List.dropWhile_append_of_pos bare.bare]
    rfl
  obtain ⟨c, front, rfl, _, first⟩ := bare.front
  rw [List.cons_append] at taken left ⊢
  rw [Toml.readSimpleKey]
  · rw [taken, left]
    rfl
  all_goals exact fun _ same => ne_of_test first rfl (List.cons.inj same).1

/-- A bare key is read up to the equals sign behind it. -/
theorem Bare.readKey (bare : Bare key) (rest : List Char) :
    readKey (key ++ ' ' :: '=' :: rest) = some ([String.ofList key], '=' :: rest) := by
  have read : ∀ count, readKeys (count + 1) (key ++ ' ' :: '=' :: rest) =
      some ([String.ofList key], '=' :: rest) := by
    intro count
    have found := bare.readSimpleKey ('=' :: rest)
    obtain ⟨c, front, rfl, solid, _⟩ := bare.front
    rw [List.cons_append] at found ⊢
    rw [readKeys, skipSpace_cons solid, found]
    rfl
  have length : (key ++ ' ' :: '=' :: rest).length =
      (key.length + rest.length + 1) + 1 := by
    simp only [List.length_append, List.length_cons]
    omega
  rw [Toml.readKey, length, read]
  rfl

/-- The line that writes a value for a key. -/
def lineOf (key text : List Char) : List Char := key ++ [' ', '=', ' '] ++ text ++ ['\n']

theorem lineOf_append (key text rest : List Char) :
    lineOf key text ++ rest = key ++ ' ' :: '=' :: ' ' :: (text ++ '\n' :: rest) := by
  simp only [lineOf, List.append_assoc, List.cons_append, List.nil_append]

/-- A line is read as the value it was written for, or refused with it. -/
theorem readStatement_line (bare : Bare key) (reads : Reads text value?) (rest : List Char) :
    readStatement (lineOf key text ++ rest) =
      value?.map fun value => (.pair ⟨[], String.ofList key, value⟩, '\n' :: rest) := by
  have pair : readPair (readValue (depthLimit - 1)) (lineOf key text ++ rest) =
      value?.map fun value => (⟨[], String.ofList key, value⟩, '\n' :: rest) := by
    have read := reads.reads (depthLimit - 1) rest
    obtain ⟨c, front, rfl, solid⟩ := reads.solid
    have skipped : skipSpace (' ' :: (c :: front ++ '\n' :: rest)) = c :: front ++ '\n' :: rest :=
      skipSpace_cons solid _
    have equals : expect '=' ('=' :: ' ' :: (c :: front ++ '\n' :: rest)) =
        some (' ' :: (c :: front ++ '\n' :: rest)) := rfl
    rw [lineOf_append, readPair, bare.readKey]
    simp only [Option.bind_eq_bind, Option.bind_some, List.getLast?_singleton, equals, skipped,
      read, List.dropLast_singleton]
    cases value? <;> rfl
  obtain ⟨c, front, rfl, _, first⟩ := bare.front
  rw [lineOf_append, List.cons_append] at pair ⊢
  rw [readStatement, pair, Option.map_map]
  · rfl
  · exact fun _ same => ne_of_test first rfl (List.cons.inj same).1

/-- A document that starts with a written line goes on behind it. -/
theorem readLines_line (bare : Bare key) (reads : Reads text value?) (count : Nat)
    (rest : List Char) :
    readLines (count + 1) (lineOf key text ++ rest) =
      value?.bind fun value =>
        (readLines count rest).map (.pair ⟨[], String.ofList key, value⟩ :: ·) := by
  have read := readStatement_line bare reads rest
  obtain ⟨c, front, rfl, solid, first⟩ := bare.front
  rw [lineOf_append, List.cons_append] at read ⊢
  have busy : isIdle (c :: (front ++ ' ' :: '=' :: ' ' :: (text ++ '\n' :: rest))) = false := by
    rw [isIdle]
    · exact fun same => List.cons_ne_nil _ _ same
    all_goals exact fun _ same => ne_of_test first rfl (List.cons.inj same).1
  have ended : endLine? ('\n' :: rest) = some rest := rfl
  rw [readLines]
  simp only [skipSpace_cons solid, List.isEmpty_cons, busy, read, Option.bind_eq_bind,
    Bool.false_eq_true, ↓reduceIte]
  cases value? with
  | none => rfl
  | some value =>
    simp only [Option.map_some, Option.bind_some, ended]
    cases readLines count rest <;> rfl

/-- No byte order mark stands before a written line. -/
theorem readStatements_line (bare : Bare key) (text rest : List Char) :
    readStatements (lineOf key text ++ rest) =
      readLines (lineOf key text ++ rest).length (lineOf key text ++ rest) := by
  obtain ⟨c, front, rfl, _, first⟩ := bare.front
  rw [lineOf_append, List.cons_append, readStatements]
  exact fun _ same => ne_of_test first (by decide) (List.cons.inj same).1

end Lines

end PacingHost.Toml
