import PacingHost.Proofs.SettingsReturn

/-! # A file lies over the defaults

A file may give some of the fields, in any order and with keys in between that are no fields. Every
entry of such a file either sets one field or changes nothing, so the fields it gives have the given
values and the others keep their defaults. An entry that gives a field a value of another kind, or a
number that does not fit, is refused whatever it is laid over, and the whole file with it.
-/

namespace PacingHost

namespace Field

theorem value_set_word (settings : Settings) (field : WordField) (number : UInt32) (other : Field) :
    other.value (field.set settings number) =
      if other = word field then .integer number.toNat else other.value settings := by
  rcases other with other | other <;> cases field <;> cases other <;> rfl

theorem value_set_text (settings : Settings) (field : TextField) (content : String)
    (other : Field) :
    other.value (field.set settings content) =
      if other = text field then .string content else other.value settings := by
  rcases other with other | other <;> cases field <;> cases other <;> rfl

theorem name_injective : Function.Injective name := by
  intro field other same
  have found := ofName?_name other
  rw [← same, ofName?_name] at found
  exact Option.some.inj found

theorem ofName?_eq_none {key : String} (apart : ∀ field : Field, key ≠ field.name) :
    ofName? key = none := by
  simp only [ofName?, List.find?_eq_none, decide_eq_true_eq]
  exact fun field _ same => apart field same.symm

end Field

namespace Settings

variable {lines : List Toml.Line} {line : Toml.Line} {settings : Settings}

/-- The line gives a field a value that it can have, or its key is no field. -/
inductive Suits (line : Toml.Line) : Prop
  | word (field : WordField) (number : UInt32) (key : line.key = (Field.word field).name)
      (written : line.written = .number number.toNat)
  | text (field : TextField) (form : Toml.Form) (content : List Char)
      (holds : form.Holds content) (key : line.key = (Field.text field).name)
      (written : line.written = .text form content holds)
  | unknown (apart : ∀ field : Field, line.key ≠ field.name) (valid : line.written.Valid)

/-- The line gives a field a value that it cannot have. -/
inductive Misfits (line : Toml.Line) : Prop
  | outside (field : WordField) (number : Int) (key : line.key = (Field.word field).name)
      (written : line.written = .number number) (far : number < 0 ∨ 4294967296 ≤ number)
  | quoted (field : WordField) (form : Toml.Form) (content : List Char)
      (holds : form.Holds content) (key : line.key = (Field.word field).name)
      (written : line.written = .text form content holds)
  | unquoted (field : TextField) (number : Int) (key : line.key = (Field.text field).name)
      (written : line.written = .number number)
  | truth (field : Field) (value : Bool) (key : line.key = field.name)
      (written : line.written = .truth value)

theorem Suits.valid (suits : Suits line) : line.written.Valid := by
  cases suits with
  | word field number key written =>
    have small := number.toNat_lt
    rw [written]
    exact ⟨by omega, by omega⟩
  | text field form content holds key written =>
    rw [written]
    trivial
  | unknown apart valid => exact valid

/-- A line that suits gives its field the value, if it is one of a field, and nothing else. -/
theorem Suits.overlay (suits : Suits line) (settings : Settings) :
    ∃ next, settings.overlay line.entry = some next ∧
      ∀ field : Field, field.value next =
        if field.name = line.key then line.written.value else field.value settings := by
  cases suits with
  | word field number key written =>
    rw [Toml.Line.entry, key, written]
    refine ⟨_, (Field.overlay_name ..).trans (Field.set_number settings field number), ?_⟩
    intro other
    simp only [Field.value_set_word, Field.name_injective.eq_iff]
    rfl
  | text field form content holds key written =>
    rw [Toml.Line.entry, key, written]
    refine ⟨_, Field.overlay_name settings (.text field) _, ?_⟩
    intro other
    simp only [Field.value_set_text, Field.name_injective.eq_iff]
    rfl
  | unknown apart valid =>
    refine ⟨settings, ?_, ?_⟩
    · rw [Settings.overlay, Toml.Line.entry, Field.ofName?_eq_none apart]
    · intro field
      rw [if_neg (apart field).symm]

/-- A line that does not suit is refused whatever it is laid over. -/
theorem Misfits.overlay (misfits : Misfits line) (settings : Settings) :
    settings.overlay line.entry = none := by
  cases misfits with
  | outside field number key written far =>
    have limit : Word.limit = 4294967296 := rfl
    rw [Toml.Line.entry, key, written]
    exact (Field.overlay_name settings (.word field) _).trans (if_neg (by omega))
  | quoted field form content holds key written =>
    rw [Toml.Line.entry, key, written]
    exact Field.overlay_name settings (.word field) _
  | unquoted field number key written =>
    rw [Toml.Line.entry, key, written]
    exact Field.overlay_name settings (.text field) _
  | truth field value key written =>
    rw [Toml.Line.entry, key, written, Field.overlay_name]
    cases field <;> rfl

/-- The fields that lines give have the given values, and the others keep theirs. -/
structure LaidOver (lines : List Toml.Line) (below settings : Settings) : Prop where
  given : ∀ field : Field, ∀ line ∈ lines, line.key = field.name →
    field.value settings = line.written.value
  kept : ∀ field : Field, (∀ line ∈ lines, line.key ≠ field.name) →
    field.value settings = field.value below

/-- Lines that suit, with distinct keys, are laid over any settings. -/
theorem foldlM_overlay_of_suits (distinct : (lines.map Toml.Line.key).Nodup)
    (suit : ∀ line ∈ lines, Suits line) (below : Settings) :
    ∃ settings, (lines.map Toml.Line.entry).foldlM Settings.overlay below = some settings ∧
      LaidOver lines below settings := by
  induction lines generalizing below with
  | nil => exact ⟨below, rfl, nofun, fun _ _ => rfl⟩
  | cons line lines ih =>
    rw [List.map_cons, List.nodup_cons] at distinct
    obtain ⟨new, distinct⟩ := distinct
    obtain ⟨suits, later⟩ := List.forall_mem_cons.mp suit
    obtain ⟨next, made, first⟩ := suits.overlay below
    obtain ⟨settings, rest, laid⟩ := ih distinct later next
    refine ⟨settings, ?_, ?_, ?_⟩
    · rw [List.map_cons, List.foldlM_cons, made]
      exact rest
    · intro field other member key
      rcases List.mem_cons.mp member with rfl | member
      · -- No later line has the key, so the value stays.
        have stays := laid.kept field fun another found same =>
          new (List.mem_map.mpr ⟨another, found, same.trans key.symm⟩)
        rw [stays, first, if_pos key.symm]
      · exact laid.given field other member key
    · intro field apart
      obtain ⟨here, after⟩ := List.forall_mem_cons.mp apart
      rw [laid.kept field after, first, if_neg here.symm]

/-- One line that does not suit is enough. -/
theorem foldlM_overlay_of_misfits (misfits : Misfits line) (member : line ∈ lines)
    (below : Settings) :
    (lines.map Toml.Line.entry).foldlM Settings.overlay below = none := by
  induction lines generalizing below with
  | nil => cases member
  | cons first lines ih =>
    rw [List.map_cons, List.foldlM_cons]
    rcases List.mem_cons.mp member with rfl | member
    · rw [misfits.overlay]
      rfl
    · cases below.overlay first.entry with
      | none => rfl
      | some next => exact ih member next

/-- The text of a file that consists of lines. -/
def document (lines : List Toml.Line) : String := String.ofList (lines.flatMap Toml.Line.chars)

theorem parse_document_of_suits (distinct : (lines.map Toml.Line.key).Nodup)
    (suit : ∀ line ∈ lines, Suits line) :
    ∃ settings, parse (document lines) = some settings ∧ LaidOver lines {} settings := by
  have parsed := Toml.parse_lines_of_distinct distinct fun line member => (suit line member).valid
  rw [parse, document, String.toList_ofList, parsed]
  exact foldlM_overlay_of_suits distinct suit {}

theorem parse_document_of_misfits (misfits : Misfits line) (member : line ∈ lines) :
    parse (document lines) = none := by
  rw [parse, document, String.toList_ofList]
  cases parsed : Toml.parse (lines.flatMap Toml.Line.chars) with
  | none => rfl
  | some entries =>
    rw [Toml.eq_of_parse_lines parsed]
    exact foldlM_overlay_of_misfits misfits member {}

/-- What is loaded depends on what the file holds. -/
theorem result_load {tree : FileTree} {path : String} {text : String}
    (held : tree.read path = .ok text.toUTF8.toList) :
    (load tree path).result =
      (parse text).elim (.error (.parse path "TOML parse error")) .ok := by
  have read : ofContent path (tree.read path) =
      (parse text).elim (.error (.parse path "TOML parse error")) .ok := by
    rw [held, ofContent]
    simp only [decode_toUTF8]
    cases parse text <;> rfl
  rw [load, read]
  cases parse text <;> rfl

/-- A partial file lies over the defaults. Lines that suit, with distinct keys and in any order, are
loaded as the defaults with exactly their values in place; a single line that gives a field a value
it cannot have makes loading fail, whatever the other lines are. -/
theorem load_overlay {tree : FileTree} {path : String}
    (held : tree.read path = .ok (document lines).toUTF8.toList) :
    ((lines.map Toml.Line.key).Nodup → (∀ line ∈ lines, Suits line) →
      ∃ settings, (load tree path).result = .ok settings ∧ LaidOver lines {} settings) ∧
    ((∃ line ∈ lines, Misfits line) →
      (load tree path).result = .error (.parse path "TOML parse error")) := by
  rw [result_load held]
  constructor
  · intro distinct suit
    obtain ⟨settings, parsed, laid⟩ := parse_document_of_suits distinct suit
    exact ⟨settings, by rw [parsed, Option.elim_some], laid⟩
  · rintro ⟨line, member, misfits⟩
    rw [parse_document_of_misfits misfits member, Option.elim_none]

/-- Two settings between keys that are none. -/
def sparse : List Toml.Line :=
  [⟨"zoom", by decide +kernel, .truth true⟩,
    ⟨"audio_max_buffers", by decide +kernel, .number 9⟩,
    ⟨"log_level", by decide +kernel, .text .longBasic "warn".toList trivial⟩,
    ⟨"a-1", by decide +kernel, .number (-5)⟩]

/-- The number of frames is one more than 32 bits hold. -/
def unfit : Toml.Line := ⟨"audio_frames", by decide +kernel, .number 4294967296⟩

theorem suits_sparse : ∀ line ∈ sparse, Suits line := by
  have zoom : ∀ field : Field, "zoom" ≠ field.name := by
    rintro (field | field) <;> cases field <;> decide
  have dashed : ∀ field : Field, "a-1" ≠ field.name := by
    rintro (field | field) <;> cases field <;> decide
  simp only [sparse, List.forall_mem_cons]
  exact ⟨.unknown zoom trivial, .word .maxBuffers 9 rfl rfl, .text .logLevel _ _ _ rfl rfl,
    .unknown dashed ⟨by decide, by decide⟩, nofun⟩

/-- The sparse file is loaded, and refused once a number in it does not fit. -/
theorem load_overlay_sparse :
    ∃ tree settings, tree.read "config.toml" = .ok (document sparse).toUTF8.toList ∧
      (load tree "config.toml").result = .ok settings ∧ LaidOver sparse {} settings ∧
      ∃ other, other.read "config.toml" = .ok (document (unfit :: sparse)).toUTF8.toList ∧
        (load other "config.toml").result = .error (.parse "config.toml" "TOML parse error") := by
  have written :
      (FileTree.writeDeep {} "config.toml" (document sparse).toUTF8.toList).2 = none := by
    decide +kernel
  have rewritten :
      (FileTree.writeDeep {} "config.toml" (document (unfit :: sparse)).toUTF8.toList).2 =
        none := by
    decide +kernel
  have held := FileTree.read_of_writeDeep written
  have heldAfter := FileTree.read_of_writeDeep rewritten
  have far : Misfits unfit := .outside .audioFrames _ rfl rfl (.inr (Int.le_refl _))
  obtain ⟨settings, loaded, laid⟩ := (load_overlay held).1 (by decide) suits_sparse
  exact ⟨_, settings, held, loaded, laid, _, heldAfter,
    (load_overlay heldAfter).2 ⟨unfit, List.mem_cons_self, far⟩⟩

end Settings

end PacingHost
