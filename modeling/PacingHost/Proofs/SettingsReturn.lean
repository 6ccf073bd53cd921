import PacingHost.Proofs.FileWrite
import PacingHost.Proofs.Report
import PacingHost.Proofs.TomlDocument
import PacingHost.Settings.Store

/-! # Settings that were saved come back

Settings are written as one line for each field, and the document of these lines describes a table
with one entry for each field. Reading lays the entries over the defaults, and since all fields are
there nothing of the defaults is left. A file that was written holds what was written, so loading
the file that settings were saved to gives the same settings.
-/

namespace PacingHost

namespace Field

/-- The value of a field in a document. -/
def value (settings : Settings) : Field → Toml.Value
  | .word field => .integer (field.get settings).toNat
  | .text field => .string (field.get settings)

theorem bare_name (field : Field) : Toml.Bare field.name.toList := by
  rcases field with field | field <;> cases field <;> decide +kernel

/-- The line of a field, as a line of a document. -/
def toLine (settings : Settings) (field : Field) : Toml.Line where
  key := field.name
  bare := field.bare_name
  written :=
    match field with
    | .word field => .number (field.get settings).toNat
    | .text field => .text _ _ (Toml.holds_formOf (field.get settings).toList)

theorem chars_toLine (settings : Settings) (field : Field) :
    (field.toLine settings).chars = field.line settings := by
  cases field with
  | word field =>
    exact congrArg (Toml.lineOf field.name.toList)
      (Toml.decimal_natCast (field.get settings).toNat)
  | text field =>
    exact congrArg (Toml.lineOf field.name.toList)
      (Toml.quote_eq (field.get settings).toList).symm

theorem entry_toLine (settings : Settings) (field : Field) :
    (field.toLine settings).entry = (field.name, field.value settings) := by
  cases field with
  | word field => rfl
  | text field =>
    exact congrArg (fun text => (field.name, Toml.Value.string text)) String.ofList_toList

theorem valid_toLine (settings : Settings) (field : Field) :
    (field.toLine settings).written.Valid := by
  cases field with
  | word field =>
    have small := (field.get settings).toNat_lt
    exact ⟨by omega, by omega⟩
  | text field => exact trivial

/-- Copy a field from some settings to others. -/
def copy (source target : Settings) : Field → Settings
  | .word field => field.set target (field.get source)
  | .text field => field.set target (field.get source)

theorem overlay_name (settings : Settings) (field : Field) (value : Toml.Value) :
    settings.overlay (field.name, value) = field.set settings value := by
  rw [Settings.overlay, ofName?_name]

/-- A number of 32 bits is set. -/
theorem set_number (settings : Settings) (field : WordField) (number : UInt32) :
    (word field).set settings (.integer number.toNat) = some (field.set settings number) := by
  have fits : (0 : Int) ≤ number.toNat ∧ (number.toNat : Int).toNat < Word.limit :=
    ⟨Int.natCast_nonneg _, number.toNat_lt⟩
  rw [set, if_pos fits, Int.toNat_natCast, UInt32.ofNat_toNat]

/-- An entry with the value of a field copies it. -/
theorem overlay_value (source target : Settings) (field : Field) :
    target.overlay (field.name, field.value source) = some (field.copy source target) := by
  rw [overlay_name]
  cases field with
  | word field => exact set_number target field (field.get source)
  | text field => rfl

end Field

namespace Settings

variable (settings : Settings)

/-- A document of the lines of distinct fields describes their entries. -/
theorem parse_toml_fields {fields : List Field} (distinct : (fields.map Field.name).Nodup) :
    Toml.parse (fields.flatMap (Field.line settings)) =
      some (fields.map fun field => (field.name, field.value settings)) := by
  have text : fields.flatMap (Field.line settings) =
      (fields.map (Field.toLine settings)).flatMap Toml.Line.chars := by
    simp only [List.flatMap_map, Field.chars_toLine]
  have keys : ((fields.map (Field.toLine settings)).map Toml.Line.key).Nodup := by
    rwa [List.map_map]
  have valid : ∀ line ∈ fields.map (Field.toLine settings), line.written.Valid := by
    intro line member
    obtain ⟨field, _, rfl⟩ := List.mem_map.mp member
    exact field.valid_toLine settings
  rw [text, Toml.parse_lines_of_distinct keys valid, List.map_map]
  exact congrArg (fun entry => some (fields.map entry)) (funext (Field.entry_toLine settings))

/-- The entries of some fields copy these fields. -/
theorem foldlM_overlay (fields : List Field) (target : Settings) :
    (fields.map fun field => (field.name, field.value settings)).foldlM overlay target =
      some (fields.foldl (fun target field => field.copy settings target) target) := by
  induction fields generalizing target with
  | nil => rfl
  | cons field fields ih =>
    rw [List.map_cons, List.foldlM_cons, Field.overlay_value]
    exact ih _

/-- When all fields are copied, nothing is left of the settings they are laid over. -/
theorem foldl_copy_all (target : Settings) :
    Field.all.foldl (fun target field => field.copy settings target) target = settings := by
  cases settings
  simp only [Field.all, List.foldl_cons, List.foldl_nil, Field.copy, WordField.set, WordField.get,
    TextField.set, TextField.get]

/-- The text of some settings is read as these settings. -/
theorem parse_render : parse settings.render = some settings := by
  have text : settings.render.toList = Field.all.flatMap (Field.line settings) :=
    String.toList_ofList
  have distinct : (Field.all.map Field.name).Nodup := by decide
  rw [parse, text, settings.parse_toml_fields distinct, Option.bind_some, ofEntries,
    foldlM_overlay, foldl_copy_all]

/-! ## Files -/

theorem toList_loop (bytes : ByteArray) (start : Nat) (front : List UInt8) :
    ByteArray.toList.loop bytes start front = front.reverse ++ bytes.data.toList.drop start := by
  fun_induction ByteArray.toList.loop bytes start front with
  | case1 start front more ih =>
    have within : start < bytes.data.toList.length := by
      rw [Array.length_toList]
      exact more
    have byte : bytes.get! start = bytes.data.toList[start] := getElem!_pos bytes.data start more
    rw [ih, List.drop_eq_getElem_cons within, byte, List.reverse_cons, List.append_assoc]
    rfl
  | case2 start front ended =>
    have behind : bytes.data.toList.length ≤ start := by
      rw [Array.length_toList]
      exact Nat.le_of_not_lt ended
    rw [List.drop_eq_nil_of_le behind, List.append_nil]

/-- A text is decoded from its bytes. -/
theorem decode_toUTF8 (text : String) : decode text.toUTF8.toList = some text := by
  have bytes : text.toUTF8.toList = text.toUTF8.data.toList := by
    rw [ByteArray.toList, toList_loop, List.reverse_nil, List.nil_append, List.drop_zero]
  rw [decode, bytes]
  exact dif_pos text.isValidUTF8

/-- A file with the text of some settings holds these settings. -/
theorem ofContent_render (path : String) :
    ofContent path (.ok settings.render.toUTF8.toList) = .ok settings := by
  simp only [ofContent, decode_toUTF8, parse_render]

/-- Saving succeeds when the file was written. -/
theorem save_eq_ok_iff {tree : FileTree} {path : String} :
    (save tree path settings).2 = .ok () ↔
      (tree.writeDeep path settings.render.toUTF8.toList).2 = none := by
  unfold save
  rcases tree.writeDeep path settings.render.toUTF8.toList with ⟨written, _ | failure⟩
  · exact ⟨fun _ => rfl, fun _ => rfl⟩
  · constructor <;> intro refused <;> cases refused

/-- Whatever the settings are, the text that is saved is read as these settings. If saving to a file
succeeds, the file holds this text, and loading from it gives the settings back. -/
theorem load_of_save (path : String) :
    ofContent path (.ok settings.render.toUTF8.toList) = .ok settings ∧
      ∀ tree, (save tree path settings).2 = .ok () →
        (save tree path settings).1.read path = .ok settings.render.toUTF8.toList ∧
          (load (save tree path settings).1 path).result = .ok settings := by
  refine ⟨settings.ofContent_render path, ?_⟩
  intro tree saved
  have held : (save tree path settings).1.read path = .ok settings.render.toUTF8.toList :=
    FileTree.read_of_writeDeep (settings.save_eq_ok_iff.mp saved)
  refine ⟨held, ?_⟩
  have loaded : (Report.ofExcept (ofContent path ((save tree path settings).1.read path))).result =
      .ok settings := by
    rw [held]
    exact settings.ofContent_render path
  rw [load, (Report.bind_of_ok loaded _).1]
  rfl

/-- Settings whose texts need every form: quotes of both kinds, two and three in a row and at both
ends, escapes, line ends, controls and characters far from ASCII. -/
def crowded : Settings where
  audioFrequency := 0
  audioFrames := 4294967295
  logLevel := "\"'''\"\"\"\\n\r\n\t\x00\x7f\"\""
  logFile := "''\"𝄞é\n''"

theorem load_of_save_crowded :
    (save {} "emuhost/config.toml" crowded).2 = .ok () ∧
      ofContent "emuhost/config.toml" (.ok crowded.render.toUTF8.toList) = .ok crowded ∧
      (save {} "emuhost/config.toml" crowded).1.read "emuhost/config.toml" =
        .ok crowded.render.toUTF8.toList ∧
      (load (save {} "emuhost/config.toml" crowded).1 "emuhost/config.toml").result =
        .ok crowded := by
  have saved : (save {} "emuhost/config.toml" crowded).2 = .ok () :=
    crowded.save_eq_ok_iff.mpr (by decide +kernel)
  obtain ⟨read, held⟩ := crowded.load_of_save "emuhost/config.toml"
  exact ⟨saved, read, held {} saved⟩

end Settings

end PacingHost
