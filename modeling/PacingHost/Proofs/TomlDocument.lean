import PacingHost.Proofs.TomlLine
import PacingHost.Toml.Document

/-! # Documents of lines

A document may consist of lines alone, each a bare key with an integer, a truth value or a string.
It describes the entries of its lines in their order, unless one of them is refused by itself or the
keys are not distinct.
-/

namespace PacingHost.Toml

/-- A value as it stands in a line: an integer in decimal, a truth value, or a string in a form that
holds it. -/
inductive Written where
  | number (value : Int)
  | truth (value : Bool)
  | text (form : Form) (content : List Char) (holds : form.Holds content)

namespace Written

def chars : Written → List Char
  | number value => decimal value
  | truth value => Toml.truth value
  | text form content _ => form.write content

def value : Written → Value
  | number value => .integer value
  | truth value => .boolean value
  | text _ content _ => .string (String.ofList content)

/-- Integers have 64 bits. -/
def Valid : Written → Prop
  | number value => -9223372036854775808 ≤ value ∧ value ≤ 9223372036854775807
  | truth _ | text .. => True

instance : DecidablePred Valid
  | number value =>
    inferInstanceAs (Decidable (-9223372036854775808 ≤ value ∧ value ≤ 9223372036854775807))
  | truth _ => inferInstanceAs (Decidable True)
  | text .. => inferInstanceAs (Decidable True)

/-- A valid value is read, any other is refused. -/
theorem reads (written : Written) :
    Reads written.chars (if written.Valid then some written.value else none) := by
  cases written with
  | number value => exact reads_decimal value
  | truth value =>
    rw [if_pos (show (truth value).Valid from trivial)]
    exact reads_truth value
  | text form content holds =>
    rw [if_pos (show (text form content holds).Valid from trivial)]
    exact holds.reads

end Written

structure Line where
  key : String
  bare : Bare key.toList
  written : Written

namespace Line

def chars (line : Line) : List Char := lineOf line.key.toList line.written.chars

def entry (line : Line) : String × Value := (line.key, line.written.value)

end Line

/-- The statement that an entry comes from. -/
def Pair.ofEntry (entry : String × Value) : Pair := ⟨[], entry.1, entry.2⟩

/-- Lines are read as their entries, or refused with one of them. -/
theorem readLines_lines (lines : List Line) {count : Nat} (enough : lines.length ≤ count) :
    readLines count (lines.flatMap Line.chars) =
      if ∀ line ∈ lines, line.written.Valid then
        some (((lines.map Line.entry).map Pair.ofEntry).map .pair)
      else none := by
  induction lines generalizing count with
  | nil =>
    rw [if_pos (List.forall_mem_nil _)]
    cases count <;> rfl
  | cons line lines ih =>
    rw [List.length_cons] at enough
    obtain ⟨count, rfl⟩ : ∃ less, count = less + 1 := ⟨count - 1, by omega⟩
    have read := readLines_line line.bare line.written.reads count (lines.flatMap Line.chars)
    rw [List.flatMap_cons, Line.chars, read, ih (by omega), String.ofList_toList]
    simp only [List.forall_mem_cons]
    by_cases valid : line.written.Valid
    · simp only [valid, ↓reduceIte, true_and, Option.bind_some]
      split <;> rfl
    · simp only [valid, ↓reduceIte, false_and, Option.bind_none]

theorem length_le_flatMap_chars (lines : List Line) :
    lines.length ≤ (lines.flatMap Line.chars).length := by
  induction lines with
  | nil => exact Nat.le_refl 0
  | cons line lines ih =>
    have long : 0 < line.chars.length := by
      rw [Line.chars, lineOf, List.length_append, List.length_singleton]
      omega
    rw [List.flatMap_cons, List.length_append, List.length_cons]
    omega

/-- A document without headers describes the entries of its pairs. -/
theorem build_pairs (pairs : List Pair) :
    build (pairs.map .pair) = Entries.addAll pairs [] := by
  have whole : sections .document (pairs.map .pair) = [⟨.document, pairs⟩] := by
    induction pairs with
    | nil => rfl
    | cons pair pairs ih => rw [List.map_cons, sections, ih]
  rw [build, whole]
  change (Entries.addAll pairs []).bind some = _
  cases Entries.addAll pairs [] <;> rfl

/-- A document of lines is parsed by adding its entries. -/
theorem parse_lines (lines : List Line) :
    parse (lines.flatMap Line.chars) =
      if ∀ line ∈ lines, line.written.Valid then
        Entries.addAll ((lines.map Line.entry).map Pair.ofEntry) []
      else none := by
  have noMark : readStatements (lines.flatMap Line.chars) =
      readLines (lines.flatMap Line.chars).length (lines.flatMap Line.chars) := by
    cases lines with
    | nil => rfl
    | cons line lines => exact readStatements_line line.bare _ _
  rw [parse, noMark, readLines_lines lines (length_le_flatMap_chars lines)]
  split
  · exact build_pairs _
  · rfl

namespace Entries

/-- Added entries stand behind those that were there. -/
theorem eq_of_addAll {entries added result : Entries}
    (built : addAll (entries.map Pair.ofEntry) added = some result) :
    result = added ++ entries := by
  induction entries generalizing added with
  | nil =>
    cases built
    exact (List.append_nil _).symm
  | cons entry entries ih =>
    rw [List.map_cons, addAll, List.foldlM_cons, Option.bind_eq_bind, Option.bind_eq_some_iff]
      at built
    obtain ⟨more, first, later⟩ := built
    have there : more = added ++ [entry] := by
      simp only [Pair.ofEntry, add] at first
      split at first
      · cases first
      · cases first
        rfl
    rw [ih later, there, List.append_assoc]
    rfl

/-- Entries with distinct keys, none of them there yet, are all added. -/
theorem addAll_fresh {entries added : Entries} (distinct : (entries.map Prod.fst).Nodup)
    (fresh : ∀ entry ∈ entries, added.lookup entry.1 = none) :
    addAll (entries.map Pair.ofEntry) added = some (added ++ entries) := by
  induction entries generalizing added with
  | nil => exact congrArg some (List.append_nil added).symm
  | cons entry entries ih =>
    rw [List.map_cons, List.nodup_cons] at distinct
    obtain ⟨new, distinct⟩ := distinct
    have first : add entry.1 entry.2 [] added = some (added ++ [entry]) :=
      add_nil (fresh entry List.mem_cons_self)
    have stillFresh : ∀ other ∈ entries, (added ++ [entry]).lookup other.1 = none := by
      intro other member
      have apart : other.1 ≠ entry.1 := fun same => new (same ▸ List.mem_map_of_mem member)
      rw [List.lookup_append, fresh other (List.mem_cons_of_mem _ member), Option.none_or,
        List.lookup_cons, beq_eq_false_iff_ne.mpr apart, List.lookup_nil]
    rw [List.map_cons, addAll, List.foldlM_cons]
    change (add entry.1 entry.2 [] added).bind _ = _
    rw [first]
    change addAll _ (added ++ [entry]) = _
    rw [ih distinct stillFresh, List.append_assoc]
    rfl

end Entries

/-- Valid lines with distinct keys are parsed as their entries. -/
theorem parse_lines_of_distinct {lines : List Line} (distinct : (lines.map Line.key).Nodup)
    (valid : ∀ line ∈ lines, line.written.Valid) :
    parse (lines.flatMap Line.chars) = some (lines.map Line.entry) := by
  have keys : ((lines.map Line.entry).map Prod.fst).Nodup := by rwa [List.map_map]
  rw [parse_lines, if_pos valid, Entries.addAll_fresh keys fun _ _ => List.lookup_nil,
    List.nil_append]

/-- Lines are parsed as their entries or not at all. -/
theorem eq_of_parse_lines {lines : List Line} {entries : Entries}
    (parsed : parse (lines.flatMap Line.chars) = some entries) :
    entries = lines.map Line.entry := by
  rw [parse_lines] at parsed
  split at parsed
  · exact Entries.eq_of_addAll parsed
  · cases parsed

end PacingHost.Toml
