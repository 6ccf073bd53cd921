/-! # Cutting at bytes

Places in a text are counted in bytes. A text can be cut at a place unless the place lies inside a
character or behind the end. `splitAt?_eq_some_iff` says what the two parts are.
-/

namespace PacingHost.Text

/-- How many bytes a text takes. -/
def byteSize : List Char → Nat
  | [] => 0
  | c :: rest => c.utf8Size + byteSize rest

/-- What stands before a place and what stands behind it. -/
def splitAt? : Nat → List Char → Option (List Char × List Char)
  | 0, text => some ([], text)
  | _ + 1, [] => none
  | place + 1, c :: rest =>
    if place + 1 < c.utf8Size then none
    else (splitAt? (place + 1 - c.utf8Size) rest).map fun (front, back) => (c :: front, back)

theorem splitAt?_byteSize_append (front back : List Char) :
    splitAt? (byteSize front) (front ++ back) = some (front, back) := by
  induction front with
  | nil => simp only [byteSize, List.nil_append, splitAt?]
  | cons c front ih =>
    have positive := c.utf8Size_pos
    obtain ⟨size, known⟩ : ∃ size, c.utf8Size + byteSize front = size + 1 :=
      ⟨c.utf8Size + byteSize front - 1, by omega⟩
    have left : size + 1 - c.utf8Size = byteSize front := by omega
    simp only [byteSize, List.cons_append, known, splitAt?, left, ih, Option.map_some]
    rw [if_neg (by omega)]

/-- The parts of a text that is cut are the text again, and the first takes the bytes up to the
place. -/
theorem splitAt?_eq_some_iff {place : Nat} {text front back : List Char} :
    splitAt? place text = some (front, back) ↔ front ++ back = text ∧ byteSize front = place := by
  constructor
  · intro cut
    fun_induction splitAt? place text generalizing front back with
    | case1 => cases cut; exact ⟨rfl, rfl⟩
    | case2 => cases cut
    | case3 => cases cut
    | case4 place c rest fits ih =>
      obtain ⟨⟨before, behind⟩, inner, same⟩ := Option.map_eq_some_iff.mp cut
      cases same
      obtain ⟨whole, size⟩ := ih inner
      exact ⟨by rw [List.cons_append, whole], by simp only [byteSize, size]; omega⟩
  · rintro ⟨rfl, rfl⟩
    exact splitAt?_byteSize_append front back

example : splitAt? 1 ['é', 'x'] = none := by decide +kernel

end PacingHost.Text
