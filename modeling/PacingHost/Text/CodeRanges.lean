/-! # Sets of characters

A set of characters is written as the ranges of their codes, in order and apart from each other.
The range that a code could lie in is looked for by halving. `contains_eq_true_imp` says that a
character which is found lies in one of the ranges, `contains_eq_true_of_mem` that a character of
any range is found.
-/

namespace PacingHost.Text

/-- Ranges of codes, each with its first and its last code. -/
abbrev CodeRanges := Array (Nat × Nat)

namespace CodeRanges

/-- The first of the ranges between two places that ends at a code or behind it, found in at most so
many steps. -/
def seek (ranges : CodeRanges) (code low high : Nat) : Nat → Nat
  | 0 => low
  | steps + 1 =>
    let middle := (low + high) / 2
    if high ≤ low then low
    else if (ranges.getD middle (0, 0)).2 < code then seek ranges code (middle + 1) high steps
    else seek ranges code low middle steps

def contains (ranges : CodeRanges) (c : Char) : Bool :=
  match ranges[ranges.seek c.toNat 0 ranges.size ranges.size]? with
  | some (first, last) => first ≤ c.toNat && c.toNat ≤ last
  | none => false

/-- Every range ends at its start or behind it, and before the next one starts. -/
structure Ordered (ranges : CodeRanges) : Prop where
  whole : ∀ i, (bound : i < ranges.size) → ranges[i].1 ≤ ranges[i].2
  apart : ∀ i j, (before : i < j) → (bound : j < ranges.size) → ranges[i].2 < ranges[j].1

theorem contains_eq_true_imp {ranges : CodeRanges} {c : Char}
    (found : ranges.contains c = true) :
    ∃ range ∈ ranges, range.1 ≤ c.toNat ∧ c.toNat ≤ range.2 := by
  unfold contains at found
  split at found
  · rename_i first last place
    simp only [Bool.and_eq_true, decide_eq_true_eq] at found
    exact ⟨(first, last), Array.mem_of_getElem? place, found⟩
  · cases found

/-- The search ends at a range if all before it end before the code and it does not. -/
theorem seek_eq {ranges : CodeRanges} {code place : Nat} (bound : place < ranges.size)
    (before : ∀ i, (h : i < place) → ranges[i].2 < code)
    (behind : ∀ i, place ≤ i → (h : i < ranges.size) → code ≤ ranges[i].2)
    {low high steps : Nat} (above : low ≤ place) (below : place ≤ high)
    (inside : high ≤ ranges.size) (enough : high - low ≤ steps) :
    ranges.seek code low high steps = place := by
  induction steps generalizing low high with
  | zero => simp only [seek]; omega
  | succ steps ih =>
    simp only [seek]
    split
    · omega
    · rename_i wide
      have middle_lt : (low + high) / 2 < ranges.size := by omega
      have there : ranges.getD ((low + high) / 2) (0, 0) = ranges[(low + high) / 2] := by
        simp only [Array.getD_eq_getD_getElem?, Array.getElem?_eq_getElem middle_lt,
          Option.getD_some]
      rw [there]
      split
      · rename_i small
        refine ih ?_ below inside (by omega)
        rcases Nat.lt_or_ge ((low + high) / 2) place with less | more
        · omega
        · exact absurd (behind _ more middle_lt) (by omega)
      · rename_i large
        refine ih above ?_ (by omega) (by omega)
        rcases Nat.lt_or_ge ((low + high) / 2) place with less | more
        · exact absurd (before _ less) (by omega)
        · exact more

theorem contains_eq_true_of_mem {ranges : CodeRanges} (ordered : ranges.Ordered) {c : Char}
    {range : Nat × Nat} (member : range ∈ ranges) (from_first : range.1 ≤ c.toNat)
    (to_last : c.toNat ≤ range.2) : ranges.contains c = true := by
  obtain ⟨place, bound, rfl⟩ := Array.getElem_of_mem member
  have found : ranges.seek c.toNat 0 ranges.size ranges.size = place := by
    refine seek_eq bound (fun i less => ?_) (fun i more inside => ?_) (Nat.zero_le _)
      (Nat.le_of_lt bound) (Nat.le_refl _) (Nat.le_of_eq (Nat.sub_zero _))
    · exact Nat.lt_of_lt_of_le (ordered.apart i place less bound) from_first
    · rcases Nat.eq_or_lt_of_le more with rfl | later
      · exact to_last
      · have apart := ordered.apart place i later inside
        have whole := ordered.whole i inside
        omega
  simp only [contains, found, Array.getElem?_eq_getElem bound, Bool.and_eq_true,
    decide_eq_true_eq]
  exact ⟨from_first, to_last⟩

end CodeRanges

end PacingHost.Text
