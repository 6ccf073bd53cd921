import PacingHost.Files.Tree

/-! # Files that were written

A path leads through directories only, so putting a file where no directory stands leaves every way
through the tree open. A file that was written is found where it was written, with the content it
was given.
-/

namespace PacingHost

namespace FileTree

variable {tree next : FileTree} {place : List String} {content : List UInt8}

theorem lookup_filter_ne {other : List String} (apart : other ≠ place)
    (nodes : List (List String × FileNode)) :
    (nodes.filter (·.1 ≠ place)).lookup other = nodes.lookup other := by
  induction nodes with
  | nil => rfl
  | cons node nodes ih =>
    obtain ⟨key, node⟩ := node
    by_cases same : key = place
    · subst same
      simp only [List.filter_cons, ne_eq, not_true_eq_false, decide_false, Bool.false_eq_true,
        ↓reduceIte, ih, List.lookup_cons, beq_eq_false_iff_ne.mpr apart]
    · simp only [List.filter_cons, ne_eq, same, not_false_eq_true, decide_true, ↓reduceIte,
        List.lookup_cons, ih]

/-- Putting a node somewhere leaves all other places alone. -/
theorem node?_put_of_ne {other : List String} (apart : other ≠ place) (node : FileNode) :
    (tree.put place node).node? other = tree.node? other := by
  cases other with
  | nil => rfl
  | cons name names =>
    change ((place, node) :: tree.nodes.filter (·.1 ≠ place)).lookup (name :: names) = _
    rw [List.lookup_cons, beq_eq_false_iff_ne.mpr apart]
    exact lookup_filter_ne apart tree.nodes

/-- A step that was open stays open when a file is put where no directory stands. -/
theorem step_put (noDirectory : tree.node? place ≠ some .directory) {start reached : List String}
    {part : String} (stepped : tree.step start part = .ok reached) :
    (tree.put place (.file content)).step start part = .ok reached := by
  have apart : start ≠ place := by
    rintro rfl
    unfold step at stepped
    split at stepped
    · cases stepped
    · cases stepped
    · next directory => exact noDirectory directory
  rw [step, node?_put_of_ne apart]
  exact stepped

theorem foldlM_step_put (noDirectory : tree.node? place ≠ some .directory) (parts : List String)
    {start reached : List String} (walked : parts.foldlM tree.step start = .ok reached) :
    parts.foldlM (tree.put place (.file content)).step start = .ok reached := by
  induction parts generalizing start with
  | nil => exact walked
  | cons part parts ih =>
    rw [List.foldlM_cons] at walked ⊢
    cases stepped : tree.step start part with
    | error cause => rw [stepped] at walked; cases walked
    | ok middle =>
      rw [stepped] at walked
      rw [step_put noDirectory stepped]
      exact ih walked

/-- A sequence of calls that can fail succeeds when both of them do. -/
theorem bind_eq_ok_iff {α β : Type} {first : Except FileError α} {later : α → Except FileError β}
    {value : β} :
    (first >>= later) = .ok value ↔ ∃ middle, first = .ok middle ∧ later middle = .ok value := by
  cases first with
  | error cause =>
    constructor
    · intro impossible
      cases impossible
    · rintro ⟨_, impossible, _⟩
      cases impossible
  | ok middle =>
    constructor
    · intro ran
      exact ⟨middle, rfl, ran⟩
    · rintro ⟨other, same, ran⟩
      cases same
      exact ran

/-- A step from a directory by a name leads to that name in it. -/
theorem eq_append_of_step {start reached : List String} {part : String} (noDot : part ≠ ".")
    (noDots : part ≠ "..") (stepped : tree.step start part = .ok reached) :
    reached = start ++ [part] := by
  unfold step at stepped
  rw [if_neg noDot, if_neg noDots] at stepped
  split at stepped
  · cases stepped
  · cases stepped
  · split at stepped <;> cases stepped
    rfl

/-- A file is written at the end of its path, where no directory stands. -/
theorem eq_put_of_write {path : String} (written : tree.write path content = .ok next) :
    ∃ place, tree.locate path = .ok place ∧ place ≠ [] ∧ Path.endsInSlash path = false ∧
      tree.node? place ≠ some .directory ∧ next = tree.put place (.file content) := by
  obtain ⟨start, begun, written⟩ := bind_eq_ok_iff.mp written
  cases last : (Path.parts path).getLast? with
  | none =>
    simp only [last] at written
    cases written
  | some name =>
    simp only [last] at written
    obtain ⟨above, walked, written⟩ := bind_eq_ok_iff.mp written
    split at written
    · obtain ⟨_, _, impossible⟩ := bind_eq_ok_iff.mp written
      cases impossible
    · next named =>
      obtain ⟨noDot, named⟩ := not_or.mp named
      obtain ⟨noDots, noSlash⟩ := not_or.mp named
      obtain ⟨place, stepped, written⟩ := bind_eq_ok_iff.mp written
      split at written
      · cases written
      · next noDirectory =>
        cases written
        have located : tree.locate path = .ok place := by
          obtain ⟨front, parts⟩ := List.getLast?_eq_some_iff.mp last
          rw [parts, List.dropLast_concat] at walked
          refine bind_eq_ok_iff.mpr ⟨start, begun, ?_⟩
          rw [parts, List.foldlM_append]
          exact bind_eq_ok_iff.mpr ⟨above, walked, bind_eq_ok_iff.mpr ⟨place, stepped, rfl⟩⟩
        refine ⟨place, located, ?_, Bool.eq_false_iff.mpr noSlash, noDirectory, rfl⟩
        rw [eq_append_of_step noDot noDots stepped]
        exact List.append_ne_nil_of_right_ne_nil _ (List.cons_ne_nil _ _)

/-- A file that was written holds what was written. -/
theorem read_of_write {path : String} (written : tree.write path content = .ok next) :
    next.read path = .ok content := by
  obtain ⟨place, located, named, noSlash, noDirectory, rfl⟩ := eq_put_of_write written
  obtain ⟨start, begun, walked⟩ := bind_eq_ok_iff.mp located
  have located : (tree.put place (.file content)).locate path = .ok place :=
    bind_eq_ok_iff.mpr ⟨start, begun, foldlM_step_put noDirectory _ walked⟩
  refine bind_eq_ok_iff.mpr ⟨.file content, bind_eq_ok_iff.mpr ⟨place, located, ?_⟩, rfl⟩
  rw [tree.node?_put named]
  simp only [noSlash, Bool.false_eq_true, ↓reduceIte]

/-- So does one that was written after the directories it lies in were made. -/
theorem read_of_writeDeep {path : String} (done : (tree.writeDeep path content).2 = none) :
    (tree.writeDeep path content).1.read path = .ok content := by
  unfold writeDeep at done ⊢
  split at done
  next grown failed _ =>
    cases failed with
    | some failure => cases done
    | none =>
      dsimp only at done ⊢
      cases written : grown.write path content with
      | error cause =>
        rw [written] at done
        cases done
      | ok next => exact read_of_write written

end FileTree

end PacingHost
