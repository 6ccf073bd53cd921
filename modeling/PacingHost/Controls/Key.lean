/-! # Keys and input -/

namespace PacingHost

inductive Key where
  | num1 | num2 | num3 | num4
  | b | n | o | w | x | z
  | f6 | f9 | f11
  | space | escape | tab | enter | backspace
  | up | down | left | right
deriving DecidableEq, Repr

/-- What the platform delivers. -/
inductive Input where
  | press (key : Key)
  | release (key : Key)
  /-- The window was closed. -/
  | quit
deriving DecidableEq, Repr

/-- The keys that are held down, each once. -/
structure HeldKeys where
  keys : List Key := []
deriving DecidableEq, Repr

namespace HeldKeys

def isDown (held : HeldKeys) (key : Key) : Bool := held.keys.contains key

/-- Follow the level of the key an input is about. -/
def update (held : HeldKeys) : Input → HeldKeys
  | .press key => if held.isDown key then held else ⟨key :: held.keys⟩
  | .release key => ⟨held.keys.filter (· != key)⟩
  | .quit => held

@[simp] theorem isDown_press (held : HeldKeys) (pressed key : Key) :
    (held.update (.press pressed)).isDown key = (key == pressed || held.isDown key) := by
  simp only [update]
  split
  · next already =>
    by_cases same : key = pressed
    · simp only [same, BEq.rfl, Bool.true_or, already]
    · simp only [beq_eq_false_iff_ne.mpr same, Bool.false_or]
  · simp only [isDown, List.contains_cons]

@[simp] theorem isDown_release (held : HeldKeys) (released key : Key) :
    (held.update (.release released)).isDown key = (held.isDown key && key != released) := by
  rw [Bool.eq_iff_iff]
  simp only [update, isDown, List.contains_iff_mem, List.mem_filter, Bool.and_eq_true]

@[simp] theorem isDown_quit (held : HeldKeys) (key : Key) :
    (held.update .quit).isDown key = held.isDown key := rfl

end HeldKeys

end PacingHost
