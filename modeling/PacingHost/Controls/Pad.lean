import PacingHost.Controls.Key

/-! # The pad

The eight buttons an engine asks about, and the keys that stand for them. A button is down exactly
when a key that stands for it is held.
-/

namespace PacingHost

inductive Button where
  | up | down | left | right | a | b | start | select
deriving DecidableEq, Repr

structure Pad where
  up : Bool := false
  down : Bool := false
  left : Bool := false
  right : Bool := false
  a : Bool := false
  b : Bool := false
  start : Bool := false
  select : Bool := false
deriving DecidableEq, Repr

namespace Pad

def isDown (pad : Pad) : Button → Bool
  | .up => pad.up
  | .down => pad.down
  | .left => pad.left
  | .right => pad.right
  | .a => pad.a
  | .b => pad.b
  | .start => pad.start
  | .select => pad.select

/-- The pad on which exactly some buttons are down. -/
def ofButtons (isDown : Button → Bool) : Pad where
  up := isDown .up
  down := isDown .down
  left := isDown .left
  right := isDown .right
  a := isDown .a
  b := isDown .b
  start := isDown .start
  select := isDown .select

@[simp] theorem isDown_ofButtons (down : Button → Bool) (button : Button) :
    (ofButtons down).isDown button = down button := by
  cases button <;> rfl

end Pad

/-- The keys that stand for buttons. -/
structure PadMap where
  keys : List (Key × Button) :=
    [(.up, .up), (.down, .down), (.left, .left), (.right, .right), (.z, .b), (.x, .a),
      (.enter, .start), (.backspace, .select)]
deriving DecidableEq, Repr

/-- The pad as the held keys have it. -/
def PadMap.read (map : PadMap) (held : HeldKeys) : Pad :=
  .ofButtons fun button => map.keys.any fun (key, driven) => driven == button && held.isDown key

end PacingHost
