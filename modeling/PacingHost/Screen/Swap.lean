/-! # Swap modes -/

namespace PacingHost

/-- When a finished picture is shown. -/
inductive Swap where
  | immediate
  | vsync
deriving DecidableEq, Repr

/-- Switching synchronisation off shows pictures as soon as possible. -/
def Swap.ofUnsynced (unsynced : Bool) : Swap := if unsynced then .immediate else .vsync

def Swap.text : Swap → String
  | .immediate => "Immediate"
  | .vsync => "VSync"

end PacingHost
