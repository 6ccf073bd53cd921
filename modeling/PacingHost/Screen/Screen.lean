import PacingHost.Journal.Logged
import PacingHost.Number.Word

/-! # The screen

A screen keeps the latest picture in memory and counts what it was asked to do. A picture is cut to
the size it is said to have.
-/

namespace PacingHost

structure Screen where
  frame : Array UInt32 := #[]
  /-- Pictures uploaded. -/
  uploads : Nat := 0
  /-- Pictures shown. -/
  presents : Nat := 0
  swap : Swap := .vsync
  fullscreen : Bool := false
  refreshHz : Option UInt32 := none
  window : Option (UInt32 × UInt32) := none
deriving DecidableEq, Repr

namespace Screen

/-- The refresh rate of a screen that reports none. -/
def fallbackHz : UInt32 := 60

/-- Milliseconds between two refreshes. -/
def refreshPeriod (hz : Option UInt32) : Float :=
  let known := match hz with
    | some rate => if rate = 0 then fallbackHz else rate
    | none => fallbackHz
  1000.0 / Float.ofNat known.toNat

def setWindow (screen : Screen) (width height : UInt32) : Logged Screen := do
  Logged.tell (.windowSized width height)
  pure { screen with window := some (width, height) }

/-- Keep the pixels of a picture as the next one to show. -/
def upload (screen : Screen) (pixels : Array UInt32) (width height : Nat) : Except Fault Screen :=
  if width * height < Word.longLimit then
    .ok { screen with
      frame := pixels.take (width * height)
      uploads := screen.uploads + 1 }
  else .error .pixelOverflow

def present (screen : Screen) : Logged Screen := do
  Logged.tell (.pictureShown (screen.presents + 1))
  pure { screen with presents := screen.presents + 1 }

def setSwap (screen : Screen) (swap : Swap) : Logged Screen := do
  Logged.tell (.swapSet swap)
  pure { screen with swap }

def setFullscreen (screen : Screen) (fullscreen : Bool) : Logged Screen := do
  Logged.tell (.fullscreenSet fullscreen)
  pure { screen with fullscreen }

end Screen

end PacingHost
