/-! # Runtime configuration

The switches a user flips while the host runs. Some of them are the host's own; mutes and layers are
passed on to the engine.
-/

namespace PacingHost

/-- Sound channels that can be muted one by one. -/
def soundChannels : Nat := 4

structure Config where
  /-- The engine stands still and the sound queue is empty. -/
  paused : Bool := false
  /-- Run one pass, then pause. -/
  step : Bool := false
  /-- Pictures are shown without waiting for the display. -/
  noSync : Bool := false
  fullscreen : Bool := false
  muted : Vector Bool soundChannels := .replicate soundChannels false
  hideBackground : Bool := false
  hideWindow : Bool := false
  hideObjects : Bool := false
deriving DecidableEq, Repr

namespace Config

/-- The part of a configuration that an engine looks at. -/
structure Layers where
  muted : Vector Bool soundChannels
  hideBackground : Bool
  hideWindow : Bool
  hideObjects : Bool
deriving DecidableEq, Repr

def layers (config : Config) : Layers :=
  ⟨config.muted, config.hideBackground, config.hideWindow, config.hideObjects⟩

/-- A step has been made: the host pauses. -/
def afterStep (config : Config) : Config := { config with paused := true, step := false }

end Config

end PacingHost
