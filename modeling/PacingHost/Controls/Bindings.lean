import PacingHost.Config
import PacingHost.Controls.Key
import PacingHost.Journal.Logged

/-! # Key bindings

A key can be bound to an action that happens when it goes down, and to one that follows its level.
Dispatching an input changes a configuration and may ask the host for something else. A pass of
inputs is dispatched one after the other, as `dispatchAll_append` says.
-/

namespace PacingHost

/-- Actions that happen when a key goes down. -/
inductive PressAction where
  | toggleChannel (channel : Nat)
  | toggleBackground
  | toggleWindow
  | toggleObjects
  | writeState
  | readState
  /-- Run one pass, then pause. -/
  | step
  | togglePause
  | quit
deriving DecidableEq, Repr

/-- Actions that follow the level of a key. -/
inductive HoldAction where
  /-- Synchronisation is off while the key is down. -/
  | noSync
  /-- Fullscreen is toggled when the key comes up. -/
  | fullscreen
deriving DecidableEq, Repr

/-- What the user asks for besides a change of configuration. -/
inductive Wish where
  | quit
  | writeState
  | readState
deriving DecidableEq, Repr

structure Bindings where
  press : Key → Option PressAction
  hold : Key → Option HoldAction

namespace Bindings

/-- The bindings a host starts with. -/
def default : Bindings where
  press
    | .num1 => some (.toggleChannel 0)
    | .num2 => some (.toggleChannel 1)
    | .num3 => some (.toggleChannel 2)
    | .num4 => some (.toggleChannel 3)
    | .b => some .toggleBackground
    | .w => some .toggleWindow
    | .o => some .toggleObjects
    | .f6 => some .writeState
    | .f9 => some .readState
    | .n => some .step
    | .space => some .togglePause
    | .escape => some .quit
    | _ => none
  hold
    | .tab => some .noSync
    | .f11 => some .fullscreen
    | _ => none

/-- Bind a key that goes down, whatever it was bound to. -/
def bindPress (bindings : Bindings) (key : Key) (action : PressAction) : Bindings :=
  { bindings with press := fun other => if other = key then some action else bindings.press other }

/-- Bind the level of a key, whatever it was bound to. -/
def bindHold (bindings : Bindings) (key : Key) (action : HoldAction) : Bindings :=
  { bindings with hold := fun other => if other = key then some action else bindings.hold other }

end Bindings

/-- What a pass of inputs has come to: a configuration, and wishes in order. -/
structure Dispatched where
  config : Config
  wishes : List Wish := []
deriving DecidableEq, Repr

namespace Dispatched

def setConfig (state : Dispatched) (config : Config) : Dispatched := { state with config }

def wish (state : Dispatched) (wanted : Wish) : Dispatched :=
  { state with wishes := state.wishes ++ [wanted] }

/-- A key went down that is bound to an action. -/
def apply (state : Dispatched) : PressAction → Logged Dispatched
  | .toggleChannel channel =>
    let config := state.config
    if known : channel < soundChannels then
      pure (state.setConfig { config with muted := config.muted.set channel !config.muted[channel] })
    else do
      Logged.tell (.unknownChannel channel)
      pure state
  | .toggleBackground =>
    pure (state.setConfig { state.config with hideBackground := !state.config.hideBackground })
  | .toggleWindow =>
    pure (state.setConfig { state.config with hideWindow := !state.config.hideWindow })
  | .toggleObjects =>
    pure (state.setConfig { state.config with hideObjects := !state.config.hideObjects })
  | .writeState => pure (state.wish .writeState)
  | .readState => pure (state.wish .readState)
  | .step => pure (state.setConfig { state.config with step := true, paused := false })
  | .togglePause => pure (state.setConfig { state.config with paused := !state.config.paused })
  | .quit => pure (state.wish .quit)

/-- A key whose level is bound to an action went down or came up. -/
def follow (state : Dispatched) (down : Bool) : HoldAction → Dispatched
  | .noSync => state.setConfig { state.config with noSync := down }
  | .fullscreen =>
    if down then state
    else state.setConfig { state.config with fullscreen := !state.config.fullscreen }

/-- The level of a key changed. -/
def followKey (state : Dispatched) (bindings : Bindings) (key : Key) (down : Bool) : Dispatched :=
  match bindings.hold key with
  | some action => state.follow down action
  | none => state

/-- One input: a key that goes down acts first and is followed then. -/
def dispatch (bindings : Bindings) (state : Dispatched) : Input → Logged Dispatched
  | .press key => do
    let acted ← match bindings.press key with
      | some action => state.apply action
      | none => pure state
    pure (acted.followKey bindings key true)
  | .release key => pure (state.followKey bindings key false)
  | .quit => pure (state.wish .quit)

/-- All inputs of a pass in order. -/
def dispatchAll (bindings : Bindings) (state : Dispatched) : List Input → Logged Dispatched
  | [] => pure state
  | input :: inputs => do
    let next ← state.dispatch bindings input
    next.dispatchAll bindings inputs

theorem dispatchAll_append (bindings : Bindings) (state : Dispatched) (first second : List Input) :
    state.dispatchAll bindings (first ++ second) = (do
      let middle ← state.dispatchAll bindings first
      middle.dispatchAll bindings second) := by
  induction first generalizing state with
  | nil => simp only [List.nil_append, dispatchAll, pure_bind]
  | cons input inputs ih => simp only [List.cons_append, dispatchAll, bind_assoc, ih]

end Dispatched

end PacingHost
