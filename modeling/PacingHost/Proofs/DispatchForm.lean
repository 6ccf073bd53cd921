import PacingHost.Proofs.SingleStep

/-! # What inputs come to

Inputs are dispatched one after the other, but what one of them does to a field of the configuration
depends on that field alone. So every field follows the inputs that drive it and no others, and
`Dispatched.ClosedForm` tells all fields at once: switches by a parity, levels by what was written
last, the pause by what came after the last step. Nothing is asked of the tables: a key may act and
be followed at once, and many keys may drive one field.
-/

namespace PacingHost

/-- A change of one binding. -/
inductive Rebinding where
  | press (key : Key) (action : PressAction)
  | hold (key : Key) (action : HoldAction)
deriving DecidableEq, Repr

namespace Rebinding

/-- What the change binds a key to when it goes down. -/
def pressOf (key : Key) : Rebinding → Option PressAction
  | .press other action => if key = other then some action else none
  | .hold .. => none

/-- What the change binds the level of a key to. -/
def holdOf (key : Key) : Rebinding → Option HoldAction
  | .hold other action => if key = other then some action else none
  | .press .. => none

end Rebinding

/-- The switches that are toggled by a press, apart from the pause. -/
inductive Toggle where
  | mute (channel : Fin soundChannels)
  | background
  | window
  | objects
deriving DecidableEq, Repr

namespace Toggle

def action : Toggle → PressAction
  | .mute channel => .toggleChannel channel
  | .background => .toggleBackground
  | .window => .toggleWindow
  | .objects => .toggleObjects

def isOn (config : Config) : Toggle → Bool
  | .mute channel => config.muted.get channel
  | .background => config.hideBackground
  | .window => config.hideWindow
  | .objects => config.hideObjects

end Toggle

namespace PressAction

def wish? : PressAction → Option Wish
  | .writeState => some .writeState
  | .readState => some .readState
  | .quit => some .quit
  | .toggleChannel _ | .toggleBackground | .toggleWindow | .toggleObjects | .step
  | .togglePause => none

/-- The action is not about a channel that the engine does not have. -/
def isKnown : PressAction → Bool
  | .toggleChannel channel => decide (channel < soundChannels)
  | .toggleBackground | .toggleWindow | .toggleObjects | .writeState | .readState | .step
  | .togglePause | .quit => true

end PressAction

namespace Bindings

def rebind (bindings : Bindings) : Rebinding → Bindings
  | .press key action => bindings.bindPress key action
  | .hold key action => bindings.bindHold key action

def rebound (bindings : Bindings) (changes : List Rebinding) : Bindings :=
  changes.foldl rebind bindings

/-- The input is a press that is bound to the action. -/
def presses (bindings : Bindings) (action : PressAction) : Input → Bool
  | .press key => decide (bindings.press key = some action)
  | .release _ | .quit => false

/-- The level of a key, if it is followed by the action. -/
def levelOf (bindings : Bindings) (action : HoldAction) (key : Key) (down : Bool) : Option Bool :=
  if bindings.hold key = some action then some down else none

/-- The level an input gives to a key that is followed by the action. -/
def level? (bindings : Bindings) (action : HoldAction) : Input → Option Bool
  | .press key => bindings.levelOf action key true
  | .release key => bindings.levelOf action key false
  | .quit => none

/-- The input is a release of a key that is followed by the action. -/
def releases (bindings : Bindings) (action : HoldAction) : Input → Bool
  | .release key => decide (bindings.hold key = some action)
  | .press _ | .quit => false

/-- What an input asks for. -/
def wish? (bindings : Bindings) : Input → Option Wish
  | .press key => (bindings.press key).bind PressAction.wish?
  | .release _ => none
  | .quit => some .quit

/-- The same bindings without those to unknown channels. -/
def knownOnly (bindings : Bindings) : Bindings :=
  { bindings with press := fun key => (bindings.press key).filter PressAction.isKnown }

theorem asksStep_eq (bindings : Bindings) : bindings.asksStep = bindings.presses .step := by
  funext input
  cases input with
  | press key => exact Bool.beq_eq_decide_eq ..
  | release key | quit => rfl

end Bindings

section Lists

variable {α β : Type}

/-- Of what is written one after the other the last stays. -/
theorem last_filterMap_cons (write : α → Option β) (item : α) (items : List α) :
    ((item :: items).filterMap write).getLast? =
      (items.filterMap write).getLast?.or (write item) := by
  cases written : write item with
  | none => rw [List.filterMap_cons_none written, Option.or_none]
  | some value =>
    rw [List.filterMap_cons_some written, List.getLast?_cons, Option.or_some]

/-- An odd number of items pass the test. -/
def oddly (test : α → Bool) (items : List α) : Bool := items.countP test % 2 == 1

theorem oddly_cons (test : α → Bool) (item : α) (items : List α) :
    oddly test (item :: items) = (test item ^^ oddly test items) := by
  simp only [oddly, List.countP_cons]
  rcases Nat.mod_two_eq_zero_or_one (items.countP test) with even | odd <;>
    cases test item <;> simp [Nat.add_mod, *]

end Lists

namespace Bindings

theorem press_rebind (bindings : Bindings) (change : Rebinding) (key : Key) :
    (bindings.rebind change).press key = (change.pressOf key).or (bindings.press key) := by
  cases change with
  | hold other action => rfl
  | press other action =>
    simp only [rebind, bindPress, Rebinding.pressOf]
    split <;> rfl

theorem hold_rebind (bindings : Bindings) (change : Rebinding) (key : Key) :
    (bindings.rebind change).hold key = (change.holdOf key).or (bindings.hold key) := by
  cases change with
  | press other action => rfl
  | hold other action =>
    simp only [rebind, bindHold, Rebinding.holdOf]
    split <;> rfl

/-- In each table the last binding of a key wins, and a key that is not rebound stays. -/
theorem rebound_eq (bindings : Bindings) (changes : List Rebinding) (key : Key) :
    (bindings.rebound changes).press key =
        (changes.filterMap (Rebinding.pressOf key)).getLast?.or (bindings.press key) ∧
      (bindings.rebound changes).hold key =
        (changes.filterMap (Rebinding.holdOf key)).getLast?.or (bindings.hold key) := by
  induction changes generalizing bindings with
  | nil => exact ⟨rfl, rfl⟩
  | cons change changes ih =>
    obtain ⟨press, hold⟩ := ih (bindings.rebind change)
    rw [last_filterMap_cons, last_filterMap_cons, Option.or_assoc, Option.or_assoc, ← press_rebind,
      ← hold_rebind]
    exact ⟨press, hold⟩

end Bindings

namespace Dispatched

theorem ofFn_get (muted : Vector Bool soundChannels) : Vector.ofFn muted.get = muted := by
  ext channel within
  rw [Vector.getElem_ofFn]
  rfl

/-- The mutes once a channel has been toggled, if there is one of that number. -/
theorem ofFn_toggled (muted : Vector Bool soundChannels) (channel : Nat) :
    (Vector.ofFn fun other : Fin soundChannels => muted.get other ^^ decide (channel = other)) =
      if known : channel < soundChannels then muted.set channel !muted[channel] else muted := by
  ext other within
  rw [Vector.getElem_ofFn]
  change (muted[other] ^^ decide (channel = other)) = _
  by_cases same : channel = other
  · subst same
    simp [within]
  · split <;> simp [same]

/-- A channel is toggled if the engine has it. -/
theorem value_toggleChannel (state : Dispatched) (channel : Nat) :
    (state.apply (.toggleChannel channel)).value =
      if known : channel < soundChannels then
        state.setConfig { state.config with
          muted := state.config.muted.set channel !state.config.muted[channel] }
      else state := by
  simp only [apply]
  split <;> rfl

theorem apply_unknown (state : Dispatched) {action : PressAction}
    (unknown : action.isKnown = false) : (state.apply action).value = state := by
  cases action with
  | toggleChannel channel => rw [value_toggleChannel, dif_neg (of_decide_eq_false unknown)]
  | toggleBackground | toggleWindow | toggleObjects | writeState | readState | step | togglePause
    | quit => cases unknown

/-- What a press action makes of each field. -/
theorem apply_value (state : Dispatched) (action : PressAction) :
    (state.apply action).value =
      { config := { state.config with
          paused := !decide (action = .step) &&
            (state.config.paused ^^ decide (action = .togglePause))
          step := state.config.step || decide (action = .step)
          muted := .ofFn fun channel =>
            state.config.muted.get channel ^^ decide (action = .toggleChannel channel)
          hideBackground := state.config.hideBackground ^^ decide (action = .toggleBackground)
          hideWindow := state.config.hideWindow ^^ decide (action = .toggleWindow)
          hideObjects := state.config.hideObjects ^^ decide (action = .toggleObjects) }
        wishes := state.wishes ++ action.wish?.toList } := by
  cases action with
  | toggleChannel channel =>
    have toggled := ofFn_toggled state.config.muted channel
    rw [value_toggleChannel]
    split <;> simp_all [setConfig, PressAction.wish?]
  | toggleBackground | toggleWindow | toggleObjects | writeState | readState | step | togglePause
    | quit => simp [apply, setConfig, wish, PressAction.wish?, ofFn_get]

/-- Following a key writes what follows levels, and nothing else. -/
theorem followKey_eq (state : Dispatched) (bindings : Bindings) (key : Key) (down : Bool) :
    state.followKey bindings key down = state.setConfig { state.config with
      noSync := (bindings.levelOf .noSync key down).getD state.config.noSync
      fullscreen := state.config.fullscreen ^^
        (!down && decide (bindings.hold key = some .fullscreen)) } := by
  unfold followKey
  cases followed : bindings.hold key with
  | none => simp [setConfig, Bindings.levelOf, followed]
  | some action =>
    cases action <;> cases down <;> simp [follow, setConfig, Bindings.levelOf, followed]

variable (bindings : Bindings)

/-- A key that goes down acts, and is followed then. -/
theorem dispatch_press (state : Dispatched) (key : Key) :
    (state.dispatch bindings (.press key)).value =
      ((bindings.press key).elim state fun action => (state.apply action).value).followKey
        bindings key true := by
  simp only [dispatch]
  cases bindings.press key <;> rfl

/-- What an input makes of each field. -/
theorem dispatch_value (state : Dispatched) (input : Input) :
    (state.dispatch bindings input).value =
      { config := {
          paused := !bindings.presses .step input &&
            (state.config.paused ^^ bindings.presses .togglePause input)
          step := state.config.step || bindings.presses .step input
          noSync := (bindings.level? .noSync input).getD state.config.noSync
          fullscreen := state.config.fullscreen ^^ bindings.releases .fullscreen input
          muted := .ofFn fun channel =>
            state.config.muted.get channel ^^ bindings.presses (.toggleChannel channel) input
          hideBackground :=
            state.config.hideBackground ^^ bindings.presses .toggleBackground input
          hideWindow := state.config.hideWindow ^^ bindings.presses .toggleWindow input
          hideObjects := state.config.hideObjects ^^ bindings.presses .toggleObjects input }
        wishes := state.wishes ++ (bindings.wish? input).toList } := by
  cases input with
  | quit =>
    simp [dispatch, wish, Bindings.presses, Bindings.level?, Bindings.releases, Bindings.wish?,
      ofFn_get]
  | release key =>
    simp [dispatch, followKey_eq, setConfig, Bindings.presses, Bindings.level?, Bindings.releases,
      Bindings.wish?, ofFn_get]
  | press key =>
    rw [dispatch_press, followKey_eq]
    cases pressed : bindings.press key with
    | none =>
      simp [setConfig, Bindings.presses, Bindings.level?, Bindings.releases, Bindings.wish?,
        pressed, ofFn_get]
    | some action =>
      simp [setConfig, Bindings.presses, Bindings.level?, Bindings.releases, Bindings.wish?,
        pressed, apply_value]

theorem isOn_dispatch (toggle : Toggle) (state : Dispatched) (input : Input) :
    toggle.isOn (state.dispatch bindings input).value.config =
      (toggle.isOn state.config ^^ bindings.presses toggle.action input) := by
  rw [dispatch_value]
  cases toggle with
  | mute channel => exact Vector.getElem_ofFn ..
  | background | window | objects => rfl

/-- A press of a key that is bound to an unknown channel goes as if the key were not bound. -/
theorem dispatch_knownOnly (state : Dispatched) (input : Input) :
    (state.dispatch bindings.knownOnly input).value = (state.dispatch bindings input).value := by
  cases input with
  | quit | release key => rfl
  | press key =>
    have acted :
        (bindings.knownOnly.press key).elim state (fun action => (state.apply action).value) =
          (bindings.press key).elim state (fun action => (state.apply action).value) := by
      simp only [Bindings.knownOnly]
      cases bindings.press key with
      | none => rfl
      | some action =>
        rw [Option.filter_some]
        split
        · rfl
        · next unknown =>
          have left := apply_unknown state (Bool.eq_false_iff.mpr unknown)
          rw [Option.elim_some, left, Option.elim_none]
    rw [dispatch_press, dispatch_press, acted]
    rfl

theorem dispatchAll_knownOnly (state : Dispatched) (inputs : List Input) :
    (state.dispatchAll bindings.knownOnly inputs).value =
      (state.dispatchAll bindings inputs).value := by
  induction inputs generalizing state with
  | nil => rfl
  | cons input inputs ih =>
    rw [dispatchAll, dispatchAll, Logged.bind_value, Logged.bind_value, ih, dispatch_knownOnly]

/-- A switch that each input toggles or leaves. -/
theorem toggled_dispatchAll (switch : Dispatched → Bool) {toggles : Input → Bool}
    (follows : ∀ (state : Dispatched) input,
      switch (state.dispatch bindings input).value = (switch state ^^ toggles input))
    (state : Dispatched) (inputs : List Input) :
    switch (state.dispatchAll bindings inputs).value = (switch state ^^ oddly toggles inputs) := by
  induction inputs generalizing state with
  | nil => exact (Bool.xor_false _).symm
  | cons input inputs ih =>
    rw [dispatchAll, Logged.bind_value, ih, follows, oddly_cons, Bool.xor_assoc]

theorem noSync_dispatchAll (state : Dispatched) (inputs : List Input) :
    (state.dispatchAll bindings inputs).value.config.noSync =
      (inputs.filterMap (bindings.level? .noSync)).getLast?.getD state.config.noSync := by
  induction inputs generalizing state with
  | nil => rfl
  | cons input inputs ih =>
    rw [dispatchAll, Logged.bind_value, ih, dispatch_value, last_filterMap_cons, Option.getD_or]

theorem wishes_dispatchAll (state : Dispatched) (inputs : List Input) :
    (state.dispatchAll bindings inputs).value.wishes =
      state.wishes ++ inputs.filterMap bindings.wish? := by
  induction inputs generalizing state with
  | nil => exact (List.append_nil _).symm
  | cons input inputs ih =>
    rw [dispatchAll, Logged.bind_value, ih, dispatch_value, List.append_assoc]
    cases asked : bindings.wish? input with
    | none => rw [List.filterMap_cons_none asked, Option.toList_none, List.nil_append]
    | some wanted => rw [List.filterMap_cons_some asked, Option.toList_some, List.singleton_append]

/-- Without a step the pause is toggled like any switch. -/
theorem paused_dispatchAll {inputs : List Input}
    (unstepped : inputs.any (bindings.presses .step) = false) (state : Dispatched) :
    (state.dispatchAll bindings inputs).value.config.paused =
      (state.config.paused ^^ oddly (bindings.presses .togglePause) inputs) := by
  induction inputs generalizing state with
  | nil => exact (Bool.xor_false _).symm
  | cons input inputs ih =>
    rw [List.any_cons, Bool.or_eq_false_iff] at unstepped
    rw [dispatchAll, Logged.bind_value, ih unstepped.2, dispatch_value, unstepped.1,
      Bool.not_false, Bool.true_and, oddly_cons, Bool.xor_assoc]

/-- A step forgets all that was done to the pause before. -/
theorem paused_dispatchAll_of_step {earlier later : List Input} {press : Input}
    (steps : bindings.presses .step press = true)
    (unstepped : later.any (bindings.presses .step) = false) (state : Dispatched) :
    (state.dispatchAll bindings (earlier ++ press :: later)).value.config.paused =
      oddly (bindings.presses .togglePause) later := by
  rw [dispatchAll_append, Logged.bind_value, dispatchAll, Logged.bind_value,
    paused_dispatchAll bindings unstepped, dispatch_value, steps, Bool.not_true, Bool.false_and,
    Bool.false_xor]

/-- What some inputs come to, each field told by the inputs that it follows. -/
structure ClosedForm (state : Dispatched) (inputs : List Input) (final : Dispatched) : Prop where
  toggled : ∀ toggle : Toggle, toggle.isOn final.config =
    (toggle.isOn state.config ^^ oddly (bindings.presses toggle.action) inputs)
  fullscreen : final.config.fullscreen =
    (state.config.fullscreen ^^ oddly (bindings.releases .fullscreen) inputs)
  noSync : final.config.noSync =
    (inputs.filterMap (bindings.level? .noSync)).getLast?.getD state.config.noSync
  step : final.config.step = (state.config.step || inputs.any (bindings.presses .step))
  unstepped : inputs.any (bindings.presses .step) = false →
    final.config.paused = (state.config.paused ^^ oddly (bindings.presses .togglePause) inputs)
  /-- Only what follows the last step counts for the pause. -/
  stepped : ∀ earlier press later, inputs = earlier ++ press :: later →
    bindings.presses .step press = true → later.any (bindings.presses .step) = false →
    final.config.paused = oddly (bindings.presses .togglePause) later
  wishes : final.wishes = state.wishes ++ inputs.filterMap bindings.wish?
  /-- Keys that are bound to unknown channels might as well not be bound. -/
  known : (state.dispatchAll bindings.knownOnly inputs).value = final

theorem closedForm_dispatchAll (state : Dispatched) (inputs : List Input) :
    ClosedForm bindings state inputs (state.dispatchAll bindings inputs).value where
  toggled := fun toggle => toggled_dispatchAll bindings (fun state => toggle.isOn state.config)
    (isOn_dispatch bindings toggle) state inputs
  fullscreen := toggled_dispatchAll bindings (fun state => state.config.fullscreen)
    (fun state input => by rw [dispatch_value]) state inputs
  noSync := noSync_dispatchAll bindings state inputs
  step := by rw [step_dispatchAll, Bindings.asksStep_eq]
  unstepped := fun unstepped => paused_dispatchAll bindings unstepped state
  stepped := by
    rintro earlier press later rfl steps unstepped
    exact paused_dispatchAll_of_step bindings steps unstepped state
  wishes := wishes_dispatchAll bindings state inputs
  known := dispatchAll_knownOnly bindings state inputs

/-- Inputs have a closed form, however the keys were rebound before. In both tables the last binding
of a key wins; on these tables every field follows the inputs that drive it. -/
theorem closed_form_of_rebound (changes : List Rebinding) (state : Dispatched)
    (inputs : List Input) :
    (∀ key, (Bindings.default.rebound changes).press key =
        (changes.filterMap (Rebinding.pressOf key)).getLast?.or (Bindings.default.press key) ∧
      (Bindings.default.rebound changes).hold key =
        (changes.filterMap (Rebinding.holdOf key)).getLast?.or (Bindings.default.hold key)) ∧
    ClosedForm (Bindings.default.rebound changes) state inputs
      (state.dispatchAll (Bindings.default.rebound changes) inputs).value :=
  ⟨Bindings.default.rebound_eq changes, closedForm_dispatchAll _ state inputs⟩

/-- The tab key steps and is followed, and the space key is rebound twice. -/
example :
    let bindings := Bindings.default.rebound
      [.press .space .step, .press .tab .step, .press .space .togglePause]
    (dispatchAll bindings ⟨{ paused := true }, []⟩
      [.press .space, .press .tab, .press .space, .quit, .press .f9]).value =
        ⟨{ paused := true, step := true, noSync := true }, [.quit, .readState]⟩ := by
  decide

end Dispatched

end PacingHost
