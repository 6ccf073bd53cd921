import PacingHost.Proofs.HostMirror
import PacingHost.Proofs.HostPause

/-! # Batches of input

A host commits the changes of one pass of inputs together, so toggles that cancel within a pass have
no effect, while between two passes each of them has. `Host.Batched` says what of this can be seen
afterwards: the same inputs come to the same configuration, held keys and screen however they are
batched, and only a sink that was not flushed at once may have been flushed in between.
-/

namespace PacingHost

namespace Dispatched

/-- The state with the wishes of earlier inputs before its own. -/
def after (state : Dispatched) (earlier : List Wish) : Dispatched :=
  { state with wishes := earlier ++ state.wishes }

/-- Earlier wishes do not matter to an action. -/
theorem apply_after (state : Dispatched) (earlier : List Wish) (action : PressAction) :
    (state.after earlier).apply action = (·.after earlier) <$> state.apply action := by
  cases action with
  | toggleChannel channel =>
    simp only [apply]
    split <;> rfl
  | writeState | readState | quit =>
    simp only [apply, wish, after, List.append_assoc, map_pure]
  | toggleBackground | toggleWindow | toggleObjects | step | togglePause => rfl

theorem followKey_after (state : Dispatched) (earlier : List Wish) (bindings : Bindings) (key : Key)
    (down : Bool) :
    (state.after earlier).followKey bindings key down =
      (state.followKey bindings key down).after earlier := by
  unfold followKey
  cases bindings.hold key with
  | none => rfl
  | some action =>
    cases action with
    | noSync => rfl
    | fullscreen => cases down <;> rfl

theorem dispatch_after (bindings : Bindings) (state : Dispatched) (earlier : List Wish)
    (input : Input) :
    (state.after earlier).dispatch bindings input =
      (·.after earlier) <$> state.dispatch bindings input := by
  cases input with
  | press key =>
    cases pressed : bindings.press key with
    | none => simp only [dispatch, pressed, pure_bind, map_pure, followKey_after]
    | some action =>
      simp only [dispatch, pressed, apply_after, map_eq_pure_bind, bind_assoc, pure_bind,
        followKey_after]
  | release key => simp only [dispatch, followKey_after, map_pure]
  | quit => simp only [dispatch, wish, after, List.append_assoc, map_pure]

theorem dispatchAll_after (bindings : Bindings) (state : Dispatched) (earlier : List Wish)
    (inputs : List Input) :
    (state.after earlier).dispatchAll bindings inputs =
      (·.after earlier) <$> state.dispatchAll bindings inputs := by
  induction inputs generalizing state with
  | nil => rfl
  | cons input inputs ih =>
    simp only [dispatchAll, dispatch_after, map_eq_pure_bind, bind_assoc, pure_bind]
    congr 1
    funext next
    rw [ih, map_eq_pure_bind]

section Unheard

variable {β : Type} {hear : Event → Option β}

/-- Before its wishes are granted an input tells of unknown channels only. -/
theorem unheard_dispatch (deaf : ∀ channel, hear (.unknownChannel channel) = none)
    (bindings : Bindings) (state : Dispatched) (input : Input) :
    (state.dispatch bindings input).events.filterMap hear = [] := by
  cases input with
  | release key | quit => rfl
  | press key =>
    cases pressed : bindings.press key with
    | none => simp only [dispatch, pressed]; rfl
    | some action =>
      simp only [dispatch, pressed, Logged.bind_events, Logged.pure_events, List.append_nil]
      cases action with
      | toggleChannel channel =>
        simp only [apply]
        split
        · rfl
        · exact List.filterMap_cons_none (deaf channel)
      | toggleBackground | toggleWindow | toggleObjects | writeState | readState | step
        | togglePause | quit => rfl

theorem unheard_dispatchAll (deaf : ∀ channel, hear (.unknownChannel channel) = none)
    (bindings : Bindings) (state : Dispatched) (inputs : List Input) :
    (state.dispatchAll bindings inputs).events.filterMap hear = [] := by
  induction inputs generalizing state with
  | nil => rfl
  | cons input inputs ih =>
    rw [dispatchAll, Logged.bind_events, List.filterMap_append, unheard_dispatch deaf, ih,
      List.append_nil]

end Unheard

/-- Observers hear nothing of inputs before their wishes are granted. -/
theorem notices_dispatchAll (bindings : Bindings) (state : Dispatched) (inputs : List Input) :
    notices (state.dispatchAll bindings inputs).events = [] :=
  unheard_dispatchAll (fun _ => rfl) bindings state inputs

end Dispatched

/-- The screen set as a configuration has it. -/
def Screen.configured (screen : Screen) (config : Config) : Screen :=
  { screen with swap := .ofUnsynced config.noSync, fullscreen := config.fullscreen }

/-- What an observer hears of a wish. -/
def Wish.notice? : Wish → Option Notice
  | .writeState => some .writeState
  | .readState => some .readState
  | .quit => none

namespace Host

/-- The host goes on unless someone wishes to quit. -/
theorem grant_value (wishes : List Wish) : (grant wishes).value = wishes.all (· != .quit) := by
  induction wishes with
  | nil => rfl
  | cons wish wishes ih =>
    rw [List.all_cons, ← ih, Bool.and_comm]
    cases wish <;> rfl

/-- All that is said of wishes are the notices of the others, in order. -/
theorem grant_events (wishes : List Wish) :
    (grant wishes).events = (wishes.filterMap Wish.notice?).map .notice := by
  induction wishes with
  | nil => rfl
  | cons wish wishes ih =>
    cases wish <;> simp only [grant, Logged.bind_events, Logged.pure_events, List.append_nil, ih] <;>
      rfl

theorem notices_grant (wishes : List Wish) :
    notices (grant wishes).events = wishes.filterMap Wish.notice? := by
  rw [grant_events, notices, List.filterMap_map]
  exact List.filterMap_some

variable {σ : Type}

theorem notices_commitEvents (host : Host σ) (next : Config) :
    notices (host.commitEvents next) = [] := by
  simp only [commitEvents, notices_append]
  split <;> split <;> split <;> rfl

variable [Engine σ]

/-- The host once it has handled some inputs. -/
def handled (host : Host σ) (inputs : List Input) : Host σ := (host.handleInput inputs).value.2

theorem handled_eq (host : Host σ) (inputs : List Input) :
    host.handled inputs = (host.holding inputs).committed (host.dispatched inputs).config := by
  rw [handled, handleInput_value]

theorem goesOn_eq (host : Host σ) (inputs : List Input) :
    (host.handleInput inputs).value.1 = (host.dispatched inputs).wishes.all (· != .quit) := by
  rw [handleInput_value, grant_value]

/-- All that is heard of inputs are their wishes. -/
theorem notices_handleInput (host : Host σ) (inputs : List Input) :
    notices (host.handleInput inputs).events =
      (host.dispatched inputs).wishes.filterMap Wish.notice? := by
  simp only [handleInput, commit_eq, Logged.bind_events, Logged.pure_events, notices_append,
    Dispatched.notices_dispatchAll, notices_grant, notices_commitEvents, List.append_nil,
    List.nil_append]
  rfl

/-- What inputs come to after others: their changes apply to the configuration the others left, and
their wishes come behind. -/
theorem dispatched_append (host : Host σ) (first second : List Input) :
    host.dispatched (first ++ second) =
      ((host.handled first).dispatched second).after (host.dispatched first).wishes := by
  have split : Dispatched.after { config := (host.dispatched first).config }
      (host.dispatched first).wishes = host.dispatched first := by
    rw [Dispatched.after, List.append_nil]
  have later := Dispatched.dispatchAll_after host.bindings
    { config := (host.dispatched first).config } (host.dispatched first).wishes second
  rw [split] at later
  rw [dispatched, Dispatched.dispatchAll_append, Logged.bind_value, handled_eq]
  exact congrArg Logged.value later

/-- A screen that is set as the configuration has it is set as the next one has it. -/
theorem screen_committed (host : Host σ) (set : host.screen.configured host.config = host.screen)
    (next : Config) : (host.committed next).screen = host.screen.configured next := by
  have swap : Swap.ofUnsynced host.config.noSync = host.screen.swap := congrArg Screen.swap set
  have fullscreen : host.config.fullscreen = host.screen.fullscreen :=
    congrArg Screen.fullscreen set
  simp only [committed, Screen.configured, ← swap, ← fullscreen]
  congr 1
  · split
    · next same => rw [same]
    · rfl
  · split
    · next same => exact same
    · rfl

/-- Of two configurations in a row the sink is flushed by the one or the other, or by none. -/
theorem sink_committed_twice (host : Host σ) (first second : Config) :
    ((host.committed first).committed second).sink =
      if host.flushes first || (host.committed first).flushes second then host.sink.reset.value
      else host.sink := by
  cases once : host.flushes first <;> cases again : (host.committed first).flushes second <;>
    simp only [committed, once] at again ⊢ <;> simp only [again] <;> rfl

/-- What a host comes to when it handles some inputs together, and when it handles them in two
batches: all is the same but the sink, which may be flushed and so lose what it held where the
changes of the one batch are undone by the other. -/
structure Batched (start together apart : Host σ) : Prop where
  config : together.config = apart.config
  held : together.held = apart.held
  screen : together.screen = apart.screen
  flushed : together.config.paused ≠ start.config.paused ∨
      together.config.noSync ≠ start.config.noSync →
    together.sink = start.sink.reset.value ∧ apart.sink = start.sink.reset.value
  kept : together.config.paused = start.config.paused ∧
      together.config.noSync = start.config.noSync →
    together.sink = start.sink ∧ (apart.sink = start.sink ∨ apart.sink = start.sink.reset.value)

/-- A change that is there in the end was made by the first batch or by the second. -/
theorem flushes_or (host : Host σ) (first : Config) {second : Config}
    (flushed : host.flushes second = true) :
    (host.flushes first || (host.committed first).flushes second) = true := by
  cases once : host.flushes first with
  | true => rfl
  | false =>
    cases again : (host.committed first).flushes second with
    | true => rfl
    | false =>
      obtain ⟨synced, gated⟩ := (host.flushes_eq_false_iff first).mp once
      obtain ⟨syncedAgain, gatedAgain⟩ :=
        ((host.committed first).flushes_eq_false_iff second).mp again
      have still : host.flushes second = false :=
        (host.flushes_eq_false_iff second).mpr ⟨synced.trans syncedAgain, gated.trans gatedAgain⟩
      exact absurd (still.symm.trans flushed) Bool.false_ne_true

theorem batched_handled (host : Host σ) (set : host.screen.configured host.config = host.screen)
    (first second : List Input) :
    host.Batched (host.handled (first ++ second)) ((host.handled first).handled second) := by
  have last : (host.dispatched (first ++ second)).config =
      ((host.handled first).dispatched second).config := by
    rw [dispatched_append]
    rfl
  have together : (host.handled (first ++ second)).sink =
      if host.flushes (host.dispatched (first ++ second)).config then host.sink.reset.value
      else host.sink := by
    rw [handled_eq]
    rfl
  have apart : ((host.handled first).handled second).sink =
      if host.flushes (host.dispatched first).config || ((host.holding first).committed
          (host.dispatched first).config).flushes (host.dispatched (first ++ second)).config then
        host.sink.reset.value
      else host.sink := by
    rw [handled_eq (host.handled first), ← last, handled_eq]
    exact (host.holding first).sink_committed_twice _ _
  have config : (host.handled (first ++ second)).config =
      (host.dispatched (first ++ second)).config := by
    rw [handled_eq]
    rfl
  refine ⟨?_, ?_, ?_, ?_, ?_⟩
  · rw [config, last, handled_eq (host.handled first)]
    rfl
  · rw [handled_eq, handled_eq (host.handled first), handled_eq]
    exact List.foldl_append
  · have middle : (host.handled first).screen =
        host.screen.configured (host.dispatched first).config := by
      rw [handled_eq]
      exact (host.holding first).screen_committed set _
    have setAgain : (host.handled first).screen.configured (host.handled first).config =
        (host.handled first).screen := by
      rw [middle, handled_eq]
      rfl
    rw [handled_eq, handled_eq (host.handled first),
      (host.holding (first ++ second)).screen_committed set,
      ((host.handled first).holding second).screen_committed setAgain, last]
    change host.screen.configured _ = (host.handled first).screen.configured _
    rw [middle]
    rfl
  · rw [config, together, apart]
    intro changed
    have flushed : host.flushes (host.dispatched (first ++ second)).config = true := by
      rw [flushes, Bool.or_eq_true, bne_iff_ne, bne_iff_ne]
      exact changed.symm.imp Ne.symm Ne.symm
    have flushedApart := (host.holding first).flushes_or (host.dispatched first).config flushed
    exact ⟨if_pos flushed, if_pos flushedApart⟩
  · rw [config, together, apart]
    rintro ⟨gated, synced⟩
    rw [(host.flushes_eq_false_iff _).mpr ⟨synced.symm, gated.symm⟩]
    refine ⟨rfl, ?_⟩
    split
    · exact .inr rfl
    · exact .inl rfl

/-- The host with its keys bound anew. -/
def bound (host : Host σ) (bindings : Bindings) : Host σ := { host with bindings }

theorem unwatched_handled (host : Host (Watched σ)) (inputs : List Input) :
    (host.handled inputs).unwatched = host.unwatched.handled inputs := by
  rw [handled_eq, handled_eq, unwatched_committed]
  rfl

theorem Mirrors.handled {window : Option (UInt32 × UInt32)} {host : Host (Watched σ)}
    (mirrors : host.Mirrors window) (inputs : List Input) : (host.handled inputs).Mirrors window := by
  rw [handled_eq]
  exact mirrors.handles (.handled inputs)

/-- Whatever was done with a host built with a fresh screen, with any patience of its passes, and
however its keys are bound then: inputs handled together and in two batches lead to the same
configuration, held keys and screen, are heard alike, and end the host if one of the batches does. A
sink whose pause or synchronisation has changed in the end is flushed both ways; any other is left
alone by the inputs together, and left alone or flushed by the batches. The mutes and layers the
engine was told last are the same: this is said of the watched engine, of which the host is the
unwatched part. -/
theorem same_in_batches {setup : Setup} {engine : σ} {opener : Opener} {hz : Option UInt32}
    {patience : Nat} {host final : Host σ} {calls : List HostCall}
    {steps : List (Step (Host σ) HostCall HostAnswer)}
    (built : (build setup engine opener { refreshHz := hz }).result = .ok host)
    (ran : (performAll (performWithin patience) host calls).result = .ok (steps, final))
    (bindings : Bindings) (first second : List Input) :
    (final.bound bindings).Batched ((final.bound bindings).handled (first ++ second))
        (((final.bound bindings).handled first).handled second) ∧
      ((final.bound bindings).handleInput (first ++ second)).value.1 =
        (((final.bound bindings).handleInput first).value.1 &&
          (((final.bound bindings).handled first).handleInput second).value.1) ∧
      notices ((final.bound bindings).handleInput (first ++ second)).events =
        notices ((final.bound bindings).handleInput first).events ++
          notices (((final.bound bindings).handled first).handleInput second).events ∧
      ∃ watched watchedSteps watchedFinal told toldApart,
        (build setup (Watched.mk engine [] []) opener { refreshHz := hz }).result = .ok watched ∧
        (performAll (performWithin patience) watched calls).result =
          .ok (watchedSteps, watchedFinal) ∧
        ((watchedFinal.bound bindings).handled (first ++ second)).unwatched =
          (final.bound bindings).handled (first ++ second) ∧
        (((watchedFinal.bound bindings).handled first).handled second).unwatched =
          ((final.bound bindings).handled first).handled second ∧
        ((watchedFinal.bound bindings).handled (first ++ second)).engine.configs.getLast? =
          some told ∧
        (((watchedFinal.bound bindings).handled first).handled second).engine.configs.getLast? =
          some toldApart ∧
        told.layers = toldApart.layers := by
  obtain ⟨watched, builtWatched, rfl⟩ := build_watched built
  obtain ⟨watchedSteps, watchedFinal, ranWatched, rfl⟩ := performAll_watched ran
  obtain ⟨valid, sink, opened, rfl⟩ := (build_eq_ok_iff ..).mp builtWatched
  obtain ⟨_, run⟩ := Run.of_performAll handles_of_perform ranWatched
  obtain ⟨ends, _⟩ := run.invariant Mirrors.handles (Mirrors.around setup engine sink hz)
  have mirrors : (watchedFinal.bound bindings).Mirrors _ := { ends with }
  have set : (watchedFinal.bound bindings).screen.configured watchedFinal.config =
      (watchedFinal.bound bindings).screen := by
    simp only [Screen.configured, ← ends.swap, ← ends.fullscreen]
    rfl
  obtain ⟨told, heard, layers⟩ := (mirrors.handled (first ++ second)).told
  obtain ⟨toldApart, heardApart, layersApart⟩ := ((mirrors.handled first).handled second).told
  refine ⟨(watchedFinal.unwatched.bound bindings).batched_handled set first second, ?_, ?_, _,
    watchedSteps, watchedFinal, told, toldApart, builtWatched, ranWatched,
    unwatched_handled .., ?_, heard, heardApart, ?_⟩
  · simp only [goesOn_eq, dispatched_append, Dispatched.after, List.all_append]
  · simp only [notices_handleInput, dispatched_append, Dispatched.after, List.filterMap_append]
  · rw [unwatched_handled, unwatched_handled]
    rfl
  · have batched := (watchedFinal.bound bindings).batched_handled set first second
    rw [layers, layersApart, batched.config]

/-- A host that plays, with synchronisation off and a channel muted. -/
def playing : List HostCall :=
  [.pass 16.0, .input [.press .tab, .press .num3, .release .f11], .pass 16.0, .read [0, 0]]

/-- Pause and a layer are switched in the first batch and back in the second, synchronisation comes
back for good, and the second batch asks to quit. -/
def undone : List Input × List Input :=
  ([.press .space, .press .f6, .press .b], [.release .tab, .press .b, .press .space, .quit])

theorem same_in_batches_undone :
    ∃ host steps final,
      (build { audioFrames := 4 } fourBursts .software {}).result = .ok host ∧
        (performAll (performWithin 5) host playing).result = .ok (steps, final) ∧
        (final.bound .default).Batched ((final.bound .default).handled (undone.1 ++ undone.2))
          (((final.bound .default).handled undone.1).handled undone.2) ∧
        ((final.bound .default).handleInput (undone.1 ++ undone.2)).value.1 =
          (((final.bound .default).handleInput undone.1).value.1 &&
            (((final.bound .default).handled undone.1).handleInput undone.2).value.1) ∧
        notices ((final.bound .default).handleInput (undone.1 ++ undone.2)).events =
          notices ((final.bound .default).handleInput undone.1).events ++
            notices (((final.bound .default).handled undone.1).handleInput undone.2).events ∧
        ∃ watched watchedSteps watchedFinal told toldApart,
          (build { audioFrames := 4 } (Watched.mk fourBursts [] []) .software {}).result =
            .ok watched ∧
          (performAll (performWithin 5) watched playing).result =
            .ok (watchedSteps, watchedFinal) ∧
          ((watchedFinal.bound .default).handled (undone.1 ++ undone.2)).unwatched =
            (final.bound .default).handled (undone.1 ++ undone.2) ∧
          (((watchedFinal.bound .default).handled undone.1).handled undone.2).unwatched =
            ((final.bound .default).handled undone.1).handled undone.2 ∧
          ((watchedFinal.bound .default).handled (undone.1 ++ undone.2)).engine.configs.getLast? =
            some told ∧
          (((watchedFinal.bound .default).handled undone.1).handled
            undone.2).engine.configs.getLast? = some toldApart ∧
          told.layers = toldApart.layers :=
  ⟨_, _, _, rfl, rfl, same_in_batches
    (rfl : (build { audioFrames := 4 } fourBursts .software {}).result = _)
    (rfl : (performAll (performWithin 5) _ playing).result = _) .default undone.1 undone.2⟩

end Host

end PacingHost
