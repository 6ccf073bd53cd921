import PacingHost.Engine.Script
import PacingHost.Proofs.HostCommit

/-! # Each change has its own effect

A configuration is taken over as a whole, and several concerns may change with it. `Host.Effects`
says what then happens to the sink, to the screen and to the engine, each told apart by what
concerns it, and that everything else stays. `Host.commit_effects` says that every commit has these
effects, that the same configuration has none, and that the step switch has none.
-/

namespace PacingHost

namespace Event

/-- The swap mode that a screen is set to. -/
def swapSet? : Event → Option Swap
  | .swapSet mode => some mode
  | _ => none

/-- The screen is filled or not. -/
def fullscreenSet? : Event → Option Bool
  | .fullscreenSet on => some on
  | _ => none

end Event

namespace Host

variable {σ : Type}

/-- What one kind of listener hears of a commit. -/
theorem filterMap_commitEvents {β : Type} (hear : Event → Option β) (host : Host σ) (next : Config) :
    (host.commitEvents next).filterMap hear =
      (if host.config.noSync = next.noSync then []
        else [Event.syncToggled next.noSync, .swapSet (.ofUnsynced next.noSync),
          .queueReset].filterMap hear) ++
      (if host.config.paused = next.paused then []
        else [Event.pauseToggled next.paused, .queueReset].filterMap hear) ++
      if host.config.fullscreen = next.fullscreen then []
        else [Event.fullscreenSet next.fullscreen].filterMap hear := by
  simp only [commitEvents, List.filterMap_append, apply_ite (List.filterMap hear),
    List.filterMap_nil]

variable [Engine σ]

/-- What comes of taking over a configuration: the host afterwards and what was reported. -/
structure Effects (host : Host σ) (next : Config) (after : Host σ) (events : List Event) :
    Prop where
  config : after.config = next
  /-- Playback is stopped once, however many switches ask for it; its counts stay. -/
  flushed : host.config.paused ≠ next.paused ∨ host.config.noSync ≠ next.noSync →
    after.sink = { host.sink with
      queue := { host.sink.queue with bytes := [], paused := true }
      gate := { host.sink.gate with ready := false } }
  kept : host.config.paused = next.paused ∧ host.config.noSync = next.noSync →
    after.sink = host.sink
  /-- The screen hears of a swap mode when synchronisation changes. -/
  swaps : events.filterMap Event.swapSet? =
    if host.config.noSync = next.noSync then [] else [.ofUnsynced next.noSync]
  fullscreens : events.filterMap Event.fullscreenSet? =
    if host.config.fullscreen = next.fullscreen then [] else [next.fullscreen]
  screen : after.screen = { host.screen with
    swap :=
      if host.config.noSync = next.noSync then host.screen.swap else .ofUnsynced next.noSync
    fullscreen :=
      if host.config.fullscreen = next.fullscreen then host.screen.fullscreen
      else next.fullscreen }
  /-- What the engine writes down of what it is told is one configuration, or nothing. -/
  told : ∀ told : σ → List Config,
    (∀ config engine, told (Engine.configure config engine) = told engine ++ [config]) →
      told after.engine =
        told host.engine ++ if host.config.layers = next.layers then [] else [next]
  /-- Nothing else is done with the engine. -/
  unseen : ∀ {α : Type} (view : σ → α),
    (∀ config engine, view (Engine.configure config engine) = view engine) →
      view after.engine = view host.engine
  setup : after.setup = host.setup
  held : after.held = host.held
  bindings : after.bindings = host.bindings
  unnoticed : notices events = []

variable {host : Host σ}

theorem sink_committed_of_flushed {next : Config}
    (changed : host.config.paused ≠ next.paused ∨ host.config.noSync ≠ next.noSync) :
    (host.committed next).sink = host.sink.reset.value := by
  refine if_pos (Bool.of_not_eq_false fun kept => ?_)
  obtain ⟨synced, gated⟩ := (host.flushes_eq_false_iff next).mp kept
  exact changed.elim (· gated) (· synced)

theorem sink_committed_of_kept {next : Config}
    (same : host.config.paused = next.paused ∧ host.config.noSync = next.noSync) :
    (host.committed next).sink = host.sink :=
  if_neg ((host.flushes_eq_false_iff next).mpr same.symm ▸ Bool.false_ne_true)

theorem effects_committed (host : Host σ) (next : Config) :
    host.Effects next (host.committed next) (host.commitEvents next) where
  config := rfl
  flushed := sink_committed_of_flushed
  kept := sink_committed_of_kept
  swaps := by
    rw [filterMap_commitEvents]
    simp only [List.filterMap_cons, List.filterMap_nil, Event.swapSet?, ite_self, List.append_nil]
  fullscreens := by
    rw [filterMap_commitEvents]
    simp only [List.filterMap_cons, List.filterMap_nil, Event.fullscreenSet?, ite_self,
      List.nil_append]
  screen := rfl
  told := by
    intro told writes
    change told (if _ then _ else _) = _
    split
    · exact (List.append_nil _).symm
    · exact writes next host.engine
  unseen := by
    intro _ view blind
    change view (if _ then _ else _) = _
    split
    · rfl
    · exact blind next host.engine
  setup := rfl
  held := rfl
  bindings := rfl
  unnoticed := by
    rw [notices, filterMap_commitEvents]
    simp only [List.filterMap_cons, List.filterMap_nil, Event.notice?, ite_self, List.append_nil]

/-- A commit that only concerns the step switch sets it. -/
theorem commit_step (host : Host σ) (step : Bool) :
    host.commit { host.config with step } =
      pure { host with config := { host.config with step } } := by
  simp only [commit, commitSync, commitPause, commitFullscreen, commitLayers, Config.layers,
    ↓reduceIte, pure_bind]

/-- Every commit has the effects of what it changes and no other. The same configuration a second
time changes and reports nothing, and the step switch by itself only stands in the configuration. -/
theorem commit_effects (host : Host σ) (next : Config) :
    host.Effects next (host.commit next).value (host.commit next).events ∧
      (host.commit next).value.commit next = pure (host.commit next).value ∧
      ∀ step, host.commit { host.config with step } =
        pure { host with config := { host.config with step } } := by
  refine ⟨?_, (host.commit next).value.commit_same, host.commit_step⟩
  rw [commit_eq]
  exact host.effects_committed next

/-- A playing host with eight bytes in its queue. -/
def halfPlayed : Host (Script 2 2) where
  setup := {}
  engine := {}
  screen := {}
  sink :=
    ⟨{ format := ⟨44100, 2, 8⟩, bytes := [1, 2, 3, 4, 5, 6, 7, 8], paused := false, played := 16 },
      .blank 8, ⟨true, 8, 16⟩⟩

/-- Pause, synchronisation and a layer change at once. -/
theorem commit_effects_halfPlayed :
    (halfPlayed.commit { paused := true, noSync := true, hideWindow := true }).value.sink =
        ⟨{ format := ⟨44100, 2, 8⟩, played := 16 }, .blank 8, ⟨false, 8, 16⟩⟩ ∧
      (halfPlayed.commit { paused := true, noSync := true, hideWindow := true }).value.engine.applied =
        [{ paused := true, noSync := true, hideWindow := true }] := by
  obtain ⟨effects, _, _⟩ :=
    commit_effects halfPlayed { paused := true, noSync := true, hideWindow := true }
  exact ⟨effects.flushed (.inl (by decide)), effects.told Script.applied fun _ _ => rfl⟩

end Host

end PacingHost
