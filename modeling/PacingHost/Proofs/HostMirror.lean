import PacingHost.Engine.Script
import PacingHost.Proofs.PassAccounts
import PacingHost.Proofs.Watched

/-! # Outputs mirror the configuration

A configuration has effects only where it differs from the last one, so what the screen and the
engine were told once must still be right after any number of changes elsewhere. `Host.Mirrors` says
that it is: the screen is set as the configuration has it, and the last configuration its engine was
told has the mutes and layers of the one in force. Every call keeps it, whatever path the
configuration takes.
-/

namespace PacingHost

/-- What a screen is set to, apart from what it shows. -/
structure Screen.Settings where
  swap : Swap
  fullscreen : Bool
  window : Option (UInt32 × UInt32)
deriving DecidableEq, Repr

def Screen.settings (screen : Screen) : Screen.Settings :=
  ⟨screen.swap, screen.fullscreen, screen.window⟩

namespace Outputs

variable {width height : Nat} {outputs next : Outputs} {outcomes : List Drained}

/-- No call on the outputs sets the screen differently. -/
theorem settings_of_perform {service : Service}
    (ran : (outputs.perform width height service).result = .ok (outcomes, next)) :
    next.screen.settings = outputs.screen.settings := by
  cases service with
  | upload pixels =>
    obtain ⟨screen, uploaded, ran⟩ := Report.result_bind_eq_ok_iff.mp ran
    cases ran
    simp only [Screen.upload] at uploaded
    split at uploaded
    · cases uploaded
      rfl
    · cases uploaded
  | present => cases ran; rfl
  | render burst =>
    obtain ⟨_, _, ran⟩ := Report.result_bind_eq_ok_iff.mp ran
    cases ran
    rfl

theorem settings_of_performAll {services : List Service}
    (ran : (outputs.performAll width height services).result = .ok (outcomes, next)) :
    next.screen.settings = outputs.screen.settings := by
  induction services generalizing outputs outcomes with
  | nil => cases ran; rfl
  | cons service services ih =>
    obtain ⟨⟨_, middle⟩, made, ran⟩ := Report.result_bind_eq_ok_iff.mp ran
    obtain ⟨_, later, ran⟩ := Report.result_bind_eq_ok_iff.mp ran
    cases ran
    exact (ih later).trans (settings_of_perform made)

end Outputs

namespace Host

variable {σ : Type}

/-- The screen is set as the configuration has it, its window is the one it was given, and the
engine was last told the mutes and layers in force. -/
structure Mirrors (window : Option (UInt32 × UInt32)) (host : Host (Watched σ)) : Prop where
  swap : host.screen.swap = .ofUnsynced host.config.noSync
  fullscreen : host.screen.fullscreen = host.config.fullscreen
  window : host.screen.window = window
  told : ∃ last, host.engine.configs.getLast? = some last ∧ last.layers = host.config.layers

variable {window : Option (UInt32 × UInt32)} {host next : Host (Watched σ)}

/-- The end of a step concerns neither the screen nor the engine. -/
theorem Mirrors.settled (mirrors : host.Mirrors window) : host.settled.Mirrors window := by
  simp only [Host.settled]
  split
  · exact { mirrors with }
  · exact mirrors

variable [Engine σ]

theorem Mirrors.committed (mirrors : host.Mirrors window) (config : Config) :
    (host.committed config).Mirrors window where
  swap := by
    simp only [Host.committed]
    split
    · next same => rw [mirrors.swap, same]
    · rfl
  fullscreen := by
    simp only [Host.committed]
    split
    · next same => rw [mirrors.fullscreen, same]
    · rfl
  window := mirrors.window
  told := by
    simp only [Host.committed]
    split
    · next same => exact same ▸ mirrors.told
    · exact ⟨config, List.getLast?_concat, rfl⟩

/-- A pass shows pictures and runs the engine, and neither concerns the configuration. -/
theorem Mirrors.passed (mirrors : host.Mirrors window) {delta : Float}
    {answers : List (Answer × Watched σ)} {outcomes : List Drained} {outputs : Outputs}
    (passed : host.Passed delta answers outcomes outputs) :
    (host.afterPass answers outputs).Mirrors window := by
  obtain ⟨swap, fullscreen, same⟩ :=
    Screen.Settings.mk.inj (Outputs.settings_of_performAll passed.served)
  have configs := passed.given.last_keeps (fun watched => watched.configs = host.engine.configs)
    (fun kept ran => (Watched.configs_of_run ran).trans kept) rfl
  apply Mirrors.settled
  exact {
    swap := swap.trans mirrors.swap
    fullscreen := fullscreen.trans mirrors.fullscreen
    window := same.trans mirrors.window
    told := by
      obtain ⟨last, told, layers⟩ := mirrors.told
      exact ⟨last, by rw [← told, ← configs]; rfl, layers⟩ }

theorem Mirrors.handles {call : HostCall} {answer : HostAnswer} (mirrors : host.Mirrors window)
    (handled : host.Handles call answer next) : next.Mirrors window := by
  cases handled with
  | stood => exact mirrors
  | boundPress | boundHold | read | consumed => exact { mirrors with }
  | passed passed => exact mirrors.passed passed
  | committed config => exact mirrors.committed config
  | handled inputs =>
    have holding : (host.holding inputs).Mirrors window := { mirrors with }
    exact holding.committed _

theorem Mirrors.around (setup : Setup) (engine : σ) (sink : Sink) (hz : Option UInt32) :
    (Host.around setup (Watched.mk engine [] []) sink { refreshHz := hz }).Mirrors
      (some (Word.cappedProduct (Engine.width σ) setup.renderScale,
        Word.cappedProduct (Engine.height σ) setup.renderScale)) where
  swap := rfl
  fullscreen := rfl
  window := rfl
  told := ⟨{}, rfl, rfl⟩

/-- A host built with a fresh screen, whatever was done with it since, and whatever its passes had of
patience: the screen swaps at once exactly when synchronisation is off, it is full exactly when the
configuration says so, and its window has the size it was given at first. The run is one of a host
whose engine is watched, and the last configuration told to that engine has the mutes and layers of
the one in force. -/
theorem outputs_mirror_config {setup : Setup} {engine : σ} {opener : Opener} {hz : Option UInt32}
    {patience : Nat} {host final : Host σ} {calls : List HostCall}
    {steps : List (Step (Host σ) HostCall HostAnswer)}
    (built : (build setup engine opener { refreshHz := hz }).result = .ok host)
    (ran : (performAll (performWithin patience) host calls).result = .ok (steps, final)) :
    (final.screen.swap = .immediate ↔ final.config.noSync = true) ∧
      (final.screen.swap = .vsync ↔ final.config.noSync = false) ∧
      final.screen.fullscreen = final.config.fullscreen ∧
      final.screen.window = host.screen.window ∧
      host.screen.window = some (Word.cappedProduct (Engine.width σ) setup.renderScale,
        Word.cappedProduct (Engine.height σ) setup.renderScale) ∧
      ∃ watched watchedSteps watchedFinal last,
        (build setup (Watched.mk engine [] []) opener { refreshHz := hz }).result = .ok watched ∧
        (performAll (performWithin patience) watched calls).result =
          .ok (watchedSteps, watchedFinal) ∧
        watchedFinal.unwatched = final ∧ watchedFinal.engine.configs.getLast? = some last ∧
        last.muted = final.config.muted ∧ last.hideBackground = final.config.hideBackground ∧
        last.hideWindow = final.config.hideWindow ∧
        last.hideObjects = final.config.hideObjects := by
  obtain ⟨watched, builtWatched, rfl⟩ := build_watched built
  obtain ⟨watchedSteps, watchedFinal, ranWatched, rfl⟩ := performAll_watched ran
  obtain ⟨valid, sink, opened, rfl⟩ := (build_eq_ok_iff ..).mp builtWatched
  obtain ⟨_, run⟩ := Run.of_performAll handles_of_perform ranWatched
  obtain ⟨mirrors, _⟩ := run.invariant Mirrors.handles (Mirrors.around setup engine sink hz)
  obtain ⟨last, told, layers⟩ := mirrors.told
  obtain ⟨muted, background, window, objects⟩ := Config.Layers.mk.inj layers
  have swap : watchedFinal.unwatched.screen.swap =
      .ofUnsynced watchedFinal.unwatched.config.noSync := mirrors.swap
  refine ⟨?_, ?_, mirrors.fullscreen, mirrors.window, rfl, _, watchedSteps, watchedFinal, last,
    builtWatched, ranWatched, rfl, told, muted, background, window, objects⟩
  · rw [swap]
    cases watchedFinal.unwatched.config.noSync <;> decide
  · rw [swap]
    cases watchedFinal.unwatched.config.noSync <;> decide

/-- Switches are flipped by keys, by a key bound anew and by commits, around a step. -/
def flips : List HostCall :=
  [.pass 10.0, .bindPress .z (.toggleChannel 2),
    .input [.press .z, .press .tab, .press .f11, .release .f11],
    .commit { fullscreen := true, hideWindow := true, step := true }, .pass 16.0,
    .input [.press .tab, .press .o]]

theorem outputs_mirror_config_after_step :
    ∃ host steps final,
      (build {} ({ answers := [1, 6, 3] } : Script 2 2) .software {}).result = .ok host ∧
        (performAll (performWithin 4) host flips).result = .ok (steps, final) ∧
        (final.screen.swap = .immediate ↔ final.config.noSync = true) ∧
        (final.screen.swap = .vsync ↔ final.config.noSync = false) ∧
        final.screen.fullscreen = final.config.fullscreen ∧
        final.screen.window = host.screen.window ∧ host.screen.window = some (8, 8) ∧
        ∃ watched watchedSteps watchedFinal last,
          (build {} (Watched.mk ({ answers := [1, 6, 3] } : Script 2 2) [] []) .software
            {}).result = .ok watched ∧
          (performAll (performWithin 4) watched flips).result = .ok (watchedSteps, watchedFinal) ∧
          watchedFinal.unwatched = final ∧ watchedFinal.engine.configs.getLast? = some last ∧
          last.muted = final.config.muted ∧ last.hideBackground = final.config.hideBackground ∧
          last.hideWindow = final.config.hideWindow ∧
          last.hideObjects = final.config.hideObjects :=
  ⟨_, _, _, rfl, rfl, outputs_mirror_config
    (rfl : (build {} ({ answers := [1, 6, 3] } : Script 2 2) .software {}).result = _)
    (rfl : (performAll (performWithin 4) _ flips).result = _)⟩

end Host

end PacingHost
