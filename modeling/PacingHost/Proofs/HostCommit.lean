import PacingHost.Host.Pass

/-! # What a new configuration changes

A host takes over a configuration one concern after the other, and compares it with the one in force
each time. `Host.commit_eq` puts the outcome into one host and one list of events: what is not
mentioned there stays as it was, and the sound is flushed when synchronisation or pause change.
-/

namespace PacingHost

namespace Host

variable {σ : Type}

/-- Taking over the configuration flushes the sound. -/
def flushes (host : Host σ) (next : Config) : Bool :=
  host.config.noSync != next.noSync || host.config.paused != next.paused

theorem flushes_eq_false_iff (host : Host σ) (next : Config) :
    host.flushes next = false ↔
      host.config.noSync = next.noSync ∧ host.config.paused = next.paused := by
  rw [flushes, Bool.or_eq_false_iff, bne_eq_false_iff_eq, bne_eq_false_iff_eq]

/-- What taking over a configuration reports. -/
def commitEvents (host : Host σ) (next : Config) : List Event :=
  (if host.config.noSync = next.noSync then []
    else [.syncToggled next.noSync, .swapSet (.ofUnsynced next.noSync), .queueReset]) ++
  (if host.config.paused = next.paused then [] else [.pauseToggled next.paused, .queueReset]) ++
  if host.config.fullscreen = next.fullscreen then [] else [.fullscreenSet next.fullscreen]

theorem commitSync_eq (host : Host σ) (next : Config) :
    host.commitSync next =
      ⟨{ host with
          screen := { host.screen with
            swap :=
              if host.config.noSync = next.noSync then host.screen.swap
              else .ofUnsynced next.noSync }
          sink :=
            if host.config.noSync = next.noSync then host.sink else host.sink.reset.value },
        if host.config.noSync = next.noSync then []
        else [.syncToggled next.noSync, .swapSet (.ofUnsynced next.noSync), .queueReset]⟩ := by
  unfold commitSync
  split <;> rfl

theorem commitPause_eq (host : Host σ) (next : Config) :
    host.commitPause next =
      ⟨{ host with
          sink :=
            if host.config.paused = next.paused then host.sink else host.sink.reset.value },
        if host.config.paused = next.paused then []
        else [.pauseToggled next.paused, .queueReset]⟩ := by
  unfold commitPause
  split <;> rfl

theorem commitFullscreen_eq (host : Host σ) (next : Config) :
    host.commitFullscreen next =
      ⟨{ host with
          screen := { host.screen with
            fullscreen :=
              if host.config.fullscreen = next.fullscreen then host.screen.fullscreen
              else next.fullscreen } },
        if host.config.fullscreen = next.fullscreen then []
        else [.fullscreenSet next.fullscreen]⟩ := by
  unfold commitFullscreen
  split <;> rfl

variable [Engine σ]

theorem commitLayers_eq (host : Host σ) (next : Config) :
    host.commitLayers next =
      { host with
        engine :=
          if host.config.layers = next.layers then host.engine
          else Engine.configure next host.engine } := by
  unfold commitLayers
  split <;> rfl

/-- The host once a configuration is in force. -/
def committed (host : Host σ) (next : Config) : Host σ :=
  { host with
    config := next
    engine :=
      if host.config.layers = next.layers then host.engine else Engine.configure next host.engine
    sink := if host.flushes next then host.sink.reset.value else host.sink
    screen := { host.screen with
      swap :=
        if host.config.noSync = next.noSync then host.screen.swap else .ofUnsynced next.noSync
      fullscreen :=
        if host.config.fullscreen = next.fullscreen then host.screen.fullscreen
        else next.fullscreen } }

/-- A second flush at once makes no difference. -/
theorem sink_committed (host : Host σ) (next : Config) :
    (if host.config.paused = next.paused then
        if host.config.noSync = next.noSync then host.sink else host.sink.reset.value
      else
        (if host.config.noSync = next.noSync then host.sink
          else host.sink.reset.value).reset.value) = (host.committed next).sink := by
  cases flushed : host.flushes next with
  | false =>
    obtain ⟨synced, gated⟩ := (host.flushes_eq_false_iff next).mp flushed
    have kept : (host.committed next).sink = host.sink := if_neg (flushed ▸ Bool.false_ne_true)
    rw [if_pos gated, if_pos synced, kept]
  | true =>
    have reset : (host.committed next).sink = host.sink.reset.value := if_pos flushed
    rw [reset]
    split
    · next gated =>
      split
      · next synced =>
        have kept := (host.flushes_eq_false_iff next).mpr ⟨synced, gated⟩
        exact absurd (kept.symm.trans flushed) Bool.false_ne_true
      · rfl
    · split <;> rfl

/-- Taking over a configuration, in one piece. -/
theorem commit_eq (host : Host σ) (next : Config) :
    host.commit next = ⟨host.committed next, host.commitEvents next⟩ := by
  apply Logged.ext
  · simp only [commit, commitSync_eq, commitPause_eq, commitFullscreen_eq, commitLayers_eq,
      Logged.bind_value, Logged.pure_value, sink_committed]
    rfl
  · simp only [commit, commitSync_eq, commitPause_eq, commitFullscreen_eq, Logged.bind_events,
      Logged.pure_events, commitEvents, List.append_nil, List.append_assoc]

end Host

end PacingHost
