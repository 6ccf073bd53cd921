import PacingHost.Engine.Script
import PacingHost.Proofs.HostRun
import PacingHost.Proofs.SinkFormats

/-! # What a host can be built from

The parameters of a host are checked where they are used: its own first, then what is asked of the
device, the size of its buffers and at last the thresholds. `Setup.Drivable` is what these checks
come to. With a software queue nothing else can go wrong, so a host is built exactly from drivable
parameters, and whatever is wrong with others is told as an error of the parameters.
-/

namespace PacingHost

/-- A request that names a rate and a number of frames is refused only for being too large. -/
theorem Request.setup_of_negotiate {request : Request} {error : HostError}
    (rate : request.sampleRate ≠ 0) (frames : request.frames ≠ 0)
    (refused : request.negotiate = .error error) : ∃ cause, error = .setup cause := by
  rw [Request.negotiate, if_neg (not_or.mpr ⟨rate, frames⟩)] at refused
  cases asked : request.deviceSamples with
  | error early =>
    rw [asked] at refused
    cases refused
    unfold Request.deviceSamples at asked
    split at asked
    · cases asked
    · cases asked
      exact ⟨_, rfl⟩
  | ok samples =>
    rw [asked] at refused
    change Format.stereoOf request.sampleRate samples = .error error at refused
    unfold Format.stereoOf at refused
    split at refused
    · cases refused
    · cases refused
      exact ⟨_, rfl⟩

/-- A request is granted exactly the stereo format with eight bytes for each frame. -/
theorem Request.negotiate_eq_ok_iff_granted (request : Request) (format : Format) :
    request.negotiate = .ok format ↔
      request.sampleRate ≠ 0 ∧ request.frames ≠ 0 ∧ 8 * request.frames.toNat < Word.limit ∧
        format = ⟨request.sampleRate, stereo, UInt32.ofNat (8 * request.frames.toNat)⟩ := by
  rw [request.negotiate_eq_ok_iff]
  constructor
  · rintro ⟨rate, frames, same, two, size⟩
    refine ⟨rate, frames, size ▸ format.bufferSize.toNat_lt, ?_⟩
    rw [← size, UInt32.ofNat_toNat, ← same, ← two]
  · rintro ⟨rate, frames, fits, rfl⟩
    exact ⟨rate, frames, rfl, rfl, UInt32.toNat_ofNat_of_lt' fits⟩

namespace Sink

variable {queue : Queue} {request : Request} {thresholds : Thresholds}

/-- A stereo buffer of eight bytes for each frame holds a frame. -/
theorem hasFrames_of_negotiate {format : Format} (granted : request.negotiate = .ok format) :
    hasFrames format = .ok true := by
  obtain ⟨_, frames, _, two, size⟩ := (request.negotiate_eq_ok_iff format).mp granted
  have positive : 0 < request.frames.toNat :=
    Nat.pos_of_ne_zero fun zero => frames (UInt32.toNat_inj.mp zero)
  have buffer : format.bufferSize ≠ 0 := by
    intro zero
    rw [zero, UInt32.toNat_zero] at size
    omega
  have channels : format.channels ≠ 0 := two ▸ by decide
  have least : 8 * request.frames.toNat / 4 ≠ 0 := by omega
  rw [hasFrames_eq, if_neg buffer, if_neg channels, Format.frameSize_stereo two, stereoFrame_eq,
    size, decide_eq_true least]

/-- Around a queue whose buffers hold a frame, a sink is built unless its thresholds are wrong. -/
theorem wrap_of_hasFrames (usable : hasFrames queue.format = .ok true) :
    (wrap queue thresholds).result =
      match Gate.ofThresholds thresholds queue.format.bufferSize with
      | .ok gate =>
        .ok ⟨{ queue with paused := true }, .blank queue.format.bufferSize.toNat, gate⟩
      | .error cause => .error (.error (.setup cause)) := by
  unfold wrap Gate.setUp
  dsimp only
  rw [usable]
  cases Gate.ofThresholds thresholds queue.format.bufferSize <;> rfl

/-- What a software queue is opened with depends on what is granted, and on the thresholds. -/
theorem ofRequest_software (request : Request) (thresholds : Thresholds) :
    (ofRequest .software request thresholds).result =
      match request.negotiate with
      | .ok format =>
        match Gate.ofThresholds thresholds format.bufferSize with
        | .ok gate => .ok ⟨.ofFormat format, .blank format.bufferSize.toNat, gate⟩
        | .error cause => .error (.error (.setup cause))
      | .error error => .error (.error error) := by
  cases granted : request.negotiate with
  | error error =>
    have refused : (Opener.software.openQueue request).result = .error error := by
      change (Queue.opened .queueOpened request).result = _
      rw [Queue.opened, granted]
      rfl
    exact Report.result_bind_eq_error_iff.mpr
      (.inl (Report.result_mapFailure_eq_error_iff.mpr ⟨error, refused, rfl⟩))
  | ok format =>
    have opened : (Opener.software.openQueue request).result = .ok (.ofFormat format) := by
      change (Queue.opened .queueOpened request).result = _
      rw [Queue.opened, granted]
      rfl
    rw [ofRequest, (Report.bind_of_ok (Report.result_mapFailure_eq_ok_iff.mpr opened) _).1]
    exact wrap_of_hasFrames (hasFrames_of_negotiate granted)

end Sink

/-- Parameters whose products can be counted in 32 bits and of which none is missing. -/
structure Setup.Drivable (setup : Setup) : Prop where
  clock : 1 ≤ setup.cyclesPerSecond.toNat
  scale : 1 ≤ setup.renderScale.toNat
  rate : 1 ≤ setup.audioFrequency.toNat
  frames : 1 ≤ setup.audioFrames.toNat
  buffer : 8 * setup.audioFrames.toNat < Word.limit
  start : 1 ≤ setup.thresholds.start.toNat
  ordered : setup.thresholds.start.toNat ≤ setup.thresholds.max.toNat
  counted : setup.thresholds.max.toNat * (8 * setup.audioFrames.toNat) < Word.limit

/-- A word that is not zero is at least one. -/
theorem Word.one_le_toNat_iff (word : UInt32) : 1 ≤ word.toNat ↔ word ≠ 0 := by
  rw [ne_eq, ← UInt32.toNat_inj, UInt32.toNat_zero]
  omega

theorem Setup.drivable_iff (setup : Setup) :
    setup.Drivable ↔
      setup.validate = .ok () ∧
        ∃ format gate, setup.request.negotiate = .ok format ∧
          Gate.ofThresholds setup.thresholds format.bufferSize = .ok gate := by
  simp only [setup.validate_eq_ok_iff, ← Word.one_le_toNat_iff]
  constructor
  · intro drivable
    have granted := (setup.request.negotiate_eq_ok_iff_granted _).mpr
      ⟨(Word.one_le_toNat_iff _).mp drivable.rate, (Word.one_le_toNat_iff _).mp drivable.frames,
        drivable.buffer, rfl⟩
    have size := ((setup.request.negotiate_eq_ok_iff _).mp granted).2.2.2.2
    have levels := (Gate.ofThresholds_eq_ok_iff setup.thresholds _ _).mpr
      ⟨UInt32.lt_iff_toNat_lt.mpr drivable.start, UInt32.le_iff_toNat_le.mpr drivable.ordered,
        size ▸ drivable.counted, rfl⟩
    exact ⟨⟨drivable.clock, drivable.scale, drivable.frames, drivable.rate⟩, _, _, granted, levels⟩
  · rintro ⟨⟨clock, scale, frames, rate⟩, format, gate, granted, levels⟩
    obtain ⟨_, _, fits, rfl⟩ := (setup.request.negotiate_eq_ok_iff_granted format).mp granted
    obtain ⟨least, ordered, counted, _⟩ := (Gate.ofThresholds_eq_ok_iff _ _ _).mp levels
    rw [UInt32.toNat_ofNat_of_lt' fits] at counted
    exact {
      clock, scale, rate, frames
      buffer := fits
      start := UInt32.lt_iff_toNat_lt.mp least
      ordered := UInt32.le_iff_toNat_le.mp ordered
      counted }

namespace Host

variable {σ : Type} [Engine σ]

/-- A host that was just built for an engine and a screen. -/
structure Fresh (setup : Setup) (engine : σ) (screen : Screen) (host : Host σ) : Prop where
  parameters : host.setup = setup
  rate : host.sink.format.sampleRate = setup.audioFrequency
  channels : host.sink.format.channels = stereo
  buffer : host.sink.format.bufferSize.toNat = 8 * setup.audioFrames.toNat
  start : host.sink.gate.startBytes =
    setup.thresholds.start.toNat * (8 * setup.audioFrames.toNat)
  max : host.sink.gate.maxBytes = setup.thresholds.max.toNat * (8 * setup.audioFrames.toNat)
  empty : host.sink.queue.bytes = []
  held : host.sink.queue.paused = true
  closed : host.sink.gate.ready = false
  config : host.config = {}
  shown : host.engine = Engine.configure {} engine
  /-- Whatever an engine writes down of what it is told, it was told once. -/
  once : ∀ told : σ → List Config,
    (∀ config engine, told (Engine.configure config engine) = told engine ++ [config]) →
      told host.engine = told engine ++ [({} : Config)]
  /-- The window has the size of a scaled picture; its sides stay at the largest word. -/
  window : ∃ width height, host.screen = { screen with window := some (width, height) } ∧
    width.toNat = min (Engine.width σ * setup.renderScale.toNat) (Word.limit - 1) ∧
    height.toNat = min (Engine.height σ * setup.renderScale.toNat) (Word.limit - 1)

/-- With a software queue only parameters are told to be wrong. -/
theorem setup_of_build {setup : Setup} {engine : σ} {screen : Screen} {failure : Failure}
    (stopped : (build setup engine .software screen).result = .error failure) :
    ∃ cause, failure = .error (.setup cause) := by
  rcases Report.result_bind_eq_error_iff.mp stopped with invalid | ⟨_, valid, stopped⟩
  · obtain ⟨cause, _, same⟩ := Report.result_mapFailure_eq_error_iff.mp invalid
    exact ⟨cause, same.symm⟩
  · have valid : setup.validate = .ok () := Report.result_mapFailure_eq_ok_iff.mp valid
    obtain ⟨_, _, frames, rate⟩ := setup.validate_eq_ok_iff.mp valid
    rcases Report.result_bind_eq_error_iff.mp stopped with refused | ⟨sink, _, impossible⟩
    · rw [Sink.ofRequest_software] at refused
      cases granted : setup.request.negotiate with
      | error error =>
        obtain ⟨cause, rfl⟩ := Request.setup_of_negotiate rate frames granted
        rw [granted] at refused
        exact ⟨cause, (Except.error.inj refused).symm⟩
      | ok format =>
        rw [granted] at refused
        dsimp only at refused
        split at refused
        · cases refused
        · exact ⟨_, (Except.error.inj refused).symm⟩
    · cases impossible

theorem fresh_around {setup : Setup} (engine : σ) (screen : Screen) {format : Format} {gate : Gate}
    (valid : setup.validate = .ok ()) (granted : setup.request.negotiate = .ok format)
    (levels : Gate.ofThresholds setup.thresholds format.bufferSize = .ok gate) :
    Fresh setup engine screen
      (around setup engine ⟨.ofFormat format, .blank format.bufferSize.toNat, gate⟩ screen) := by
  obtain ⟨_, scale, _⟩ := setup.validate_eq_ok_iff.mp valid
  obtain ⟨_, _, rate, two, size⟩ := (setup.request.negotiate_eq_ok_iff format).mp granted
  obtain ⟨_, _, _, rfl⟩ := (Gate.ofThresholds_eq_ok_iff _ _ _).mp levels
  exact {
    parameters := rfl
    rate
    channels := two
    buffer := size
    start := size ▸ rfl
    max := size ▸ rfl
    empty := rfl
    held := rfl
    closed := rfl
    config := rfl
    shown := rfl
    once := fun _ writes => writes {} engine
    window := ⟨_, _, rfl, Word.toNat_cappedProduct _ _ scale,
      Word.toNat_cappedProduct _ _ scale⟩ }

theorem build_software_eq_ok_iff (setup : Setup) (engine : σ) (screen : Screen) (host : Host σ) :
    (build setup engine .software screen).result = .ok host ↔
      setup.validate = .ok () ∧
        ∃ format gate, setup.request.negotiate = .ok format ∧
          Gate.ofThresholds setup.thresholds format.bufferSize = .ok gate ∧
          host = around setup engine
            ⟨.ofFormat format, .blank format.bufferSize.toNat, gate⟩ screen := by
  rw [build_eq_ok_iff, Sink.ofRequest_software]
  refine and_congr_right fun _ => ?_
  constructor
  · rintro ⟨sink, opened, rfl⟩
    split at opened
    · next format granted =>
      split at opened
      · next gate levels =>
        cases opened
        exact ⟨format, gate, granted, levels, rfl⟩
      · cases opened
    · cases opened
  · rintro ⟨format, gate, granted, levels, rfl⟩
    rw [granted]
    dsimp only
    rw [levels]
    exact ⟨_, rfl, rfl⟩

/-- Whatever the parameters are, a host with a software queue is built exactly from drivable ones,
and a fresh one; from others an error of the parameters is told and never another, nor a fault. -/
theorem build_of_drivable (setup : Setup) (engine : σ) (screen : Screen) :
    ((∃ host, (build setup engine .software screen).result = .ok host) ↔ setup.Drivable) ∧
      ((∃ cause, (build setup engine .software screen).result = .error (.error (.setup cause))) ↔
        ¬setup.Drivable) ∧
      ∀ host, (build setup engine .software screen).result = .ok host →
        host.Fresh setup engine screen := by
  have built : (∃ host, (build setup engine .software screen).result = .ok host) ↔
      setup.Drivable := by
    rw [setup.drivable_iff]
    constructor
    · rintro ⟨host, built⟩
      obtain ⟨valid, format, gate, granted, levels, _⟩ := (build_software_eq_ok_iff ..).mp built
      exact ⟨valid, format, gate, granted, levels⟩
    · rintro ⟨valid, format, gate, granted, levels⟩
      exact ⟨_, (build_software_eq_ok_iff ..).mpr ⟨valid, format, gate, granted, levels, rfl⟩⟩
  refine ⟨built, ?_, ?_⟩
  · rw [← built]
    constructor
    · rintro ⟨cause, stopped⟩ ⟨host, ran⟩
      cases stopped.symm.trans ran
    · intro never
      cases ended : (build setup engine .software screen).result with
      | ok host => exact absurd ⟨host, ended⟩ never
      | error failure =>
        obtain ⟨cause, rfl⟩ := setup_of_build ended
        exact ⟨cause, rfl⟩
  · intro host ran
    obtain ⟨valid, format, gate, granted, levels, rfl⟩ := (build_software_eq_ok_iff ..).mp ran
    exact fresh_around engine screen valid granted levels

/-- With one frame in a buffer the largest max threshold is one below `2 ^ 29`. -/
theorem build_of_drivable_at_limit :
    (∃ host, (build { audioFrames := 1, thresholds := ⟨1, 536870911⟩ } ({} : Script 2 2)
        .software {}).result = .ok host ∧
      host.Fresh { audioFrames := 1, thresholds := ⟨1, 536870911⟩ } {} {}) ∧
      ∃ cause, (build { audioFrames := 1, thresholds := ⟨1, 536870912⟩ } ({} : Script 2 2)
        .software {}).result = .error (.error (.setup cause)) := by
  obtain ⟨built, _, fresh⟩ := build_of_drivable
    { audioFrames := 1, thresholds := ⟨1, 536870911⟩ } ({} : Script 2 2) {}
  obtain ⟨_, refused, _⟩ := build_of_drivable
    { audioFrames := 1, thresholds := ⟨1, 536870912⟩ } ({} : Script 2 2) {}
  obtain ⟨host, ran⟩ := built.mpr (by constructor <;> decide)
  refine ⟨⟨host, ran, fresh host ran⟩, refused.mpr ?_⟩
  intro drivable
  exact absurd drivable.counted (by decide)

end Host

end PacingHost
