import PacingHost.Proofs.HostReturns
import PacingHost.Proofs.PipelineFill
import PacingHost.Proofs.SingleStep
import PacingHost.Proofs.SinkFormats
import PacingHost.Proofs.SinkStream
import PacingHost.Proofs.ToneSamples

/-! # A muted engine is silent

With all channels muted a tone engine goes on making samples, but they have no amplitude. A host
that runs its engine only like this never gets anything else to its queue: its bursts are cut, put
into a staging buffer that is used again and again, queued, dropped, flushed and taken out in part,
and what is read is silence. `Host.Flat` holds of such a host before and after each of its calls.
The device has at most as many channels as the engine; on a device with more of them a sink would
queue bytes that no burst was widened to.
-/

namespace PacingHost

/-! ## Bytes -/

/-- The bytes of samples without amplitude. -/
def Quiet (bytes : List UInt8) : Prop := ∃ count, bytes = widened (.replicate count 0x80)

theorem quiet_widened {samples : List UInt8} (level : ∀ sample ∈ samples, sample = 0x80) :
    Quiet (widened samples) :=
  ⟨samples.length, congrArg widened (List.eq_replicate_iff.mpr ⟨rfl, level⟩)⟩

namespace Quiet

variable {bytes more : List UInt8}

theorem append (quiet : Quiet bytes) (quietMore : Quiet more) : Quiet (bytes ++ more) := by
  obtain ⟨count, rfl⟩ := quiet
  obtain ⟨countMore, rfl⟩ := quietMore
  exact ⟨count + countMore, by rw [← widened_append, List.replicate_append_replicate]⟩

theorem take (quiet : Quiet bytes) (samples : Nat) : Quiet (bytes.take (2 * samples)) := by
  obtain ⟨count, rfl⟩ := quiet
  exact ⟨min samples count, by rw [take_widened, List.take_replicate]⟩

theorem drop (quiet : Quiet bytes) (samples : Nat) : Quiet (bytes.drop (2 * samples)) := by
  obtain ⟨count, rfl⟩ := quiet
  exact ⟨count - samples, by rw [drop_widened, List.drop_replicate]⟩

theorem samplesOf (quiet : Quiet bytes) : ∀ sample ∈ samplesOf bytes, sample = silence := by
  obtain ⟨count, rfl⟩ := quiet
  rw [samplesOf_widened, List.map_replicate]
  intro sample member
  exact List.eq_of_mem_replicate member

end Quiet

/-- A burst without amplitude. -/
def Burst.Flat (burst : Burst) : Prop := ∀ sample ∈ burst.data, sample = 0x80

/-! ## The sink -/

namespace Sink

variable {sink next : Sink} {burst : Burst}

/-- Nothing but silence waits, on a device with at most the channels of an engine. -/
structure Flat (sink : Sink) : Prop where
  narrow : sink.format.channels ≤ stereo
  quiet : Quiet sink.queue.bytes

/-- The bytes of a burst that are offered were all widened from it. -/
theorem front_offered (narrow : sink.format.channels ≤ stereo) (burst : Burst) :
    (sink.staging.write burst).front (sink.offered burst) =
      .ok ((widened (burst.fittingData sink.staging.capacity)).take
        (2 * (burst.fitting sink.staging.capacity * sink.format.channels.toNat))) := by
  have narrow : sink.format.channels.toNat ≤ 2 := UInt8.le_iff_toNat_le.mp narrow
  have room : 4 * burst.fitting sink.staging.capacity ≤ (sink.staging.write burst).capacity :=
    burst.stereoFrame_mul_fitting_le sink.staging.capacity
  have fewer := Nat.mul_le_mul_left (burst.fitting sink.staging.capacity) narrow
  have offered : sink.offered burst =
      2 * (burst.fitting sink.staging.capacity * sink.format.channels.toNat) := by
    rw [Sink.offered, Format.frameSize, sampleSize, Nat.mul_left_comm]
  have written := sink.staging.front_write burst
  rw [stereoFrame_eq, Staging.front_eq_ok room, Except.ok.injEq] at written
  rw [offered, Staging.front_eq_ok (by omega), ← written, List.take_take,
    Nat.min_eq_left (by omega)]

theorem Flat.render {outcome : Drained} (flat : sink.Flat) (level : burst.Flat)
    (ran : (sink.render burst).result = .ok (outcome, next)) : next.Flat := by
  rw [render_of_front (front_offered flat.narrow burst)] at ran
  cases ran
  have quiet : Quiet (widened (burst.fittingData sink.staging.capacity)) :=
    quiet_widened fun sample member => level sample (List.mem_of_mem_take member)
  refine ⟨?_, ?_⟩
  · rw [Sink.format, (sink.gate.drain_queue _ sink.queue).1]
    exact flat.narrow
  · rcases sink.gate.drain_bytes _ sink.queue with kept | grown
    · rw [kept]
      exact flat.quiet
    · rw [grown]
      exact flat.quiet.append (quiet.take _)

theorem flat_reset (narrow : sink.format.channels ≤ stereo) : sink.reset.value.Flat where
  narrow := narrow
  quiet := ⟨0, rfl⟩

theorem Flat.consume (flat : sink.Flat) (wanted : Nat) : (sink.consume wanted).value.2.Flat where
  narrow := sink.format_consume wanted ▸ flat.narrow
  quiet := by
    have whole := sink.queue.due_mod wanted
    rw [stereoFrame_eq] at whole
    have even : sink.queue.due wanted = 2 * (sink.queue.due wanted / 2) := by omega
    change Quiet (sink.queue.consume wanted).value.2.bytes
    rw [(sink.queue.consume_spec wanted).2.1, even]
    exact flat.quiet.drop _

theorem Flat.read (flat : sink.Flat) (slots : List UInt16) :
    (sink.read slots).value.2.2.Flat where
  narrow := sink.format_read slots ▸ flat.narrow
  quiet := by
    change Quiet (sink.queue.read slots).value.2.2.bytes
    rw [sink.queue.queue_read]
    exact (flat.consume (2 * slots.length)).quiet

/-- A consumer hears nothing. -/
theorem Flat.reads_silence (flat : sink.Flat) (slots : List UInt16) :
    ∀ sample ∈ (sink.read slots).value.2.1.take (sink.read slots).value.1, sample = silence := by
  have whole := sink.queue.due_mod (2 * slots.length)
  rw [stereoFrame_eq] at whole
  have even : sink.queue.due (2 * slots.length) = 2 * (sink.queue.due (2 * slots.length) / 2) := by
    omega
  change ∀ sample ∈ (sink.queue.read slots).value.2.1.take (sink.queue.read slots).value.1, _
  rw [sink.queue.read_spec slots]
  dsimp only
  rw [take_filled sink.queue slots (2 * slots.length), even]
  exact (flat.quiet.take _).samplesOf

/-- A sink starts out with nothing in its queue. -/
theorem flat_of_ofRequest {opener : Opener} {request : Request} {thresholds : Thresholds}
    (opened : (ofRequest opener request thresholds).result = .ok sink)
    (narrow : ∀ format, opener = .fixed format → format.channels ≤ stereo) : sink.Flat := by
  obtain ⟨queue, found, wrapped⟩ := Report.result_bind_eq_ok_iff.mp opened
  have found := Report.result_mapFailure_eq_ok_iff.mp found
  have fresh : queue.bytes = [] ∧ queue.format.channels ≤ stereo := by
    cases opener with
    | software | paced =>
      obtain ⟨format, granted, told⟩ := Report.result_bind_eq_ok_iff.mp found
      have two := ((request.negotiate_eq_ok_iff format).mp granted).2.2.2.1
      cases told
      exact ⟨rfl, UInt8.le_of_eq two⟩
    | fixed format =>
      cases found
      exact ⟨rfl, narrow format rfl⟩
    | failing cause => cases found
  obtain ⟨_, _, _, rfl⟩ := eq_of_wrap_eq_ok wrapped
  exact ⟨fresh.2, 0, fresh.1⟩

end Sink

namespace Outputs

variable {outputs next final : Outputs} {width height : Nat} {service : Service}
  {services : List Service} {outcomes : List Drained}

theorem flat_perform (flat : outputs.sink.Flat)
    (level : ∀ burst ∈ service.burst?, burst.Flat)
    (ran : (outputs.perform width height service).result = .ok (outcomes, next)) :
    next.sink.Flat := by
  cases service with
  | upload pixels =>
    obtain ⟨_, _, ran⟩ := Report.result_bind_eq_ok_iff.mp ran
    cases ran
    exact flat
  | present =>
    cases ran
    exact flat
  | render burst =>
    obtain ⟨⟨outcome, sink⟩, rendered, ran⟩ := Report.result_bind_eq_ok_iff.mp ran
    cases ran
    exact flat.render (level burst rfl) rendered

theorem flat_performAll (flat : outputs.sink.Flat)
    (level : ∀ burst ∈ services.filterMap Service.burst?, burst.Flat)
    (ran : (outputs.performAll width height services).result = .ok (outcomes, final)) :
    final.sink.Flat := by
  induction services generalizing outputs outcomes with
  | nil =>
    cases ran
    exact flat
  | cons service services ih =>
    obtain ⟨⟨first, middle⟩, made, ran⟩ := Report.result_bind_eq_ok_iff.mp ran
    obtain ⟨⟨rest, last⟩, later, ran⟩ := Report.result_bind_eq_ok_iff.mp ran
    cases ran
    refine ih (flat_perform flat ?_ made) ?_ later
    · intro burst found
      exact level burst (List.mem_filterMap.mpr ⟨service, List.mem_cons_self, found⟩)
    · intro burst member
      obtain ⟨other, among, found⟩ := List.mem_filterMap.mp member
      exact level burst (List.mem_filterMap.mpr ⟨other, List.mem_cons_of_mem _ among, found⟩)

end Outputs

/-! ## The engine -/

namespace Tone

variable {tone next : Tone} {pad : Option Pad} {target : Nat} {answer : Answer} {layers : Config.Layers}

/-- The engine shows and sounds these layers, and its sound buffer holds only midpoints. -/
structure Flat (layers : Config.Layers) (tone : Tone) : Prop where
  told : tone.config.layers = layers
  level : ∀ sample ∈ tone.sound.toList, sample = 0x80

theorem Flat.emptied (flat : Flat layers tone) : Flat layers tone.emptied := by
  unfold Tone.emptied
  split
  · exact ⟨flat.told, nofun⟩
  · exact flat

/-- A run adds nothing but midpoints while all channels are muted. -/
theorem Flat.run (flat : Flat layers tone) (muted : layers.muted = .replicate soundChannels true)
    (ran : Engine.run pad target tone = .ok (answer, next)) : Flat layers next := by
  obtain ⟨made, grows⟩ := (carries_grows pad).runOn ran
  have left := flat.emptied
  have silent : tone.emptied.config.muted = .replicate soundChannels true :=
    (congrArg Config.Layers.muted left.told).trans muted
  refine ⟨?_, ?_⟩
  · rw [grows.config]
    exact left.told
  · intro sample member
    rw [grows.sound, List.mem_append] at member
    rcases member with old | new
    · exact left.level sample old
    · obtain ⟨mixed, fresh, twice⟩ := List.mem_flatMap.mp new
      have same : sample = mixed := by simpa using twice
      rw [same]
      exact (grows.mixes mixed fresh).of_muted silent

theorem Flat.burst (flat : Flat layers tone) : (Engine.sound tone).Flat := flat.level

end Tone

/-! ## The host -/

namespace Host

variable {host next final : Host Tone} {patience : Nat} {call : HostCall} {answer : HostAnswer}
  {steps : List (Step (Host Tone) HostCall HostAnswer)}

/-- Nothing but silence waits in the engine and in the queue, and the engine was told of the mutes
and layers that are in force. -/
structure Flat (host : Host Tone) : Prop where
  engine : host.engine.Flat host.config.layers
  sink : host.sink.Flat

theorem Flat.committed (flat : host.Flat) (config : Config) : (host.committed config).Flat where
  engine := by
    simp only [Host.committed]
    split
    · next same => exact same ▸ flat.engine
    · exact ⟨rfl, flat.engine.level⟩
  sink := by
    simp only [Host.committed]
    split
    · exact Sink.flat_reset flat.sink.narrow
    · exact flat.sink

theorem Flat.settled (flat : host.Flat) : host.settled.Flat := by
  unfold Host.settled
  split
  · exact ⟨flat.engine, Sink.flat_reset flat.sink.narrow⟩
  · exact flat

/-- Whatever is asked of a host that runs its engine only while all channels are muted. -/
theorem Flat.answered (flat : host.Flat)
    (muted : ∀ delta, call = .pass delta → host.config.muted = .replicate soundChannels true)
    (made : host.Answered patience call answer next) : next.Flat := by
  cases call with
  | pass delta =>
    have silent : host.config.layers.muted = .replicate soundChannels true := muted delta rfl
    cases handles_of_perform made with
    | stood => exact flat
    | @passed _ answers _ outputs passed =>
      have given := passed.given
      have keeps {engine : Tone} {pad target answer next}
          (flat : engine.Flat host.config.layers)
          (ran : Engine.run pad target engine = .ok (answer, next)) := flat.run silent ran
      have level : ∀ burst ∈ burstsOf answers, burst.Flat := by
        intro burst member
        obtain ⟨answer, among, rfl⟩ := List.mem_map.mp member
        exact (given.all_keep _ keeps flat.engine answer (List.mem_of_mem_filter among)).burst
      rw [← filterMap_burst_services] at level
      have opened : host.outputs.sink.Flat := flat.sink
      have moved : (host.moved ((answers.map Prod.snd).getLastD host.engine) outputs).Flat :=
        ⟨given.last_keeps _ keeps flat.engine, Outputs.flat_performAll opened level passed.served⟩
      exact moved.settled
  | commit config =>
    cases handles_of_perform made
    exact flat.committed config
  | input inputs =>
    cases handles_of_perform made
    have holding : (host.holding inputs).Flat := ⟨flat.engine, flat.sink⟩
    exact holding.committed _
  | bindPress | bindHold =>
    cases handles_of_perform made
    exact ⟨flat.engine, flat.sink⟩
  | read slots =>
    cases handles_of_perform made
    exact ⟨flat.engine, flat.sink.read slots⟩
  | consume wanted =>
    cases handles_of_perform made
    exact ⟨flat.engine, flat.sink.consume wanted⟩

theorem Flat.reads_silence {count : Nat} {slots : List UInt16} (flat : host.Flat)
    (made : host.Answered patience call (.filled count slots) next) :
    ∀ sample ∈ slots.take count, sample = silence := by
  cases call with
  | read wanted =>
    cases handles_of_perform made
    exact flat.sink.reads_silence wanted
  | pass delta =>
    obtain ⟨_, _, told⟩ := Report.result_bind_eq_ok_iff.mp made
    cases told
  | commit | input | bindPress | bindHold | consume => cases handles_of_perform made

theorem Flat.silent_of_run (flat : host.Flat) (run : Run (Answered patience) host steps final)
    (muted : ∀ step ∈ steps, ∀ delta, step.call = .pass delta →
      step.before.config.muted = .replicate soundChannels true) :
    ∀ step ∈ steps, ∀ count slots, step.answer = .filled count slots →
      ∀ sample ∈ slots.take count, sample = silence := by
  induction run with
  | nil => exact fun _ absent => absurd absent List.not_mem_nil
  | cons made _ ih =>
    obtain ⟨first, later⟩ := List.forall_mem_cons.mp muted
    refine List.forall_mem_cons.mpr ⟨?_, ih (flat.answered first made) later⟩
    rintro count slots rfl
    exact flat.reads_silence made

theorem flat_of_build {tone : Tone} {setup : Setup} {opener : Opener} {screen : Screen}
    (built : (build setup tone opener screen).result = .ok host)
    (level : ∀ sample ∈ tone.sound.toList, sample = 0x80)
    (narrow : ∀ format, opener = .fixed format → format.channels ≤ stereo) : host.Flat := by
  obtain ⟨_, sink, opened, rfl⟩ := (build_eq_ok_iff ..).mp built
  exact ⟨⟨rfl, level⟩, Sink.flat_of_ofRequest opened narrow⟩

/-- Whatever is asked of a tone engine since it was started, each sample in its sound buffer stands
on both sides. It is a mix of the channels that were not muted when it was made: each of them moved
it from the midpoint by one step, up or down. So it is never far from the midpoint, and at it if all
channels were muted. An engine whose full sound buffer can be counted can be asked for anything.

A host is built around an engine in whose sound buffer nothing but silence waits, as in that of an
engine that has not run. Its queue is opened for it, or has at most the channels of the engine. If
all channels are muted in each pass, however patient, all that is ever read from the queue is
silence. -/
theorem samples_follow_mutes :
    (∀ (cyclesPerSecond sampleRate : UInt32) (bufferFrames : Nat) (hz : Float),
      (∀ calls steps final,
        (performAll Engine.perform (Tone.start cyclesPerSecond sampleRate bufferFrames hz)
          calls).result = .ok (steps, final) →
        ∃ gone waiting, final.samples = gone + waiting.length ∧
          final.sound.toList = Tone.onBothSides waiting ∧
          ∀ frame sample, waiting[frame]? = some sample →
            ∃ config, Tone.InForce steps (gone + frame) config ∧ config.Mixes sample ∧
              0x60 ≤ sample ∧ sample ≤ 0xa0 ∧
              (config.muted = .replicate soundChannels true → sample = 0x80)) ∧
      (bufferFrames < 9223372036854775808 → ∀ calls, ∃ steps final,
        (performAll Engine.perform (Tone.start cyclesPerSecond sampleRate bufferFrames hz)
          calls).result = .ok (steps, final))) ∧
    ∀ (tone : Tone) (setup : Setup) (opener : Opener) (screen : Screen) (host : Host Tone)
      (patience : Nat) (calls : List HostCall) (steps : List (Step (Host Tone) HostCall HostAnswer))
      (final : Host Tone),
      (∀ sample ∈ tone.sound.toList, sample = 0x80) →
      (∀ format, opener = .fixed format → format.channels ≤ stereo) →
      (build setup tone opener screen).result = .ok host →
      (performAll (performWithin patience) host calls).result = .ok (steps, final) →
      (∀ step ∈ steps, ∀ delta, step.call = .pass delta →
        step.before.config.muted = .replicate soundChannels true) →
      ∀ step ∈ steps, ∀ count slots, step.answer = .filled count slots →
        ∀ sample ∈ slots.take count, sample = silence := by
  refine ⟨?_, ?_⟩
  · intro cyclesPerSecond sampleRate bufferFrames hz
    refine ⟨?_, ?_⟩
    · intro calls steps final ran
      obtain ⟨_, run⟩ := Run.of_performAll Engine.handles_of_perform ran
      obtain ⟨gone, waiting, recorded⟩ := Tone.recorded_of_run run
      refine ⟨gone, waiting, recorded.samples, recorded.sound, ?_⟩
      intro frame sample found
      obtain ⟨config, inForce, mixes⟩ := recorded.origin frame sample found
      exact ⟨config, inForce, mixes, mixes.bounds.1, mixes.bounds.2, mixes.of_muted⟩
    · intro countable calls
      have regular := Tone.regular_start cyclesPerSecond sampleRate countable hz
      obtain ⟨steps, final, ran, _⟩ := Run.of_total Tone.Regular.handles regular calls
      exact ⟨steps, final, ran⟩
  · intro tone setup opener screen host patience calls steps final level narrow built ran muted
    have run : Run (Answered patience) host steps final := (Run.of_performAll id ran).2
    exact (flat_of_build built level narrow).silent_of_run run muted

/-- Nothing but the mutes differs from the configuration a host starts with. -/
def allMuted : Config := { muted := .replicate soundChannels true }

/-- Two frames fill a device buffer, and playback starts with one buffer. -/
def briefSetup : Setup := { cyclesPerSecond := 1000, audioFrames := 1, thresholds := ⟨1, 1⟩ }

/-- A host whose bursts have two frames. -/
def sounding : Host Tone :=
  around briefSetup (Tone.start 1 1 2 440.0)
    ⟨.ofFormat ⟨44100, stereo, 8⟩, .blank 8, ⟨false, 8, 8⟩⟩ {}

def muted : Host Tone := sounding.committed allMuted

/-- The sound buffer is full with the second sample. -/
theorem answers_muted :
    Engine.Answers (some muted.pad) 2 muted.engine
      [(⟨false, true, true⟩, (muted.engine.event (some muted.pad)).event (some muted.pad))] := by
  have regular : muted.engine.Regular :=
    ((Tone.regular_start 1 1 (by decide : 2 < 9223372036854775808) 440.0).configure {}).configure
      allMuted
  have first : muted.engine.runOn (some muted.pad) 2 = _ :=
    regular.runOn_of_due (by decide) (by decide)
  exact .last (first.trans ((regular.event _).runOn_of_due (by decide) (by decide))) rfl

/-- The burst starts playback, and four samples of it can be read. -/
theorem performAll_muted :
    ∃ stats next final,
      (performAll (performWithin 1) muted [.pass 2.0, .read [7, 7, 7, 7, 7]]).result =
        .ok ([⟨muted, .pass 2.0, .passed stats, next⟩,
          ⟨next, .read [7, 7, 7, 7, 7],
            .filled 4 [silence, silence, silence, silence, 7], final⟩], final) := by
  have aimed : muted.target (checkDelta 2.0).value = 2 := by decide +kernel
  have given := answers_muted
  rw [← aimed] at given
  have ran := (passWithin_eq_ok_iff rfl).mpr
    ⟨_, _, _, ⟨rfl, given, rfl⟩, Nat.le_refl 1, rfl, rfl⟩
  have first : (performWithin 1 muted (.pass 2.0)).result = .ok (.passed _, _) :=
    (Report.bind_of_ok ran _).1
  exact ⟨_, _, _, performAll_cons_eq_ok_iff.mpr ⟨_, _, _, first,
    performAll_cons_eq_ok_iff.mpr ⟨_, _, [], rfl, rfl, rfl⟩, rfl⟩⟩

/-- An engine is muted between two runs, and a host before its first pass. -/
theorem samples_follow_mutes_muted :
    (∃ steps final gone waiting,
      (performAll Engine.perform (Tone.start 1 1 2 440.0)
        [.run none 1, .configure allMuted, .run none 2]).result = .ok (steps, final) ∧
      final.samples = gone + waiting.length ∧ final.sound.toList = Tone.onBothSides waiting ∧
      ∀ frame sample, waiting[frame]? = some sample →
        ∃ config, Tone.InForce steps (gone + frame) config ∧ config.Mixes sample ∧
          0x60 ≤ sample ∧ sample ≤ 0xa0 ∧
          (config.muted = .replicate soundChannels true → sample = 0x80)) ∧
    ∃ host steps final,
      (build briefSetup (Tone.start 1 1 2 440.0) .software {}).result = .ok host ∧
      (performAll (performWithin 1) host
        [.commit allMuted, .pass 2.0, .read [7, 7, 7, 7, 7]]).result = .ok (steps, final) ∧
      (∃ step ∈ steps, step.answer = .filled 4 [silence, silence, silence, silence, 7]) ∧
      ∀ step ∈ steps, ∀ count slots, step.answer = .filled count slots →
        ∀ sample ∈ slots.take count, sample = silence := by
  refine ⟨?_, ?_⟩
  · obtain ⟨steps, final, ran⟩ := (samples_follow_mutes.1 1 1 2 440.0).2 (by decide)
      [.run none 1, .configure allMuted, .run none 2]
    obtain ⟨gone, waiting, shown⟩ := (samples_follow_mutes.1 1 1 2 440.0).1 _ steps final ran
    exact ⟨steps, final, gone, waiting, ran, shown⟩
  · obtain ⟨stats, next, final, ran⟩ := performAll_muted
    have ran : (performAll (performWithin 1) sounding (.commit allMuted :: _)).result = _ :=
      performAll_cons_eq_ok_iff.mpr ⟨.done, muted, _, rfl, ran, rfl⟩
    refine ⟨sounding, _, final, rfl, ran, ⟨_, .tail _ (.tail _ (.head _)), rfl⟩, ?_⟩
    refine samples_follow_mutes.2 (Tone.start 1 1 2 440.0) briefSetup .software {} sounding 1 _ _ final
      ?_ ?_ rfl ran ?_
    · exact fun _ absent => absurd absent List.not_mem_nil
    · exact fun _ impossible => nomatch impossible
    · simp only [List.forall_mem_cons, reduceCtorEq, false_implies, implies_true, true_and]
      exact ⟨fun _ _ => rfl, fun _ absent => absurd absent List.not_mem_nil⟩

end Host

end PacingHost
