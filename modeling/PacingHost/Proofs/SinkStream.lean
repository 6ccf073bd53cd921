import PacingHost.Proofs.SinkRegular

/-! # What goes in comes out

Between two flushes a sink is a pipe. The bytes that consumers took, followed by those that still
wait, are the widened frames of the bursts that were queued, in order; dropped bursts leave no
trace, and neither do older bursts that still stand in the staging buffer. A flush empties the pipe,
so nothing that was queued before it is ever heard after it. Each take is made of whole stereo
frames, which keeps left and right apart.
-/

namespace PacingHost

/-- The device sample of an engine sample. -/
theorem sampleOfBytes_zero (sample : UInt8) : sampleOfBytes 0 sample = sample.toUInt16 * 256 := by
  apply UInt16.toNat_inj.mp
  rw [sampleOfBytes, UInt16.toNat_ofNat', UInt16.toNat_mul, UInt8.toNat_toUInt16, UInt8.toNat_zero,
    Nat.zero_add, Nat.mul_comm]
  rfl

theorem samplesOf_widened (samples : List UInt8) :
    samplesOf (widened samples) = samples.map fun sample => sample.toUInt16 * 256 := by
  induction samples with
  | nil => rfl
  | cons sample samples ih =>
    rw [widened, samplesOf, sampleOfBytes_zero, ih, List.map_cons]

namespace SinkStep

/-- The samples a step took from the queue: those a read wrote, or those that were dropped. -/
def samples (step : SinkStep) : List UInt16 :=
  match step.answer with
  | .filled count slots => slots.take count
  | .consumed count => samplesOf (step.before.queue.bytes.take count)
  | .rendered _ | .flushed => []

/-- The bytes a step took from the queue. -/
def taken (step : SinkStep) : List UInt8 :=
  match step.answer with
  | .filled count slots => (slots.take count).flatMap bytesOfSample
  | .consumed count => step.before.queue.bytes.take count
  | .rendered _ | .flushed => []

/-- The engine samples a step put into the queue of a device whose buffers have that many bytes. -/
def queued (bufferSize : Nat) (step : SinkStep) : List UInt8 :=
  match step.call, step.answer with
  | .render burst, .rendered (.queued ..) =>
    burst.data.take (2 * min burst.frames (min (burst.data.length / 2) (bufferSize / 4)))
  | _, _ => []

/-- A flush begins a new epoch; any other step continues the current one. -/
def extend (epoch : List SinkStep) (step : SinkStep) : List SinkStep :=
  match step.call with
  | .reset => []
  | .render _ | .read _ | .consume _ => epoch ++ [step]

end SinkStep

/-- The steps since the last flush. -/
def sinceFlush (steps : List SinkStep) : List SinkStep := steps.foldl SinkStep.extend []

namespace Sink

/-- What was taken since the last flush and what waits are together what was queued. -/
structure Balanced (bufferSize : Nat) (epoch : List SinkStep) (sink : Sink) : Prop where
  bytes : epoch.flatMap SinkStep.taken ++ sink.queue.bytes =
    widened (epoch.flatMap (SinkStep.queued bufferSize))
  samples : epoch.flatMap SinkStep.samples ++ samplesOf sink.queue.bytes =
    (epoch.flatMap (SinkStep.queued bufferSize)).map fun sample => sample.toUInt16 * 256

theorem Balanced.blank (bufferSize : Nat) {sink : Sink} (empty : sink.queue.bytes = []) :
    Balanced bufferSize [] sink where
  bytes := empty
  samples := by rw [empty]; rfl

/-- A step that moves sound from the bursts to the consumers keeps the balance. -/
theorem Balanced.append {bufferSize : Nat} {epoch : List SinkStep} {sink next : Sink}
    {step : SinkStep} (balanced : Balanced bufferSize epoch sink)
    (bytes : step.taken ++ next.queue.bytes =
      sink.queue.bytes ++ widened (step.queued bufferSize))
    (samples : step.samples ++ samplesOf next.queue.bytes =
      samplesOf sink.queue.bytes ++
        (step.queued bufferSize).map fun sample => sample.toUInt16 * 256) :
    Balanced bufferSize (epoch ++ [step]) next where
  bytes := by
    rw [List.flatMap_append, List.flatMap_singleton, List.append_assoc, bytes, ← List.append_assoc,
      balanced.bytes, List.flatMap_append, List.flatMap_singleton, widened_append]
  samples := by
    rw [List.flatMap_append, List.flatMap_singleton, List.append_assoc, samples,
      ← List.append_assoc, balanced.samples, List.flatMap_append, List.flatMap_singleton,
      List.map_append]

theorem Regular.even {sink : Sink} (regular : Regular sink) :
    sink.queue.bytes.length % 2 = 0 := by
  have whole := regular.whole
  rw [stereoFrame_eq] at whole
  omega

/-- What a sink queues of a burst, read off its format. -/
theorem Regular.widen_eq {sink : Sink} (regular : Regular sink) (burst : Burst) :
    sink.widen burst = widened (burst.data.take
      (2 * min burst.frames (min (burst.data.length / 2) (sink.format.bufferSize.toNat / 4)))) := by
  rw [widen, Burst.fittingData, Burst.fitting, regular.capacity, toNat_stereo, stereoFrame_eq,
    Nat.min_comm (burst.data.length / 2)]

/-- Bytes that are due can be taken out as samples. -/
theorem take_due_even (queue : Queue) (wanted : Nat) :
    (queue.bytes.take (queue.due wanted)).length % 2 = 0 ∧
      (queue.bytes.take (queue.due wanted)).length / 2 = queue.due wanted / 2 := by
  have within := queue.due_le wanted
  have whole := queue.due_mod wanted
  rw [stereoFrame_eq] at whole
  rw [List.length_take]
  omega

/-- The slots a read wrote hold the samples that were due. -/
theorem take_filled (queue : Queue) (slots : List UInt16) (wanted : Nat) :
    (samplesOf (queue.bytes.take (queue.due wanted)) ++ slots.drop (queue.due wanted / 2)).take
        (queue.due wanted / 2) =
      samplesOf (queue.bytes.take (queue.due wanted)) := by
  have size : (samplesOf (queue.bytes.take (queue.due wanted))).length = queue.due wanted / 2 := by
    rw [length_samplesOf, (take_due_even queue wanted).2]
  rw [← size, List.take_left]

/-- A take splits the queue and its samples at the same place. -/
theorem split_due (queue : Queue) (wanted : Nat) :
    queue.bytes.take (queue.due wanted) ++ (queue.consume wanted).value.2.bytes = queue.bytes ∧
      samplesOf (queue.bytes.take (queue.due wanted)) ++
        samplesOf (queue.consume wanted).value.2.bytes = samplesOf queue.bytes := by
  have left := (queue.consume_spec wanted).2.1
  have even := (take_due_even queue wanted).1
  rw [left, ← samplesOf_append even, List.take_append_drop]
  exact ⟨rfl, rfl⟩

/-- Every step keeps the balance of the epoch it belongs to. -/
theorem Balanced.extend {epoch : List SinkStep} {sink next : Sink} {call : SinkCall}
    {answer : SinkAnswer} (regular : Regular sink)
    (balanced : Balanced sink.format.bufferSize.toNat epoch sink)
    (handled : sink.Handles call answer next) :
    Balanced sink.format.bufferSize.toNat (SinkStep.extend epoch ⟨sink, call, answer, next⟩)
      next := by
  have pushedSamples (burst : Burst) : samplesOf (sink.pushed burst).queue.bytes =
      samplesOf sink.queue.bytes ++ samplesOf (sink.widen burst) :=
    samplesOf_append regular.even _
  cases handled with
  | dropped full =>
    refine balanced.append ?_ ?_
    · exact (List.append_nil _).symm
    · exact (List.append_nil _).symm
  | @waited burst room waits =>
    refine balanced.append ?_ ?_
    · exact congrArg (sink.queue.bytes ++ ·) (regular.widen_eq burst)
    · refine (pushedSamples burst).trans ?_
      rw [regular.widen_eq, samplesOf_widened]
      rfl
  | @started burst room closed reached =>
    refine balanced.append ?_ ?_
    · exact congrArg (sink.queue.bytes ++ ·) (regular.widen_eq burst)
    · refine (pushedSamples burst).trans ?_
      rw [regular.widen_eq, samplesOf_widened]
      rfl
  | flushed => exact .blank _ rfl
  | read slots =>
    obtain ⟨bytes, samples⟩ := split_due sink.queue (2 * slots.length)
    have even := (take_due_even sink.queue (2 * slots.length)).1
    have filled := take_filled sink.queue slots (2 * slots.length)
    refine balanced.append ?_ ?_
    · simp only [SinkStep.taken, SinkStep.queued, filled, flatMap_bytesOfSample even]
      exact bytes.trans (List.append_nil _).symm
    · simp only [SinkStep.samples, SinkStep.queued, filled]
      exact samples.trans (List.append_nil _).symm
  | consumed wanted =>
    obtain ⟨bytes, samples⟩ := split_due sink.queue wanted
    refine balanced.append ?_ ?_
    · exact bytes.trans (List.append_nil _).symm
    · exact samples.trans (List.append_nil _).symm

/-- A run keeps the balance, whatever epoch it began in. -/
theorem balanced_of_run {sink final : Sink} {steps epoch : List SinkStep}
    (run : Run Handles sink steps final) (regular : Regular sink)
    (start : Balanced sink.format.bufferSize.toNat epoch sink) :
    Balanced sink.format.bufferSize.toNat (steps.foldl SinkStep.extend epoch) final := by
  induction run generalizing epoch with
  | nil sink => exact start
  | cons handled _ ih =>
    have same := handled.frame.1
    have continued := start.extend regular handled
    rw [← same] at continued ⊢
    exact ih (regular.handles handled) continued

/-- No step ever splits a stereo frame. -/
theorem Handles.taken_whole {sink next : Sink} {call : SinkCall} {answer : SinkAnswer}
    (handled : sink.Handles call answer next) :
    (SinkStep.taken ⟨sink, call, answer, next⟩).length % stereoFrame = 0 := by
  have whole (wanted : Nat) :
      (sink.queue.bytes.take (sink.queue.due wanted)).length % stereoFrame = 0 := by
    have within := sink.queue.due_le wanted
    rw [List.length_take, Nat.min_eq_left within.1]
    exact sink.queue.due_mod wanted
  cases handled with
  | dropped | waited | started | flushed => rfl
  | read slots =>
    have filled := take_filled sink.queue slots (2 * slots.length)
    have even := (take_due_even sink.queue (2 * slots.length)).1
    simp only [SinkStep.taken, filled, flatMap_bytesOfSample even]
    exact whole _
  | consumed wanted => exact whole wanted

/-- At every moment of every run, the bytes taken since the last flush and those that wait are the
widened frames queued since then. Reads write the engine samples, in order, as the high bytes of
theirs, and the queue holds whole stereo frames. -/
theorem stream_since_flush {queue : Queue} {thresholds : Thresholds} {sink : Sink}
    (empty : queue.bytes = []) (two : queue.format.channels = stereo)
    (opened : (wrap queue thresholds).result = .ok sink) (calls : List SinkCall) :
    ∃ steps final, (performAll perform sink calls).result = .ok (steps, final) ∧
      steps.map Step.call = calls ∧
      (sinceFlush steps).flatMap SinkStep.taken ++ final.queue.bytes =
        widened ((sinceFlush steps).flatMap
          (SinkStep.queued queue.format.bufferSize.toNat)) ∧
      (sinceFlush steps).flatMap SinkStep.samples ++ samplesOf final.queue.bytes =
        ((sinceFlush steps).flatMap (SinkStep.queued queue.format.bufferSize.toNat)).map
          (fun sample => sample.toUInt16 * 256) ∧
      final.queue.bytes.length % stereoFrame = 0 ∧
      ∀ step ∈ steps, (SinkStep.taken step).length % stereoFrame = 0 := by
  have regular := Regular.of_wrap empty two opened
  obtain ⟨_, gate, _, rfl⟩ := eq_of_wrap_eq_ok opened
  obtain ⟨steps, final, ran, made, run⟩ := performAll_runs regular.channels calls
  have balanced := balanced_of_run run regular (.blank _ empty)
  obtain ⟨ends, each⟩ := run.invariant Regular.handles regular
  refine ⟨steps, final, ran, made, balanced.bytes, balanced.samples, ends.whole, ?_⟩
  intro step member
  exact (each step member).2.taken_whole

/-- Bursts of three, one and four frames over one staging buffer, a read of an odd number of slots,
a drop of an odd number of bytes, a flush, and a burst that nobody hears. -/
theorem stream_since_flush_two_epochs :
    (wrap (.ofFormat ⟨44100, stereo, 16⟩) {}).result =
        .ok ⟨.ofFormat ⟨44100, stereo, 16⟩, .blank 16, ⟨false, 32, 80⟩⟩ ∧
      ∃ steps final,
        (performAll perform ⟨.ofFormat ⟨44100, stereo, 16⟩, .blank 16, ⟨false, 32, 80⟩⟩
            [.render ⟨[1, 2, 3, 4, 5, 6], 3⟩, .render ⟨[7, 8], 9⟩, .read [5, 5],
              .render ⟨[9, 10, 11, 12, 13, 14, 15, 16, 17, 18], 9⟩, .read [5, 5, 5], .consume 7,
              .reset, .render ⟨[19, 20, 21], 5⟩, .read [5, 5]]).result = .ok (steps, final) ∧
          steps.map Step.call =
            [.render ⟨[1, 2, 3, 4, 5, 6], 3⟩, .render ⟨[7, 8], 9⟩, .read [5, 5],
              .render ⟨[9, 10, 11, 12, 13, 14, 15, 16, 17, 18], 9⟩, .read [5, 5, 5], .consume 7,
              .reset, .render ⟨[19, 20, 21], 5⟩, .read [5, 5]] ∧
          (sinceFlush steps).flatMap SinkStep.taken ++ final.queue.bytes =
            widened ((sinceFlush steps).flatMap (SinkStep.queued 16)) ∧
          (sinceFlush steps).flatMap SinkStep.samples ++ samplesOf final.queue.bytes =
            ((sinceFlush steps).flatMap (SinkStep.queued 16)).map
              (fun sample => sample.toUInt16 * 256) ∧
          final.queue.bytes.length % stereoFrame = 0 ∧
          ∀ step ∈ steps, (SinkStep.taken step).length % stereoFrame = 0 :=
  ⟨rfl, stream_since_flush rfl rfl
    (rfl : (wrap (.ofFormat ⟨44100, stereo, 16⟩) {}).result = _) _⟩

end Sink

end PacingHost
