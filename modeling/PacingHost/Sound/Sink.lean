import PacingHost.Sound.Gate
import PacingHost.Sound.Queue
import PacingHost.Sound.Staging

/-! # The sound sink

The sink takes bursts from an engine, widens them in its staging buffer and offers them to the queue
through the gate. It is built around a queue whose format it can drive.
-/

namespace PacingHost

structure Sink where
  queue : Queue
  staging : Staging
  gate : Gate
deriving DecidableEq, Repr

/-- How a sink comes by its queue. -/
inductive Opener where
  /-- A queue that the caller plays. -/
  | software
  /-- A queue that plays itself at the rate of its format. -/
  | paced
  /-- A queue of that format, whatever is asked for. -/
  | fixed (format : Format)
  /-- Opening fails. -/
  | failing (cause : HostError)
deriving DecidableEq, Repr

def Opener.openQueue : Opener → Request → Report HostError Queue
  | .software, request => Queue.opened .queueOpened request
  | .paced, request => Queue.opened .playerOpened request
  | .fixed format, _ => pure (Queue.ofFormat format)
  | .failing cause, _ => throw cause

namespace Sink

/-- The buffer of a format holds at least one frame. -/
def hasFrames (format : Format) : Except Fault Bool :=
  if format.bufferSize = 0 then .ok false
  else do
    let frames ← format.bufferFrames
    .ok (frames ≠ 0)

/-- Build a sink around a queue and hold its playback back. -/
def wrap (queue : Queue) (thresholds : Thresholds) : Report Failure Sink := do
  let format := queue.format
  let usable ← (Report.ofExcept (hasFrames format)).mapFailure .fault
  if usable = false then throw (.error (.unsupportedFormat (.smallBuffer format)))
  let gate ← (Gate.setUp thresholds format.bufferSize).mapFailure fun cause =>
    .error (.setup cause)
  Report.tell (.sinkReady format)
  pure ⟨Device.setPaused true queue, .blank format.bufferSize.toNat, gate⟩

/-- Open a queue and build a sink around it. -/
def ofRequest (opener : Opener) (request : Request) (thresholds : Thresholds) :
    Report Failure Sink := do
  let queue ← (opener.openQueue request).mapFailure .error
  wrap queue thresholds

/-- What was agreed with the device. -/
def format (sink : Sink) : Format := sink.queue.format

/-- Bytes that wait in the queue, as a 32-bit count. -/
def depth (sink : Sink) : Nat := Device.depth sink.queue

/-- Widen one burst and offer it to the queue. -/
def render (sink : Sink) (burst : Burst) : Report Fault (Drained × Sink) := do
  let frames := burst.fitting sink.staging.capacity
  let staging := sink.staging.write burst
  if frames < burst.frames then Report.tell (.burstTruncated frames burst.frames)
  let bytes ← Report.ofExcept (staging.front (frames * sink.format.frameSize))
  let (outcome, gate, queue) ← ExceptT.lift (sink.gate.drain bytes sink.queue)
  pure (outcome, { queue, staging, gate })

/-- Stop playback and drop what waits. -/
def reset (sink : Sink) : Logged Sink := do
  let (gate, queue) ← sink.gate.reset sink.queue
  pure { sink with queue, gate }

theorem reset_value (sink : Sink) :
    sink.reset.value =
      { sink with
        queue := { sink.queue with bytes := [], paused := true }
        gate := { sink.gate with ready := false } } := rfl

/-- Read samples from the queue as its player does. -/
def read (sink : Sink) (slots : List UInt16) : Logged (Nat × List UInt16 × Sink) := do
  let (count, filled, queue) ← sink.queue.read slots
  pure (count, filled, { sink with queue })

/-- Drop bytes from the queue as if they had been played. -/
def consume (sink : Sink) (wanted : Nat) : Logged (Nat × Sink) := do
  let (taken, queue) ← sink.queue.consume wanted
  pure (taken, { sink with queue })

end Sink

end PacingHost
