import PacingHost.Journal.Logged
import PacingHost.Number.Word

/-! # Frame timers

A timer turns successive clock readings, in milliseconds, into the deltas of a run loop. Deltas
above its limit are clamped, so a stall does not turn into a burst of work. What is left of a period
is a duration in whole nanoseconds, a half going to the even neighbour.
-/

namespace PacingHost

/-- A length of time in nanoseconds. -/
structure Duration where
  nanos : Nat
deriving DecidableEq, Repr

namespace Duration

def perSecond : Nat := 1000000000

/-- Whole seconds. -/
def seconds (duration : Duration) : Nat := duration.nanos / perSecond

/-- Nanoseconds beyond the whole seconds. -/
def subsecond (duration : Duration) : Nat := duration.nanos % perSecond

theorem perSecond_mul_seconds_add_subsecond (duration : Duration) :
    perSecond * duration.seconds + duration.subsecond = duration.nanos :=
  Nat.div_add_mod ..

/-- The duration nearest to a number of seconds; `2 ^ 64` seconds cannot be held. -/
def ofSeconds (x : Float) : Except Fault Duration :=
  match Binary64.ofFloat x with
  | .finite false mantissa exponent =>
    let (top, bottom) := Binary64.quotients mantissa exponent
    let nanos := Number.nearest (top * perSecond) bottom
    if nanos < Word.longLimit * perSecond then .ok ⟨nanos⟩ else .error .durationOverflow
  | .finite true .. | .infinite _ | .nan => .error .durationOverflow

end Duration

structure FrameTimer where
  /-- The clock reading of the last tick. -/
  last : Float
  /-- The longest delta handed out. -/
  limit : Float

namespace FrameTimer

/-- Milliseconds since the last tick, clamped to the limit and never negative. -/
def tick (timer : FrameTimer) (now : Float) : Logged (Float × FrameTimer) := do
  let delta := now - timer.last
  let timer := { timer with last := now }
  if timer.limit < delta then
    Logged.tell (.deltaClamped delta timer.limit)
    pure (timer.limit, timer)
  else if 0.0 < delta then pure (delta, timer)
  else pure (0.0, timer)

/-- Time left until a period has passed since the last tick. -/
def remaining (timer : FrameTimer) (now period : Float) : Except Fault Duration :=
  let left := period - (now - timer.last)
  if 0.0 < left then Duration.ofSeconds (left / 1000.0) else .ok ⟨0⟩

end FrameTimer

end PacingHost
