import PacingHost.Journal.Logged
import PacingHost.Sound.Device
import PacingHost.Sound.Negotiation

/-! # The sound queue

The queue is a device whose owner also plays the other side: it reads samples or drops bytes as if
they had been played. Whole frames only are taken, and nothing while the queue is paused. What was
taken is counted, and so is every take that found fewer whole frames than it wanted. `queue_read`
says that reading and dropping leave the same queue.
-/

namespace PacingHost

structure Queue where
  format : Format
  bytes : List UInt8 := []
  paused : Bool := true
  /-- Bytes played since the queue was opened. -/
  played : UInt64 := 0
  /-- Takes that found fewer whole frames than wanted. -/
  underruns : UInt64 := 0
deriving DecidableEq, Repr

/-- A number of bytes without those of an unfinished frame. -/
def wholeFrames (count : Nat) : Nat := count - count % stereoFrame

theorem wholeFrames_le (count : Nat) : wholeFrames count ≤ count := Nat.sub_le ..

theorem wholeFrames_mod (count : Nat) : wholeFrames count % stereoFrame = 0 := by
  unfold wholeFrames
  rw [stereoFrame_eq]
  omega

/-- The sample made of two bytes, the low one first. -/
def sampleOfBytes (low high : UInt8) : UInt16 := UInt16.ofNat (low.toNat + 256 * high.toNat)

/-- Fill so many slots with the samples at the front of some bytes; the result is all slots and the
bytes that are left. -/
def popInto : Nat → List UInt16 → List UInt8 → List UInt16 × List UInt8
  | count + 1, _ :: slots, low :: high :: bytes =>
    let (filled, left) := popInto count slots bytes
    (sampleOfBytes low high :: filled, left)
  | _, slots, bytes => (slots, bytes)

/-- Popping drops two bytes for each slot. -/
theorem popInto_left {count : Nat} {slots : List UInt16} {bytes : List UInt8}
    (roomy : count ≤ slots.length) (enough : 2 * count ≤ bytes.length) :
    (popInto count slots bytes).2 = bytes.drop (2 * count) := by
  induction count generalizing slots bytes with
  | zero => simp only [popInto, Nat.mul_zero, List.drop_zero]
  | succ count ih =>
    match slots, bytes, roomy, enough with
    | [], _, roomy, _ => simp only [List.length_nil] at roomy; omega
    | _ :: _, [], _, enough | _ :: _, [_], _, enough =>
      simp only [List.length_cons, List.length_nil] at enough; omega
    | _ :: slots, _ :: _ :: bytes, roomy, enough =>
      have double : 2 * (count + 1) = 2 * count + 1 + 1 := by omega
      simp only [List.length_cons] at roomy enough
      rw [popInto, double, List.drop_succ_cons, List.drop_succ_cons]
      exact ih (by omega) (by omega)

namespace Queue

/-- An empty, paused queue for a format. -/
def ofFormat (format : Format) : Queue := { format := format }

instance : Device Queue where
  depth queue := queue.bytes.length % Word.limit
  push bytes queue := { queue with bytes := queue.bytes ++ bytes }
  clear queue := { queue with bytes := [] }
  setPaused paused queue := { queue with paused := paused }

/-- Bytes that a take of at most so many bytes gets. -/
def available (queue : Queue) (wanted : Nat) : Nat :=
  wholeFrames (min queue.bytes.length wanted)

theorem available_le (queue : Queue) (wanted : Nat) :
    queue.available wanted ≤ queue.bytes.length ∧ queue.available wanted ≤ wanted := by
  have := wholeFrames_le (min queue.bytes.length wanted)
  unfold available
  omega

/-- A take of whole frames falls short. -/
def fallsShort (wanted taken : Nat) : Bool := taken < wholeFrames wanted

/-- Count bytes as played, and a take that fell short. -/
def account (queue : Queue) (taken wanted : Nat) : Logged Queue := do
  let counted := { queue with played := queue.played + UInt64.ofNat taken }
  if fallsShort wanted taken then
    Logged.tell (.underrun wanted taken)
    pure { counted with underruns := counted.underruns + 1 }
  else pure counted

/-- Read samples into some slots; the result is how many were read, all slots, and the queue. -/
def read (queue : Queue) (slots : List UInt16) : Logged (Nat × List UInt16 × Queue) :=
  if queue.paused then pure (0, slots, queue) else do
    let wanted := slots.length * sampleSize
    let taken := queue.available wanted
    let samples := taken / sampleSize
    let (filled, left) := popInto samples slots queue.bytes
    let counted ← { queue with bytes := left }.account taken wanted
    pure (samples, filled, counted)

/-- Drop bytes as if they had been played; the result is how many, and the queue. -/
def consume (queue : Queue) (wanted : Nat) : Logged (Nat × Queue) :=
  if queue.paused then pure (0, queue) else do
    let taken := queue.available wanted
    let counted ← { queue with bytes := queue.bytes.drop taken }.account taken wanted
    pure (taken, counted)

/-- Reading into some slots leaves the same queue as dropping twice as many bytes. -/
theorem queue_read (queue : Queue) (slots : List UInt16) :
    (queue.read slots).value.2.2 = (queue.consume (2 * slots.length)).value.2 := by
  unfold read consume
  cases queue.paused with
  | true => rfl
  | false =>
    have within := queue.available_le (2 * slots.length)
    have whole := wholeFrames_mod (min queue.bytes.length (2 * slots.length))
    rw [← available, stereoFrame_eq] at whole
    have even : 2 * (queue.available (2 * slots.length) / 2) =
        queue.available (2 * slots.length) := by omega
    simp only [Bool.false_eq_true, ↓reduceIte, sampleSize, Nat.mul_comm slots.length,
      Logged.bind_value, Logged.pure_value]
    rw [popInto_left (by omega) (by omega), even]

/-- A queue as a driver opens it: `announce` tells which driver it was. -/
def opened (announce : Format → Event) (request : Request) : Report HostError Queue := do
  let format ← Report.ofExcept request.negotiate
  Report.tell (announce format)
  pure (ofFormat format)

end Queue

end PacingHost
