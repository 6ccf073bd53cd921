import PacingHost.Proofs.QueueTake

/-! # Reading and dropping are one take

A player reads samples from a queue; a clock that only keeps time drops as many bytes. Neither the
queue nor anybody who watches it can tell the two apart: they remove the same bytes, count the same
and report the same. What a read adds is the samples, each made of the two bytes that were removed
for it, and it leaves the slots alone for which there was nothing.
-/

namespace PacingHost

/-- Each sample is made of the next two bytes. -/
theorem getElem?_samplesOf {bytes : List UInt8} {place : Nat} (there : 2 * place + 1 < bytes.length) :
    (samplesOf bytes)[place]? = some (sampleOfBytes bytes[2 * place] bytes[2 * place + 1]) := by
  induction place generalizing bytes with
  | zero =>
    match bytes, there with
    | _ :: _ :: _, _ => rfl
  | succ place ih =>
    match bytes, there with
    | low :: high :: rest, there =>
      have shorter : 2 * place + 1 < rest.length := by
        simp only [List.length_cons] at there
        omega
      have double : 2 * (place + 1) = 2 * place + 1 + 1 := by omega
      rw [samplesOf, List.getElem?_cons_succ, ih shorter]
      simp only [double, List.getElem_cons_succ]

namespace Queue

/-- A take that fell short is told of, and nothing else is. -/
theorem account_events (queue : Queue) (taken wanted : Nat) :
    (queue.account taken wanted).events =
      if fallsShort wanted taken then [.underrun wanted taken] else [] := by
  unfold account
  dsimp only
  split <;> rfl

/-- A read reports what a drop of twice as many bytes reports. -/
theorem events_read (queue : Queue) (slots : List UInt16) :
    (queue.read slots).events = (queue.consume (2 * slots.length)).events := by
  unfold read consume
  cases queue.paused with
  | true => rfl
  | false =>
    simp only [Bool.false_eq_true, ↓reduceIte, sampleSize, Nat.mul_comm slots.length,
      Logged.bind_events, Logged.pure_events, account_events]

/-- Bytes that are due are whole frames of those that wait and are asked for. -/
theorem due_eq (queue : Queue) (wanted : Nat) :
    queue.due wanted = if queue.paused then 0 else min queue.bytes.length wanted / 4 * 4 := by
  unfold due available wholeFrames
  rw [stereoFrame_eq]
  split
  · rfl
  · omega

/-- Whatever a queue holds and counts, and whether it plays or not: reading into some slots and
dropping twice as many bytes leave the same queue and report the same. A read returns half as many
samples as the drop returns bytes, which are the whole frames that wait and are asked for. Each of
these samples has the next two of the removed bytes, the low one first; the slots behind them keep
what was in them. -/
theorem reads_what_it_drops (queue : Queue) (slots : List UInt16) :
    ∃ count filled taken next,
      (queue.read slots).value = (count, filled, next) ∧
      (queue.consume (2 * slots.length)).value = (taken, next) ∧
      (queue.read slots).events = (queue.consume (2 * slots.length)).events ∧
      2 * count = taken ∧ count % 2 = 0 ∧
      taken = (if queue.paused then 0 else min queue.bytes.length (2 * slots.length) / 4 * 4) ∧
      next.bytes = queue.bytes.drop taken ∧ filled.length = slots.length ∧
      (∀ place < count, ∃ low high sample, queue.bytes[2 * place]? = some low ∧
        queue.bytes[2 * place + 1]? = some high ∧ filled[place]? = some sample ∧
        sample.toNat = low.toNat + 256 * high.toNat) ∧
      ∀ place, count ≤ place → filled[place]? = slots[place]? := by
  obtain ⟨removed, left, _⟩ := queue.consume_spec (2 * slots.length)
  obtain ⟨there, asked⟩ := queue.due_le (2 * slots.length)
  have whole := queue.due_mod (2 * slots.length)
  have taken := queue.due_eq (2 * slots.length)
  rw [stereoFrame_eq] at whole
  have front : (queue.bytes.take (queue.due (2 * slots.length))).length =
      queue.due (2 * slots.length) := List.length_take_of_le there
  have written := length_samplesOf (queue.bytes.take (queue.due (2 * slots.length)))
  rw [front] at written
  refine ⟨queue.due (2 * slots.length) / 2, _, queue.due (2 * slots.length), _,
    queue.read_spec slots, Prod.ext removed rfl, queue.events_read slots, by omega, by omega, taken,
    left, ?_, ?_, ?_⟩
  · rw [List.length_append, List.length_drop, written]
    omega
  · intro place within
    have low : 2 * place < queue.bytes.length := by omega
    have high : 2 * place + 1 < queue.bytes.length := by omega
    refine ⟨queue.bytes[2 * place], queue.bytes[2 * place + 1], _,
      List.getElem?_eq_getElem low, List.getElem?_eq_getElem high, ?_,
      toNat_sampleOfBytes queue.bytes[2 * place] queue.bytes[2 * place + 1]⟩
    rw [List.getElem?_append_left (by omega), getElem?_samplesOf (by omega), List.getElem_take,
      List.getElem_take]
  · intro place behind
    have rest : queue.due (2 * slots.length) / 2 +
        (place - queue.due (2 * slots.length) / 2) = place := by omega
    rw [List.getElem?_append_right (by omega), written, List.getElem?_drop, rest]

/-- Ten bytes hold two whole frames: five slots take both, and the last slot keeps what it had. -/
example :
    ((Queue.mk ⟨44100, stereo, 16⟩ [1, 2, 3, 4, 5, 6, 7, 8, 9, 10] false 0 0).read
        [7, 7, 7, 7, 7]).value.2 =
      ([513, 1027, 1541, 2055, 7], Queue.mk ⟨44100, stereo, 16⟩ [9, 10] false 8 0) := by decide

end Queue

end PacingHost
