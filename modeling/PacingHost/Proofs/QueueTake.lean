import PacingHost.Sound.Queue

/-! # Taking from the queue

A take removes `Queue.due` bytes from the front of the queue: whole stereo frames, as many as were
asked for and are there, and none while the queue is paused. Reading and dropping are the same take;
a read also hands out the samples that stand in the removed bytes. Everything else of the queue but
its counters stays as it was.
-/

namespace PacingHost

/-- The samples that stand in some bytes. -/
def samplesOf : List UInt8 → List UInt16
  | low :: high :: bytes => sampleOfBytes low high :: samplesOf bytes
  | _ => []

/-- The two bytes of a sample, the low one first. -/
def bytesOfSample (sample : UInt16) : List UInt8 :=
  [UInt8.ofNat (sample.toNat % 256), UInt8.ofNat (sample.toNat / 256)]

theorem toNat_sampleOfBytes (low high : UInt8) :
    (sampleOfBytes low high).toNat = low.toNat + 256 * high.toNat := by
  have lowBound := low.toNat_lt
  have highBound := high.toNat_lt
  rw [sampleOfBytes, UInt16.toNat_ofNat', Nat.mod_eq_of_lt (by omega)]

theorem bytesOfSample_sampleOfBytes (low high : UInt8) :
    bytesOfSample (sampleOfBytes low high) = [low, high] := by
  have lowBound := low.toNat_lt
  have highBound := high.toNat_lt
  have remainder : (low.toNat + 256 * high.toNat) % 256 = low.toNat := by omega
  have quotient : (low.toNat + 256 * high.toNat) / 256 = high.toNat := by omega
  rw [bytesOfSample, toNat_sampleOfBytes, remainder, quotient, UInt8.ofNat_toNat,
    UInt8.ofNat_toNat]

/-- Whole samples can be read one list of bytes after the other. -/
theorem samplesOf_append {first : List UInt8} (even : first.length % 2 = 0) (second : List UInt8) :
    samplesOf (first ++ second) = samplesOf first ++ samplesOf second := by
  match first, even with
  | [], _ => rfl
  | [_], even => simp only [List.length_cons, List.length_nil] at even; omega
  | low :: high :: rest, even =>
    have shorter : rest.length % 2 = 0 := by simp only [List.length_cons] at even; omega
    simp only [List.cons_append, samplesOf, samplesOf_append shorter second]

/-- No byte of a whole number of samples is lost when the samples are read. -/
theorem flatMap_bytesOfSample {bytes : List UInt8} (even : bytes.length % 2 = 0) :
    (samplesOf bytes).flatMap bytesOfSample = bytes := by
  match bytes, even with
  | [], _ => rfl
  | [_], even => simp only [List.length_cons, List.length_nil] at even; omega
  | low :: high :: rest, even =>
    have shorter : rest.length % 2 = 0 := by simp only [List.length_cons] at even; omega
    rw [samplesOf, List.flatMap_cons, bytesOfSample_sampleOfBytes, flatMap_bytesOfSample shorter]
    rfl

theorem length_samplesOf (bytes : List UInt8) : (samplesOf bytes).length = bytes.length / 2 := by
  match bytes with
  | [] => rfl
  | [_] => simp only [samplesOf, List.length_nil, List.length_singleton, Nat.reduceDiv]
  | _ :: _ :: rest =>
    simp only [samplesOf, List.length_cons, length_samplesOf rest]
    omega

/-- Popping writes the samples of the popped bytes and leaves the slots behind them. -/
theorem popInto_filled {count : Nat} {slots : List UInt16} {bytes : List UInt8}
    (roomy : count ≤ slots.length) (enough : 2 * count ≤ bytes.length) :
    (popInto count slots bytes).1 = samplesOf (bytes.take (2 * count)) ++ slots.drop count := by
  induction count generalizing slots bytes with
  | zero => simp only [popInto, Nat.mul_zero, List.take_zero, samplesOf, List.drop_zero,
      List.nil_append]
  | succ count ih =>
    cases slots with
    | nil =>
      simp only [List.length_nil] at roomy
      omega
    | cons slot slots =>
      have double : 2 * (count + 1) = 2 * count + 1 + 1 := by omega
      rw [double] at enough
      -- The bytes are enough for the sample that is popped first.
      rcases bytes with _ | ⟨low, _ | ⟨high, bytes⟩⟩
      · simp only [List.length_nil] at enough
        omega
      · simp only [List.length_cons, List.length_nil] at enough
        omega
      · simp only [List.length_cons] at roomy enough
        rw [popInto, double, List.take_succ_cons, List.take_succ_cons, samplesOf, List.cons_append,
          List.drop_succ_cons]
        exact congrArg (sampleOfBytes low high :: ·) (ih (by omega) (by omega))

namespace Queue

/-- Bytes that a take of at most so many bytes removes. -/
def due (queue : Queue) (wanted : Nat) : Nat :=
  if queue.paused then 0 else queue.available wanted

theorem due_of_paused {queue : Queue} (paused : queue.paused = true) (wanted : Nat) :
    queue.due wanted = 0 := by
  rw [due, if_pos paused]

theorem due_of_playing {queue : Queue} (playing : queue.paused = false) (wanted : Nat) :
    queue.due wanted = queue.available wanted := by
  rw [due, playing]
  exact if_neg Bool.false_ne_true

theorem due_le (queue : Queue) (wanted : Nat) :
    queue.due wanted ≤ queue.bytes.length ∧ queue.due wanted ≤ wanted := by
  have within := queue.available_le wanted
  unfold due
  split <;> omega

/-- A take never splits a frame. -/
theorem due_mod (queue : Queue) (wanted : Nat) : queue.due wanted % stereoFrame = 0 := by
  unfold due
  split
  · rfl
  · exact wholeFrames_mod _

/-- Counting a take as played touches the counters only. -/
theorem account_frame (queue : Queue) (taken wanted : Nat) :
    (queue.account taken wanted).value.bytes = queue.bytes ∧
      (queue.account taken wanted).value.paused = queue.paused ∧
      (queue.account taken wanted).value.format = queue.format := by
  unfold account
  split <;> exact ⟨rfl, rfl, rfl⟩

/-- A paused queue is left alone. -/
theorem consume_of_paused {queue : Queue} (paused : queue.paused = true) (wanted : Nat) :
    queue.consume wanted = pure (0, queue) := by
  rw [consume, if_pos paused]

/-- A drop removes what is due from the front and keeps the rest of the queue. -/
theorem consume_spec (queue : Queue) (wanted : Nat) :
    (queue.consume wanted).value.1 = queue.due wanted ∧
      (queue.consume wanted).value.2.bytes = queue.bytes.drop (queue.due wanted) ∧
      (queue.consume wanted).value.2.paused = queue.paused ∧
      (queue.consume wanted).value.2.format = queue.format := by
  by_cases paused : queue.paused = true
  · rw [consume_of_paused paused, due_of_paused paused]
    exact ⟨rfl, rfl, rfl, rfl⟩
  · have frame := { queue with bytes := queue.bytes.drop (queue.available wanted) }.account_frame
      (queue.available wanted) wanted
    rw [due_of_playing (Bool.eq_false_iff.mpr paused), consume, if_neg paused]
    exact ⟨rfl, frame⟩

/-- A read hands out the samples of the bytes that are due, and takes these bytes. -/
theorem read_spec (queue : Queue) (slots : List UInt16) :
    (queue.read slots).value =
      (queue.due (2 * slots.length) / 2,
        samplesOf (queue.bytes.take (queue.due (2 * slots.length))) ++
          slots.drop (queue.due (2 * slots.length) / 2),
        (queue.consume (2 * slots.length)).value.2) := by
  have same := queue.queue_read slots
  have within := queue.due_le (2 * slots.length)
  have whole := queue.due_mod (2 * slots.length)
  rw [stereoFrame_eq] at whole
  by_cases paused : queue.paused = true
  · rw [read, if_pos paused, due_of_paused paused, consume_of_paused paused]
    rfl
  · have playing : queue.paused = false := Bool.eq_false_iff.mpr paused
    have even : 2 * (queue.due (2 * slots.length) / 2) = queue.due (2 * slots.length) := by omega
    refine Prod.ext ?_ (Prod.ext ?_ same)
    · rw [read, if_neg paused, due_of_playing playing, Nat.mul_comm]
      rfl
    · have filled : (popInto (queue.due (2 * slots.length) / 2) slots queue.bytes).1 = _ :=
        popInto_filled (by omega) (by omega)
      rw [even] at filled
      rw [← filled, read, if_neg paused, due_of_playing playing, Nat.mul_comm 2]
      rfl

end Queue

end PacingHost
