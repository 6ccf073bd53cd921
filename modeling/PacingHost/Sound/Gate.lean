import PacingHost.Journal.Logged
import PacingHost.Sound.Device

/-! # The playback gate

Two thresholds govern a device, both counted in its buffers. Playback is held back until the queue
has grown to the start threshold, and sound is dropped while the queue stands at the max threshold
or above. The gap keeps the device from flipping between playing and paused when its queue hovers
near a single limit.
-/

namespace PacingHost

structure Thresholds where
  /-- Buffers that wait when playback starts. -/
  start : UInt32 := 2
  /-- Buffers that wait when new sound is dropped. -/
  max : UInt32 := 5
deriving DecidableEq, Repr

/-- The thresholds leave a usable band between them. -/
def Thresholds.validate (thresholds : Thresholds) : Except SetupError Unit :=
  if thresholds.start = 0 then .error .zeroStart
  else if thresholds.max < thresholds.start then
    .error (.maxBelowStart thresholds.max thresholds.start)
  else .ok ()

theorem Thresholds.validate_eq_ok_iff (thresholds : Thresholds) :
    thresholds.validate = .ok () ↔ 0 < thresholds.start ∧ thresholds.start ≤ thresholds.max := by
  unfold validate
  simp only [UInt32.lt_iff_toNat_lt, UInt32.le_iff_toNat_le, ← UInt32.toNat_inj,
    UInt32.toNat_zero]
  split
  · simp only [reduceCtorEq, false_iff]; omega
  · split
    · simp only [reduceCtorEq, false_iff]; omega
    · simp only [true_iff]; omega

/-- What became of one burst. -/
inductive Drained where
  /-- The burst was queued, and playback began with it or not. -/
  | queued (before after : Nat) (started : Bool)
  /-- The queue was full and the burst was dropped. -/
  | dropped (depth : Nat)
deriving DecidableEq, Repr

/-- A gate is open while its device plays. -/
structure Gate where
  ready : Bool
  startBytes : Nat
  maxBytes : Nat
deriving DecidableEq, Repr

namespace Gate

/-- A closed gate for a device whose buffers have that many bytes. -/
def ofThresholds (thresholds : Thresholds) (bufferSize : UInt32) : Except SetupError Gate := do
  thresholds.validate
  match Word.product? thresholds.start bufferSize, Word.product? thresholds.max bufferSize with
  | none, _ => .error .startOverflow
  | some _, none => .error .maxOverflow
  | some start, some max => .ok ⟨false, start.toNat, max.toNat⟩

theorem ofThresholds_eq_ok_iff (thresholds : Thresholds) (bufferSize : UInt32) (gate : Gate) :
    ofThresholds thresholds bufferSize = .ok gate ↔
      0 < thresholds.start ∧ thresholds.start ≤ thresholds.max ∧
        thresholds.max.toNat * bufferSize.toNat < Word.limit ∧
        gate = ⟨false, thresholds.start.toNat * bufferSize.toNat,
          thresholds.max.toNat * bufferSize.toNat⟩ := by
  have valid := thresholds.validate_eq_ok_iff
  unfold ofThresholds
  cases checked : thresholds.validate with
  | error cause =>
    simp only [checked, reduceCtorEq, false_iff, not_and] at valid
    simp only [bind, Except.bind, reduceCtorEq, false_iff, not_and]
    exact fun positive ordered => absurd ordered (valid positive)
  | ok accepted =>
    obtain ⟨positive, ordered⟩ := valid.mp checked
    have smaller := Nat.mul_le_mul_right bufferSize.toNat (UInt32.le_iff_toNat_le.mp ordered)
    simp only [bind, Except.bind, positive, ordered, true_and]
    cases first : Word.product? thresholds.start bufferSize with
    | none =>
      have large := (Word.product?_eq_none_iff _ _).mp first
      simp only [reduceCtorEq, false_iff]
      omega
    | some start =>
      have startSize := (Word.product?_eq_some_iff _ _ _).mp first
      cases second : Word.product? thresholds.max bufferSize with
      | none =>
        have large := (Word.product?_eq_none_iff _ _).mp second
        simp only [reduceCtorEq, false_iff]
        omega
      | some max =>
        have maxSize := (Word.product?_eq_some_iff _ _ _).mp second
        have bound : max.toNat < Word.limit := max.toNat_lt
        simp only [Except.ok.injEq, ← startSize, ← maxSize, bound, true_and]
        exact eq_comm

/-- Set up a gate and report its thresholds. -/
def setUp (thresholds : Thresholds) (bufferSize : UInt32) : Report SetupError Gate := do
  let gate ← Report.ofExcept (ofThresholds thresholds bufferSize)
  Report.tell (.thresholdsSet gate.startBytes gate.maxBytes)
  pure gate

/-- The depth a device is taken to have once so many bytes were pushed: a 32-bit count that stays
at the largest word. -/
def depthAfter (before pushed : Nat) : Nat :=
  min (before + pushed % Word.limit) (Word.limit - 1)

variable {δ : Type} [Device δ]

/-- Offer some bytes to a device: drop them if its queue is full, push them otherwise, and start
playback when the queue has grown to the start threshold. -/
def drain (gate : Gate) (bytes : List UInt8) (device : δ) : Logged (Drained × Gate × δ) :=
  let before := Device.depth device
  if gate.maxBytes ≤ before then do
    Logged.tell (.queueFull before gate.maxBytes bytes.length)
    pure (.dropped before, gate, device)
  else do
    let after := depthAfter before bytes.length
    let filled := Device.push bytes device
    Logged.tell (.notice (.soundAdded before after))
    if gate.ready = false ∧ gate.startBytes ≤ after then
      Logged.tell (.notice (.soundReady after))
      Logged.tell (.playbackStarted after)
      pure (.queued before after true, { gate with ready := true }, Device.setPaused false filled)
    else pure (.queued before after false, gate, filled)

/-- Stop playback and drop what waits; playback starts again only from the start threshold. -/
def reset (gate : Gate) (device : δ) : Logged (Gate × δ) := do
  Logged.tell .queueReset
  pure ({ gate with ready := false }, Device.setPaused true (Device.clear device))

/-- A full queue takes nothing. -/
theorem drain_full {gate : Gate} {device : δ} (bytes : List UInt8)
    (full : gate.maxBytes ≤ Device.depth device) :
    (gate.drain bytes device).value = (.dropped (Device.depth device), gate, device) := by
  simp only [drain, full, ↓reduceIte, Logged.bind_value, Logged.pure_value]

/-- A queue below the start threshold goes on waiting. -/
theorem drain_waiting {gate : Gate} {device : δ} (bytes : List UInt8)
    (room : Device.depth device < gate.maxBytes)
    (waiting : gate.ready = true ∨
      depthAfter (Device.depth device) bytes.length < gate.startBytes) :
    (gate.drain bytes device).value =
      (.queued (Device.depth device) (depthAfter (Device.depth device) bytes.length) false, gate,
        Device.push bytes device) := by
  have stays : ¬(gate.ready = false ∧
      gate.startBytes ≤ depthAfter (Device.depth device) bytes.length) := by
    rcases waiting with ready | short
    · simp only [ready, Bool.true_eq_false, false_and, not_false_eq_true]
    · omega
  simp only [drain, Nat.not_le.mpr room, stays, ↓reduceIte, Logged.bind_value,
    Logged.pure_value]

/-- A queue that reaches the start threshold starts playing. -/
theorem drain_starting {gate : Gate} {device : δ} (bytes : List UInt8)
    (room : Device.depth device < gate.maxBytes) (closed : gate.ready = false)
    (reached : gate.startBytes ≤ depthAfter (Device.depth device) bytes.length) :
    (gate.drain bytes device).value =
      (.queued (Device.depth device) (depthAfter (Device.depth device) bytes.length) true,
        { gate with ready := true }, Device.setPaused false (Device.push bytes device)) := by
  simp only [drain, Nat.not_le.mpr room, closed, reached, and_self, ↓reduceIte,
    Logged.bind_value, Logged.pure_value]

end Gate

end PacingHost
