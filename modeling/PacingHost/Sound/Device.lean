import PacingHost.Number.Word

/-! # Devices

A device plays the bytes pushed into its queue on its own schedule. Its owner pushes bytes, asks how
many wait, drops them all and holds playback back; nothing of this depends on the player. A gauge is
a device without a player: it keeps the depth of its queue and writes down what was asked of it.
-/

namespace PacingHost

class Device (δ : Type) where
  /-- Bytes waiting to be played, as a 32-bit count. -/
  depth : δ → Nat
  /-- Append bytes to the queue. -/
  push : List UInt8 → δ → δ
  /-- Drop everything that waits. -/
  clear : δ → δ
  /-- Hold playback back or let it go on. -/
  setPaused : Bool → δ → δ

/-- What a gauge was asked to do. -/
inductive DeviceCall where
  | push (size : Nat)
  | clear
  | setPaused (paused : Bool)
deriving DecidableEq, Repr

structure Gauge where
  depth : Nat
  calls : List DeviceCall := []
deriving DecidableEq, Repr

namespace Gauge

def record (gauge : Gauge) (call : DeviceCall) : Gauge :=
  { gauge with calls := gauge.calls ++ [call] }

/-- The depth of a gauge stays at the largest word. -/
instance : Device Gauge where
  depth := Gauge.depth
  push bytes gauge :=
    { gauge.record (.push bytes.length) with
      depth := min (gauge.depth + bytes.length) (Word.limit - 1) }
  clear gauge := { gauge.record .clear with depth := 0 }
  setPaused paused gauge := gauge.record (.setPaused paused)

end Gauge

end PacingHost
