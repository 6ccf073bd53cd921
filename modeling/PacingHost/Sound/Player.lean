import PacingHost.Number.Binary64
import PacingHost.Sound.Queue

/-! # The player

A player takes bytes from a queue at the rate of its format, in whole frames. What has come due but
makes no whole frame yet is owed to the next call; a paused queue owes nothing. `play_paused` says
that a paused queue keeps its bytes.
-/

namespace PacingHost

structure Player where
  /-- Bytes that have come due and were not taken yet. -/
  owed : Float := 0.0

namespace Player

/-- No more bytes than this come due at once. -/
def mostDue : Nat := Word.longLimit - 1

/-- Take what comes due in some seconds. -/
def play (player : Player) (seconds : Float) (queue : Queue) : Logged (Player × Queue) :=
  if queue.paused then pure ({}, queue)
  else
    let owed := player.owed + seconds * Float.ofNat queue.format.bytesPerSecond
    let due := wholeFrames (floorUpTo mostDue owed)
    if due = 0 then pure (⟨owed⟩, queue) else do
      let (_, queue) ← queue.consume due
      pure (⟨owed - Float.ofNat due⟩, queue)

theorem play_paused {queue : Queue} (paused : queue.paused = true) (player : Player)
    (seconds : Float) : player.play seconds queue = pure ({}, queue) := by
  rw [play, if_pos paused]

end Player

end PacingHost
