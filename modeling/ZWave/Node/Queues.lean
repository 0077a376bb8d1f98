import ZWave.Frame.Basic

/-!
# Outbound queues

Frames for a node wait in its write queue until they are sent. Those that may wait for a sleeping
device are held back in the wake-up queue, which is emptied into the front of the write queue as
soon as the device is known to be awake. Held-back frames so go out before newer ones, in their
order.
-/

namespace ZWave

/-- The queue a frame was put in. -/
inductive Lane where
  /-- Sent as soon as the node has no transaction. -/
  | write
  /-- Held back until the node is known to be awake. -/
  | wakeup
deriving DecidableEq

/-- The frames queued for a node, and whether it is listening all the time. -/
structure Queues where
  listening : Bool
  write : List Frame := []
  wakeup : List Frame := []
deriving DecidableEq

namespace Queues

/-- Where a frame goes: one that may be held back (`defer`) waits while the node sleeps. -/
def lane (q : Queues) (defer : Bool) : Lane :=
  if defer && !q.listening then .wakeup else .write

/-- Queue a frame behind the others of its lane. -/
def push (q : Queues) (frame : Frame) (defer : Bool) : Queues :=
  match q.lane defer with
  | .write => { q with write := q.write ++ [frame] }
  | .wakeup => { q with wakeup := q.wakeup ++ [frame] }

/-- Move the frames held back, in order, ahead of those in the write queue. -/
def flush (q : Queues) : Queues := { q with write := q.wakeup ++ q.write, wakeup := [] }

/-- How many frames `flush` moves. -/
def heldBack (q : Queues) : Nat := q.wakeup.length

/-- Note whether the node is listening. One that is has nothing held back. -/
def setListening (q : Queues) (listening : Bool) : Queues :=
  let q := { q with listening }
  if listening then q.flush else q

/-- How many frames `setListening` moves. -/
def releasedBy (q : Queues) (listening : Bool) : Nat := if listening then q.heldBack else 0

/-- The frame to send next, and the queues without it. -/
def pop? (q : Queues) : Option (Frame × Queues) :=
  match q.write with
  | frame :: write => some (frame, { q with write })
  | [] => none

end Queues

end ZWave
