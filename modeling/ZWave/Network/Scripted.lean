import ZWave.Network.Basic

/-!
# Scripted networks

A network that keeps a record of what it is given to send and delivers the frames it was told to.
-/

namespace ZWave

/-- A network that plays frames it was given. -/
structure ScriptedNetwork where
  /-- The frames sent so far. -/
  sent : List Frame := []
  /-- The frames to deliver at the next poll. -/
  script : List Inbound := []

namespace ScriptedNetwork

/-- Add a frame to those that are delivered next. -/
def schedule (net : ScriptedNetwork) (inbound : Inbound) : ScriptedNetwork :=
  { net with script := net.script ++ [inbound] }

instance : Network ScriptedNetwork where
  send frame net := { net with sent := net.sent ++ [frame] }
  poll net := (net.script, { net with script := [] })

end ScriptedNetwork

end ZWave
