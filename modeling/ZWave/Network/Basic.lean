import ZWave.Frame.Basic

/-!
# Networks

The controller's side of the radio: frames are handed to it one at a time, and once per cycle it
delivers what came back. The driver runs over any network (`Network`).
-/

namespace ZWave

/-- A frame that is delivered to the controller. -/
structure Inbound where
  frame : Frame
  /-- Whether it came without being asked for. -/
  unsolicited : Bool := false
deriving DecidableEq

/-- What a driver needs of a network whose state is of type `σ`. -/
class Network (σ : Type) where
  /-- Hand a frame to the network. -/
  send : Frame → σ → σ
  /-- Let a cycle pass, and take the frames that arrived since the last. -/
  poll : σ → List Inbound × σ

end ZWave
