import ZWave.IdMap
import ZWave.Network.Basic
import ZWave.Network.Device

/-!
# Simulated networks

The simulated devices of a model, reachable by their ids. A device answers at once, and its answer
is delivered at the next poll, ahead of the announcements of devices that wake in that cycle.
-/

namespace ZWave

/-- Simulated devices and what they have sent to the controller. -/
structure SimulatedNetwork where
  devices : IdMap SimulatedDevice := {}
  /-- The frames to deliver at the next poll. -/
  inbound : List Inbound := []
  /-- The frames that were handed to the network so far. -/
  framesSent : Nat := 0

namespace SimulatedNetwork

/-- Add a device, in place of one with its id. -/
def add (net : SimulatedNetwork) (device : SimulatedDevice) : SimulatedNetwork :=
  { net with devices := net.devices.insert device.id device }

def ofModel (m : NetworkModel) : SimulatedNetwork :=
  m.nodes.foldl (fun net d => net.add (.ofModel d)) {}

def device? (net : SimulatedNetwork) (id : NodeId) : Option SimulatedDevice := net.devices.get? id

/-- Hand a frame to the device it names. The device's answer is delivered at the next poll; a frame
for no device is lost. -/
def send (frame : Frame) (net : SimulatedNetwork) : SimulatedNetwork :=
  let net := { net with framesSent := net.framesSent + 1 }
  match frame.nodeId?.bind net.devices.get? with
  | some device =>
    let (device, reply) := device.handle frame
    { net with
      devices := net.devices.insert device.id device
      inbound := net.inbound ++ (reply.map fun frame => { frame }).toList }
  | none => net

/-- Let a cycle pass on every device. Announcements follow the answers, in the order of the ids. -/
def poll (net : SimulatedNetwork) : List Inbound × SimulatedNetwork :=
  let announcements := net.devices.values.filterMap fun d =>
    d.advance.2.map fun frame => { frame, unsolicited := true }
  (net.inbound ++ announcements,
    { net with devices := net.devices.map fun _ d => d.advance.1, inbound := [] })

instance : Network SimulatedNetwork := ⟨send, poll⟩

end SimulatedNetwork

end ZWave
