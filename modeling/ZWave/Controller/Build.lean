import ZWave.Controller.Cycle
import ZWave.Network.Simulated

/-!
# Controllers of simulated networks

The controller of a model has one node for every device of it.
-/

namespace ZWave.Controller

def addAll {σ : Type} (c : Controller σ) (devices : List DeviceModel) :
    Except AddError (Controller σ) :=
  devices.foldlM (fun c d => (c.add d.id d.protocolInfo).map (·.value)) c

/-- The controller of a model, on the simulated network of its devices. -/
def ofModel (m : NetworkModel) : Except AddError (Controller SimulatedNetwork) :=
  Controller.addAll { network := .ofModel m } m.nodes

end ZWave.Controller
