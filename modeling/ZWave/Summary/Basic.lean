import ZWave.Controller.Basic

/-!
# Summaries

What is known of every node at the end of a run.
-/

namespace ZWave

structure ClassSummary where
  id : UInt8
  name : String
  version : UInt8
deriving DecidableEq

structure NodeSummary where
  id : NodeId
  profile : Profile
  state : NodeState
  listening : Bool
  classes : List ClassSummary
  firmware : Option Firmware
  manufacturer : Option ProductIdentity
  level : Option UInt8
  /-- The number of frames waiting to be sent. -/
  writeQueue : Nat
  /-- The number of frames held back until the node wakes. -/
  wakeupQueue : Nat
deriving DecidableEq

/-- What is known of every node of a network, in the order of their ids. -/
structure NetworkSummary where
  cycles : Nat
  nodes : List NodeSummary
deriving DecidableEq

/-! ## What the handlers of a node know -/

namespace Registry

/-- What a device has reported through a class. -/
def learned? (r : Registry) (kind : ClassKind) : Option Learned := (r.get? kind.id).map (·.learned)

def firmware? (r : Registry) : Option Firmware :=
  match r.learned? .version with
  | some (.version firmware) => firmware
  | _ => none

def manufacturer? (r : Registry) : Option ProductIdentity :=
  match r.learned? .manufacturerSpecific with
  | some (.manufacturerSpecific identity) => identity
  | _ => none

def dimmerLevel? (r : Registry) : Option UInt8 :=
  match r.learned? .switchMultilevel with
  | some (.switchMultilevel level) => level
  | _ => none

def switchedOn? (r : Registry) : Option Bool :=
  match r.learned? .switchBinary with
  | some (.switchBinary on) => on
  | _ => none

def basicValue? (r : Registry) : Option UInt8 :=
  match r.learned? .basic with
  | some (.basic value) => value
  | _ => none

/-- The level of the device: that of a dimmer, else of a switch, else the Basic value. -/
def level? (r : Registry) : Option UInt8 :=
  r.dimmerLevel?.or
    ((r.switchedOn?.map fun on => if on then Level.on else Level.off).or r.basicValue?)

end Registry

/-! ## Summing up -/

def NodeSummary.ofNode (n : Node) : NodeSummary where
  id := n.id
  profile := n.profile
  state := n.state
  listening := n.queues.listening
  classes := n.classes.toList.map fun h => ⟨h.id, h.name, h.version⟩
  firmware := n.classes.firmware?
  manufacturer := n.classes.manufacturer?
  level := n.classes.level?
  writeQueue := n.queues.write.length
  wakeupQueue := n.queues.wakeup.length

def NetworkSummary.started (s : NetworkSummary) : Nat := s.nodes.countP (·.state == .started)

def Controller.summary {σ : Type} (c : Controller σ) : NetworkSummary where
  cycles := c.cycles
  nodes := c.nodes.values.map .ofNode

end ZWave
