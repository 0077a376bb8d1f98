import ZWave.IdMap
import ZWave.Metric.Tally
import ZWave.Network.Basic
import ZWave.Node.Step

/-!
# The controller

The controller owns the nodes and the network. In every cycle each node has its turn, in the order
of the ids, and then the frames the network delivers are routed to the nodes they belong to.

A failed request for node information does not say which node it was for. So only one such request
is out at a time: a node whose next frame is one passes its turn while another node waits for its
answer (`Controller.holdsBack`), and a failure goes to the node that waits (`Controller.target?`).
Who waits is looked up when a cycle begins and kept from turn to turn (`Controller.busyAfter`).
-/

namespace ZWave

inductive ControllerEvent where
  | cycle
  /-- Something happens on a node of a profile. -/
  | node (id : NodeId) (profile : Profile) (event : NodeEvent)
  /-- A frame is given to a node. -/
  | routed (id : NodeId) (inbound : Inbound)
  /-- A frame belongs to no node. -/
  | unrouted (inbound : Inbound)
deriving DecidableEq

def ControllerEvent.samples : ControllerEvent → List Sample
  | cycle => [.increment ⟨.driverCycles, []⟩]
  | node id profile event => event.samples id profile
  | routed _ _ => []
  | unrouted _ => [.increment ⟨.driverUnrouted, []⟩]

structure Controller (σ : Type) where
  network : σ
  nodes : IdMap Node := {}
  factory : Factory := .standard
  /-- The nodes that are ready, in the order they became so. -/
  started : List NodeId := []
  cycles : Nat := 0

namespace Controller

variable {σ : Type}

def node? (c : Controller σ) (id : NodeId) : Option Node := c.nodes.get? id

def allStarted (c : Controller σ) : Bool := c.nodes.values.all (·.state == .started)

/-- The first node that waits for the answer to a request for its information. -/
def awaiting? (c : Controller σ) : Option NodeId :=
  (c.nodes.entries.find? fun e => e.2.awaitsNodeInfo).map (·.1)

/-- The events of a node as the controller's. -/
def ofNode (n : Node) (events : List NodeEvent) : List ControllerEvent :=
  events.map (.node n.id n.profile)

/-- The controller with a node in its place. -/
def withNode (c : Controller σ) (n : Node) : Controller σ := { c with nodes := c.nodes.insert n.id n }

/-! ## Nodes -/

inductive AddError where
  | duplicate (id : NodeId)
deriving DecidableEq

def AddError.message : AddError → String
  | duplicate id => s!"Node {id} added twice"

/-- Add a node that has joined, with the profile of its generic device type. -/
def add (c : Controller σ) (id : NodeId) (info : ProtocolInfo) :
    Except AddError (Traced ControllerEvent (Controller σ)) :=
  if c.nodes.contains id then .error (.duplicate id)
  else
    let joined := Node.join id info c.factory
    let n := joined.value.withProfile (.ofGenericType info.device.generic)
    .ok ⟨c.withNode n, ofNode joined.value joined.events⟩

/-- Do something on the node with an id, if there is one. -/
def onNode? (c : Controller σ) (id : NodeId) (f : Node → Traced NodeEvent Node) :
    Option (Traced ControllerEvent (Controller σ)) :=
  (c.node? id).map fun n =>
    let r := f n
    ⟨c.withNode r.value, ofNode n r.events⟩

/-! ## Turns -/

/-- Whether node `id` has to pass its turn while `busy` waits for node information: it is another
node, and its next frame asks for such information too. -/
def holdsBack (busy : Option NodeId) (id : NodeId) (n : Node) : Bool :=
  busy.any (· != id) && n.nextIsNodeInfo

/-- The turn of a node while `busy` waits for node information: a tick, whose frame goes to the
network. -/
def turn [Network σ] (c : Controller σ) (busy : Option NodeId) (id : NodeId) :
    Traced ControllerEvent (Controller σ) :=
  match c.node? id with
  | none => pure c
  | some n =>
    if holdsBack busy id n then pure c
    else
      let r := n.tick
      let c := c.withNode r.value
      ⟨{ c with
          network := (sentFrames r.events).foldl (fun net frame => Network.send frame net) c.network
          started := if .started ∈ r.events then c.started ++ [id] else c.started },
        ofNode n r.events⟩
where
  /-- The frames that were handed to the network. -/
  sentFrames (events : List NodeEvent) : List Frame :=
    events.filterMap fun
      | .sent frame _ => some frame
      | _ => none

/-- Who waits for node information after the turn of a node, `busy` having waited before it. -/
def busyAfter (c : Controller σ) (busy : Option NodeId) (id : NodeId) : Option NodeId :=
  if (c.node? id).any Node.awaitsNodeInfo then some id else busy

/-! ## Routing -/

/-- The node a frame belongs to: the one it names, or else the one that waits for an answer which
names none. -/
def target? (c : Controller σ) (frame : Frame) : Option NodeId :=
  match frame.nodeId? with
  | some id => if id = 0 then c.awaiting? else some id
  | none => c.awaiting?

/-- Give a frame to the node it belongs to. -/
def route (c : Controller σ) (inbound : Inbound) : Traced ControllerEvent (Controller σ) :=
  match (c.target? inbound.frame).bind c.node? with
  | some n =>
    let r := n.receive inbound.frame
    ⟨c.withNode r.value, .routed n.id inbound :: ofNode n r.events⟩
  | none => ⟨c, [.unrouted inbound]⟩

end Controller

end ZWave
