import ZWave.CommandClass.Startup
import ZWave.Node.Profile
import ZWave.Node.Queues
import ZWave.Node.Lifecycle
import ZWave.Traced

/-!
# Nodes

The controller's side of one device: the handlers of its command classes, the frames queued for it,
the one transaction that may be pending, and how far its bring-up has come. Operations return the
node together with the events that happened, from which everything told to the outside is derived:
frames sent, the notice that the node is ready, and metrics.
-/

namespace ZWave

inductive Origin where
  /-- The node was given the frame. -/
  | caller
  /-- The node asks for its information. -/
  | nodeInfo
  /-- The handler of a class is brought up. -/
  | startup (classId : UInt8)
  /-- The state of a device that is awake is refreshed. -/
  | refresh
deriving DecidableEq

inductive InboundKind where
  | command
  | update
deriving DecidableEq

inductive DropReason where
  /-- Its class has no handler. -/
  | unknownClass
  /-- Its payload could not be read. -/
  | malformed
deriving DecidableEq

inductive NodeEvent where
  | queued (frame : Frame) (lane : Lane) (origin : Origin)
  /-- A frame was handed to the network, which left `backlog` frames to be sent. -/
  | sent (frame : Frame) (backlog : Nat)
  | received (kind : InboundKind)
  | dropped (reason : DropReason)
  | entered (state : NodeState)
  /-- Node information is asked for once more. -/
  | retried
  | started
deriving DecidableEq

structure Node where
  id : NodeId
  device : DeviceType
  profile : Profile := .generic
  factory : Factory
  classes : Registry := .empty
  queues : Queues
  /-- The frame that was sent and has not been answered. -/
  pending : Option Frame := none
  lifecycle : Lifecycle := {}
  /-- Whether the Version class was brought up ahead of the others. -/
  versionStarted : Bool := false

namespace Node

def state (n : Node) : NodeState := n.lifecycle.state

/-- Whether the node waits for the answer to a request for its information. -/
def awaitsNodeInfo (n : Node) : Bool := n.pending.any Frame.isNodeInfoRequest

/-- Whether the next frame the node sends is a request for its information. -/
def nextIsNodeInfo (n : Node) : Bool :=
  n.pending.isNone && n.queues.write.head?.any Frame.isNodeInfoRequest

/-! ## Queueing -/

/-- Queue a frame; one that may be held back waits while the node sleeps. -/
def enqueue (n : Node) (frame : Frame) (defer : Bool) (origin : Origin) : Traced NodeEvent Node :=
  ⟨{ n with queues := n.queues.push frame defer }, [.queued frame (n.queues.lane defer) origin]⟩

def enqueueAll (n : Node) (frames : List Frame) (defer : Bool) (origin : Origin) :
    Traced NodeEvent Node :=
  frames.foldlM (fun n frame => n.enqueue frame defer origin) n

/-- Queue a frame for the device; with `defer` it may be held back. -/
def queue (n : Node) (frame : Frame) (defer : Bool) : Traced NodeEvent Node :=
  n.enqueue frame defer .caller

def flush (n : Node) : Node := { n with queues := n.queues.flush }

/-- Note whether the device is listening, which releases what is held back for it. -/
def setListening (n : Node) (listening : Bool) : Node :=
  { n with queues := n.queues.setListening listening }

/-- Add a handler; one whose class is registered is refused. -/
def register (n : Node) (h : Handler) : Node := { n with classes := n.classes.register h }

/-- The frame that sets the level of the device, if it is known as a dimmer. -/
def levelRequest? (n : Node) (level : UInt8) : Option Frame :=
  (n.classes.get? ClassId.switchMultilevel).bind (·.levelRequest? n.id level)

/-! ## A new node -/

/-- A node that has just joined. One that listens is asked for its information; one that sleeps
will announce itself. -/
def join (id : NodeId) (info : ProtocolInfo) (factory : Factory) : Traced NodeEvent Node :=
  let n : Node :=
    { id, device := info.device, factory, queues := { listening := info.listening } }
  if info.listening then n.enqueue (.requestNodeInfo id) true .nodeInfo else pure n

/-- The node treated as a device of another profile. -/
def withProfile (n : Node) (profile : Profile) : Node := { n with profile }

end Node

end ZWave
