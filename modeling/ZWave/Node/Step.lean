import ZWave.Node.Basic

/-!
# Cycles and frames of a node

`Node.tick` begins a driver cycle on a node, and `Node.receive` takes a frame that is routed to it.
At most one transaction is pending: a tick sends a frame only if none is, and an application command
or update that arrives ends it.
-/

namespace ZWave.Node

/-! ## Bring-up -/

def startClass (n : Node) (id : UInt8) : Traced NodeEvent Node :=
  n.enqueueAll (n.classes.startup n.id id) true (.startup id)

/-- Queue the startup frames of the Version class, once. -/
def startVersion (n : Node) : Traced NodeEvent Node :=
  if n.versionStarted then pure n
  else { n with versionStarted := true }.startClass ClassId.version

/-- The classes still to be brought up: all but the Version class when that came first. -/
def unstarted (n : Node) : List UInt8 :=
  n.classes.ids.filter fun id => !(id == ClassId.version && n.versionStarted)

def perform (n : Node) : Effect → Traced NodeEvent Node
  | .requestNodeInfo => n.enqueue (.requestNodeInfo n.id) true .nodeInfo
  | .queueVersionStartup => n.startVersion
  | .queueAllStartup => n.unstarted.foldlM startClass n
  | .flushWakeupQueue => pure n.flush
  | .refresh => n.enqueueAll (n.profile.refresh n.id) false .refresh
  | .notifyStarted => ⟨n, [.started]⟩

/-- Move the bring-up on and do what the step asks for. -/
def handle (n : Node) (event : LifecycleEvent) : Traced NodeEvent Node := do
  let transition := n.lifecycle.step event
  let n := { n with lifecycle := n.lifecycle.apply transition }
  if let some state := transition.next then
    Traced.emit (.entered state)
  if transition.retried then
    Traced.emit .retried
  transition.effects.foldlM perform n

/-! ## Ticks -/

/-- Begin a driver cycle: queue what the bring-up asks for, and send the next frame if no
transaction is pending. When there is none to send, the bring-up moves on. -/
def tick (n : Node) : Traced NodeEvent Node := do
  let n ← n.handle .tick
  if n.pending.isSome then
    return n
  match n.queues.pop? with
  | some (frame, queues) =>
    Traced.emit (.sent frame queues.write.length)
    return { n with queues, pending := some frame }
  | none => n.handle .queueDrained

/-! ## Frames from the device -/

/-- The class whose handler reads a payload of class `id`: for Basic the one the profile names, if
that is registered, and otherwise the class itself. -/
def reader (n : Node) (id : UInt8) : UInt8 :=
  if id = ClassId.basic ∧ n.classes.contains (n.profile.basicReader id) then
    n.profile.basicReader id
  else id

/-- Have a payload read. One that has no handler or cannot be read is dropped. -/
def dispatch (n : Node) (p : Payload) : Traced NodeEvent Node :=
  if n.classes.contains p.classId then
    match n.classes.deliver (n.reader p.classId) p with
    | .ok classes => pure { n with classes }
    | .error _ => ⟨n, [.dropped .malformed]⟩
  else ⟨n, [.dropped .unknownClass]⟩

/-- Take an update into account. While the classes of the node are not known, those it reports
are registered. -/
def update (n : Node) (u : ApplicationUpdate) : Traced NodeEvent Node :=
  if u.isFailure then n.handle .infoFailed
  else
    let n := if n.state = .nodeInfo then
        { n with classes := n.classes.registerAll n.factory u.classes }
      else n
    n.handle (.infoReceived (n.classes.contains ClassId.version))

def settle (n : Node) : Node := { n with pending := none }

/-- Take a frame that is routed to the node. A frame that is neither a command nor an update is
ignored. -/
def receive (n : Node) : Frame → Traced NodeEvent Node
  | .applicationCommand command => do
    Traced.emit (.received .command)
    let n ← n.dispatch command.payload
    return n.settle
  | .applicationUpdate u => do
    Traced.emit (.received .update)
    let n ← n.update u
    return n.settle
  | _ => pure n

end ZWave.Node
