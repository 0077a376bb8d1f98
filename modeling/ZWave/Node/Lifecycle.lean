/-!
# Bring-up of a node

A node is brought up in phases: it tells its command classes, the Version class is asked for the
versions of the others, and each class asks for its state.

```
nodeInfo ──► versionPending ──► versionQueued
   │                                  │
   └────────► statePending ◄──────────┘
                   │
                   ▼
              stateQueued ──► started
```

`Lifecycle.step` says which state an event leads to and what the node has to do on the way;
`Lifecycle.apply` takes that step.
-/

namespace ZWave

/-- The states of the bring-up, in the order a node goes through them. -/
inductive NodeState where
  /-- The command classes of the node are not known yet. -/
  | nodeInfo
  /-- The startup frames of the Version class are to be queued. -/
  | versionPending
  /-- They are queued, and are to go out. -/
  | versionQueued
  /-- The startup frames of the other classes are to be queued. -/
  | statePending
  /-- They are queued, and are to go out. -/
  | stateQueued
  | started
deriving DecidableEq

namespace NodeState

def all : List NodeState :=
  [nodeInfo, versionPending, versionQueued, statePending, stateQueued, started]

/-- The place of a state in the order. -/
def rank : NodeState → Nat
  | nodeInfo => 0
  | versionPending => 1
  | versionQueued => 2
  | statePending => 3
  | stateQueued => 4
  | started => 5

instance : LT NodeState := ⟨fun a b => a.rank < b.rank⟩
instance : LE NodeState := ⟨fun a b => a.rank ≤ b.rank⟩

instance (a b : NodeState) : Decidable (a < b) := inferInstanceAs (Decidable (a.rank < b.rank))
instance (a b : NodeState) : Decidable (a ≤ b) := inferInstanceAs (Decidable (a.rank ≤ b.rank))

def name : NodeState → String
  | nodeInfo => "NODEINFO"
  | versionPending => "RETRIEVE_VERSION_PENDING"
  | versionQueued => "RETRIEVE_VERSION_COMPLETED"
  | statePending => "RETRIEVE_STATE_PENDING"
  | stateQueued => "RETRIEVE_STATE_COMPLETED"
  | started => "STARTED"

def key : NodeState → String
  | nodeInfo => "NODE_INFO"
  | state => state.name

def label : NodeState → String
  | nodeInfo => "node_info"
  | versionPending => "retrieve_version_pending"
  | versionQueued => "retrieve_version_completed"
  | statePending => "retrieve_state_pending"
  | stateQueued => "retrieve_state_completed"
  | started => "started"

end NodeState

inductive LifecycleEvent where
  | tick
  /-- No transaction is pending and nothing is left to send. -/
  | queueDrained
  /-- The node could not be asked for its information. -/
  | infoFailed
  /-- The node told its information; whether the Version class is registered now. -/
  | infoReceived (versioned : Bool)
deriving DecidableEq

/-- What a node has to do as part of a step. -/
inductive Effect where
  | requestNodeInfo
  /-- Queue the startup frames of the Version class. -/
  | queueVersionStartup
  | queueAllStartup
  | flushWakeupQueue
  /-- Queue the frames that refresh the device's state. -/
  | refresh
  | notifyStarted
deriving DecidableEq

def Effect.name : Effect → String
  | requestNodeInfo => "RequestNodeInfo"
  | queueVersionStartup => "QueueVersionStartup"
  | queueAllStartup => "QueueAllStartup"
  | flushWakeupQueue => "FlushWakeupQueue"
  | refresh => "Refresh"
  | notifyStarted => "NotifyStarted"

structure Transition where
  /-- The state to enter, if it changes. -/
  next : Option NodeState := none
  /-- Whether the work of the present state is tried once more. -/
  retried : Bool := false
  /-- What is to be done, in order. -/
  effects : List Effect := []
deriving DecidableEq

/-- The failed requests for node information that are tried again. -/
abbrev maxInfoRetries : Nat := 1

/-- The state of the bring-up and the retries in it. -/
structure Lifecycle where
  state : NodeState := .nodeInfo
  retries : Nat := 0
deriving DecidableEq

namespace Lifecycle

/-- The retry counter is one byte wide and stops at its highest value. -/
abbrev retryLimit : Nat := 255

/-- What an event leads to. Once the classes of a node are known, an update from it proves no more
than that the device is awake. -/
def step (l : Lifecycle) (event : LifecycleEvent) : Transition :=
  match l.state, event with
  | .versionPending, .tick => { next := some .versionQueued, effects := [.queueVersionStartup] }
  | .statePending, .tick => { next := some .stateQueued, effects := [.queueAllStartup] }
  | .versionQueued, .queueDrained => { next := some .statePending }
  | .stateQueued, .queueDrained => { next := some .started, effects := [.notifyStarted] }
  | .nodeInfo, .infoFailed =>
    if l.retries < maxInfoRetries then { retried := true, effects := [.requestNodeInfo] }
    else { next := some .statePending }
  | .nodeInfo, .infoReceived versioned =>
    { next := some (if versioned then .versionPending else .statePending) }
  | _, .infoFailed => { effects := [.flushWakeupQueue, .refresh] }
  | _, .infoReceived _ => { effects := [.flushWakeupQueue, .refresh] }
  | _, _ => {}

/-- Take a step. Entering a state starts its retries anew. -/
def apply (l : Lifecycle) (t : Transition) : Lifecycle :=
  match t.next with
  | some state => { state, retries := 0 }
  | none => if t.retried then { l with retries := min (l.retries + 1) retryLimit } else l

end Lifecycle

end ZWave
