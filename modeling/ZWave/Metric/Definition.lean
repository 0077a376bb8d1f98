/-!
# Metrics

What the node stack counts, declared once. Metrics of a node carry the labels `node` and `profile`;
some carry one more. All of them count frames, nodes or cycles.
-/

namespace ZWave

inductive MetricKind where
  | counter
  | gauge
deriving DecidableEq

def MetricKind.name : MetricKind → String
  | counter => "counter"
  | gauge => "gauge"

structure Metric where
  name : String
  kind : MetricKind
  description : String
  /-- The keys of the labels beside those of the node. -/
  extraLabels : List String := []
  /-- Whether the metric belongs to a node, and not to the driver. -/
  nodeScoped : Bool := true
deriving DecidableEq

namespace Metric

/-- The keys of the labels that every metric of a node carries. -/
def nodeLabels : List String := ["node", "profile"]

/-- The unit of every metric. -/
def unit : String := "count"

/-- The keys of all labels of a metric. -/
def labelKeys (m : Metric) : List String :=
  (if m.nodeScoped then nodeLabels else []) ++ m.extraLabels

/-! ## Frames -/

def framesSent : Metric :=
  { name := "zwave.node.frames_sent", kind := .counter
    description := "Frames handed to the transport" }

def framesReceived : Metric :=
  { name := "zwave.node.frames_received", kind := .counter
    description := "Frames delivered to a node", extraLabels := ["kind"] }

def framesDeferred : Metric :=
  { name := "zwave.node.frames_deferred", kind := .counter
    description := "Frames deferred until a sleeping node wakes" }

def framesDropped : Metric :=
  { name := "zwave.node.frames_dropped", kind := .counter
    description := "Inbound frames dropped without a handler", extraLabels := ["reason"] }

/-- Recorded when a frame is sent. -/
def writeQueueDepth : Metric :=
  { name := "zwave.node.write_queue_depth", kind := .gauge
    description := "Frames waiting in the write queue" }

/-! ## Bring-up -/

def nodeInfoRetries : Metric :=
  { name := "zwave.node.node_info_retries", kind := .counter
    description := "Node-info requests re-issued after a failure" }

def stateTransitions : Metric :=
  { name := "zwave.node.state_transitions", kind := .counter
    description := "Lifecycle state changes", extraLabels := ["state"] }

def nodesStarted : Metric :=
  { name := "zwave.node.started", kind := .counter
    description := "Nodes that completed discovery" }

/-! ## The driver -/

def driverCycles : Metric :=
  { name := "zwave.driver.cycles", kind := .counter
    description := "Scheduling cycles run by the driver", nodeScoped := false }

def driverUnrouted : Metric :=
  { name := "zwave.driver.unrouted_frames", kind := .counter
    description := "Inbound frames that matched no node", nodeScoped := false }

def all : List Metric :=
  [framesSent, framesReceived, framesDeferred, framesDropped, writeQueueDepth, nodeInfoRetries,
    stateTransitions, nodesStarted, driverCycles, driverUnrouted]

end Metric

abbrev Labels := List (String × String)

/-- The labels of a node and its profile, with more behind them. -/
def Labels.ofNode (node profile : String) (extra : Labels) : Labels :=
  ("node", node) :: ("profile", profile) :: extra

end ZWave
