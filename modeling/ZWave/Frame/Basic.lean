import ZWave.Protocol

/-!
# Frames

The bodies of the messages that a host and its serial module exchange, without the envelope
around them. A body the node stack does not interpret is kept as it is (`Frame.other`).
-/

namespace ZWave

/-- What kind of device a node is, in the three steps of the device class tree. -/
structure DeviceType where
  basic : UInt8 := 0
  generic : UInt8 := 0
  specific : UInt8 := 0
deriving DecidableEq

/-- What the network layer knows of a node when it joins. -/
structure ProtocolInfo where
  device : DeviceType
  /-- Whether the node is always powered and reachable. -/
  listening : Bool
deriving DecidableEq

/-- What a node tells of itself: its type and the command classes it supports. -/
structure NodeInfo where
  device : DeviceType := {}
  classes : List UInt8 := []
deriving DecidableEq

/-- A command class payload: the class, then as a rule a command byte and its arguments. -/
structure Payload where
  classId : UInt8
  body : List UInt8
deriving DecidableEq

namespace Payload

def bytes (p : Payload) : List UInt8 := p.classId :: p.body

/-- The payload of these bytes; an empty one names no class and is none. -/
def ofBytes? : List UInt8 → Option Payload
  | [] => none
  | classId :: body => some ⟨classId, body⟩

/-- The command byte, if the payload goes on that far. -/
def command? (p : Payload) : Option UInt8 := p.body.head?

@[simp] theorem ofBytes?_bytes (p : Payload) : ofBytes? p.bytes = some p := rfl

theorem bytes_of_ofBytes? {bs : List UInt8} {p : Payload} (h : ofBytes? bs = some p) :
    p.bytes = bs := by
  cases bs with
  | nil => cases h
  | cons b bs => cases h; rfl

end Payload

/-- A command class payload on its way to one node. -/
structure SendData where
  /-- The name of the message in diagnostics, such as `VERSION_GET`. -/
  label : String
  nodeId : NodeId
  payload : List UInt8
  /-- Whether the node is expected to answer with an application command. -/
  responseExpected : Bool := false
  transmitOptions : UInt8 := TransmitOption.standard
  /-- The id of the transmission's callback; zero asks for none. -/
  callbackId : UInt8 := 0
deriving DecidableEq

namespace SendData

def classId? (s : SendData) : Option UInt8 := s.payload[0]?

def command? (s : SendData) : Option UInt8 := s.payload[1]?

end SendData

/-- A command class payload that arrived from a node. -/
structure ApplicationCommand where
  nodeId : NodeId
  payload : Payload
  /-- The status bits the module received the frame with. -/
  rxStatus : UInt8 := 0
deriving DecidableEq

/-- The answer to a request for node information, or a node announcing itself. -/
structure ApplicationUpdate where
  status : UInt8
  /-- The node that reports; the module names node 0 when a request failed. -/
  nodeId : NodeId
  info : Option NodeInfo
deriving DecidableEq

namespace ApplicationUpdate

/-- The update of a node that tells its information. -/
def infoReceived (nodeId : NodeId) (info : NodeInfo) : ApplicationUpdate :=
  ⟨UpdateStatus.infoReceived, nodeId, some info⟩

/-- The update that reports the last request as failed, without saying whose it was. -/
def requestFailed : ApplicationUpdate :=
  ⟨UpdateStatus.requestFailed, 0, none⟩

/-- Whether the request that the update answers failed. -/
def isFailure (u : ApplicationUpdate) : Bool := u.status == UpdateStatus.requestFailed

/-- The command classes the node reports, none if it tells no information. -/
def classes (u : ApplicationUpdate) : List UInt8 :=
  match u.info with
  | some info => info.classes
  | none => []

end ApplicationUpdate

inductive Frame where
  /-- A command class payload for a node. -/
  | sendData (request : SendData)
  /-- A request for the information of a node. -/
  | requestNodeInfo (nodeId : NodeId)
  /-- A command class payload from a node. -/
  | applicationCommand (command : ApplicationCommand)
  /-- The information of a node, asked for or not, or the failure of a request for it. -/
  | applicationUpdate (update : ApplicationUpdate)
  /-- A function the node stack does not interpret. -/
  | other (functionId : UInt8) (data : List UInt8)
deriving DecidableEq

namespace Frame

def functionId : Frame → UInt8
  | sendData _ => FunctionId.sendData
  | requestNodeInfo _ => FunctionId.requestNodeInfo
  | applicationCommand _ => FunctionId.applicationCommand
  | applicationUpdate _ => FunctionId.applicationUpdate
  | other functionId _ => functionId

/-- The node the frame is addressed to or comes from, if it names one. -/
def nodeId? : Frame → Option NodeId
  | sendData request => some request.nodeId
  | requestNodeInfo nodeId => some nodeId
  | applicationCommand command => some command.nodeId
  | applicationUpdate update => some update.nodeId
  | other _ _ => none

/-- Whether the frame asks a node for its information. -/
def isNodeInfoRequest : Frame → Bool
  | requestNodeInfo _ => true
  | _ => false

end Frame

end ZWave
