import ZWave.Frame.Basic
import ZWave.Frame.Error

/-!
# Frames as bytes

A body starts with its function id; payloads and node information follow a byte that counts them:

* send data: `0x13 node length payload options callback`
* request for node information: `0x60 node`
* application command: `0x04 rx-status node length payload`
* application update: `0x49 status node length basic generic specific classes`

A label and whether a response is expected are not part of the body. Bytes after the last field
of a known function are ignored.
-/

namespace ZWave

/-! ## Encoding -/

/-- Bytes behind the byte that counts them, which holds 255 at most. -/
def counted (bs : List UInt8) : Except FrameError (List UInt8) :=
  if bs.length < 256 then .ok (UInt8.ofNat bs.length :: bs) else .error (.tooLong bs.length)

/-- Node information as the bytes that the length of an update counts. -/
def NodeInfo.bytes (info : NodeInfo) : List UInt8 :=
  info.device.basic :: info.device.generic :: info.device.specific :: info.classes

/-- The body of a frame. It exists unless something in it outgrows its length byte. -/
def Frame.encode : Frame → Except FrameError (List UInt8)
  | .sendData f => do
    let payload ← counted f.payload
    return FunctionId.sendData :: f.nodeId :: (payload ++ [f.transmitOptions, f.callbackId])
  | .requestNodeInfo nodeId => .ok [FunctionId.requestNodeInfo, nodeId]
  | .applicationCommand f => do
    let payload ← counted f.payload.bytes
    return FunctionId.applicationCommand :: f.rxStatus :: f.nodeId :: payload
  | .applicationUpdate f => do
    let info ← match f.info with
      | some info => counted info.bytes
      | none => .ok [0]
    return FunctionId.applicationUpdate :: f.status :: f.nodeId :: info
  | .other functionId data => .ok (functionId :: data)

/-! ## Decoding -/

/-- The `length` bytes that a length byte counts, and what follows them. -/
def splitCounted (length : UInt8) (rest : List UInt8) :
    Except FrameError (List UInt8 × List UInt8) :=
  if rest.length < length.toNat then
    .error (.lengthMismatch length.toNat rest.length)
  else
    .ok (rest.take length.toNat, rest.drop length.toNat)

/-- The label of send data that was read from bytes. -/
def SendData.decodedLabel : String := "SEND_DATA"

/-- Send data from what follows its function id. -/
def SendData.decode : List UInt8 → Except FrameError SendData
  | nodeId :: length :: rest => do
    match ← splitCounted length rest with
    | (payload, transmitOptions :: callbackId :: _) =>
      .ok { label := decodedLabel, nodeId, payload, transmitOptions, callbackId }
    | (payload, _) => .error (.frameTooShort (5 + payload.length) (3 + rest.length))
  | short => .error (.frameTooShort 3 (1 + short.length))

/-- The node a request for node information names, from what follows its function id. -/
def decodeNodeInfoRequest : List UInt8 → Except FrameError NodeId
  | nodeId :: _ => .ok nodeId
  | [] => .error (.frameTooShort 2 1)

/-- An application command from what follows its function id. -/
def ApplicationCommand.decode : List UInt8 → Except FrameError ApplicationCommand
  | rxStatus :: nodeId :: length :: rest => do
    match Payload.ofBytes? (← splitCounted length rest).1 with
    | some payload => .ok { nodeId, payload, rxStatus }
    | none => .error .empty
  | short => .error (.frameTooShort 4 (1 + short.length))

/-- Node information from the bytes that the length of an update counts. -/
def NodeInfo.decode : List UInt8 → Except FrameError NodeInfo
  | basic :: generic :: specific :: classes => .ok ⟨⟨basic, generic, specific⟩, classes⟩
  | short => .error (.frameTooShort 7 (4 + short.length))

/-- An application update from what follows its function id. Only the status that says so
carries node information; the body may end after the node. -/
def ApplicationUpdate.decode : List UInt8 → Except FrameError ApplicationUpdate
  | [status, nodeId] => .ok ⟨status, nodeId, none⟩
  | status :: nodeId :: length :: rest => do
    let (counted, _) ← splitCounted length rest
    if status = UpdateStatus.infoReceived then
      return ⟨status, nodeId, some (← NodeInfo.decode counted)⟩
    else
      return ⟨status, nodeId, none⟩
  | short => .error (.frameTooShort 3 (1 + short.length))

/-- The frame that a body holds. A body of an unknown function is kept whole. -/
def Frame.decode : List UInt8 → Except FrameError Frame
  | [] => .error .empty
  | functionId :: rest =>
    if functionId = FunctionId.sendData then
      .sendData <$> SendData.decode rest
    else if functionId = FunctionId.requestNodeInfo then
      .requestNodeInfo <$> decodeNodeInfoRequest rest
    else if functionId = FunctionId.applicationCommand then
      .applicationCommand <$> ApplicationCommand.decode rest
    else if functionId = FunctionId.applicationUpdate then
      .applicationUpdate <$> ApplicationUpdate.decode rest
    else
      .ok (.other functionId rest)

end ZWave
