import ZWave.Network.Device

/-!
# What is done with a device

A device is sent frames, and cycles pass for it (`SimulatedDevice.Operation`); what it is stays the
same all the while (`DeviceModel.model_after`). Each of the two has its equations here: what an
answer leaves as it was, and how a device that sleeps wakes and goes to sleep again
(`advance_of_awake`, `advance_of_asleep`).
-/

namespace ZWave

/-- The update with which the device of a model tells what it is. -/
def DeviceModel.information (d : DeviceModel) : Frame :=
  .applicationUpdate
    { status := UpdateStatus.infoReceived
      nodeId := d.id
      info := some { device := d.protocolInfo.device, classes := d.classes.map ModelClass.id } }

theorem map_range_succ {α : Type} (f : Nat → α) (n : Nat) :
    (List.range (n + 1)).map f = f 0 :: (List.range n).map fun k => f (k + 1) := by
  rw [List.range_succ_eq_map, List.map_cons, List.map_map]
  rfl

namespace SimulatedDevice

theorem nodeInfo_eq (d : SimulatedDevice) : d.nodeInfo = d.model.information := rfl

/-! ## Frames -/

/-- An answer changes the level of a device, if anything. -/
theorem answer_fst (d : SimulatedDevice) (classId command : UInt8) (arguments : List UInt8) :
    (d.answer classId command arguments).1 =
      { d with level := (d.answer classId command arguments).1.level } := by
  unfold answer
  dsimp only
  repeat' split
  all_goals rfl

theorem answerPayload_fst (d : SimulatedDevice) (payload : List UInt8) :
    (d.answerPayload payload).1 = { d with level := (d.answerPayload payload).1.level } := by
  unfold answerPayload
  split
  · split
    · exact d.answer_fst ..
    · rfl
  · rfl

theorem model_answerPayload (d : SimulatedDevice) (payload : List UInt8) :
    (d.answerPayload payload).1.model = d.model := by
  rw [d.answerPayload_fst payload]

theorem handle_requestNodeInfo (d : SimulatedDevice) (id : NodeId) :
    d.handle (.requestNodeInfo id) =
      if d.isReachable = false then (d, some (.applicationUpdate .requestFailed))
      else if 0 < d.failuresLeft then
        ({ d with failuresLeft := d.failuresLeft - 1 }, some (.applicationUpdate .requestFailed))
      else (d, some d.nodeInfo) := rfl

theorem handle_sendData (d : SimulatedDevice) (request : SendData) :
    d.handle (.sendData request) =
      if d.isReachable then
        ((d.answerPayload request.payload).1, (d.answerPayload request.payload).2.map fun payload =>
          .applicationCommand { nodeId := (d.answerPayload request.payload).1.id, payload })
      else (d, none) := rfl

/-- A frame changes the level of a device and the failures it has left, if anything. -/
theorem handle_fst (d : SimulatedDevice) (f : Frame) :
    (d.handle f).1 =
      { d with
        failuresLeft := (d.handle f).1.failuresLeft
        level := (d.handle f).1.level } := by
  cases f with
  | requestNodeInfo id =>
    rw [handle_requestNodeInfo]
    repeat' split
    all_goals rfl
  | sendData request =>
    rw [handle_sendData]
    split
    · dsimp only
      rw [d.answerPayload_fst]
    · rfl
  | applicationCommand | applicationUpdate | other => rfl

@[simp] theorem model_handle (d : SimulatedDevice) (f : Frame) :
    (d.handle f).1.model = d.model := by
  rw [d.handle_fst f]

@[simp] theorem awakeFor_handle (d : SimulatedDevice) (f : Frame) :
    (d.handle f).1.awakeFor = d.awakeFor := by
  rw [d.handle_fst f]

@[simp] theorem asleepFor_handle (d : SimulatedDevice) (f : Frame) :
    (d.handle f).1.asleepFor = d.asleepFor := by
  rw [d.handle_fst f]

@[simp] theorem id_handle (d : SimulatedDevice) (f : Frame) : (d.handle f).1.id = d.id :=
  congrArg DeviceModel.id (d.model_handle f)

@[simp] theorem isReachable_handle (d : SimulatedDevice) (f : Frame) :
    (d.handle f).1.isReachable = d.isReachable := by
  rw [isReachable, isReachable, model_handle, awakeFor_handle]

theorem handle_fst_of_unreachable {d : SimulatedDevice} (h : d.isReachable = false) (f : Frame) :
    (d.handle f).1 = d := by
  cases f with
  | requestNodeInfo id => rw [handle_requestNodeInfo, if_pos h]
  | sendData request => rw [handle_sendData, h, if_neg Bool.false_ne_true]
  | applicationCommand | applicationUpdate | other => rfl

theorem isSome_handle {d : SimulatedDevice} {f : Frame} (h : f.isNodeInfoRequest = true) :
    (d.handle f).2.isSome := by
  cases f with
  | requestNodeInfo id =>
    rw [handle_requestNodeInfo]
    repeat' split
    all_goals rfl
  | sendData | applicationCommand | applicationUpdate | other => cases h

/-! ## Cycles -/

@[simp] theorem model_advance (d : SimulatedDevice) : d.advance.1.model = d.model := by
  unfold advance
  dsimp only
  repeat' split
  all_goals rfl

@[simp] theorem id_advance (d : SimulatedDevice) : d.advance.1.id = d.id :=
  congrArg DeviceModel.id d.model_advance

theorem advance_announcement {d : SimulatedDevice} {f : Frame} (h : d.advance.2 = some f) :
    f = d.nodeInfo := by
  unfold advance at h
  dsimp only at h
  repeat' split at h
  all_goals cases h
  rfl

theorem advance_of_listening {d : SimulatedDevice} (h : d.model.listening = true) :
    d.advance = (d, none) := by
  unfold advance
  rw [if_pos h]

@[simp] theorem level_advance (d : SimulatedDevice) : d.advance.1.level = d.level := by
  unfold advance
  dsimp only
  repeat' split
  all_goals rfl

/-- A device that is awake has announced itself before. -/
theorem advance_of_awake {d : SimulatedDevice} (h : d.model.listening = false)
    (awake : 0 < d.awakeFor) :
    d.advance = ({ d with
      awakeFor := d.awakeFor - 1
      asleepFor := if d.awakeFor = 1 then d.model.wakeInterval.getD 0 else d.asleepFor }, none) := by
  unfold advance
  rw [h, if_neg (by simp), if_pos awake]
  dsimp only
  by_cases last : d.awakeFor = 1
  · rw [if_pos (by omega), if_pos last]
  · rw [if_neg (by omega), if_neg last]

theorem advance_of_asleep {d : SimulatedDevice} (h : d.model.listening = false)
    (asleep : d.awakeFor = 0) :
    d.advance =
      if 0 < d.asleepFor - 1 then ({ d with asleepFor := d.asleepFor - 1 }, none)
      else ({ d with
        asleepFor := d.asleepFor - 1
        awakeFor := max d.model.awakeCycles 1 }, some d.nodeInfo) := by
  unfold advance
  rw [h, if_neg (by simp), if_neg (by omega)]
  rfl

/-! ## Operations -/

/-- What can be done with a device: it is sent a frame, or a cycle passes. -/
inductive Operation where
  | handle (frame : Frame)
  | advance

namespace Operation

def isAdvance : Operation → Bool
  | advance => true
  | handle _ => false

def isRequest : Operation → Bool
  | handle frame => frame.isNodeInfoRequest
  | advance => false

end Operation

def operate (d : SimulatedDevice) : Operation → SimulatedDevice × Option Frame
  | .handle frame => d.handle frame
  | .advance => d.advance

theorem model_operate (d : SimulatedDevice) (op : Operation) :
    (d.operate op).1.model = d.model := by
  cases op with
  | handle frame => exact d.model_handle frame
  | advance => exact d.model_advance

def after (d : SimulatedDevice) (ops : List Operation) : SimulatedDevice :=
  ops.foldl (fun d op => (d.operate op).1) d

/-- An operation in a run, with the device that it is done with. -/
structure Exchange where
  device : SimulatedDevice
  operation : Operation

namespace Exchange

def reply (e : Exchange) : Option Frame := (e.device.operate e.operation).2

def left (e : Exchange) : SimulatedDevice := (e.device.operate e.operation).1

end Exchange

def exchanges (d : SimulatedDevice) : List Operation → List Exchange
  | [] => []
  | op :: ops => ⟨d, op⟩ :: (d.operate op).1.exchanges ops

theorem model_after (d : SimulatedDevice) (ops : List Operation) :
    (d.after ops).model = d.model := by
  induction ops generalizing d with
  | nil => rfl
  | cons op ops ih => exact (ih (d.operate op).1).trans (d.model_operate op)

end SimulatedDevice

def DeviceModel.after (d : DeviceModel) (ops : List SimulatedDevice.Operation) : SimulatedDevice :=
  (SimulatedDevice.ofModel d).after ops

@[simp] theorem DeviceModel.model_after (d : DeviceModel) (ops : List SimulatedDevice.Operation) :
    (d.after ops).model = d :=
  SimulatedDevice.model_after _ ops

end ZWave
