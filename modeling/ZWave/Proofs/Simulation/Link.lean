import ZWave.Proofs.Device.Operations
import ZWave.Proofs.Node.Frames

/-!
# A node and its device

What passes between the driver and one simulated device in a cycle: the node has its turn, in which
the device answers the frame that the node may send; the device lets the cycle pass; and the node is
given the answer and then the announcement. `Link.cycle` is this exchange by itself, without the
other nodes; they only decide whether the node has to pass its turn (`held`).
-/

namespace ZWave

namespace Node

def hear (n : Node) (frame : Option Frame) : Node := frame.elim n fun f => (n.receive f).value

@[simp] theorem id_hear (n : Node) (frame : Option Frame) : (n.hear frame).id = n.id := by
  cases frame with
  | none => rfl
  | some f => exact n.id_receive f

theorem Addressed.hear {n : Node} (h : n.Addressed) (frame : Option Frame) :
    (n.hear frame).Addressed := by
  cases frame with
  | none => exact h
  | some f => exact h.receive f

theorem awaitsNodeInfo_hear {n : Node} (h : n.awaitsNodeInfo = false) (frame : Option Frame) :
    (n.hear frame).awaitsNodeInfo = false := by
  cases frame with
  | none => exact h
  | some f =>
    refine Bool.eq_false_iff.2 fun hw => ?_
    rw [awaitsNodeInfo_receive hw] at h
    cases h

end Node

/-- A node and the device it stands for. -/
structure Link where
  node : Node
  device : SimulatedDevice

namespace Link

/-- The turn of the node, with what the device answers. -/
def turn (l : Link) (held : Bool) : Link × Option Frame :=
  if held then (l, none)
  else match l.node.sends? with
    | some f => (⟨l.node.tick.value, (l.device.handle f).1⟩, (l.device.handle f).2)
    | none => (⟨l.node.tick.value, l.device⟩, none)

def cycle (l : Link) (held : Bool) : Link where
  node := ((l.turn held).1.node.hear (l.turn held).2).hear (l.turn held).1.device.advance.2
  device := (l.turn held).1.device.advance.1

end Link

/-! ## What devices answer -/

namespace SimulatedDevice

/-- A device answers with a report, which names it unless a request for information failed. -/
theorem handle_reply {d : SimulatedDevice} {f r : Frame} (h : (d.handle f).2 = some r) :
    Node.Ending r ∧ (r.nodeId? = some d.id ∨
      r = .applicationUpdate .requestFailed ∧ f.isNodeInfoRequest = true) := by
  cases f with
  | requestNodeInfo id =>
    rw [handle_requestNodeInfo] at h
    repeat' split at h
    all_goals cases h
    · exact ⟨Node.ending_update _, .inr ⟨rfl, rfl⟩⟩
    · exact ⟨Node.ending_update _, .inr ⟨rfl, rfl⟩⟩
    · exact ⟨Node.ending_update _, .inl rfl⟩
  | sendData request =>
    rw [handle_sendData] at h
    split at h
    · obtain ⟨payload, -, rfl⟩ := Option.map_eq_some_iff.1 h
      have hid : (d.answerPayload request.payload).1.id = d.id :=
        congrArg DeviceModel.id (d.model_answerPayload _)
      exact ⟨Node.ending_command _, .inl (congrArg some hid)⟩
    · cases h
  | applicationCommand | applicationUpdate | other => cases h

end SimulatedDevice

/-! ## What a cycle keeps -/

namespace Link

structure Proper (id : NodeId) (l : Link) : Prop where
  node : l.node.id = id
  device : l.device.id = id
  addressed : l.node.Addressed

theorem turn_of_sends {l : Link} {f : Frame} (h : l.node.sends? = some f) :
    l.turn false = (⟨l.node.tick.value, (l.device.handle f).1⟩, (l.device.handle f).2) := by
  unfold turn
  rw [h]
  rfl

theorem turn_of_quiet {l : Link} (h : l.node.sends? = none) :
    l.turn false = (⟨l.node.tick.value, l.device⟩, none) := by
  unfold turn
  rw [h]
  rfl

theorem Proper.turn {id : NodeId} {l : Link} (h : l.Proper id) (held : Bool) :
    (l.turn held).1.Proper id := by
  cases held with
  | true => exact h
  | false =>
    have node : l.node.tick.value.id = id := l.node.id_tick.trans h.node
    cases hs : l.node.sends? with
    | some f =>
      rw [turn_of_sends hs]
      exact ⟨node, (l.device.id_handle f).trans h.device, h.addressed.tick⟩
    | none =>
      rw [turn_of_quiet hs]
      exact ⟨node, h.device, h.addressed.tick⟩

theorem Proper.cycle {id : NodeId} {l : Link} (h : l.Proper id) (held : Bool) :
    (l.cycle held).Proper id where
  node := by
    unfold Link.cycle
    rw [Node.id_hear, Node.id_hear]
    exact (h.turn held).node
  device := ((l.turn held).1.device.id_advance).trans (h.turn held).device
  addressed := ((h.turn held).addressed.hear _).hear _

/-- What the device answers in a turn ends the transaction of the node. -/
theorem turn_reply {id : NodeId} {l : Link} (h : l.Proper id) {held : Bool} {r : Frame}
    (hr : (l.turn held).2 = some r) :
    Node.Ending r ∧ (r.nodeId? = some id ∨
      r = .applicationUpdate .requestFailed ∧ (l.turn held).1.node.awaitsNodeInfo = true) := by
  cases held with
  | true => cases hr
  | false =>
    cases hs : l.node.sends? with
    | none =>
      rw [turn_of_quiet hs] at hr
      cases hr
    | some f =>
      rw [turn_of_sends hs] at hr ⊢
      obtain ⟨ending, named | ⟨failed, asked⟩⟩ := SimulatedDevice.handle_reply hr
      · exact ⟨ending, .inl (h.device ▸ named)⟩
      · refine ⟨ending, .inr ⟨failed, ?_⟩⟩
        rw [l.node.awaitsNodeInfo_tick_eq, hs]
        exact asked

/-- A request for node information is answered in the cycle it is sent in. -/
theorem awaitsNodeInfo_cycle {l : Link} (h : l.node.awaitsNodeInfo = false) (held : Bool) :
    (l.cycle held).node.awaitsNodeInfo = false := by
  refine Node.awaitsNodeInfo_hear ?_ _
  cases held with
  | true => exact h
  | false =>
    cases hs : l.node.sends? with
    | none =>
      rw [turn_of_quiet hs]
      change l.node.tick.value.awaitsNodeInfo = false
      rw [l.node.awaitsNodeInfo_tick_eq, hs]
      exact h
    | some f =>
      rw [turn_of_sends hs]
      cases hf : f.isNodeInfoRequest with
      | false =>
        refine Node.awaitsNodeInfo_hear ?_ _
        change l.node.tick.value.awaitsNodeInfo = false
        rw [l.node.awaitsNodeInfo_tick_eq, hs]
        exact hf
      | true =>
        have answered := SimulatedDevice.isSome_handle (d := l.device) hf
        obtain ⟨r, hr⟩ := Option.isSome_iff_exists.1 answered
        change (l.node.tick.value.hear (l.device.handle f).2).awaitsNodeInfo = false
        rw [hr]
        exact congrArg (Option.any Frame.isNodeInfoRequest)
          ((SimulatedDevice.handle_reply hr).1 l.node.tick.value)

/-- What holds of a node whatever it sends and is given holds after a cycle. -/
theorem node_cycle {P : Node → Prop} (tick : ∀ n, P n → P n.tick.value)
    (receive : ∀ n f, P n → P (n.receive f).value) {l : Link} (h : P l.node) (held : Bool) :
    P (l.cycle held).node := by
  have hear : ∀ (n : Node) (frame : Option Frame), P n → P (n.hear frame) := by
    intro n frame hn
    cases frame with
    | none => exact hn
    | some f => exact receive n f hn
  refine hear _ _ (hear _ _ ?_)
  cases held with
  | true => exact h
  | false =>
    cases hs : l.node.sends? with
    | none => rw [turn_of_quiet hs]; exact tick _ h
    | some f => rw [turn_of_sends hs]; exact tick _ h

theorem cycle_of_quiet {n : Node} {s : SimulatedDevice} (h : n.sends? = none) :
    (⟨n, s⟩ : Link).cycle false = ⟨n.tick.value.hear s.advance.2, s.advance.1⟩ := by
  have h : (⟨n, s⟩ : Link).node.sends? = none := h
  unfold Link.cycle
  rw [turn_of_quiet h]
  rfl

end Link

end ZWave
