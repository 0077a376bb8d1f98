import ZWave.Proofs.Device.Operations

/-!
# Requests for node information

A device fails the requests for its node information that its model tells it to fail, and answers
those after them with what it is. Only requests that reach the device are counted
(`SimulatedDevice.failuresLeft_operate`); one that comes while it sleeps fails as well, but makes no
difference to it. So the answers of a whole run are told by the number of requests that reached the
device (`DeviceModel.fails_first`).
-/

namespace ZWave

namespace SimulatedDevice

def Exchange.reaches (e : Exchange) : Bool := e.operation.isRequest && e.device.isReachable

/-- The requests for node information of a run that reach the device. -/
def heard (s : SimulatedDevice) (ops : List Operation) : List Exchange :=
  (s.exchanges ops).filter Exchange.reaches

/-! ## One operation -/

@[simp] theorem failuresLeft_advance (s : SimulatedDevice) :
    s.advance.1.failuresLeft = s.failuresLeft := by
  unfold advance
  dsimp only
  repeat' split
  all_goals rfl

theorem handle_request_of_reachable {s : SimulatedDevice} (reach : s.isReachable = true)
    (id : NodeId) :
    s.handle (.requestNodeInfo id) =
      if 0 < s.failuresLeft then
        ({ s with failuresLeft := s.failuresLeft - 1 }, some (.applicationUpdate .requestFailed))
      else (s, some s.model.information) := by
  rw [handle_requestNodeInfo, reach, nodeInfo_eq]
  rfl

theorem reply_of_reaches {s : SimulatedDevice} {op : Operation}
    (reaches : Exchange.reaches ⟨s, op⟩ = true) :
    Exchange.reply ⟨s, op⟩ = some
      (if 0 < s.failuresLeft then .applicationUpdate .requestFailed else s.model.information) := by
  obtain ⟨request, reach⟩ := Bool.and_eq_true_iff.1 reaches
  dsimp only at request reach
  cases op with
  | advance => cases request
  | handle f =>
    cases f with
    | requestNodeInfo id =>
      change (s.handle (.requestNodeInfo id)).2 = _
      rw [handle_request_of_reachable reach]
      split <;> rfl
    | sendData | applicationCommand | applicationUpdate | other => cases request

theorem failuresLeft_operate (s : SimulatedDevice) (op : Operation) :
    (s.operate op).1.failuresLeft =
      if Exchange.reaches ⟨s, op⟩ then s.failuresLeft - 1 else s.failuresLeft := by
  cases op with
  | advance => exact s.failuresLeft_advance
  | handle f =>
    change (s.handle f).1.failuresLeft = _
    cases f with
    | requestNodeInfo id =>
      cases reach : s.isReachable with
      | false =>
        rw [handle_fst_of_unreachable reach]
        simp [Exchange.reaches, reach]
      | true =>
        have reaches : Exchange.reaches ⟨s, .handle (.requestNodeInfo id)⟩ = true := reach
        rw [if_pos reaches, handle_request_of_reachable reach]
        split
        · rfl
        · dsimp only
          omega
    | sendData request =>
      rw [handle_sendData]
      split
      · dsimp only
        rw [answerPayload_fst]
        rfl
      · rfl
    | applicationCommand | applicationUpdate | other => rfl

theorem reply_of_unreachable {e : Exchange} (request : e.operation.isRequest = true)
    (asleep : e.device.isReachable = false) :
    e.reply = some (.applicationUpdate .requestFailed) := by
  obtain ⟨s, op⟩ := e
  cases op with
  | advance => cases request
  | handle f =>
    cases f with
    | requestNodeInfo id =>
      change (s.handle (.requestNodeInfo id)).2 = _
      rw [handle_requestNodeInfo, if_pos asleep]
    | sendData | applicationCommand | applicationUpdate | other => cases request

/-! ## Runs -/

theorem heard_cons (s : SimulatedDevice) (op : Operation) (ops : List Operation) :
    s.heard (op :: ops) =
      if Exchange.reaches ⟨s, op⟩ then ⟨s, op⟩ :: (s.operate op).1.heard ops
      else (s.operate op).1.heard ops :=
  List.filter_cons

/-- The requests that reach the device fail until there are no failures left. -/
theorem map_reply_heard (s : SimulatedDevice) (ops : List Operation) :
    (s.heard ops).map Exchange.reply = (List.range (s.heard ops).length).map fun k =>
      some (if k < s.failuresLeft then .applicationUpdate .requestFailed
        else s.model.information) := by
  induction ops generalizing s with
  | nil => rfl
  | cons op ops ih =>
    have later := ih (s.operate op).1
    rw [model_operate, failuresLeft_operate] at later
    rw [heard_cons]
    by_cases reaches : Exchange.reaches ⟨s, op⟩ = true
    · rw [if_pos reaches] at later ⊢
      rw [List.map_cons, reply_of_reaches reaches, later, List.length_cons, map_range_succ]
      congr 1
      apply List.map_congr_left
      intro k _
      simp only [Nat.lt_sub_iff_add_lt]
    · rw [if_neg reaches] at later ⊢
      exact later

end SimulatedDevice

namespace DeviceModel

open SimulatedDevice (Exchange Operation)

/-- What becomes of the requests for node information in a run. -/
structure FailsFirst (d : DeviceModel) (ops : List Operation) : Prop where
  reached : ((SimulatedDevice.ofModel d).heard ops).map Exchange.reply =
    (List.range ((SimulatedDevice.ofModel d).heard ops).length).map fun k =>
      some (if k < d.failNodeInfo then .applicationUpdate .requestFailed else d.information)
  unreached : ∀ e ∈ (SimulatedDevice.ofModel d).exchanges ops, e.operation.isRequest = true →
    e.device.isReachable = false → e.reply = some (.applicationUpdate .requestFailed)
  unchanged : ∀ e ∈ (SimulatedDevice.ofModel d).exchanges ops, ∀ f, e.operation = .handle f →
    e.device.isReachable = false → e.left = e.device

/-- **Failures are counted exactly.** The first requests that reach the device fail, as many as the
model says, and those that do not reach it are not counted. -/
theorem fails_first (d : DeviceModel) (ops : List Operation) : d.FailsFirst ops where
  reached := (SimulatedDevice.ofModel d).map_reply_heard ops
  unreached := fun _ _ request asleep => SimulatedDevice.reply_of_unreachable request asleep
  unchanged := by
    rintro ⟨s, op⟩ - f rfl asleep
    exact SimulatedDevice.handle_fst_of_unreachable asleep f

theorem fails_first_woken :
    ∃ (d : DeviceModel) (ops : List Operation) (e : Exchange), d.FailsFirst ops ∧
      d.failNodeInfo = 1 ∧ ((SimulatedDevice.ofModel d).exchanges ops).head? = some e ∧
      e.operation = .handle (.requestNodeInfo 7) ∧ e.left = e.device ∧
      e.reply = some (.applicationUpdate .requestFailed) ∧
      ((SimulatedDevice.ofModel d).heard ops).map Exchange.reply =
        [some (.applicationUpdate .requestFailed),
          some (.applicationUpdate
            ⟨0x84, 7, some ⟨⟨3, 0, 1⟩, [ClassId.basic, ClassId.wakeUp]⟩⟩)] := by
  let d : DeviceModel :=
    { id := 7, listening := false, wakeInterval := some 1, failNodeInfo := 1,
      classes := [.basic, .wakeUp] }
  let ask : Operation := .handle (.requestNodeInfo 7)
  have first : (⟨.ofModel d, ask⟩ : Exchange) ∈
      (SimulatedDevice.ofModel d).exchanges [ask, .advance, ask, ask] := List.mem_cons_self
  have fails := d.fails_first [ask, .advance, ask, ask]
  exact ⟨d, _, _, fails, rfl, rfl, rfl, fails.unchanged _ first _ rfl rfl,
    fails.unreached _ first rfl rfl, fails.reached⟩

end DeviceModel

end ZWave
