import ZWave.Proofs.Frame.Layout

/-!
# Reading by position

A body can also be read by the positions of its bytes. Such a reader has to make sure of the length
before it reads; where it has not, a read outside of the body is an outcome of its own
(`ReadFault.outside`). `Frame.decodeAt` reads so, and comes to the outcomes of `Frame.decode`
(`Frame.decodeAt_eq`): no read is outside of the body.
-/

namespace ZWave

/-- Why a body cannot be read by position. -/
inductive ReadFault where
  | rejected (e : FrameError)
  /-- There is no such position in a body of `length` bytes. -/
  | outside (position length : Nat)
deriving DecidableEq

/-! ## Reads -/

section Reads

variable (body : List UInt8)

/-- The byte at a position. -/
def byteAt (position : Nat) : Except ReadFault UInt8 :=
  match body[position]? with
  | some b => .ok b
  | none => .error (.outside position body.length)

/-- The bytes from a position on. -/
def bytesFrom (position : Nat) : Except ReadFault (List UInt8) :=
  if position ≤ body.length then .ok (body.drop position)
  else .error (.outside position body.length)

/-- The bytes before a position. -/
def bytesBefore (position : Nat) : Except ReadFault (List UInt8) :=
  if position ≤ body.length then .ok (body.take position)
  else .error (.outside position body.length)

/-- Make sure of the length of a body. -/
def demand (expected : Nat) : Except ReadFault Unit :=
  if body.length < expected then .error (.rejected (.frameTooShort expected body.length))
  else .ok ()

/-- The bytes that the length byte at a position counts. -/
def countedAt (position : Nat) : Except ReadFault (List UInt8) := do
  demand body (position + 1)
  let declared ← byteAt body position
  let rest ← bytesFrom body (position + 1)
  if rest.length < declared.toNat then
    .error (.rejected (.lengthMismatch declared.toNat rest.length))
  else bytesBefore rest declared.toNat

end Reads

/-! ## Bodies by position -/

/-- The transmit options and the callback id, which end send data. -/
def SendData.tailAt (body : List UInt8) (tail : Nat) : Except ReadFault (UInt8 × UInt8) := do
  demand body (tail + 2)
  let transmitOptions ← byteAt body tail
  let callbackId ← byteAt body (tail + 1)
  return (transmitOptions, callbackId)

def SendData.decodeAt (body : List UInt8) : Except ReadFault SendData := do
  demand body 3
  let payload ← countedAt body 2
  let (transmitOptions, callbackId) ← tailAt body (3 + payload.length)
  let nodeId ← byteAt body 1
  return { label := decodedLabel, nodeId, payload, transmitOptions, callbackId }

def decodeNodeInfoRequestAt (body : List UInt8) : Except ReadFault NodeId := do
  demand body 2
  byteAt body 1

def ApplicationCommand.decodeAt (body : List UInt8) : Except ReadFault ApplicationCommand := do
  demand body 4
  let bytes ← countedAt body 3
  let nodeId ← byteAt body 2
  match Payload.ofBytes? bytes with
  | some payload =>
    let rxStatus ← byteAt body 1
    return { nodeId, payload, rxStatus }
  | none => .error (.rejected .empty)

/-- Node information from the bytes that the length of an update counts. -/
def NodeInfo.decodeAt (bytes : List UInt8) : Except ReadFault NodeInfo := do
  if bytes.length < 3 then .error (.rejected (.frameTooShort 7 (4 + bytes.length)))
  else
    let basic ← byteAt bytes 0
    let generic ← byteAt bytes 1
    let specific ← byteAt bytes 2
    let classes ← bytesFrom bytes 3
    return ⟨⟨basic, generic, specific⟩, classes⟩

def ApplicationUpdate.decodeAt (body : List UInt8) : Except ReadFault ApplicationUpdate := do
  demand body 3
  let status ← byteAt body 1
  let nodeId ← byteAt body 2
  if body.length = 3 then return ⟨status, nodeId, none⟩
  else
    let bytes ← countedAt body 3
    if status = UpdateStatus.infoReceived then
      let info ← NodeInfo.decodeAt bytes
      return ⟨status, nodeId, some info⟩
    else return ⟨status, nodeId, none⟩

/-- The frame that a body holds, read by position. -/
def Frame.decodeAt : List UInt8 → Except ReadFault Frame
  | [] => .error (.rejected .empty)
  | functionId :: rest =>
    if functionId = FunctionId.sendData then
      .sendData <$> SendData.decodeAt (functionId :: rest)
    else if functionId = FunctionId.requestNodeInfo then
      .requestNodeInfo <$> decodeNodeInfoRequestAt (functionId :: rest)
    else if functionId = FunctionId.applicationCommand then
      .applicationCommand <$> ApplicationCommand.decodeAt (functionId :: rest)
    else if functionId = FunctionId.applicationUpdate then
      .applicationUpdate <$> ApplicationUpdate.decodeAt (functionId :: rest)
    else .ok (.other functionId rest)

/-! ## What is read -/

theorem byteAt_append (front : List UInt8) (b : UInt8) (rest : List UInt8) {position : Nat}
    (h : front.length = position) : byteAt (front ++ b :: rest) position = .ok b := by
  subst h
  unfold byteAt
  rw [List.getElem?_append_right (Nat.le_refl _), Nat.sub_self]
  rfl

theorem bytesFrom_append (front rest : List UInt8) {position : Nat}
    (h : front.length = position) : bytesFrom (front ++ rest) position = .ok rest := by
  subst h
  unfold bytesFrom
  rw [if_pos (by rw [List.length_append]; omega), List.drop_left]

theorem demand_of_le {body : List UInt8} {expected : Nat} (h : expected ≤ body.length) :
    demand body expected = .ok () := if_neg (Nat.not_lt.2 h)

theorem demand_of_lt {body : List UInt8} {expected : Nat} (h : body.length < expected) :
    demand body expected = .error (.rejected (.frameTooShort expected body.length)) := if_pos h

/-- The bytes that are counted are those that follow the length byte. -/
theorem countedAt_append (front : List UInt8) (length : UInt8) (rest : List UInt8)
    {position : Nat} (h : front.length = position) :
    countedAt (front ++ length :: rest) position =
      ((splitCounted length rest).map (·.1)).mapError .rejected := by
  have there : position + 1 ≤ (front ++ length :: rest).length := by
    rw [List.length_append, List.length_cons]
    omega
  have behind : bytesFrom (front ++ length :: rest) (position + 1) = .ok rest := by
    have width : (front ++ [length]).length = position + 1 := by rw [List.length_append, h]; rfl
    have split := bytesFrom_append (front ++ [length]) rest width
    rwa [List.append_assoc] at split
  unfold countedAt splitCounted
  rw [demand_of_le there, byteAt_append front length rest h, behind]
  by_cases short : rest.length < length.toNat
  · rw [if_pos short]
    exact if_pos short
  · rw [if_neg short]
    refine (if_neg short).trans ?_
    exact if_pos (Nat.le_of_not_lt short)

/-! ## The same outcomes -/

theorem SendData.tailAt_append (front back : List UInt8) {tail : Nat}
    (h : front.length = tail) :
    tailAt (front ++ back) tail =
      match back with
      | transmitOptions :: callbackId :: _ => .ok (transmitOptions, callbackId)
      | _ => .error (.rejected (.frameTooShort (tail + 2) (front ++ back).length)) := by
  have joined : (front ++ back).length = tail + back.length := by rw [List.length_append, h]
  unfold tailAt
  match back with
  | [] =>
    rw [demand_of_lt (by rw [joined]; exact Nat.add_lt_add_left Nat.two_pos tail)]
    rfl
  | [_] =>
    rw [demand_of_lt (by rw [joined]; exact Nat.add_lt_add_left Nat.one_lt_two tail)]
    rfl
  | transmitOptions :: callbackId :: trailing =>
    have width : (front ++ [transmitOptions]).length = tail + 1 := by
      rw [List.length_append, h]
      rfl
    have callback := byteAt_append (front ++ [transmitOptions]) callbackId trailing width
    rw [List.append_assoc] at callback
    rw [demand_of_le (by rw [joined]; exact Nat.add_le_add_left (Nat.le_add_left ..) tail),
      byteAt_append front transmitOptions (callbackId :: trailing) h]
    exact congrArg (· >>= fun callbackId => pure (transmitOptions, callbackId)) callback

theorem SendData.decodeAt_eq (functionId : UInt8) (rest : List UInt8) :
    SendData.decodeAt (functionId :: rest) = (SendData.decode rest).mapError .rejected := by
  match rest with
  | [] | [_] => rfl
  | nodeId :: length :: bytes =>
    have fixed : demand (functionId :: nodeId :: length :: bytes) 3 = .ok () :=
      demand_of_le (Nat.le_add_left ..)
    have counted : countedAt (functionId :: nodeId :: length :: bytes) 2 = _ :=
      countedAt_append [functionId, nodeId] length bytes rfl
    unfold decodeAt decode
    dsimp only
    rw [fixed, counted]
    cases split : splitCounted length bytes with
    | error e => rfl
    | ok parts =>
      obtain ⟨payload, back⟩ := parts
      obtain ⟨rfl, -⟩ := splitCounted_eq_ok_iff.1 split
      -- what ends send data begins where the payload ends
      have tail := tailAt_append (functionId :: nodeId :: length :: payload) back
        (Nat.add_comm payload.length 3)
      change (tailAt (functionId :: nodeId :: length :: payload ++ back) (3 + payload.length)
        >>= _) = _
      rw [tail]
      match back with
      | [] | [_] =>
        have expected : 3 + payload.length + 2 = 5 + payload.length := by omega
        have actual : ∀ back, (functionId :: nodeId :: length :: payload ++ back).length =
            3 + (payload ++ back).length := fun back => Nat.add_comm (payload ++ back).length 3
        rw [expected, actual]
        rfl
      | transmitOptions :: callbackId :: trailing => rfl

theorem decodeNodeInfoRequestAt_eq (functionId : UInt8) (rest : List UInt8) :
    decodeNodeInfoRequestAt (functionId :: rest) =
      (decodeNodeInfoRequest rest).mapError .rejected := by
  match rest with
  | [] => rfl
  | nodeId :: trailing =>
    unfold decodeNodeInfoRequestAt
    rw [demand_of_le (Nat.le_add_left ..)]
    rfl

theorem ApplicationCommand.decodeAt_eq (functionId : UInt8) (rest : List UInt8) :
    ApplicationCommand.decodeAt (functionId :: rest) =
      (ApplicationCommand.decode rest).mapError .rejected := by
  match rest with
  | [] | [_] | [_, _] => rfl
  | rxStatus :: nodeId :: length :: bytes =>
    have counted : countedAt (functionId :: rxStatus :: nodeId :: length :: bytes) 3 = _ :=
      countedAt_append [functionId, rxStatus, nodeId] length bytes rfl
    unfold decodeAt decode
    dsimp only
    rw [demand_of_le (Nat.le_add_left ..), counted]
    cases splitCounted length bytes with
    | error e => rfl
    | ok parts =>
      obtain ⟨front, trailing⟩ := parts
      cases front <;> rfl

theorem NodeInfo.decodeAt_eq (bytes : List UInt8) :
    NodeInfo.decodeAt bytes = (NodeInfo.decode bytes).mapError .rejected := by
  match bytes with
  | [] | [_] | [_, _] => rfl
  | basic :: generic :: specific :: classes => rfl

theorem ApplicationUpdate.decodeAt_eq (functionId : UInt8) (rest : List UInt8) :
    ApplicationUpdate.decodeAt (functionId :: rest) =
      (ApplicationUpdate.decode rest).mapError .rejected := by
  match rest with
  | [] | [_] | [_, _] => rfl
  | status :: nodeId :: length :: bytes =>
    have counted : countedAt (functionId :: status :: nodeId :: length :: bytes) 3 = _ :=
      countedAt_append [functionId, status, nodeId] length bytes rfl
    unfold decodeAt decode
    dsimp only
    rw [demand_of_le (Nat.le_add_left ..)]
    -- the body goes on after the node, so it is not three bytes long
    change (countedAt (functionId :: status :: nodeId :: length :: bytes) 3 >>= _) = _
    rw [counted]
    cases splitCounted length bytes with
    | error e => rfl
    | ok parts =>
      obtain ⟨content, trailing⟩ := parts
      change @ite _ (status = _) _ _ _ = Except.mapError _ (@ite _ (status = _) _ _ _)
      by_cases told : status = UpdateStatus.infoReceived
      · rw [if_pos told, if_pos told, NodeInfo.decodeAt_eq]
        cases NodeInfo.decode content <;> rfl
      · rw [if_neg told, if_neg told]
        rfl

/-- **No read is outside of a body.** Read by position, every body comes out as it is decoded. -/
theorem Frame.decodeAt_eq (body : List UInt8) :
    Frame.decodeAt body = (Frame.decode body).mapError .rejected := by
  cases body with
  | nil => rfl
  | cons functionId rest =>
    -- a part is read first and made a frame of afterwards, on both sides
    have part : ∀ {α : Type} (frame : α → Frame) (x : Except FrameError α),
        frame <$> x.mapError ReadFault.rejected = (frame <$> x).mapError .rejected := by
      intro α frame x
      cases x <;> rfl
    unfold decodeAt decode
    dsimp only
    rw [SendData.decodeAt_eq, decodeNodeInfoRequestAt_eq, ApplicationCommand.decodeAt_eq,
      ApplicationUpdate.decodeAt_eq]
    simp only [part, apply_ite (Except.mapError ReadFault.rejected)]
    rfl

end ZWave
