import ZWave.Frame.Wire

/-!
# The layouts of bodies

`Frame.Holds` lists the bodies that hold a frame, with one constructor for each layout. They are
the bodies that decoding makes the frame of (`Frame.decode_eq_ok_iff`), so that what is to be known
of the decoder can be read off the layouts.
-/

namespace ZWave

/-- The functions whose bodies are taken apart. -/
def FunctionId.known : List UInt8 :=
  [sendData, requestNodeInfo, applicationCommand, applicationUpdate]

theorem FunctionId.notMem_known_iff {functionId : UInt8} :
    functionId ∉ known ↔ functionId ≠ sendData ∧ functionId ≠ requestNodeInfo ∧
      functionId ≠ applicationCommand ∧ functionId ≠ applicationUpdate := by
  simp only [known, List.mem_cons, List.not_mem_nil, or_false, not_or, ne_eq]

/-- A function is one of the four that are known, or none of them. -/
theorem FunctionId.cases (functionId : UInt8) :
    functionId = sendData ∨ functionId = requestNodeInfo ∨ functionId = applicationCommand ∨
      functionId = applicationUpdate ∨ functionId ∉ known := by
  rw [notMem_known_iff]
  grind

/-- The bodies that hold a frame. Bytes may follow the last field of a known function, unless an
update ends after the node. -/
inductive Frame.Holds : List UInt8 → Frame → Prop where
  | sendData {nodeId length transmitOptions callbackId : UInt8} (payload trailing : List UInt8) :
      payload.length = length.toNat →
      Holds (FunctionId.sendData :: nodeId :: length ::
          (payload ++ transmitOptions :: callbackId :: trailing))
        (.sendData
          { label := SendData.decodedLabel, nodeId, payload, transmitOptions, callbackId })
  | requestNodeInfo {nodeId : UInt8} (trailing : List UInt8) :
      Holds (FunctionId.requestNodeInfo :: nodeId :: trailing) (.requestNodeInfo nodeId)
  | applicationCommand {rxStatus nodeId length : UInt8} (payload : Payload)
      (trailing : List UInt8) : payload.bytes.length = length.toNat →
      Holds (FunctionId.applicationCommand :: rxStatus :: nodeId :: length ::
          (payload.bytes ++ trailing))
        (.applicationCommand { nodeId, payload, rxStatus })
  /-- An update that ends after the node, whatever its status. -/
  | shortUpdate {status nodeId : UInt8} :
      Holds [FunctionId.applicationUpdate, status, nodeId]
        (.applicationUpdate ⟨status, nodeId, none⟩)
  | infoUpdate {nodeId length : UInt8} (info : NodeInfo) (trailing : List UInt8) :
      info.bytes.length = length.toNat →
      Holds (FunctionId.applicationUpdate :: UpdateStatus.infoReceived :: nodeId :: length ::
          (info.bytes ++ trailing))
        (.applicationUpdate (.infoReceived nodeId info))
  /-- An update that carries no node information; what its length counts is ignored. -/
  | plainUpdate {status nodeId length : UInt8} (content trailing : List UInt8) :
      status ≠ UpdateStatus.infoReceived → content.length = length.toNat →
      Holds (FunctionId.applicationUpdate :: status :: nodeId :: length :: (content ++ trailing))
        (.applicationUpdate ⟨status, nodeId, none⟩)
  | other {functionId : UInt8} {data : List UInt8} : functionId ∉ FunctionId.known →
      Holds (functionId :: data) (.other functionId data)

/-! ## Results of readers -/

theorem map_eq_ok_iff {α β : Type} {g : α → β} {x : Except FrameError α} {b : β} :
    g <$> x = .ok b ↔ ∃ a, x = .ok a ∧ g a = b := by
  cases x with
  | error e => exact ⟨nofun, fun ⟨_, h, _⟩ => nomatch h⟩
  | ok a =>
    constructor
    · intro h
      exact ⟨a, rfl, Except.ok.inj h⟩
    · rintro ⟨_, ⟨⟩, rfl⟩
      rfl

theorem map_eq_error_iff {α β : Type} {g : α → β} {x : Except FrameError α} {e : FrameError} :
    g <$> x = .error e ↔ x = .error e := by
  cases x with
  | error e' =>
    constructor
    · exact fun h => congrArg _ (Except.error.inj h)
    · rintro ⟨⟩
      rfl
  | ok a => exact ⟨nofun, nofun⟩

theorem bind_eq_ok_iff {α β : Type} {x : Except FrameError α} {g : α → Except FrameError β}
    {b : β} : x >>= g = .ok b ↔ ∃ a, x = .ok a ∧ g a = .ok b := by
  cases x with
  | error e => exact ⟨nofun, fun ⟨_, h, _⟩ => nomatch h⟩
  | ok a =>
    constructor
    · exact fun h => ⟨a, rfl, h⟩
    · rintro ⟨_, ⟨⟩, h⟩
      exact h

theorem bind_eq_error_iff {α β : Type} {x : Except FrameError α} {g : α → Except FrameError β}
    {e : FrameError} : x >>= g = .error e ↔ x = .error e ∨ ∃ a, x = .ok a ∧ g a = .error e := by
  cases x with
  | error e' =>
    constructor
    · intro h
      exact .inl (congrArg _ (Except.error.inj h))
    · rintro (⟨⟨⟩⟩ | ⟨_, ⟨⟩, -⟩)
      rfl
  | ok a =>
    constructor
    · exact fun h => .inr ⟨a, rfl, h⟩
    · rintro (⟨⟨⟩⟩ | ⟨_, ⟨⟩, h⟩)
      exact h

/-- The bytes that are counted are those in front. -/
theorem splitCounted_eq_ok_iff {length : UInt8} {bytes : List UInt8}
    {split : List UInt8 × List UInt8} :
    splitCounted length bytes = .ok split ↔
      bytes = split.1 ++ split.2 ∧ split.1.length = length.toNat := by
  obtain ⟨front, back⟩ := split
  unfold splitCounted
  constructor
  · intro h
    split at h
    · cases h
    · next enough =>
      cases h
      refine ⟨(List.take_append_drop ..).symm, ?_⟩
      exact List.length_take_of_le (Nat.le_of_not_lt enough)
  · rintro ⟨rfl, counted⟩
    have counted : front.length = length.toNat := counted
    have enough : ¬ (front ++ back).length < length.toNat := by
      rw [List.length_append]
      omega
    rw [if_neg enough, List.take_left' counted, List.drop_left' counted]

theorem splitCounted_append {length : UInt8} {front : List UInt8}
    (counted : front.length = length.toNat) (back : List UInt8) :
    splitCounted length (front ++ back) = .ok (front, back) :=
  splitCounted_eq_ok_iff.2 ⟨rfl, counted⟩

/-! ## The parts of a body -/

theorem SendData.decode_eq_ok_iff {rest : List UInt8} {f : SendData} :
    SendData.decode rest = .ok f ↔
      Frame.Holds (FunctionId.sendData :: rest) (.sendData f) := by
  constructor
  · intro h
    unfold decode at h
    split at h
    · next nodeId length bytes =>
      obtain ⟨⟨payload, back⟩, split, read⟩ := bind_eq_ok_iff.1 h
      obtain ⟨rfl, counted⟩ := splitCounted_eq_ok_iff.1 split
      match back, read with
      | transmitOptions :: callbackId :: trailing, read =>
        cases read
        exact .sendData payload trailing counted
    · cases h
  · intro h
    cases h with
    | sendData payload trailing counted =>
      exact bind_eq_ok_iff.2 ⟨_, splitCounted_append counted _, rfl⟩

theorem decodeNodeInfoRequest_eq_ok_iff {rest : List UInt8} {nodeId : NodeId} :
    decodeNodeInfoRequest rest = .ok nodeId ↔
      Frame.Holds (FunctionId.requestNodeInfo :: rest) (.requestNodeInfo nodeId) := by
  constructor
  · intro h
    unfold decodeNodeInfoRequest at h
    split at h
    · cases h
      exact .requestNodeInfo _
    · cases h
  · intro h
    cases h with
    | requestNodeInfo trailing => rfl

theorem ApplicationCommand.decode_eq_ok_iff {rest : List UInt8} {f : ApplicationCommand} :
    ApplicationCommand.decode rest = .ok f ↔
      Frame.Holds (FunctionId.applicationCommand :: rest) (.applicationCommand f) := by
  constructor
  · intro h
    unfold decode at h
    split at h
    · next rxStatus nodeId length bytes =>
      obtain ⟨⟨front, trailing⟩, split, read⟩ := bind_eq_ok_iff.1 h
      obtain ⟨rfl, counted⟩ := splitCounted_eq_ok_iff.1 split
      dsimp only at read counted ⊢
      cases front with
      | nil => cases read
      | cons classId body =>
        cases read
        exact .applicationCommand ⟨classId, body⟩ trailing counted
    · cases h
  · intro h
    cases h with
    | applicationCommand payload trailing counted =>
      exact bind_eq_ok_iff.2 ⟨_, splitCounted_append counted _, rfl⟩

theorem NodeInfo.decode_eq_ok_iff {bytes : List UInt8} {info : NodeInfo} :
    NodeInfo.decode bytes = .ok info ↔ bytes = info.bytes := by
  constructor
  · intro h
    unfold decode at h
    split at h
    · cases h
      rfl
    · cases h
  · rintro rfl
    rfl

theorem ApplicationUpdate.decode_eq_ok_iff {rest : List UInt8} {u : ApplicationUpdate} :
    ApplicationUpdate.decode rest = .ok u ↔
      Frame.Holds (FunctionId.applicationUpdate :: rest) (.applicationUpdate u) := by
  constructor
  · intro h
    unfold decode at h
    split at h
    · cases h
      exact .shortUpdate
    · next status nodeId length bytes =>
      obtain ⟨⟨content, trailing⟩, split, read⟩ := bind_eq_ok_iff.1 h
      obtain ⟨rfl, counted⟩ := splitCounted_eq_ok_iff.1 split
      dsimp only at read counted ⊢
      by_cases told : status = UpdateStatus.infoReceived
      · subst told
        obtain ⟨info, hi, read⟩ := bind_eq_ok_iff.1 read
        cases read
        cases NodeInfo.decode_eq_ok_iff.1 hi
        exact .infoUpdate info trailing counted
      · rw [if_neg told] at read
        cases read
        exact .plainUpdate content trailing told counted
    · cases h
  · intro h
    cases h with
    | shortUpdate => rfl
    | infoUpdate info trailing counted =>
      exact bind_eq_ok_iff.2 ⟨_, splitCounted_append counted _, rfl⟩
    | plainUpdate content trailing told counted =>
      exact bind_eq_ok_iff.2 ⟨_, splitCounted_append counted _, if_neg told⟩

/-! ## Bodies -/

namespace Frame

section Functions

variable (rest : List UInt8)

theorem decode_sendData :
    decode (FunctionId.sendData :: rest) = .sendData <$> SendData.decode rest := rfl

theorem decode_requestNodeInfo :
    decode (FunctionId.requestNodeInfo :: rest) =
      .requestNodeInfo <$> decodeNodeInfoRequest rest := rfl

theorem decode_applicationCommand :
    decode (FunctionId.applicationCommand :: rest) =
      .applicationCommand <$> ApplicationCommand.decode rest := rfl

theorem decode_applicationUpdate :
    decode (FunctionId.applicationUpdate :: rest) =
      .applicationUpdate <$> ApplicationUpdate.decode rest := rfl

theorem decode_of_unknown {functionId : UInt8} (unknown : functionId ∉ FunctionId.known) :
    decode (functionId :: rest) = .ok (.other functionId rest) := by
  obtain ⟨h₁, h₂, h₃, h₄⟩ := FunctionId.notMem_known_iff.1 unknown
  unfold decode
  dsimp only
  rw [if_neg h₁, if_neg h₂, if_neg h₃, if_neg h₄]

end Functions

theorem Holds.eq_cons {body : List UInt8} {f : Frame} (h : Holds body f) :
    ∃ rest, body = f.functionId :: rest := by
  cases h <;> exact ⟨_, rfl⟩

/-- A body is decoded to the frame that it holds. -/
theorem decode_eq_ok_iff {body : List UInt8} {f : Frame} : decode body = .ok f ↔ Holds body f := by
  constructor
  · intro h
    cases body with
    | nil => cases h
    | cons functionId rest =>
      rcases FunctionId.cases functionId with rfl | rfl | rfl | rfl | unknown
      · rw [decode_sendData, map_eq_ok_iff] at h
        obtain ⟨g, hg, rfl⟩ := h
        exact SendData.decode_eq_ok_iff.1 hg
      · rw [decode_requestNodeInfo, map_eq_ok_iff] at h
        obtain ⟨nodeId, hn, rfl⟩ := h
        exact decodeNodeInfoRequest_eq_ok_iff.1 hn
      · rw [decode_applicationCommand, map_eq_ok_iff] at h
        obtain ⟨g, hg, rfl⟩ := h
        exact ApplicationCommand.decode_eq_ok_iff.1 hg
      · rw [decode_applicationUpdate, map_eq_ok_iff] at h
        obtain ⟨u, hu, rfl⟩ := h
        exact ApplicationUpdate.decode_eq_ok_iff.1 hu
      · rw [decode_of_unknown rest unknown] at h
        cases h
        exact .other unknown
  · intro h
    obtain ⟨rest, rfl⟩ := h.eq_cons
    cases f with
    | sendData g => exact map_eq_ok_iff.2 ⟨g, SendData.decode_eq_ok_iff.2 h, rfl⟩
    | requestNodeInfo nodeId =>
      exact map_eq_ok_iff.2 ⟨nodeId, decodeNodeInfoRequest_eq_ok_iff.2 h, rfl⟩
    | applicationCommand g =>
      exact map_eq_ok_iff.2 ⟨g, ApplicationCommand.decode_eq_ok_iff.2 h, rfl⟩
    | applicationUpdate u =>
      exact map_eq_ok_iff.2 ⟨u, ApplicationUpdate.decode_eq_ok_iff.2 h, rfl⟩
    | other functionId data =>
      cases h with
      | other unknown => exact decode_of_unknown rest unknown

end Frame

end ZWave
