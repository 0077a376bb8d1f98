import ZWave.Proofs.Frame.Positions

/-!
# The grammar of bodies

`Frame.wellFormed` says which bodies are accepted: those that are as long as their function and
their length byte ask for. `Frame.decode_grammar` sets what decoding does with every body against
it: decoding accepts those and no others, reads nothing outside of the body, gives errors that the
body bears out (`FrameError.Truthful`), and does not depend on what follows a frame of a known
function.
-/

namespace ZWave

/-- Whether a body is long enough for the fields of its function and for what its length byte
counts. -/
def Frame.wellFormed : List UInt8 → Bool
  | [] => false
  | functionId :: rest =>
    let body := functionId :: rest
    if functionId = FunctionId.sendData then
      body[2]?.any fun length => 5 + length.toNat ≤ body.length
    else if functionId = FunctionId.requestNodeInfo then
      2 ≤ body.length
    else if functionId = FunctionId.applicationCommand then
      body[3]?.any fun length => 1 ≤ length.toNat ∧ 4 + length.toNat ≤ body.length
    else if functionId = FunctionId.applicationUpdate then
      body.length = 3 ∨
        body[3]?.any fun length => 4 + length.toNat ≤ body.length ∧
          (body[1]? = some UpdateStatus.infoReceived → 3 ≤ length.toNat)
    else true

/-- The body bears out why it was refused. -/
def FrameError.Truthful (body : List UInt8) : FrameError → Prop
  | frameTooShort expected actual => actual < expected ∧ actual ≤ body.length
  | lengthMismatch declared remaining => remaining < declared ∧
      ∃ front length rest, body = front ++ length :: rest ∧ declared = UInt8.toNat length ∧
        remaining = rest.length
  | empty => body = [] ∨
      ∃ rxStatus nodeId trailing,
        body = FunctionId.applicationCommand :: rxStatus :: nodeId :: 0 :: trailing
  | tooLong _ | unexpectedClass _ _ | payloadTooShort _ _ _ => False

namespace Frame

/-! ## The bodies that are accepted -/

theorem exists_split {n : Nat} {bytes : List UInt8} (enough : n ≤ bytes.length) :
    ∃ front back, bytes = front ++ back ∧ front.length = n :=
  ⟨bytes.take n, bytes.drop n, (List.take_append_drop ..).symm, List.length_take_of_le enough⟩

theorem Holds.wellFormed {body : List UInt8} {f : Frame} (held : Holds body f) :
    wellFormed body = true := by
  cases held with
  | @sendData _ length _ _ payload trailing counted =>
    refine decide_eq_true (?_ : 5 + length.toNat ≤ _)
    simp only [List.length_cons, List.length_append, counted]
    omega
  | requestNodeInfo trailing =>
    exact decide_eq_true (Nat.le_add_left 2 trailing.length : 2 ≤ trailing.length + 2)
  | @applicationCommand _ _ length payload trailing counted =>
    have one : 1 ≤ length.toNat := counted ▸ Nat.le_add_left ..
    refine decide_eq_true (⟨one, ?_⟩ : 1 ≤ length.toNat ∧ 4 + length.toNat ≤ _)
    simp only [List.length_cons, List.length_append, counted]
    omega
  | shortUpdate => rfl
  | @infoUpdate _ length info trailing counted =>
    have device : 3 ≤ length.toNat := counted ▸ Nat.le_add_left ..
    refine decide_eq_true (.inr (decide_eq_true (⟨?_, fun _ => device⟩ : 4 + length.toNat ≤ _ ∧ _)))
    simp only [List.length_cons, List.length_append, counted]
    omega
  | @plainUpdate status _ length content trailing told counted =>
    have other : some status ≠ some UpdateStatus.infoReceived := fun h => told (Option.some.inj h)
    refine decide_eq_true (.inr (decide_eq_true (⟨?_, fun h => absurd h other⟩ :
      4 + length.toNat ≤ _ ∧ _)))
    simp only [List.length_cons, List.length_append, counted]
    omega
  | @other functionId data unknown =>
    obtain ⟨h₁, h₂, h₃, h₄⟩ := FunctionId.notMem_known_iff.1 unknown
    unfold Frame.wellFormed
    dsimp only
    rw [if_neg h₁, if_neg h₂, if_neg h₃, if_neg h₄]

theorem exists_holds_sendData {rest : List UInt8}
    (h : wellFormed (FunctionId.sendData :: rest) = true) :
    ∃ f, Holds (FunctionId.sendData :: rest) f := by
  match rest, h with
  | nodeId :: length :: bytes, h =>
    have enough : 5 + length.toNat ≤ bytes.length + 3 := of_decide_eq_true h
    have holds : length.toNat ≤ bytes.length := by omega
    obtain ⟨payload, back, rfl, counted⟩ := exists_split holds
    rw [List.length_append, counted] at enough
    match back with
    | [] | [_] => simp only [List.length_cons, List.length_nil] at enough; omega
    | transmitOptions :: callbackId :: trailing => exact ⟨_, .sendData payload trailing counted⟩

theorem exists_holds_requestNodeInfo {rest : List UInt8}
    (h : wellFormed (FunctionId.requestNodeInfo :: rest) = true) :
    ∃ f, Holds (FunctionId.requestNodeInfo :: rest) f := by
  cases rest with
  | nil => cases h
  | cons nodeId trailing => exact ⟨_, .requestNodeInfo trailing⟩

theorem exists_holds_applicationCommand {rest : List UInt8}
    (h : wellFormed (FunctionId.applicationCommand :: rest) = true) :
    ∃ f, Holds (FunctionId.applicationCommand :: rest) f := by
  match rest, h with
  | rxStatus :: nodeId :: length :: bytes, h =>
    obtain ⟨one, enough⟩ : 1 ≤ length.toNat ∧ 4 + length.toNat ≤ bytes.length + 4 :=
      of_decide_eq_true h
    have holds : length.toNat ≤ bytes.length := by omega
    obtain ⟨front, trailing, rfl, counted⟩ := exists_split holds
    cases front with
    | nil => exact absurd counted (Nat.ne_of_lt one)
    | cons classId arguments =>
      exact ⟨_, .applicationCommand ⟨classId, arguments⟩ trailing counted⟩

theorem exists_holds_applicationUpdate {rest : List UInt8}
    (h : wellFormed (FunctionId.applicationUpdate :: rest) = true) :
    ∃ f, Holds (FunctionId.applicationUpdate :: rest) f := by
  match rest, h with
  | [status, nodeId], _ => exact ⟨_, .shortUpdate⟩
  | status :: nodeId :: length :: bytes, h =>
    have body : 4 + length.toNat ≤ bytes.length + 4 ∧
        (some status = some UpdateStatus.infoReceived → 3 ≤ length.toNat) := by
      refine (of_decide_eq_true h).elim (fun short => ?_) of_decide_eq_true
      have short : bytes.length + 4 = 3 := short
      omega
    obtain ⟨enough, device⟩ := body
    have holds : length.toNat ≤ bytes.length := by omega
    obtain ⟨content, trailing, rfl, counted⟩ := exists_split holds
    by_cases told : status = UpdateStatus.infoReceived
    · subst told
      have three := device rfl
      match content, counted with
      | [], counted | [_], counted | [_, _], counted =>
        simp only [List.length_cons, List.length_nil] at counted
        omega
      | basic :: generic :: specific :: classes, counted =>
        exact ⟨_, .infoUpdate ⟨⟨basic, generic, specific⟩, classes⟩ trailing counted⟩
    · exact ⟨_, .plainUpdate content trailing told counted⟩

/-- A body is decoded exactly if it is of the grammar. -/
theorem exists_decode_iff {body : List UInt8} :
    (∃ f, decode body = .ok f) ↔ wellFormed body = true := by
  constructor
  · rintro ⟨f, h⟩
    exact (decode_eq_ok_iff.1 h).wellFormed
  · intro h
    have held : ∃ f, Holds body f := by
      cases body with
      | nil => cases h
      | cons functionId rest =>
        rcases FunctionId.cases functionId with rfl | rfl | rfl | rfl | unknown
        · exact exists_holds_sendData h
        · exact exists_holds_requestNodeInfo h
        · exact exists_holds_applicationCommand h
        · exact exists_holds_applicationUpdate h
        · exact ⟨_, .other unknown⟩
    exact held.imp fun _ => decode_eq_ok_iff.2

/-- What follows a frame of a known function is not read, unless the frame is an update that ends
after the node. -/
theorem Holds.append {body : List UInt8} {f : Frame} (held : Holds body f)
    (known : ∃ functionId ∈ FunctionId.known, body.head? = some functionId)
    (long : ¬ (body.head? = some FunctionId.applicationUpdate ∧ body.length = 3))
    (more : List UInt8) : Holds (body ++ more) f := by
  cases held with
  | sendData payload trailing counted =>
    simpa only [List.cons_append, List.append_assoc] using
      .sendData payload (trailing ++ more) counted
  | requestNodeInfo trailing => exact .requestNodeInfo (trailing ++ more)
  | applicationCommand payload trailing counted =>
    simpa only [List.cons_append, List.append_assoc] using
      .applicationCommand payload (trailing ++ more) counted
  | shortUpdate => exact absurd ⟨rfl, rfl⟩ long
  | infoUpdate info trailing counted =>
    simpa only [List.cons_append, List.append_assoc] using
      .infoUpdate info (trailing ++ more) counted
  | plainUpdate content trailing told counted =>
    simpa only [List.cons_append, List.append_assoc] using
      .plainUpdate content (trailing ++ more) told counted
  | other unknown =>
    obtain ⟨_, known, ⟨⟩⟩ := known
    exact absurd known unknown

end Frame

/-! ## The bodies that are refused -/

theorem splitCounted_eq_error_iff {length : UInt8} {bytes : List UInt8} {e : FrameError} :
    splitCounted length bytes = .error e ↔
      bytes.length < length.toNat ∧ e = .lengthMismatch length.toNat bytes.length := by
  unfold splitCounted
  constructor
  · intro h
    split at h
    · next short =>
      cases h
      exact ⟨short, rfl⟩
    · cases h
  · rintro ⟨short, rfl⟩
    exact if_pos short

/-- What is behind the length byte of a body is as short as the error says. -/
theorem truthful_of_splitCounted {length : UInt8} {bytes : List UInt8} {e : FrameError}
    (h : splitCounted length bytes = .error e) (front : List UInt8) :
    e.Truthful (front ++ length :: bytes) := by
  obtain ⟨short, rfl⟩ := splitCounted_eq_error_iff.1 h
  exact ⟨short, front, length, bytes, rfl, rfl, rfl⟩

section Parts

variable (functionId : UInt8) {rest : List UInt8} {e : FrameError}

theorem SendData.truthful_of_decode (h : SendData.decode rest = .error e) :
    e.Truthful (functionId :: rest) := by
  unfold decode at h
  split at h
  · next nodeId length bytes =>
    rcases bind_eq_error_iff.1 h with split | ⟨⟨payload, back⟩, split, read⟩
    · exact truthful_of_splitCounted split [functionId, nodeId]
    · obtain ⟨rfl, -⟩ := splitCounted_eq_ok_iff.1 split
      match back, read with
      | [], read | [_], read =>
        cases read
        constructor
        · simp only [List.length_append, List.length_cons, List.length_nil]
          omega
        · exact Nat.le_of_eq (Nat.add_comm ..)
  · next fixed =>
    cases h
    match rest, fixed with
    | [], _ | [_], _ => exact ⟨by simp, Nat.le_of_eq (Nat.add_comm ..)⟩
    | nodeId :: length :: bytes, fixed => exact absurd rfl (fixed nodeId length bytes)

theorem truthful_of_decodeNodeInfoRequest (h : decodeNodeInfoRequest rest = .error e) :
    e.Truthful (functionId :: rest) := by
  cases rest with
  | nil =>
    cases h
    exact ⟨by decide, Nat.le_refl _⟩
  | cons nodeId trailing => cases h

theorem ApplicationCommand.truthful_of_decode (h : ApplicationCommand.decode rest = .error e) :
    e.Truthful (FunctionId.applicationCommand :: rest) := by
  unfold decode at h
  split at h
  · next rxStatus nodeId length bytes =>
    rcases bind_eq_error_iff.1 h with split | ⟨⟨front, trailing⟩, split, read⟩
    · exact truthful_of_splitCounted split [_, rxStatus, nodeId]
    · obtain ⟨rfl, counted⟩ := splitCounted_eq_ok_iff.1 split
      cases front with
      | nil =>
        cases read
        obtain rfl : length = 0 := UInt8.toNat_inj.1 counted.symm
        exact .inr ⟨rxStatus, nodeId, trailing, rfl⟩
      | cons classId arguments => cases read
  · next fixed =>
    cases h
    match rest, fixed with
    | [], _ | [_], _ | [_, _], _ => exact ⟨by simp, Nat.le_of_eq (Nat.add_comm ..)⟩
    | rxStatus :: nodeId :: length :: bytes, fixed =>
      exact absurd rfl (fixed rxStatus nodeId length bytes)

theorem ApplicationUpdate.truthful_of_decode (h : ApplicationUpdate.decode rest = .error e) :
    e.Truthful (functionId :: rest) := by
  unfold decode at h
  split at h
  · cases h
  · next status nodeId length bytes =>
    rcases bind_eq_error_iff.1 h with split | ⟨⟨content, trailing⟩, split, read⟩
    · exact truthful_of_splitCounted split [functionId, status, nodeId]
    · obtain ⟨rfl, -⟩ := splitCounted_eq_ok_iff.1 split
      dsimp only at read ⊢
      by_cases told : status = UpdateStatus.infoReceived
      · rw [if_pos told] at read
        rcases bind_eq_error_iff.1 read with read | ⟨_, -, ⟨⟩⟩
        match content, read with
        | [], read | [_], read | [_, _], read =>
          cases read
          refine ⟨by simp, ?_⟩
          simp only [List.length_append, List.length_cons, List.length_nil]
          omega
        | _ :: _ :: _ :: _, read => cases read
      · rw [if_neg told] at read
        cases read
  · next node fixed =>
    cases h
    match rest, node, fixed with
    | [], _, _ | [_], _, _ => exact ⟨by simp, Nat.le_of_eq (Nat.add_comm ..)⟩
    | [status, nodeId], node, _ => exact absurd rfl (node status nodeId)
    | status :: nodeId :: length :: bytes, _, fixed =>
      exact absurd rfl (fixed status nodeId length bytes)

end Parts

namespace Frame

theorem truthful_of_decode {body : List UInt8} {e : FrameError} (h : decode body = .error e) :
    e.Truthful body := by
  cases body with
  | nil =>
    cases h
    exact .inl rfl
  | cons functionId rest =>
    rcases FunctionId.cases functionId with rfl | rfl | rfl | rfl | unknown
    · rw [decode_sendData, map_eq_error_iff] at h
      exact SendData.truthful_of_decode _ h
    · rw [decode_requestNodeInfo, map_eq_error_iff] at h
      exact truthful_of_decodeNodeInfoRequest _ h
    · rw [decode_applicationCommand, map_eq_error_iff] at h
      exact ApplicationCommand.truthful_of_decode h
    · rw [decode_applicationUpdate, map_eq_error_iff] at h
      exact ApplicationUpdate.truthful_of_decode _ h
    · rw [decode_of_unknown rest unknown] at h
      cases h

/-- **Decoding accepts its grammar.** A body is decoded exactly if it is well formed, without a read
outside of it, and else bears out the error; what follows a frame of a known function changes
nothing, but for an update that ends after the node. -/
theorem decode_grammar (body : List UInt8) :
    ((∃ f, decode body = .ok f) ↔ wellFormed body = true) ∧
      decodeAt body = (decode body).mapError .rejected ∧
      (∀ e, decode body = .error e → e.Truthful body) ∧
      ∀ f, decode body = .ok f →
        (∃ functionId ∈ FunctionId.known, body.head? = some functionId) →
        ¬ (body.head? = some FunctionId.applicationUpdate ∧ body.length = 3) →
        ∀ more, decode (body ++ more) = .ok f := by
  refine ⟨exists_decode_iff, decodeAt_eq body, fun _ => truthful_of_decode, ?_⟩
  intro f decoded known long more
  exact decode_eq_ok_iff.2 ((decode_eq_ok_iff.1 decoded).append known long more)

theorem decode_grammar_runs :
    decode ([FunctionId.applicationUpdate, UpdateStatus.infoReceived, 2, 4, 4, 16, 1, 0x25] ++
        [0]) = .ok (.applicationUpdate (.infoReceived 2 ⟨⟨4, 16, 1⟩, [0x25]⟩)) ∧
    (FrameError.lengthMismatch 3 2).Truthful [FunctionId.sendData, 2, 3, 0x20, 2] := by
  constructor
  · obtain ⟨-, -, -, onward⟩ := decode_grammar
      [FunctionId.applicationUpdate, UpdateStatus.infoReceived, 2, 4, 4, 16, 1, 0x25]
    exact onward _ rfl ⟨_, by decide, rfl⟩ (by decide) [0]
  · obtain ⟨-, -, truthful, -⟩ := decode_grammar [FunctionId.sendData, 2, 3, 0x20, 2]
    exact truthful _ rfl

end Frame

end ZWave
