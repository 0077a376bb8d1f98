import ZWave.Proofs.Frame.Layout

/-!
# Encoding and decoding

A frame has a body unless something in it outgrows its length byte (`Frame.encode_eq_error_iff`).
The body is decoded to the frame, as far as a body tells it, exactly if the frame is told apart by
it (`Frame.decode_encode_iff`): there are frames of unknown functions that bear the id of a known
one, and updates whose status contradicts what they carry. Decoding makes a frame of the second kind
only of an update that ends after the node with the status of node information
(`Frame.redecode_iff`).
-/

namespace ZWave

/-! ## Length bytes -/

theorem counted_eq_ok_iff {bs body : List UInt8} :
    counted bs = .ok body ↔ ∃ length, bs.length = UInt8.toNat length ∧ body = length :: bs := by
  unfold counted
  constructor
  · intro h
    split at h
    · next fits =>
      cases h
      exact ⟨_, (UInt8.toNat_ofNat_of_lt' fits).symm, rfl⟩
    · cases h
  · rintro ⟨length, counted, rfl⟩
    have fits : bs.length < 256 := counted ▸ length.toNat_lt
    rw [if_pos fits, counted, UInt8.ofNat_toNat]

theorem counted_eq_error_iff {bs : List UInt8} {e : FrameError} :
    counted bs = .error e ↔ 255 < bs.length ∧ e = .tooLong bs.length := by
  unfold counted
  constructor
  · intro h
    split at h
    · cases h
    · cases h
      exact ⟨by omega, rfl⟩
  · rintro ⟨long, rfl⟩
    exact if_neg (by omega)

namespace Frame

/-! ## What a body tells of a frame -/

/-- The frame without its label and whether a response is expected. -/
def asRead : Frame → Frame
  | sendData f =>
    sendData { f with label := SendData.decodedLabel, responseExpected := false }
  | f => f

/-- The body tells the frame apart: the function is known by its id, and the information of an
update by its status. -/
def Distinct : Frame → Prop
  | applicationUpdate u => u.info.isSome ↔ u.status = UpdateStatus.infoReceived
  | other functionId _ => functionId ∉ FunctionId.known
  | _ => True

/-- The length byte of the frame would have to hold `length`, which it cannot. -/
def Outgrows (length : Nat) : Frame → Prop
  | sendData f => 255 < f.payload.length ∧ length = f.payload.length
  | applicationCommand f => 255 < f.payload.bytes.length ∧ length = f.payload.bytes.length
  | applicationUpdate u =>
    ∃ info, u.info = some info ∧ 252 < info.classes.length ∧ length = 3 + info.classes.length
  | requestNodeInfo _ | other _ _ => False

theorem Holds.distinct_iff {body : List UInt8} {f : Frame} (held : Holds body f) :
    f.Distinct ↔
      ∀ nodeId, body ≠ [FunctionId.applicationUpdate, UpdateStatus.infoReceived, nodeId] := by
  cases held with
  | @shortUpdate status nodeId =>
    constructor
    · intro distinct nodeId' h
      cases h
      exact nomatch distinct.2 rfl
    · intro h
      refine ⟨nofun, fun told => absurd ?_ (h nodeId)⟩
      cases told
      rfl
  | infoUpdate =>
    refine iff_of_true ⟨fun _ => rfl, fun _ => rfl⟩ fun _ h => ?_
    cases h
  | plainUpdate _ _ told =>
    refine iff_of_true ⟨nofun, fun h => absurd h told⟩ fun _ h => ?_
    cases h
  | sendData | requestNodeInfo | applicationCommand =>
    refine iff_of_true trivial fun _ h => ?_
    exact absurd (List.cons.inj h).1 (by decide)
  | other unknown =>
    refine iff_of_true unknown fun _ h => ?_
    rw [(List.cons.inj h).1] at unknown
    exact absurd (by decide) unknown

theorem asRead_of_holds {body : List UInt8} {f : Frame} (h : Holds body f) : f.asRead = f := by
  cases h <;> rfl

/-! ## Bodies of frames -/

/-- Encoding fails if a length byte would overflow, and tells the length. -/
theorem encode_eq_error_iff {f : Frame} {e : FrameError} :
    f.encode = .error e ↔ ∃ length, f.Outgrows length ∧ e = .tooLong length := by
  -- what is put behind the counted bytes cannot fail
  have first : ∀ (bs : List UInt8) {g : List UInt8 → List UInt8},
      (counted bs >>= fun c => pure (g c)) = .error e ↔
        ∃ length, (255 < bs.length ∧ length = bs.length) ∧ e = .tooLong length := by
    intro bs g
    rw [bind_eq_error_iff, counted_eq_error_iff]
    constructor
    · rintro (⟨long, rfl⟩ | ⟨_, -, ⟨⟩⟩)
      exact ⟨_, ⟨long, rfl⟩, rfl⟩
    · rintro ⟨_, ⟨long, rfl⟩, rfl⟩
      exact .inl ⟨long, rfl⟩
  cases f with
  | sendData f => exact first _
  | requestNodeInfo nodeId => exact ⟨nofun, fun ⟨_, h, _⟩ => h.elim⟩
  | applicationCommand f => exact first _
  | applicationUpdate u =>
    obtain ⟨status, nodeId, info⟩ := u
    cases info with
    | none => exact ⟨nofun, fun ⟨_, ⟨_, h, _⟩, _⟩ => nomatch h⟩
    | some info =>
      refine (first info.bytes).trans (exists_congr fun length => and_congr_left fun _ => ?_)
      have bytes : info.bytes.length = 3 + info.classes.length := by
        change info.classes.length + 3 = _
        exact Nat.add_comm ..
      rw [bytes]
      constructor
      · rintro ⟨long, rfl⟩
        exact ⟨info, rfl, by omega, rfl⟩
      · rintro ⟨_, ⟨⟩, long, rfl⟩
        exact ⟨by omega, rfl⟩
  | other functionId data => exact ⟨nofun, fun ⟨_, h, _⟩ => h.elim⟩

theorem holds_of_encode {f : Frame} {body : List UInt8} (encoded : f.encode = .ok body)
    (distinct : f.Distinct) : Holds body f.asRead := by
  cases f with
  | sendData f =>
    obtain ⟨_, hc, h⟩ := bind_eq_ok_iff.1 encoded
    obtain ⟨length, counted, rfl⟩ := counted_eq_ok_iff.1 hc
    cases h
    exact .sendData f.payload [] counted
  | requestNodeInfo nodeId =>
    cases encoded
    exact .requestNodeInfo []
  | applicationCommand f =>
    obtain ⟨_, hc, h⟩ := bind_eq_ok_iff.1 encoded
    obtain ⟨length, counted, rfl⟩ := counted_eq_ok_iff.1 hc
    cases h
    have held : Holds (_ :: f.rxStatus :: f.nodeId :: length :: (f.payload.bytes ++ [])) _ :=
      .applicationCommand f.payload [] counted
    rwa [List.append_nil] at held
  | applicationUpdate u =>
    obtain ⟨status, nodeId, info⟩ := u
    cases info with
    | none =>
      cases encoded
      have told : status ≠ UpdateStatus.infoReceived := fun h => nomatch distinct.2 h
      exact .plainUpdate [] [] told rfl
    | some info =>
      obtain ⟨_, hc, h⟩ := bind_eq_ok_iff.1 encoded
      obtain ⟨length, counted, rfl⟩ := counted_eq_ok_iff.1 hc
      cases h
      obtain rfl : status = UpdateStatus.infoReceived := distinct.1 rfl
      have held : Holds (_ :: _ :: nodeId :: length :: (info.bytes ++ [])) _ :=
        .infoUpdate info [] counted
      rwa [List.append_nil] at held
  | other functionId data =>
    cases encoded
    exact .other distinct

/-- The body of an update goes on after the node. -/
theorem encode_update_ne {u : ApplicationUpdate} {body : List UInt8}
    (encoded : (applicationUpdate u).encode = .ok body) {functionId status nodeId : UInt8} :
    body ≠ [functionId, status, nodeId] := by
  rintro rfl
  obtain ⟨status, nodeId, info⟩ := u
  cases info with
  | none => cases encoded
  | some info =>
    obtain ⟨_, hc, h⟩ := bind_eq_ok_iff.1 encoded
    obtain ⟨length, -, rfl⟩ := counted_eq_ok_iff.1 hc
    cases h

theorem decode_encode_iff {f : Frame} {body : List UInt8} (encoded : f.encode = .ok body) :
    decode body = .ok f.asRead ↔ f.Distinct := by
  rw [decode_eq_ok_iff]
  refine ⟨fun held => ?_, holds_of_encode encoded⟩
  cases f with
  | sendData | requestNodeInfo | applicationCommand => trivial
  | applicationUpdate u => exact held.distinct_iff.2 fun _ => encode_update_ne encoded
  | other functionId data =>
    cases held with
    | other unknown => exact unknown

/-- **Decoding undoes encoding.** A frame has a body unless it outgrows its length byte, and the
body is decoded to it, but for what it does not tell, exactly if it tells the frame apart. -/
theorem encode_exact (f : Frame) :
    (∀ e, f.encode = .error e ↔ ∃ length, f.Outgrows length ∧ e = .tooLong length) ∧
      ∀ body, f.encode = .ok body → (decode body = .ok f.asRead ↔ f.Distinct) :=
  ⟨fun _ => encode_eq_error_iff, fun _ => decode_encode_iff⟩

theorem encode_exact_update :
    (∃ body, (applicationUpdate (.infoReceived 5 ⟨{}, List.replicate 252 0x20⟩)).encode = .ok body ∧
      decode body = .ok (.applicationUpdate (.infoReceived 5 ⟨{}, List.replicate 252 0x20⟩))) ∧
    (applicationUpdate (.infoReceived 5 ⟨{}, List.replicate 253 0x20⟩)).encode =
      .error (.tooLong 256) := by
  constructor
  · obtain ⟨outgrown, again⟩ :=
      encode_exact (applicationUpdate (.infoReceived 5 ⟨{}, List.replicate 252 0x20⟩))
    cases encoded : (applicationUpdate (.infoReceived 5 ⟨{}, List.replicate 252 0x20⟩)).encode with
    | ok body => exact ⟨body, rfl, (again body encoded).2 ⟨fun _ => rfl, fun _ => rfl⟩⟩
    | error e =>
      obtain ⟨_, ⟨_, ⟨⟩, long, -⟩, -⟩ := (outgrown e).1 encoded
      rw [List.length_replicate] at long
      exact absurd long (by decide)
  · refine ((encode_exact _).1 _).2 ⟨256, ⟨_, rfl, ?_⟩, rfl⟩
    rw [List.length_replicate]
    decide

/-! ## Frames that were decoded -/

theorem Holds.not_outgrows {body : List UInt8} {f : Frame} (held : Holds body f) (n : Nat) :
    ¬ f.Outgrows n := by
  cases held with
  | @sendData _ length _ _ _ _ counted =>
    rintro ⟨long, -⟩
    have := length.toNat_lt
    dsimp only at long
    omega
  | @applicationCommand _ _ length _ _ counted =>
    rintro ⟨long, -⟩
    have := length.toNat_lt
    dsimp only at long
    omega
  | @infoUpdate _ length info _ counted =>
    rintro ⟨_, ⟨⟩, long, -⟩
    have := length.toNat_lt
    have bytes : info.bytes.length = info.classes.length + 3 := rfl
    omega
  | shortUpdate | plainUpdate =>
    rintro ⟨_, ⟨⟩, -⟩
  | requestNodeInfo | other => exact id

theorem Holds.exists_encode {body : List UInt8} {f : Frame} (held : Holds body f) :
    ∃ body', f.encode = .ok body' := by
  cases h : f.encode with
  | ok body' => exact ⟨body', rfl⟩
  | error e =>
    obtain ⟨n, outgrown, -⟩ := encode_eq_error_iff.1 h
    exact absurd outgrown (held.not_outgrows n)

/-- **Decoding is stable under encoding, but for one layout.** An update that ends after the node
with the status of node information is refused once encoded. -/
theorem redecode_iff {body : List UInt8} {f : Frame} (decoded : decode body = .ok f) :
    ∃ body', f.encode = .ok body' ∧
      (decode body' = .ok f ↔
        ∀ nodeId, body ≠ [FunctionId.applicationUpdate, UpdateStatus.infoReceived, nodeId]) ∧
      ∀ nodeId, body = [FunctionId.applicationUpdate, UpdateStatus.infoReceived, nodeId] →
        decode body' = .error (.frameTooShort 7 4) := by
  have held := decode_eq_ok_iff.1 decoded
  obtain ⟨body', encoded⟩ := held.exists_encode
  have again := decode_encode_iff encoded
  rw [asRead_of_holds held, held.distinct_iff] at again
  refine ⟨body', encoded, again, ?_⟩
  rintro nodeId rfl
  cases decoded
  cases encoded
  rfl

theorem redecode_iff_short :
    (∃ f body', decode [FunctionId.applicationCommand, 0, 2, 3, 0x20, 3, 0xFF, 0xAA] = .ok f ∧
      f.encode = .ok body' ∧ decode body' = .ok f) ∧
    ∃ f body', decode [FunctionId.applicationUpdate, UpdateStatus.infoReceived, 2] = .ok f ∧
      f.encode = .ok body' ∧ decode body' = .error (.frameTooShort 7 4) := by
  have longer : decode [FunctionId.applicationCommand, 0, 2, 3, 0x20, 3, 0xFF, 0xAA] = .ok _ := rfl
  obtain ⟨body', encoded, again, -⟩ := redecode_iff longer
  have other : ∀ nodeId, [FunctionId.applicationCommand, 0, 2, 3, 0x20, 3, 0xFF, 0xAA] ≠
      [FunctionId.applicationUpdate, UpdateStatus.infoReceived, nodeId] :=
    fun _ h => absurd (List.cons.inj h).1 (by decide)
  have shorter : decode [FunctionId.applicationUpdate, UpdateStatus.infoReceived, 2] = .ok _ := rfl
  obtain ⟨short, encoded', -, refused⟩ := redecode_iff shorter
  exact ⟨⟨_, body', rfl, encoded, again.2 other⟩, _, short, rfl, encoded', refused 2 rfl⟩

end Frame

end ZWave
