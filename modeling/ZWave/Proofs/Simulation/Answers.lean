import ZWave.Proofs.Simulation.Knowledge
import ZWave.Proofs.Simulation.Link

/-!
# Questions and answers

A device that can be reached answers every query of a class it lists
(`SimulatedDevice.handle_query`), and the node that asked then knows what it knew before and the
answer (`Node.heard_reply`). So the encoding that the device uses and the one its node reads agree.
-/

namespace ZWave

/-- The class a query is about, which is the class of its answer. -/
def Query.kind : Query → ClassKind
  | report k => k
  | versionOf _ => .version

theorem Query.frame_eq (q : Query) (id : NodeId) : ∃ request command arguments,
    q.frame id = .sendData request ∧ request.payload = q.kind.id :: command :: arguments := by
  cases q with
  | report k => cases k <;> exact ⟨_, _, _, rfl, rfl⟩
  | versionOf classId => exact ⟨_, _, _, rfl, rfl⟩

/-! ## What a device says -/

theorem ModelClass.id_inj {a b : ModelClass} (h : a.id = b.id) : a = b := by
  cases a <;> cases b <;> first | rfl | exact absurd h (by decide)

namespace DeviceModel

variable (d : DeviceModel)

def reply : Query → Payload
  | .report .basic => ⟨ClassId.basic, [Command.report, d.level]⟩
  | .report .switchBinary =>
    ⟨ClassId.switchBinary, [Command.report, if d.level = 0 then Level.off else Level.on]⟩
  | .report .switchMultilevel => ⟨ClassId.switchMultilevel, [Command.report, d.level]⟩
  | .report .manufacturerSpecific =>
    ⟨ClassId.manufacturerSpecific,
      Command.manufacturerReport :: SimulatedDevice.identityBytes (d.manufacturer.getD {})⟩
  | .report .version =>
    ⟨ClassId.version, Command.versionReport :: SimulatedDevice.firmwareBytes d.firmware⟩
  | .versionOf id => ⟨ClassId.version, [Command.classVersionReport, id, d.classVersion id]⟩

theorem classId_reply (q : Query) : (d.reply q).classId = q.kind.id := by
  cases q with
  | report k => cases k <;> rfl
  | versionOf id => rfl

theorem classVersion_id {c : ModelClass} (listed : c ∈ d.classes) :
    d.classVersion c.id = (d.classVersions.lookup c).getD 1 := by
  unfold classVersion
  cases found : d.classes.find? fun other => other.id == c.id with
  | none =>
    have missing := List.find?_eq_none.1 found c listed
    exact absurd (beq_self_eq_true c.id) missing
  | some other =>
    have same := List.find?_some found
    rw [ModelClass.id_inj (eq_of_beq same)]

/-- No listed class is given version zero. -/
def Speaks : Prop := ∀ c ∈ d.classes, d.classVersions.lookup c ≠ some 0

variable {d}

theorem classVersion_eq_zero_iff {id : UInt8} (listed : id ∈ d.classIds) :
    d.classVersion id = 0 ↔ ∃ c ∈ d.classes, c.id = id ∧ d.classVersions.lookup c = some 0 := by
  obtain ⟨c, hc, rfl⟩ := List.mem_map.1 listed
  rw [d.classVersion_id hc]
  constructor
  · intro zero
    refine ⟨c, hc, rfl, ?_⟩
    cases told : d.classVersions.lookup c with
    | none =>
      rw [told] at zero
      exact absurd zero (by decide)
    | some version =>
      rw [told] at zero
      exact congrArg some zero
  · rintro ⟨other, -, same, zero⟩
    rw [← ModelClass.id_inj same, zero]
    rfl

theorem Speaks.classVersion_pos (h : d.Speaks) {k : ClassKind} (hk : d.lists k = true) :
    0 < d.classVersion k.id := by
  refine UInt8.pos_iff_ne_zero.2 fun zero => ?_
  obtain ⟨c, listed, -, told⟩ :=
    (classVersion_eq_zero_iff (List.contains_iff_mem.1 hk)).1 zero
  exact h c listed told

end DeviceModel

namespace SimulatedDevice

theorem answerPayload_eq {s : SimulatedDevice} {classId command : UInt8} {arguments : List UInt8}
    (spoken : 0 < s.model.classVersion classId) :
    s.answerPayload (classId :: command :: arguments) =
      ((s.answer classId command arguments).1,
        (s.answer classId command arguments).2.map (Payload.mk classId)) := by
  unfold answerPayload
  dsimp only
  rw [if_pos spoken]

def present (s : SimulatedDevice) : DeviceModel := { s.model with level := s.level }

theorem present_eq {s : SimulatedDevice} (level : s.level = s.model.level) : s.present = s.model := by
  rw [present, level]

theorem answer_query {s : SimulatedDevice} {q : Query} {id : NodeId} {request : SendData}
    (hq : q.frame id = .sendData request) (spoken : 0 < s.model.classVersion q.kind.id) :
    s.answerPayload request.payload = (s, some (s.present.reply q)) := by
  cases q with
  | report k =>
    cases k with
    | switchBinary =>
      cases hq
      refine (answerPayload_eq spoken).trans ?_
      simp +decide [answer, DeviceModel.reply, switchValue, Query.kind, ClassKind.id]
      rfl
    | basic | switchMultilevel | manufacturerSpecific | version =>
      cases hq
      refine (answerPayload_eq spoken).trans ?_
      simp +decide [answer, DeviceModel.reply, present, Query.kind, ClassKind.id]
  | versionOf classId =>
    cases hq
    refine (answerPayload_eq spoken).trans ?_
    simp +decide [answer, DeviceModel.reply, Query.kind, ClassKind.id]
    rfl

/-- A device that can be reached answers a query of a class it supports with what it is now. -/
theorem handle_query_present {s : SimulatedDevice} (reach : s.isReachable = true) {q : Query}
    (spoken : 0 < s.model.classVersion q.kind.id) (id : NodeId) :
    s.handle (q.frame id) =
      (s, some (.applicationCommand { nodeId := s.id, payload := s.present.reply q })) := by
  obtain ⟨request, -, -, hq, -⟩ := q.frame_eq id
  rw [hq, handle_sendData, if_pos reach, answer_query hq spoken]
  rfl

/-- A device that can be reached, with the level of its model, answers a query of a class it
supports. -/
theorem handle_query {s : SimulatedDevice} (reach : s.isReachable = true)
    (level : s.level = s.model.level) {q : Query} (spoken : 0 < s.model.classVersion q.kind.id)
    (id : NodeId) :
    s.handle (q.frame id) =
      (s, some (.applicationCommand { nodeId := s.id, payload := s.model.reply q })) := by
  rw [handle_query_present reach spoken, present_eq level]

/-- A query is lost on a device that sleeps, or that speaks no version of its class. -/
theorem handle_query_of_mute {s : SimulatedDevice} {q : Query}
    (mute : s.isReachable = false ∨ s.model.classVersion q.kind.id = 0) (id : NodeId) :
    s.handle (q.frame id) = (s, none) := by
  obtain ⟨request, command, arguments, hq, payload⟩ := q.frame_eq id
  rw [hq, handle_sendData]
  rcases mute with asleep | unspoken
  · rw [asleep]
    rfl
  · have nothing : s.answerPayload request.payload = (s, none) := by
      rw [payload]
      unfold answerPayload
      simp [unspoken]
    rw [nothing]
    split <;> rfl

theorem handle_query_cases {s : SimulatedDevice} (level : s.level = s.model.level) (q : Query)
    (id : NodeId) :
    s.handle (q.frame id) =
        (s, some (.applicationCommand { nodeId := s.id, payload := s.model.reply q })) ∨
      s.handle (q.frame id) = (s, none) := by
  cases reach : s.isReachable with
  | false => exact .inr (handle_query_of_mute (.inl reach) id)
  | true =>
    by_cases spoken : s.model.classVersion q.kind.id = 0
    · exact .inr (handle_query_of_mute (.inr spoken) id)
    · exact .inl (handle_query reach level (UInt8.pos_iff_ne_zero.2 spoken) id)

end SimulatedDevice

/-! ## What a node makes of it -/

theorem Reading.word_wordBytes (w : UInt16) :
    word (UInt8.ofNat (w.toNat / 256)) (UInt8.ofNat (w.toNat % 256)) = w := by
  have hw := w.toNat_lt
  refine UInt16.toNat_inj.1 ?_
  simp [word]
  omega

namespace DeviceModel

variable (d : DeviceModel)

/-- The class whose handler reads the answer to a query. -/
def reader : Query → ClassKind
  | .report k => d.readBy k
  | .versionOf _ => .version

/-- What the answer to a query says. -/
def statement : Query → Reading
  | .report .basic => .value d.level
  | .report .switchBinary => .value (if d.level = 0 then Level.off else Level.on)
  | .report .switchMultilevel => .value d.level
  | .report .manufacturerSpecific => .identity (d.manufacturer.getD {})
  | .report .version => .firmware d.firmware
  | .versionOf id => .classVersion id (d.classVersion id)

/-- Basic reports are read by the handler of a switch or by Basic's own. -/
theorem readBy_cases (k : ClassKind) :
    d.readBy k = k ∨ k = .basic ∧ (d.readBy k = .switchBinary ∧ d.lists .switchBinary = true ∨
      d.readBy k = .switchMultilevel ∧ d.lists .switchMultilevel = true) := by
  cases k with
  | switchBinary | switchMultilevel | manufacturerSpecific | version => exact .inl rfl
  | basic =>
    rw [readBy, basicReader]
    split
    · exact .inl rfl
    · split
      · next h => exact .inr ⟨rfl, .inl ⟨rfl, h⟩⟩
      · exact .inl rfl
    · split
      · next h => exact .inr ⟨rfl, .inr ⟨rfl, h⟩⟩
      · exact .inl rfl

theorem lists_readBy {k : ClassKind} (hk : d.lists k = true) : d.lists (d.readBy k) = true := by
  rcases d.readBy_cases k with h | ⟨-, ⟨h, hl⟩ | ⟨h, hl⟩⟩
  · rwa [h]
  · rwa [h]
  · rwa [h]

/-- The handler of the class of an answer reads what the device says. -/
theorem ofPayload_reply_own (q : Query) :
    Reading.ofPayload q.kind (d.reply q) = .ok (d.statement q) := by
  cases q with
  | report k =>
    cases k
    case manufacturerSpecific =>
      simp [Reading.ofPayload, ClassKind.reads, reply, statement, Reading.ofCommand, Query.kind,
        ClassKind.id, SimulatedDevice.identityBytes, SimulatedDevice.wordBytes,
        Reading.word_wordBytes]
    all_goals rfl
  | versionOf id => rfl

theorem ofPayload_reply (q : Query) :
    Reading.ofPayload (d.reader q) (d.reply q) = .ok (d.statement q) := by
  cases q with
  | report k =>
    rcases d.readBy_cases k with h | ⟨rfl, ⟨h, -⟩ | ⟨h, -⟩⟩
    · rw [reader, h]; exact d.ofPayload_reply_own (.report k)
    · rw [reader, h]; rfl
    · rw [reader, h]; rfl
  | versionOf id => exact d.ofPayload_reply_own (.versionOf id)

theorem switch_statement :
    ((if d.level = 0 then Level.off else Level.on) != Level.off) = (d.level != 0) := by
  by_cases h : d.level = 0
  · rw [if_pos h, h]
  · rw [if_neg h, bne_iff_ne.2 h]
    rfl

/-- That handler then knows what the device has told it. -/
theorem update_statement_own {k : ClassKind} {l : Learned} (hl : l.kind = k) :
    l.update (d.statement (.report k)) = d.told k := by
  cases k with
  | switchBinary =>
    cases l <;> cases hl
    exact congrArg (Learned.switchBinary ∘ some) d.switch_statement
  | basic | switchMultilevel | manufacturerSpecific | version => cases l <;> cases hl; rfl

theorem update_statement {k : ClassKind} {l : Learned} (hl : l.kind = d.readBy k) :
    l.update (d.statement (.report k)) = d.told (d.readBy k) := by
  rcases d.readBy_cases k with h | ⟨rfl, ⟨h, -⟩ | ⟨h, -⟩⟩
  · rw [h] at hl ⊢
    exact d.update_statement_own hl
  · rw [h] at hl ⊢
    cases l <;> cases hl
    rfl
  · rw [h] at hl ⊢
    cases l <;> cases hl
    rfl

theorem record_statement (h : Handler) (k : ClassKind) :
    h.record (d.statement (.report k)) =
      { h with learned := h.learned.update (d.statement (.report k)) } := by
  cases k <;> rfl

theorem handler_append_report (answered : List Query) (j k : ClassKind) :
    d.handler (answered ++ [.report j]) k =
      if k = d.readBy j then { d.handler answered k with learned := d.told k }
      else d.handler answered k := by
  unfold handler
  by_cases hk : k = d.readBy j
  · simp [informs, hk]
  · simp [informs, hk, Ne.symm hk]

theorem handler_append_versionOf (answered : List Query) (id : UInt8) (k : ClassKind) :
    d.handler (answered ++ [.versionOf id]) k =
      if k.id = id then (d.handler answered k).setVersion (d.classVersion id)
      else d.handler answered k := by
  unfold handler
  by_cases hk : k.id = id
  · simp [informs, hk, Handler.setVersion]
  · simp [informs, hk]

/-- An answer that is read adds to what is known of the device what the query asked for. -/
theorem deliver_reply (answered : List Query) {q : Query} (hq : d.lists q.kind = true)
    (other : q ≠ .versionOf ClassId.version) :
    (d.registry answered).deliver (d.reader q).id (d.reply q) =
      .ok (d.registry (answered ++ [q])) := by
  have listed : d.lists (d.reader q) = true := by
    cases q with
    | report k => exact d.lists_readBy hq
    | versionOf => exact hq
  have reads : Reading.ofPayload (d.handler answered (d.reader q)).kind (d.reply q) =
      .ok (d.statement q) := by
    rw [kind_handler]
    exact d.ofPayload_reply q
  obtain ⟨r, hr, view⟩ := Registry.deliver_eq (d.get?_registry_id answered listed) reads
  rw [hr]
  refine congrArg _ (Registry.ext_get? fun id => ?_)
  rw [view, get?_registry, get?_registry]
  by_cases hid : id = (d.reader q).id
  · rw [if_pos hid, hid, ClassKind.ofId?_id, Option.bind_some, if_pos listed]
    refine congrArg some ?_
    cases q with
    | report j =>
      have update := d.update_statement (d.kind_handler answered (d.readBy j))
      rw [reader, record_statement, update, handler_append_report, if_pos rfl]
    | versionOf c =>
      have hc : c ≠ ClassId.version := fun e => other (congrArg _ e)
      have hne : ¬ c = (d.handler answered .version).id := by
        rw [Handler.id, kind_handler]
        exact hc
      have hc' : ¬ ClassKind.version.id = c := fun e => hc e.symm
      rw [reader, handler_append_versionOf, if_neg hc']
      exact if_neg hne
  · rw [if_neg hid, Option.map_bind]
    refine Option.bind_congr fun k hk => ?_
    have hkid := ClassKind.ofId?_eq_some_iff.1 hk
    cases hl : d.lists k with
    | false => simp [hl]
    | true =>
      simp only [Function.comp_apply, hl, if_true, Option.map_some]
      refine congrArg some ?_
      cases q with
      | report j =>
        have hne : k ≠ d.readBy j := by
          rintro rfl
          exact hid hkid.symm
        rw [handler_append_report, if_neg hne]
        cases j <;> rfl
      | versionOf c =>
        rw [handler_append_versionOf, hkid]
        rfl

end DeviceModel

namespace Node

variable {n : Node} {d : DeviceModel} {answered : List Query}

theorem reader_eq (classes : n.classes = d.registry answered) (profile : n.profile = d.profile)
    (q : Query) : n.reader q.kind.id = (d.reader q).id := by
  unfold Node.reader
  rw [classes, profile]
  cases q with
  | versionOf => rfl
  | report k =>
    cases k with
    | switchBinary | switchMultilevel | manufacturerSpecific | version => rfl
    | basic =>
      have listed : ∀ k, (d.registry answered).contains k.id = d.lists k :=
        d.contains_registry answered
      rw [DeviceModel.reader, DeviceModel.readBy, DeviceModel.basicReader]
      cases d.profile with
      | generic => exact ite_self _
      | binarySwitch =>
        rw [← listed .switchBinary]
        cases h : (d.registry answered).contains ClassKind.switchBinary.id <;>
          simp_all [Profile.basicReader, Query.kind, ClassKind.id]
      | multilevelSwitch =>
        rw [← listed .switchMultilevel]
        cases h : (d.registry answered).contains ClassKind.switchMultilevel.id <;>
          simp_all [Profile.basicReader, Query.kind, ClassKind.id]

/-- A node that is given the answer to a query knows it from then on. -/
theorem heard_reply (classes : n.classes = d.registry answered) (profile : n.profile = d.profile)
    {q : Query} (hq : d.lists q.kind = true) (other : q ≠ .versionOf ClassId.version) :
    n.heard (d.reply q) = d.registry (answered ++ [q]) := by
  unfold heard
  rw [DeviceModel.classId_reply, reader_eq classes profile, classes, d.contains_registry, hq,
    if_pos rfl, d.deliver_reply answered hq other]

theorem value_receive_info (empty : n.classes = .empty) (standard : n.factory = .standard)
    (state : n.state = .nodeInfo) (id : NodeId) (device : DeviceType) :
    (n.receive (.applicationUpdate (.infoReceived id ⟨device, d.classIds⟩))).value =
      { n with
        classes := d.registry []
        pending := none
        lifecycle := ⟨if d.lists .version then .versionPending else .statePending, 0⟩ } := by
  have informed : n.informed (.infoReceived id ⟨device, d.classIds⟩) =
      { n with classes := d.registry [] } := by
    rw [Node.informed, if_pos state, ← d.registerAll_classIds, empty, standard]
    rfl
  have state : ({ n with classes := d.registry [] } : Node).state = .nodeInfo := state
  have versioned : (d.registry []).contains ClassId.version = d.lists .version :=
    d.contains_registry [] .version
  rw [value_receive_infoReceived, informed, value_handle_infoReceived, state, versioned]

end Node

end ZWave
