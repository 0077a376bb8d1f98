import ZWave.Proofs.Simulation.Answers
import ZWave.Summary.Basic

/-!
# What a device reports and what is recorded

A payload asks a device for something, be it with a question or with a command that sets its level
first (`Query.AskedBy`). The device answers with what it is when it has carried the command out, and
what it does not answer leaves it as it is (`SimulatedDevice.handle_sendData_cases`). The handler of
the class reads every such answer, and has then on record what the device is
(`SimulatedDevice.answers_recorded`).
-/

namespace ZWave

/-! ## What is asked -/

def ClassKind.hasLevel : ClassKind → Bool
  | basic | switchBinary | switchMultilevel => true
  | manufacturerSpecific | version => false

/-- The payloads that ask for the answer to a query; setting the level asks for its report. -/
inductive Query.AskedBy : List UInt8 → Query → Prop where
  | get {k : ClassKind} {rest : List UInt8} : k.hasLevel = true →
      AskedBy (k.id :: Command.get :: rest) (.report k)
  | set {k : ClassKind} {level : UInt8} {rest : List UInt8} : k.hasLevel = true →
      AskedBy (k.id :: Command.set :: level :: rest) (.report k)
  | identity {rest : List UInt8} :
      AskedBy (ClassId.manufacturerSpecific :: Command.manufacturerGet :: rest)
        (.report .manufacturerSpecific)
  | firmware {rest : List UInt8} :
      AskedBy (ClassId.version :: Command.versionGet :: rest) (.report .version)
  | classVersion {classId : UInt8} {rest : List UInt8} :
      AskedBy (ClassId.version :: Command.classVersionGet :: classId :: rest) (.versionOf classId)

theorem Query.AskedBy.head? {payload : List UInt8} {q : Query} (asked : q.AskedBy payload) :
    payload.head? = some q.kind.id := by
  cases asked <;> rfl

theorem Query.AskedBy.classId? {request : SendData} {q : Query}
    (asked : q.AskedBy request.payload) : request.classId? = some q.kind.id := by
  rw [SendData.classId?, ← List.head?_eq_getElem?]
  exact asked.head?

theorem Query.AskedBy.report_of_set {payload : List UInt8} {q : Query} (asked : q.AskedBy payload)
    (sets : payload[1]? = some Command.set) :
    ∃ k : ClassKind, q = .report k ∧ k.hasLevel = true := by
  cases asked with
  | set level => exact ⟨_, rfl, level⟩
  | get | identity | firmware | classVersion => exact absurd (Option.some.inj sets) (by decide)

theorem SendData.payload_eq {request : SendData} {classId command : UInt8}
    (ofClass : request.classId? = some classId) (carries : request.command? = some command) :
    ∃ rest, request.payload = classId :: command :: rest := by
  unfold classId? at ofClass
  unfold command? at carries
  match payload : request.payload with
  | [] | [_] => simp [payload] at carries
  | first :: second :: rest =>
    rw [payload] at ofClass carries
    cases ofClass
    cases carries
    exact ⟨rest, rfl⟩

/-! ## What is answered -/

theorem DeviceModel.mk_body_reply (d : DeviceModel) (q : Query) :
    Payload.mk q.kind.id (d.reply q).body = d.reply q := by
  rw [← d.classId_reply q]

namespace SimulatedDevice

/-- A device answers a command with what it is afterwards, or is left as it was. -/
theorem answer_cases (s : SimulatedDevice) (classId command : UInt8) (arguments : List UInt8) :
    s.answer classId command arguments = (s, none) ∨
      ∃ q : Query, q.AskedBy (classId :: command :: arguments) ∧
        (s.answer classId command arguments).2 =
          some ((s.answer classId command arguments).1.present.reply q).body := by
  cases known : ClassKind.ofId? classId with
  | none =>
    left
    unfold ClassKind.ofId? at known
    unfold answer
    grind
  | some k =>
    obtain rfl := ClassKind.ofId?_eq_some_iff.1 known
    cases k with
    | basic | switchBinary | switchMultilevel =>
      by_cases get : command = Command.get
      · subst get
        exact .inr ⟨_, .get rfl, rfl⟩
      · by_cases set : command = Command.set
        · subst set
          cases arguments with
          | nil => exact .inl rfl
          | cons level rest => exact .inr ⟨_, .set rfl, rfl⟩
        · left
          simp +decide [answer, get, set]
    | manufacturerSpecific =>
      by_cases get : command = Command.manufacturerGet
      · subst get
        exact .inr ⟨_, .identity, rfl⟩
      · left
        simp +decide [answer, get]
    | version =>
      by_cases firmware : command = Command.versionGet
      · subst firmware
        exact .inr ⟨_, .firmware, rfl⟩
      · by_cases version : command = Command.classVersionGet
        · subst version
          cases arguments with
          | nil => exact .inl rfl
          | cons about rest => exact .inr ⟨_, .classVersion, rfl⟩
        · left
          simp +decide [answer, firmware, version]

theorem handle_sendData_cases (s : SimulatedDevice) (request : SendData) :
    s.handle (.sendData request) = (s, none) ∨
      ∃ q : Query, q.AskedBy request.payload ∧ s.isReachable = true ∧
        0 < s.model.classVersion q.kind.id ∧
        (s.handle (.sendData request)).2 = some (.applicationCommand
          { nodeId := s.id, payload := (s.handle (.sendData request)).1.present.reply q }) := by
  rw [handle_sendData]
  cases reach : s.isReachable with
  | false => exact .inl rfl
  | true =>
    rw [if_pos rfl]
    rcases payload : request.payload with - | ⟨classId, - | ⟨command, arguments⟩⟩
    · exact .inl rfl
    · exact .inl rfl
    · by_cases spoken : 0 < s.model.classVersion classId
      · rw [answerPayload_eq spoken]
        rcases s.answer_cases classId command arguments with lost | ⟨q, asked, answered⟩
        · rw [lost]
          exact .inl rfl
        · obtain rfl := Option.some.inj asked.head?
          refine .inr ⟨q, asked, rfl, spoken, ?_⟩
          dsimp only
          rw [answered, Option.map_some, Option.map_some, DeviceModel.mk_body_reply, answer_fst]
          rfl
      · left
        unfold answerPayload
        dsimp only
        rw [if_neg spoken]
        rfl

/-- A device tells its level when it is asked for it. -/
theorem handle_get {s : SimulatedDevice} (reach : s.isReachable = true) {k : ClassKind}
    (level : k.hasLevel = true) (spoken : 0 < s.model.classVersion k.id) {get : SendData}
    {rest : List UInt8} (payload : get.payload = k.id :: Command.get :: rest) :
    s.handle (.sendData get) =
      (s, some (.applicationCommand
        { nodeId := s.id, payload := s.present.reply (.report k) })) := by
  have told : s.answer k.id Command.get rest = (s, some (s.present.reply (.report k)).body) := by
    cases k with
    | basic | switchBinary | switchMultilevel => rfl
    | manufacturerSpecific | version => cases level
  have answered : s.answerPayload get.payload = (s, some (s.present.reply (.report k))) := by
    rw [payload, answerPayload_eq spoken, told, Option.map_some]
    exact congrArg (fun reply => (s, some reply)) (s.present.mk_body_reply (.report k))
  rw [handle_sendData, if_pos reach, answered]
  rfl

end SimulatedDevice

/-! ## What is recorded -/

namespace Registry

/-- The handler of a class has on record what the report of a device tells. -/
theorem deliver_report (d : DeviceModel) {k : ClassKind} {r : Registry} {h : Handler}
    (registered : r.get? k.id = some h) :
    ∃ r', r.deliver k.id (d.reply (.report k)) = .ok r' ∧ ∀ id, r'.get? id =
      if id = k.id then some { h with learned := d.told k } else r.get? id := by
  have own : h.kind = k := ClassKind.id_inj (id_of_get? registered)
  have read : Reading.ofPayload h.kind (d.reply (.report k)) = .ok (d.statement (.report k)) := by
    rw [own]
    exact d.ofPayload_reply_own (.report k)
  obtain ⟨r', delivered, view⟩ := deliver_eq registered read
  refine ⟨r', delivered, fun id => ?_⟩
  rw [view, d.record_statement, d.update_statement_own own]
  split
  · rfl
  · cases k <;> exact Option.map_id' ..

theorem deliver_versionOf (d : DeviceModel) (classId : UInt8) {r : Registry}
    (registered : r.contains ClassId.version = true) :
    ∃ r', r.deliver ClassId.version (d.reply (.versionOf classId)) = .ok r' ∧ ∀ id, r'.get? id =
      (r.get? id).map fun h =>
        if id = classId then h.setVersion (d.classVersion classId) else h := by
  rw [contains_eq] at registered
  obtain ⟨h, found⟩ := Option.isSome_iff_exists.1 registered
  have own : h.kind = .version := ClassKind.id_inj (id_of_get? found)
  have read : Reading.ofPayload h.kind (d.reply (.versionOf classId)) =
      .ok (.classVersion classId (d.classVersion classId)) := by
    rw [own]
    exact d.ofPayload_reply_own (.versionOf classId)
  obtain ⟨r', delivered, view⟩ := deliver_eq found read
  refine ⟨r', delivered, fun id => ?_⟩
  rw [view]
  split
  · next same =>
    rw [same, found, Option.map_some, Handler.record, id_of_get? found]
    simp only [eq_comm]
  · rfl

end Registry

namespace SimulatedDevice

/-- What a device told in answer to a query is on record, `before` being what was. -/
def OnRecord (s : SimulatedDevice) (before after : Registry) : Query → Prop
  | .report .basic => after.basicValue? = some s.level
  | .report .switchBinary => after.switchedOn? = some (s.level != 0)
  | .report .switchMultilevel => after.dimmerLevel? = some s.level
  | .report .manufacturerSpecific =>
    after.manufacturer? = some (s.model.manufacturer.getD ⟨0, 0, 0⟩)
  | .report .version => ∃ f, after.firmware? = some f ∧
      f.libraryText = toString s.model.firmware.library ∧
      f.protocol.text = s!"{s.model.firmware.protocol.major}.{s.model.firmware.protocol.minor}" ∧
      f.application.text =
        s!"{s.model.firmware.application.major}.{s.model.firmware.application.minor}"
  | .versionOf classId => ∀ h, before.get? classId = some h →
      after.get? classId = some (h.setVersion (s.model.classVersion classId))

theorem onRecord_reply (s : SimulatedDevice) {q : Query} {before : Registry}
    (registered : before.contains q.kind.id = true) :
    ∃ after, before.deliver q.kind.id (s.present.reply q) = .ok after ∧
      s.OnRecord before after q := by
  cases q with
  | versionOf classId =>
    obtain ⟨after, delivered, view⟩ := Registry.deliver_versionOf s.present classId registered
    refine ⟨after, delivered, fun h named => ?_⟩
    rw [view, named, Option.map_some, if_pos rfl]
    rfl
  | report k =>
    rw [Registry.contains_eq] at registered
    obtain ⟨h, found⟩ := Option.isSome_iff_exists.1 registered
    obtain ⟨after, delivered, view⟩ := Registry.deliver_report s.present (k := k) found
    have learned : after.learned? k = some (s.present.told k) := by
      rw [Registry.learned?, view, if_pos rfl]
      rfl
    refine ⟨after, delivered, ?_⟩
    cases k with
    | basic =>
      rw [OnRecord, Registry.basicValue?, learned]
      rfl
    | switchBinary =>
      rw [OnRecord, Registry.switchedOn?, learned]
      rfl
    | switchMultilevel =>
      rw [OnRecord, Registry.dimmerLevel?, learned]
      rfl
    | manufacturerSpecific =>
      rw [OnRecord, Registry.manufacturer?, learned]
      rfl
    | version =>
      refine ⟨s.model.firmware, ?_, rfl, rfl, rfl⟩
      rw [Registry.firmware?, learned]
      rfl

/-- What becomes of a request, and of what the device answers it. -/
structure Recorded (s : SimulatedDevice) (request : SendData) : Prop where
  /-- A request that is not answered makes no difference to the device. -/
  lost : (s.handle (.sendData request)).2 = none → (s.handle (.sendData request)).1 = s
  answered : ∀ f, (s.handle (.sendData request)).2 = some f → ∃ (q : Query) (payload : Payload),
    q.AskedBy request.payload ∧ request.classId? = some q.kind.id ∧
    f = .applicationCommand { nodeId := s.id, payload } ∧ payload.classId = q.kind.id ∧
    ∀ before : Registry, before.contains q.kind.id = true →
      ∃ after, before.deliver q.kind.id payload = .ok after ∧
        (s.handle (.sendData request)).1.OnRecord before after q
  /-- A question that follows a command which sets the level is answered as that was. -/
  confirmed : ∀ f, (s.handle (.sendData request)).2 = some f →
    request.command? = some Command.set → ∀ get : SendData, get.classId? = request.classId? →
      get.command? = some Command.get →
      (s.handle (.sendData request)).1.handle (.sendData get) =
        ((s.handle (.sendData request)).1, some f)

/-- **What a device answers is what is recorded of it.** Any handler of the class reads the answer,
and has on record then what the device is. -/
theorem answers_recorded (s : SimulatedDevice) (request : SendData) : s.Recorded request := by
  rcases s.handle_sendData_cases request with lost | ⟨q, asked, reach, spoken, answered⟩
  · have silent : (s.handle (.sendData request)).2 = none := by rw [lost]
    refine ⟨fun _ => by rw [lost], ?_, ?_⟩
    · intro f told
      rw [silent] at told
      cases told
    · intro f told
      rw [silent] at told
      cases told
  · refine ⟨fun silent => ?_, fun f told => ?_, fun f told sets get same asks => ?_⟩
    · rw [answered] at silent
      cases silent
    · rw [answered] at told
      obtain rfl := Option.some.inj told
      exact ⟨q, _, asked, asked.classId?, rfl, DeviceModel.classId_reply _ q,
        fun before registered => onRecord_reply _ registered⟩
    · rw [answered] at told
      obtain rfl := Option.some.inj told
      obtain ⟨k, rfl, level⟩ := asked.report_of_set sets
      obtain ⟨rest, payload⟩ := SendData.payload_eq (same.trans asked.classId?) asks
      have repeated := handle_get (s := (s.handle (.sendData request)).1)
        ((s.isReachable_handle _).trans reach) level (by rwa [model_handle]) payload
      rwa [id_handle] at repeated

theorem answers_recorded_restored :
    ∃ (s : SimulatedDevice) (request get : SendData) (after : Registry), s.Recorded request ∧
      s.level = 0 ∧ request.payload = [ClassId.switchMultilevel, Command.set, Level.restore] ∧
      (s.handle (.sendData request)).2 =
        some (.applicationCommand ⟨4, ⟨ClassId.switchMultilevel, [Command.report, 99]⟩, 0⟩) ∧
      (Registry.empty.register (.fresh .switchMultilevel)).deliver ClassId.switchMultilevel
        ⟨ClassId.switchMultilevel, [Command.report, 99]⟩ = .ok after ∧
      after.dimmerLevel? = some 99 ∧
      get.payload = [ClassId.switchMultilevel, Command.get] ∧
      ((s.handle (.sendData request)).1.handle (.sendData get)).2 =
        (s.handle (.sendData request)).2 := by
  let s := SimulatedDevice.ofModel { id := 4, classes := [.switchMultilevel] }
  let request : SendData :=
    { label := "SWITCH_MULTILEVEL_SET", nodeId := 4,
      payload := [ClassId.switchMultilevel, Command.set, Level.restore] }
  let get : SendData :=
    { label := "SWITCH_MULTILEVEL_GET", nodeId := 4,
      payload := [ClassId.switchMultilevel, Command.get] }
  have recorded := s.answers_recorded request
  have told : (s.handle (.sendData request)).2 =
      some (.applicationCommand ⟨4, ⟨ClassId.switchMultilevel, [Command.report, 99]⟩, 0⟩) := by
    decide +kernel
  obtain ⟨q, payload, asked, own, same, -, read⟩ := recorded.answered _ told
  obtain ⟨k, rfl, -⟩ := asked.report_of_set rfl
  obtain rfl : .switchMultilevel = k := ClassKind.id_inj (Option.some.inj own)
  cases same
  obtain ⟨after, delivered, known⟩ := read (Registry.empty.register (.fresh .switchMultilevel)) rfl
  have repeated := recorded.confirmed _ told rfl get rfl rfl
  exact ⟨s, request, get, after, recorded, rfl, rfl, told, delivered, known, rfl,
    by rw [repeated, told]⟩

end SimulatedDevice

end ZWave
