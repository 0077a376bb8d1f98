import ZWave.Proofs.CommandClass.Refusal
import ZWave.Proofs.Node.History

/-!
# What a command reaches

The handler that reads a payload is the one of its class, or for Basic the one that the profile of
the node names instead, if that is registered. Both take payloads of that class
(`Node.id_mem_accepted_of_reader`), so nothing that reaches a handler is refused for being of
another class.

A payload is read by that handler alone. What is read stays with it, but for the report of the
version of a class, which is noted on the handler of that class (`Payload.Tells`). All else about
the node stays, and its transaction ends (`Node.command_confined`).
-/

namespace ZWave

/-- A payload reports that the device speaks a version of class `about`. -/
def Payload.Tells (p : Payload) (about version : UInt8) : Prop :=
  ∃ rest, p = ⟨ClassId.version, Command.classVersionReport :: about :: version :: rest⟩

namespace ClassKind

theorem id_mem_accepted (k : ClassKind) : k.id ∈ k.accepted := by cases k <;> decide

theorem eq_version_of_accepted {k : ClassKind} (h : ClassId.version ∈ k.accepted) : k = .version := by
  cases k with
  | version => rfl
  | basic | switchBinary | switchMultilevel | manufacturerSpecific => exact absurd h (by decide)

end ClassKind

theorem Profile.basic_mem_accepted (profile : Profile) {k : ClassKind}
    (reads : k.id = profile.basicReader ClassId.basic) : ClassId.basic ∈ k.accepted := by
  cases profile with
  | generic =>
    obtain rfl : k = .basic := ClassKind.id_inj reads
    decide
  | binarySwitch =>
    obtain rfl : k = .switchBinary := ClassKind.id_inj reads
    decide
  | multilevelSwitch =>
    obtain rfl : k = .switchMultilevel := ClassKind.id_inj reads
    decide

namespace Reading

theorem ofCommand_eq_classVersion_iff {k : ClassKind} {command : UInt8} {arguments : List UInt8}
    {about version : UInt8} :
    ofCommand k command arguments = .ok (.classVersion about version) ↔
      k = .version ∧ command = Command.classVersionReport ∧
        ∃ rest, arguments = about :: version :: rest := by
  unfold ofCommand
  cases k with
  | basic | switchBinary | switchMultilevel | manufacturerSpecific =>
    dsimp only
    split
    · split <;> simp
    · simp
  | version =>
    dsimp only
    split
    · next firmware =>
      have other : Command.versionReport ≠ Command.classVersionReport := by decide
      split <;> simp [firmware, other]
    · split
      · next report => split <;> simp_all
      · next other => simp [other]

theorem eq_classVersion_iff {k : ClassKind} {p : Payload} {reading : Reading}
    (read : ofPayload k p = .ok reading) (about version : UInt8) :
    reading = .classVersion about version ↔ p.Tells about version := by
  obtain ⟨classId, body⟩ := p
  unfold ofPayload at read
  split at read
  · next taken =>
    have accepted := ClassKind.reads_iff.1 taken
    cases body with
    | nil => cases read
    | cons command arguments =>
      change ofCommand k command arguments = .ok reading at read
      constructor
      · rintro rfl
        obtain ⟨rfl, rfl, rest, rfl⟩ := ofCommand_eq_classVersion_iff.1 read
        obtain rfl : classId = ClassId.version := List.mem_singleton.1 accepted
        exact ⟨rest, rfl⟩
      · rintro ⟨rest, told⟩
        cases told
        obtain rfl := ClassKind.eq_version_of_accepted accepted
        exact Except.ok.inj read.symm
  · cases read

end Reading

theorem Registry.get?_record_classVersion {r : Registry} {id about version : UInt8} {h : Handler}
    (found : r.get? id = some h) (k : UInt8) :
    (if k = id then some (h.record (.classVersion about version))
      else (r.get? k).map fun h => if k = about then h.setVersion version else h) =
    (r.get? k).map fun h => if k = about then h.setVersion version else h := by
  split
  · next same =>
    subst same
    rw [found, Option.map_some, Handler.record, id_of_get? found]
    simp only [eq_comm]
  · rfl

namespace Node

variable {n : Node} {p : Payload} {h : Handler}

/-! ## The handler that reads -/

theorem id_mem_accepted_of_reader {id : UInt8} (found : n.classes.get? (n.reader id) = some h) :
    id ∈ h.kind.accepted := by
  have keyed : h.kind.id = n.reader id := Registry.id_of_get? found
  unfold reader at keyed
  split at keyed
  · next mapped =>
    obtain ⟨rfl, -⟩ := mapped
    exact n.profile.basic_mem_accepted keyed
  · exact keyed ▸ h.kind.id_mem_accepted

theorem exists_reader {id : UInt8} (registered : n.classes.contains id = true) :
    ∃ h, n.classes.get? (n.reader id) = some h ∧ id ∈ h.kind.accepted := by
  have there : n.classes.contains (n.reader id) = true := by
    unfold reader
    split
    · next mapped => exact mapped.2
    · exact registered
  rw [Registry.contains_eq, Option.isSome_iff_exists] at there
  obtain ⟨h, found⟩ := there
  exact ⟨h, found, id_mem_accepted_of_reader found⟩

theorem reader_of_ne_basic {id : UInt8} (other : id ≠ ClassId.basic) : n.reader id = id :=
  if_neg fun mapped => other mapped.1

/-! ## What is heard -/

/-- A payload is read, or it changes no handler. -/
theorem heard_cases (n : Node) (p : Payload) :
    n.heard p = n.classes ∨
      n.classes.contains p.classId = true ∧
        ∃ h reading, n.classes.get? (n.reader p.classId) = some h ∧
          Reading.ofPayload h.kind p = .ok reading := by
  cases registered : n.classes.contains p.classId with
  | false =>
    left
    rw [heard, registered]
    rfl
  | true =>
    obtain ⟨h, found, -⟩ := exists_reader registered
    cases read : Reading.ofPayload h.kind p with
    | error e =>
      left
      have refuses := Reading.ofPayload_eq_error_iff.1 read
      rw [heard, Registry.deliver_eq_error_iff.2 ⟨h, found, refuses⟩]
      exact ite_self _
    | ok reading => exact .inr ⟨rfl, h, reading, found, read⟩

/-- What is read the reader records; the handler whose version it may tell notes that. -/
theorem get?_heard {reading : Reading} (registered : n.classes.contains p.classId = true)
    (found : n.classes.get? (n.reader p.classId) = some h)
    (read : Reading.ofPayload h.kind p = .ok reading) (k : UInt8) :
    (n.heard p).get? k =
      if k = n.reader p.classId then some (h.record reading)
      else (n.classes.get? k).map fun h => match reading with
        | .classVersion classId version => if k = classId then h.setVersion version else h
        | _ => h := by
  obtain ⟨classes, delivered, view⟩ := Registry.deliver_eq found read
  rw [heard, if_pos registered, delivered]
  exact view k

theorem get?_heard_of_ne {k : UInt8} (other : k ≠ n.reader p.classId)
    (untold : ∀ version, ¬ p.Tells k version) : (n.heard p).get? k = n.classes.get? k := by
  obtain same | ⟨registered, h, reading, found, read⟩ := n.heard_cases p
  · rw [same]
  · rw [get?_heard registered found read, if_neg other]
    cases reading with
    | classVersion about version =>
      have told := (Reading.eq_classVersion_iff read about version).1 rfl
      have unnamed : k ≠ about := fun same => untold version (same ▸ told)
      simp [unnamed]
    | value | identity | firmware | nothing => simp

theorem get?_heard_of_tells {about version : UInt8} (told : p.Tells about version)
    (registered : n.classes.contains p.classId = true) (k : UInt8) :
    (n.heard p).get? k =
      (n.classes.get? k).map fun h => if k = about then h.setVersion version else h := by
  obtain ⟨h, found, accepted⟩ := exists_reader registered
  obtain ⟨rest, rfl⟩ := told
  have kind : h.kind = .version := ClassKind.eq_version_of_accepted accepted
  have read : Reading.ofPayload h.kind
      ⟨ClassId.version, Command.classVersionReport :: about :: version :: rest⟩ =
      .ok (.classVersion about version) := by
    rw [kind]
    rfl
  rw [get?_heard registered found read]
  exact Registry.get?_record_classVersion found k

theorem get?_heard_reader (found : n.classes.get? (n.reader p.classId) = some h)
    (untold : ∀ about version, ¬ p.Tells about version) :
    ∃ learned, learned.kind = h.kind ∧
      (n.heard p).get? (n.reader p.classId) = some { h with learned } := by
  obtain same | ⟨registered, h', reading, found', read⟩ := n.heard_cases p
  · exact ⟨h.learned, rfl, by rw [same, found]⟩
  · obtain rfl : h = h' := Option.some.inj (found.symm.trans found')
    rw [get?_heard registered found read, if_pos rfl]
    cases reading with
    | classVersion about version =>
      exact absurd ((Reading.eq_classVersion_iff read about version).1 rfl) (untold about version)
    | value | identity | firmware | nothing =>
      exact ⟨_, Learned.kind_update .., rfl⟩

/-- Nothing that reaches a handler is refused for being of another class. -/
theorem deliver_ne_unexpectedClass (n : Node) (p : Payload) (expected actual : UInt8) :
    n.classes.deliver (n.reader p.classId) p ≠ .error (.unexpectedClass expected actual) := by
  intro failed
  obtain ⟨h, found, ⟨foreign⟩⟩ := Registry.deliver_eq_error_iff.1 failed
  exact foreign (id_mem_accepted_of_reader found)

/-! ## All that a command does -/

/-- What a command with the payload `p` makes of a node. -/
structure Confined (n : Node) (p : Payload) (after : Node) : Prop where
  /-- The transaction ends, and all but the handlers stays: the bring-up, the queues and whether the
  device listens. -/
  rest : after = { n with classes := after.classes, pending := none }
  unknown : n.classes.contains p.classId = false → after.classes = n.classes
  reached : n.classes.contains p.classId = true →
    ∃ h, n.classes.get? (n.reader p.classId) = some h ∧ p.classId ∈ h.kind.accepted
  /-- Payloads of any class but Basic are for its own handler. -/
  own : p.classId ≠ ClassId.basic → n.reader p.classId = p.classId
  /-- The handler that the profile names reads a Basic payload in place of Basic's own. -/
  mapped : p.classId = ClassId.basic →
    n.classes.contains (n.profile.basicReader ClassId.basic) = true →
      n.reader p.classId = n.profile.basicReader ClassId.basic ∧
      (n.profile.basicReader ClassId.basic ≠ ClassId.basic →
        after.classes.get? ClassId.basic = n.classes.get? ClassId.basic)
  unmapped : p.classId = ClassId.basic →
    n.classes.contains (n.profile.basicReader ClassId.basic) = false →
      n.reader p.classId = ClassId.basic
  /-- No other handler is changed, but for the one whose version is reported. -/
  others : ∀ k, k ≠ n.reader p.classId → (∀ version, ¬ p.Tells k version) →
    after.classes.get? k = n.classes.get? k
  told : ∀ about version, p.Tells about version → n.classes.contains p.classId = true →
    ∀ k, after.classes.get? k =
      (n.classes.get? k).map fun h => if k = about then h.setVersion version else h
  learned : (∀ about version, ¬ p.Tells about version) →
    ∀ h, n.classes.get? (n.reader p.classId) = some h →
      ∃ learned, learned.kind = h.kind ∧
        after.classes.get? (n.reader p.classId) = some { h with learned }
  taken : ∀ expected actual, n.classes.deliver (n.reader p.classId) p ≠
    .error (.unexpectedClass expected actual)

/-- **A command reaches one handler.** That of its class, or for Basic the one that the profile
names; no other changes but in its version. -/
theorem command_confined (n : Node) (command : ApplicationCommand) :
    n.Confined command.payload (n.receive (.applicationCommand command)).value := by
  rw [value_receive_command]
  constructor
  case rest => rfl
  case unknown =>
    intro unregistered
    change n.heard command.payload = n.classes
    rw [heard, unregistered]
    rfl
  case reached => exact exists_reader
  case own => exact reader_of_ne_basic
  case mapped =>
    intro basic target
    have reads : n.reader command.payload.classId = n.profile.basicReader ClassId.basic := by
      rw [basic, reader, if_pos ⟨rfl, target⟩]
    refine ⟨reads, fun other => ?_⟩
    refine get?_heard_of_ne (fun same => other (same.trans reads).symm) ?_
    -- what tells a version is of the class Version
    rintro version ⟨rest, told⟩
    have versions : ClassId.version = ClassId.basic := by rw [← basic, told]
    exact absurd versions (by decide)
  case unmapped =>
    intro basic absent
    rw [basic, reader, absent]
    simp
  case others => exact fun _ => get?_heard_of_ne
  case told => exact fun _ _ => get?_heard_of_tells
  case learned => exact fun untold _ found => get?_heard_reader found untold
  case taken => exact n.deliver_ne_unexpectedClass command.payload

theorem command_confined_dimmer :
    ∃ (n : Node) (level version alarm : Payload) (levelled versioned alarmed : Node),
      n.Confined level levelled ∧ n.Confined version versioned ∧ n.Confined alarm alarmed ∧
      n.profile = .multilevelSwitch ∧ n.pending = some (.requestNodeInfo 2) ∧
      n.classes.ids = [ClassId.basic, ClassId.switchMultilevel, ClassId.version] ∧
      level = ⟨ClassId.basic, [Command.report, 40]⟩ ∧
      n.reader ClassId.basic = ClassId.switchMultilevel ∧ levelled.pending = none ∧
      levelled.classes.get? ClassId.switchMultilevel =
        some { learned := .switchMultilevel (some 40) } ∧
      levelled.classes.get? ClassId.basic = some (.fresh .basic) ∧
      version.Tells ClassId.switchMultilevel 3 ∧
      versioned.classes.get? ClassId.switchMultilevel =
        some { learned := .switchMultilevel none, version := 3 } ∧
      versioned.classes.get? ClassId.version = some (.fresh .version) ∧
      alarm.classId = 0x71 ∧ alarmed.classes = n.classes := by
  let h : History := [.tick, .call (.register (.fresh .basic)),
    .call (.register (.fresh .switchMultilevel)), .call (.register (.fresh .version))].foldl
      History.step (.start
        { id := 2, info := ⟨{}, true⟩, factory := .standard, profile := .multilevelSwitch })
  let level : Payload := ⟨ClassId.basic, [Command.report, 40]⟩
  let version : Payload :=
    ⟨ClassId.version, [Command.classVersionReport, ClassId.switchMultilevel, 3]⟩
  let alarm : Payload := ⟨0x71, [5, 0]⟩
  have reported := h.node.command_confined ⟨2, level, 0⟩
  have spoken := h.node.command_confined ⟨2, version, 0⟩
  have lost := h.node.command_confined ⟨2, alarm, 0⟩
  have tells : version.Tells ClassId.switchMultilevel 3 := ⟨[], rfl⟩
  have registered : h.node.classes.contains ClassId.version = true := by decide +kernel
  obtain ⟨reads, unseen⟩ := reported.mapped rfl (by decide +kernel)
  refine ⟨h.node, level, version, alarm, _, _, _, reported, spoken, lost, rfl, by decide +kernel,
    by decide +kernel, rfl, reads, ?_, by decide +kernel, ?_, tells, ?_, ?_, rfl,
    lost.unknown (by decide +kernel)⟩
  · rw [reported.rest]
  · rw [unseen (by decide)]
    decide +kernel
  · rw [spoken.told _ _ tells registered]
    decide +kernel
  · rw [spoken.told _ _ tells registered]
    decide +kernel

end Node

end ZWave
