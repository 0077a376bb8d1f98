import ZWave.Proofs.Node.Updates

/-!
# Handlers stay

Handlers come to a node in two ways: it is given one, or its device reports classes while they are
not known. Neither touches a handler that is there (`get?_operate`), and a payload that is read
leaves every handler registered, as one of the same class (`exists_get?_operate`). A handler that is
taken out of the registry while its startup frames are queued is put back as it was
(`startDetached_eq`). So from any point of a history on the registry only grows
(`History.registry_grows`).
-/

namespace ZWave.Node

/-! ## Handlers that are taken out for a while -/

/-- The class of `id` is brought up with its handler taken out of the registry. -/
def startDetached (n : Node) (id : UInt8) : Traced NodeEvent Node :=
  match n.classes.get? id with
  | some handler => do
    let others := n.classes.without id
    let n ← { n with classes := others }.enqueueAll (handler.startup n.id others) true (.startup id)
    return { n with classes := n.classes.put handler }
  | none => pure n

theorem startDetached_eq (n : Node) (id : UInt8) : n.startDetached id = n.startClass id := by
  unfold startDetached startClass Registry.startup
  cases registered : n.classes.get? id with
  | none => rfl
  | some handler =>
    have returned : (n.classes.without id).put handler = n.classes :=
      Registry.put_without registered
    dsimp only
    rw [enqueueAll_eq, enqueueAll_eq]
    change (⟨{ n with
        classes := (n.classes.without id).put handler
        queues := n.queues.pushAll (handler.startup n.id (n.classes.without id)) true },
      _ ++ []⟩ : Traced NodeEvent Node) = _
    rw [returned, List.append_nil]

/-! ## What an operation does to a handler -/

def Operation.isCommand : Operation → Bool
  | call (.receive (.applicationCommand _)) => true
  | _ => false

/-- The handler that an operation brings for a class. -/
def Operation.brought? (n : Node) (id : UInt8) : Operation → Option Handler
  | call (.register handler) => if id = handler.id then some handler else none
  | call (.receive (.applicationUpdate u)) =>
    if n.state = .nodeInfo ∧ u.isFailure = false ∧ id ∈ u.classes then n.factory.create? id else none
  | _ => none

theorem get?_operate (n : Node) {op : Operation} (unread : op.isCommand = false) (id : UInt8) :
    (n.operate op).value.classes.get? id = (n.classes.get? id).or (op.brought? n id) := by
  cases op with
  | tick =>
    change n.tick.value.classes.get? id = (n.classes.get? id).or none
    rw [classes_tick, Option.or_none]
  | call c =>
    cases c with
    | queue | flush | setListening => exact Option.or_none.symm
    | register handler => exact Registry.get?_register ..
    | receive f =>
      cases f with
      | applicationCommand command => cases unread
      | applicationUpdate u =>
        change (n.update u).value.classes.get? id = _
        rw [classes_update, Operation.brought?]
        cases failed : u.isFailure with
        | true => simp
        | false =>
          rw [if_neg Bool.false_ne_true, informed]
          by_cases unknown : n.state = .nodeInfo
          · rw [if_pos unknown]
            simp only [unknown, true_and]
            exact Registry.get?_registerAll ..
          · rw [if_neg unknown]
            simp [unknown]
      | sendData | requestNodeInfo | other => exact Option.or_none.symm

theorem exists_get?_operate {n : Node} {id : UInt8} {handler : Handler}
    (registered : n.classes.get? id = some handler) (op : Operation) :
    ∃ handler', (n.operate op).value.classes.get? id = some handler' ∧
      handler'.kind = handler.kind := by
  have there : n.classes.contains id = true := by
    rw [Registry.contains_eq, registered]
    rfl
  have still := contains_operate there op
  rw [Registry.contains_eq, Option.isSome_iff_exists] at still
  obtain ⟨handler', registered'⟩ := still
  refine ⟨handler', registered', ClassKind.id_inj ?_⟩
  -- both stand under the id of their class
  exact (Registry.id_of_get? registered').trans (Registry.id_of_get? registered).symm

theorem register_of_contains {n : Node} {handler : Handler}
    (taken : n.classes.contains handler.id = true) :
    n.classes.admits handler = false ∧ n.register handler = n := by
  have refused : n.classes.admits handler = false := by
    rw [Registry.admits, taken]
    rfl
  refine ⟨refused, ?_⟩
  rw [register, Registry.register, refused]
  rfl

namespace History

/-- What is true of the handlers of a node from some point of its history on. -/
structure Grows (h : History) : Prop where
  keyed : h.node.classes.ids.Nodup ∧ h.node.classes.toList.map Handler.id = h.node.classes.ids ∧
    ∀ handler, handler ∈ h.node.classes.toList ↔
      h.node.classes.get? handler.id = some handler
  kept : ∀ (ops : List Operation) (id : UInt8) (handler : Handler),
    h.node.classes.get? id = some handler →
      ∃ handler', (ops.foldl step h).node.classes.get? id = some handler' ∧
        handler'.kind = handler.kind
  /-- A handler that is taken out while its class is brought up is put back as it was. -/
  attached : ∀ id, h.node.startDetached id = h.node.startClass id
  reported : ∀ u : ApplicationUpdate, h.node.state = .nodeInfo → u.isFailure = false → ∀ id,
    (id ∈ (h.step (.update u)).node.classes.ids ↔
      id ∈ h.node.classes.ids ∨ id ∈ u.classes ∧ (h.node.factory.create? id).isSome) ∧
    (h.step (.update u)).node.classes.get? id =
      (h.node.classes.get? id).or (if id ∈ u.classes then h.node.factory.create? id else none)
  refused : ∀ handler : Handler, h.node.classes.contains handler.id = true →
    h.node.classes.admits handler = false ∧ (h.step (.call (.register handler))).node = h.node
  untouched : ∀ (op : Operation) (id : UInt8) (handler : Handler), op.isCommand = false →
    h.node.classes.get? id = some handler →
      (h.step op).node.classes.get? id = some handler

theorem exists_get?_foldl {h : History} {id : UInt8} {handler : Handler}
    (registered : h.node.classes.get? id = some handler) (ops : List Operation) :
    ∃ handler', (ops.foldl step h).node.classes.get? id = some handler' ∧
      handler'.kind = handler.kind := by
  induction ops generalizing h handler with
  | nil => exact ⟨handler, registered, rfl⟩
  | cons op ops ih =>
    obtain ⟨next, there, kind⟩ := exists_get?_operate registered op
    obtain ⟨last, found, kind'⟩ := ih (h := h.step op) there
    exact ⟨last, found, kind'.trans kind⟩

/-- **The registry only grows.** A class that has a handler keeps it, what the device reports is
added, and a second handler of a class is refused. -/
theorem registry_grows (h : History) : h.Grows where
  keyed :=
    ⟨h.node.classes.handlers.nodup_ids, h.node.classes.map_id_toList, h.node.classes.mem_toList⟩
  kept := fun ops _ _ registered => exists_get?_foldl registered ops
  attached := h.node.startDetached_eq
  reported := by
    intro u unknown told id
    constructor
    · rw [Registry.mem_ids, Registry.mem_ids]
      exact contains_update_iff unknown told id
    · have unread : (Operation.update u).isCommand = false := rfl
      rw [node_step, get?_operate _ unread, Operation.brought?]
      simp [unknown, told]
  refused := fun _ taken => register_of_contains taken
  untouched := by
    intro op id handler unread registered
    rw [node_step, get?_operate _ unread, registered, Option.some_or]

theorem registry_grows_dimmer :
    ∃ (h : History) (u : ApplicationUpdate) (given read : Handler),
      h.Grows ∧ h.node.state = .nodeInfo ∧ h.node.classes.ids = [ClassId.switchMultilevel] ∧
      h.node.classes.get? ClassId.switchMultilevel = some given ∧
      given = { learned := .switchMultilevel (some 50), version := 2 } ∧
      u.classes = [ClassId.basic, ClassId.switchMultilevel, 0x84, ClassId.basic] ∧
      (h.step (.update u)).node.classes.ids = [ClassId.basic, ClassId.switchMultilevel] ∧
      (h.step (.update u)).node.classes.get? ClassId.switchMultilevel = some given ∧
      h.node.classes.admits (.fresh .switchMultilevel) = false ∧
      (h.step (.call (.register (.fresh .switchMultilevel)))).node = h.node ∧
      ([.update u, .call (.receive (.applicationCommand
        ⟨2, ⟨ClassId.switchMultilevel, [Command.report, 30]⟩, 0⟩)), .tick].foldl step h
        ).node.classes.get? ClassId.switchMultilevel = some read ∧
      read = { learned := .switchMultilevel (some 30), version := 2 } ∧ read.kind = given.kind := by
  let given : Handler := { learned := .switchMultilevel (some 50), version := 2 }
  let u : ApplicationUpdate :=
    .infoReceived 2 ⟨{}, [ClassId.basic, ClassId.switchMultilevel, 0x84, ClassId.basic]⟩
  let h : History :=
    (start { id := 2, info := ⟨{}, true⟩, factory := .standard }).step (.call (.register given))
  have grows := h.registry_grows
  have registered : h.node.classes.get? ClassId.switchMultilevel = some given := by decide +kernel
  obtain ⟨refused, same⟩ := grows.refused (.fresh .switchMultilevel) (by decide +kernel)
  obtain ⟨read, found, kind⟩ := grows.kept [.update u, .call (.receive (.applicationCommand
    ⟨2, ⟨ClassId.switchMultilevel, [Command.report, 30]⟩, 0⟩)), .tick] _ _ registered
  have learned : some read = some { learned := .switchMultilevel (some 30), version := 2 } := by
    rw [← found]
    decide +kernel
  exact ⟨h, u, given, read, grows, by decide +kernel, by decide +kernel, registered, rfl, rfl,
    by decide +kernel, grows.untouched _ _ _ rfl registered, refused, same, found,
    Option.some.inj learned, kind⟩

end History

end ZWave.Node
