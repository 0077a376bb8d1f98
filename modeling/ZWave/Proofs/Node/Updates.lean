import ZWave.Proofs.Node.BringUp
import ZWave.Proofs.Node.Conservation

/-!
# What an update does

While the classes of a node are not known, an update ends the discovery, whatever its status says
and whether or not it tells any information: only the first that reports a failure is waited out
(`History.discovery_ends`). The classes that are known afterwards are those that it told.

Once the classes are known, an update means that the device is awake, whatever it says: it releases
what is held back, has the view of the device refreshed and ends the transaction, and that is all
(`update_wakes`). In discovery it releases nothing, even if it tells the information of the node
(`History.released_iff`).
-/

namespace ZWave

theorem Lifecycle.next_of_unknown {l : Lifecycle} (unknown : l.state = .nodeInfo)
    (event : LifecycleEvent) :
    l.next event = match event with
      | .infoFailed => if l.retries = 0 then ⟨.nodeInfo, 1⟩ else ⟨.statePending, 0⟩
      | .infoReceived versioned => ⟨if versioned then .versionPending else .statePending, 0⟩
      | _ => l := by
  obtain ⟨state, retries⟩ := l
  cases unknown
  cases event with
  | tick | queueDrained | infoReceived => rfl
  | infoFailed =>
    cases retries with
    | zero => rfl
    | succ retries => simp [next, step, apply]

theorem Lifecycle.step_of_known {l : Lifecycle} (known : l.state ≠ .nodeInfo) {event : LifecycleEvent}
    (told : event = .infoFailed ∨ ∃ versioned, event = .infoReceived versioned) :
    l.step event = { effects := [.flushWakeupQueue, .refresh] } := by
  obtain ⟨state, retries⟩ := l
  obtain rfl | ⟨versioned, rfl⟩ := told
  · cases state with
    | nodeInfo => exact absurd rfl known
    | versionPending | versionQueued | statePending | stateQueued | started => rfl
  · cases state with
    | nodeInfo => exact absurd rfl known
    | versionPending | versionQueued | statePending | stateQueued | started => rfl

/-- Nothing is held back any more; what was goes ahead of what was to be sent. -/
def Queues.ReleasedTo (before after : Queues) : Prop :=
  after.wakeup = [] ∧ before.wakeup ++ before.write <+: after.write

namespace Node

abbrev Operation.update (u : ApplicationUpdate) : Operation :=
  .call (.receive (.applicationUpdate u))

def Operation.fails : Operation → Bool
  | call (.receive (.applicationUpdate u)) => u.isFailure
  | _ => false

theorem Operation.fails_of_not_update {op : Operation} (other : ∀ u, op ≠ .update u) :
    op.fails = false := by
  unfold fails
  split
  · next u => exact absurd rfl (other u)
  · rfl

theorem lifecycle_update (n : Node) (u : ApplicationUpdate) :
    (n.operate (.update u)).value.lifecycle = n.lifecycle.next (n.reported u) :=
  (follows_operate n (.update u)).lifecycle

/-- In discovery nothing but an update moves the bring-up. -/
theorem lifecycle_of_not_update {n : Node} (unknown : n.state = .nodeInfo) {op : Operation}
    (other : ∀ u, op ≠ .update u) : (n.operate op).value.lifecycle = n.lifecycle := by
  rw [(follows_operate n op).lifecycle]
  cases op with
  | tick =>
    have tick : n.lifecycle.next .tick = n.lifecycle := Lifecycle.next_of_unknown unknown .tick
    have drained : n.lifecycle.next .queueDrained = n.lifecycle :=
      Lifecycle.next_of_unknown unknown .queueDrained
    change (if n.prepared.drained then [LifecycleEvent.queueDrained] else []).foldl Lifecycle.next
      (n.lifecycle.next .tick) = n.lifecycle
    rw [tick]
    split
    · exact drained
    · rfl
  | call c =>
    cases c with
    | receive f =>
      cases f with
      | applicationUpdate u => exact absurd rfl (other u)
      | applicationCommand | sendData | requestNodeInfo | other => rfl
    | queue | flush | setListening | register => rfl

theorem state_update_eq_iff {n : Node} (unknown : n.state = .nodeInfo) (u : ApplicationUpdate) :
    (n.operate (.update u)).value.state = .nodeInfo ↔
      u.isFailure = true ∧ n.lifecycle.retries = 0 := by
  rw [Node.state, lifecycle_update, Lifecycle.next_of_unknown unknown, reported]
  cases u.isFailure with
  | false =>
    simp only [Bool.false_eq_true, if_false, false_and, iff_false]
    split <;> decide
  | true =>
    by_cases first : n.lifecycle.retries = 0
    · simp [first]
    · simp [first]

theorem contains_update_iff {n : Node} (unknown : n.state = .nodeInfo) {u : ApplicationUpdate}
    (told : u.isFailure = false) (k : UInt8) :
    (n.operate (.update u)).value.classes.contains k = true ↔
      n.classes.contains k = true ∨ k ∈ u.classes ∧ (n.factory.create? k).isSome := by
  have classes : (n.operate (.update u)).value.classes =
      n.classes.registerAll n.factory u.classes := by
    change (n.update u).value.classes = _
    rw [classes_update, told, informed, if_pos unknown]
    rfl
  rw [classes, Registry.contains_eq, Registry.get?_registerAll, Option.isSome_or,
    Bool.or_eq_true, ← Registry.contains_eq]
  by_cases hk : k ∈ u.classes
  · simp [hk]
  · simp [hk]

/-! ## What is released -/

theorem queues_update_of_unknown {n : Node} (unknown : n.state = .nodeInfo)
    {u : ApplicationUpdate} (told : u.isFailure = false) :
    (n.operate (.update u)).value.queues = n.queues := by
  change (n.update u).value.queues = n.queues
  rw [queues_update]
  simp [Operation.filled, Operation.released, Operation.releases, Operation.frames, unknown, told,
    Queues.pushAll]

theorem queues_update_of_known {n : Node} (known : n.state ≠ .nodeInfo) (u : ApplicationUpdate) :
    (n.operate (.update u)).value.queues =
      { n.queues with
        write := n.queues.wakeup ++ n.queues.write ++ n.profile.refresh n.id
        wakeup := [] } := by
  change (n.receive (.applicationUpdate u)).value.queues = _
  rw [value_receive_update_of_known known]

namespace History

/-- How often a request for the node's information failed. -/
def failures (h : History) : Nat := h.operations.countP Operation.fails

theorem failures_step (h : History) (op : Operation) :
    (h.step op).failures = h.failures + op.fails.toNat := by
  unfold failures
  rw [operations_step, List.countP_append, List.countP_singleton]
  cases op.fails <;> rfl

theorem retries_eq_failures {h : History} (unknown : h.node.state = .nodeInfo) :
    h.node.lifecycle.retries = h.failures := by
  induction h with
  | start s =>
    have fresh : (start s).node.lifecycle = {} := lifecycle_start s
    rw [fresh]
    rfl
  | step h op ih =>
    have before := unknown_of_operate unknown
    have same := ih before
    rw [failures_step, ← same, node_step]
    rw [node_step] at unknown
    by_cases update : ∃ u, op = .update u
    · obtain ⟨u, rfl⟩ := update
      obtain ⟨failed, first⟩ := (state_update_eq_iff before u).1 unknown
      have counted : (Operation.update u).fails = true := failed
      rw [lifecycle_update, Lifecycle.next_of_unknown before, reported, if_pos failed, counted,
        first]
      rfl
    · have other : ∀ u, op ≠ .update u := fun u hu => update ⟨u, hu⟩
      rw [lifecycle_of_not_update before other, Operation.fails_of_not_update other]
      rfl

/-- The last operation shows which classes the device has: it told its information, or a request for
that failed for the second time. -/
def Evidenced (h : History) (op : Operation) : Prop :=
  ∃ u, op = .update u ∧
    (u.status = UpdateStatus.infoReceived ∧ u.info.isSome ∧
        (∀ k ∈ u.classes, (h.node.factory.create? k).isSome →
          (h.step op).node.classes.contains k = true) ∨
      u.isFailure = true ∧ h.failures = 1)

theorem state_step_ne_iff (h : History) (op : Operation) (unknown : h.node.state = .nodeInfo) :
    (h.step op).node.state ≠ .nodeInfo ↔
      ∃ u, op = .update u ∧ (u.isFailure = true → h.failures = 1) := by
  have same := retries_eq_failures unknown
  have few := h.counted.le
  rw [node_step]
  constructor
  · intro ends
    by_cases update : ∃ u, op = .update u
    · obtain ⟨u, rfl⟩ := update
      refine ⟨u, rfl, fun failed => ?_⟩
      have again : h.node.lifecycle.retries ≠ 0 := fun first =>
        ends ((state_update_eq_iff unknown u).2 ⟨failed, first⟩)
      omega
    · have other : ∀ u, op ≠ .update u := fun u hu => update ⟨u, hu⟩
      rw [Node.state, lifecycle_of_not_update unknown other] at ends
      exact absurd unknown ends
  · rintro ⟨u, rfl, second⟩ stays
    obtain ⟨failed, first⟩ := (state_update_eq_iff unknown u).1 stays
    have := second failed
    omega

/-- **What ends the discovery.** Any update but the first that reports a failure, also one without
information; the classes it tells are registered, and no other. -/
theorem discovery_ends (h : History) (op : Operation) (unknown : h.node.state = .nodeInfo) :
    ((h.step op).node.state ≠ .nodeInfo ↔
      ∃ u, op = .update u ∧ (u.isFailure = true → h.failures = 1)) ∧
    (∀ u, op = .update u → u.isFailure = false → ∀ k,
      (h.step op).node.classes.contains k = true ↔
        h.node.classes.contains k = true ∨ k ∈ u.classes ∧ (h.node.factory.create? k).isSome) ∧
    ((h.step op).node.state ≠ .nodeInfo →
      (h.Evidenced op ↔ ∃ u, op = .update u ∧
        (u.status = UpdateStatus.infoReceived ∧ u.info.isSome ∨ u.isFailure = true))) := by
  have ends := h.state_step_ne_iff op unknown
  refine ⟨ends, fun u update told k => ?_, fun known => ?_⟩
  · subst update
    exact contains_update_iff unknown told k
  · obtain ⟨u, rfl, second⟩ := ends.1 known
    constructor
    · rintro ⟨v, same, ⟨status, info, -⟩ | ⟨failed, -⟩⟩
      · cases same
        exact ⟨u, rfl, .inl ⟨status, info⟩⟩
      · cases same
        exact ⟨u, rfl, .inr failed⟩
    · rintro ⟨v, same, ⟨status, info⟩ | failed⟩
      · cases same
        have told : u.isFailure = false := by
          rw [ApplicationUpdate.isFailure, status]
          decide
        refine ⟨u, rfl, .inl ⟨status, info, fun k hk creates => ?_⟩⟩
        exact (contains_update_iff unknown told k).2 (.inr ⟨hk, creates⟩)
      · cases same
        exact ⟨u, rfl, .inr ⟨failed, second failed⟩⟩

/-- Told only that its request was delivered, a node ends its discovery with no class known. -/
theorem discovery_ends_unanswered :
    ∃ (h : History) (u : ApplicationUpdate), u.status = UpdateStatus.requestDone ∧ u.info = none ∧
      h.node.state = .nodeInfo ∧ h.node.pending = some (.requestNodeInfo 2) ∧
      (h.step (.update u)).node.state = .statePending ∧ ¬ h.Evidenced (.update u) ∧
      ((h.step (.update u)).step (.update (.infoReceived 2 ⟨{}, [ClassId.switchBinary]⟩))).node.classes.ids
        = [] := by
  let h : History := (start { id := 2, info := ⟨{}, true⟩, factory := .standard }).step .tick
  let u : ApplicationUpdate := ⟨UpdateStatus.requestDone, 2, none⟩
  have unknown : h.node.state = .nodeInfo := by decide +kernel
  obtain ⟨ends, -, evidence⟩ := h.discovery_ends (.update u) unknown
  have known : (h.step (.update u)).node.state ≠ .nodeInfo := ends.2 ⟨u, rfl, by decide⟩
  refine ⟨h, u, rfl, rfl, unknown, by decide +kernel, by decide +kernel, ?_, by decide +kernel⟩
  intro shown
  obtain ⟨v, same, told⟩ := (evidence known).1 shown
  cases same
  exact absurd told (by decide)

/-- **What an update that tells information releases.** All that is held back if the classes of the
node are known, and in discovery nothing. -/
theorem released_iff (h : History) {u : ApplicationUpdate}
    (awake : u.status = UpdateStatus.infoReceived) :
    (h.node.queues.ReleasedTo (h.step (.update u)).node.queues ↔
      (h.node.state = .nodeInfo → h.node.queues.wakeup = [])) ∧
    (h.node.state = .nodeInfo → (h.step (.update u)).node.queues = h.node.queues) ∧
    (h.node.queues.listening = true → h.node.queues.wakeup = []) := by
  have told : u.isFailure = false := by
    rw [ApplicationUpdate.isFailure, awake]
    decide
  refine ⟨?_, fun unknown => queues_update_of_unknown unknown told, h.wakeup_of_listening⟩
  rw [node_step]
  by_cases unknown : h.node.state = .nodeInfo
  · rw [queues_update_of_unknown unknown told]
    constructor
    · exact fun released _ => released.1
    · intro nothing
      have empty := nothing unknown
      have whole : h.node.queues.wakeup ++ h.node.queues.write = h.node.queues.write := by
        simp [empty]
      exact ⟨empty, [], by rw [whole, List.append_nil]⟩
  · rw [queues_update_of_known unknown]
    refine ⟨fun _ low => absurd low unknown, fun _ => ⟨rfl, ?_⟩⟩
    exact List.prefix_append ..

theorem released_iff_discovery :
    ∃ (h : History) (u : ApplicationUpdate), u.status = UpdateStatus.infoReceived ∧
      h.node.queues.wakeup = [Request.basicSet 2 0xFF] ∧
      ¬ h.node.queues.ReleasedTo (h.step (.update u)).node.queues ∧
      (h.step (.update u)).node.queues = h.node.queues ∧
      (h.step (.update u)).node.queues.ReleasedTo
        ((h.step (.update u)).step (.update u)).node.queues := by
  let h : History := (start { id := 2, info := ⟨{}, false⟩, factory := .standard }).step
    (.call (.queue (Request.basicSet 2 0xFF) true))
  let u : ApplicationUpdate := .infoReceived 2 ⟨{}, [ClassId.basic]⟩
  have held : h.node.queues.wakeup = [Request.basicSet 2 0xFF] := by decide +kernel
  have unknown : h.node.state = .nodeInfo := by decide +kernel
  have known : (h.step (.update u)).node.state ≠ .nodeInfo := by decide +kernel
  obtain ⟨released, same, -⟩ := h.released_iff (u := u) rfl
  obtain ⟨later, -, -⟩ := (h.step (.update u)).released_iff (u := u) rfl
  refine ⟨h, u, rfl, held, fun now => ?_, same unknown, later.2 fun low => absurd low known⟩
  rw [released.1 now unknown] at held
  cases held

end History

/-! ## What wakes a node -/

theorem events_update_of_known {n : Node} (known : n.state ≠ .nodeInfo) (u : ApplicationUpdate) :
    (n.update u).events =
      (n.profile.refresh n.id).map fun frame => .queued frame .write .refresh := by
  have woken : ∀ event, event = .infoFailed ∨ (∃ versioned, event = .infoReceived versioned) →
      (n.handle event).events =
        (n.flush.enqueueAll (n.profile.refresh n.id) false .refresh).events := by
    intro event told
    rw [events_handle, Lifecycle.step_of_known known told]
    -- releasing what is held back leaves no trace
    exact List.append_nil _
  have asked : (n.update u).events =
      (n.flush.enqueueAll (n.profile.refresh n.id) false .refresh).events := by
    unfold update
    rw [if_neg known]
    split
    · exact woken _ (.inl rfl)
    · exact woken _ (.inr ⟨_, rfl⟩)
  rw [asked, enqueueAll_eq]
  rfl

/-- What an update does to a node that knows its classes. -/
structure Woken (n : Node) (u : ApplicationUpdate) : Prop where
  node : (n.receive (.applicationUpdate u)).value =
    { n with
      queues := { n.queues with
        write := n.queues.wakeup ++ n.queues.write ++ n.profile.refresh n.id
        wakeup := [] }
      pending := none }
  events : (n.receive (.applicationUpdate u)).events = .received .update ::
    (n.profile.refresh n.id).map fun frame => .queued frame .write .refresh
  silent : sent (n.receive (.applicationUpdate u)).events = []

/-- **Past discovery an update only wakes the node.** What is held back is released, the refreshing
frames are queued behind, and the transaction ends. -/
theorem update_wakes {n : Node} (known : n.state ≠ .nodeInfo) (u : ApplicationUpdate) : n.Woken u where
  node := value_receive_update_of_known known u
  events := by
    change .received .update :: ((n.update u).events ++ []) = _
    rw [List.append_nil, events_update_of_known known]
  silent := sent_eq_nil (emits_receive n _)

theorem update_wakes_failed :
    ∃ (h : History) (u : ApplicationUpdate), h.node.Woken u ∧ u.isFailure = true ∧
      h.node.state = .stateQueued ∧ h.node.pending = some (Request.basicGet 2) ∧
      h.node.queues =
        { listening := false
          write := [Request.basicSet 2 0]
          wakeup := [Request.switchMultilevelGet 2] } ∧
      (h.node.receive (.applicationUpdate u)).value.queues =
        { listening := false
          write := [Request.switchMultilevelGet 2, Request.basicSet 2 0,
            Request.switchMultilevelGet 2]
          wakeup := [] } ∧
      (h.node.receive (.applicationUpdate u)).value.pending = none := by
  let h : History := [.update (.infoReceived 2 ⟨{}, [ClassId.switchMultilevel]⟩),
    .call (.queue (Request.basicGet 2) false), .tick, .call (.queue (Request.basicSet 2 0) false)].foldl
      History.step (.start
        { id := 2, info := ⟨{}, false⟩, factory := .standard, profile := .multilevelSwitch })
  let u : ApplicationUpdate := .requestFailed
  have woken : h.node.Woken u := update_wakes (by decide +kernel) u
  refine ⟨h, u, woken, rfl, by decide +kernel, by decide +kernel, by decide +kernel, ?_, ?_⟩
  · rw [woken.node]
    decide +kernel
  · rw [woken.node]

end Node

end ZWave
