import ZWave.Proofs.CommandClass.Registry
import ZWave.Proofs.Node.Advance

/-!
# The bring-up goes forward

The bring-up of a node is that of the events it was told of so far (`History.lifecycle_eq`), so that
what holds of every run of a bring-up holds of every history of a node (`History.bringUp_forward`).
Which states are entered also depends on the handlers, none of which is ever taken away
(`contains_operate`), and the requests for information that the node queues are those its bring-up
tries again (`count_frames`).
-/

namespace ZWave.Node

open Traced (Emits)

/-! ## The Version class -/

theorem classes_handle (n : Node) (event : LifecycleEvent) :
    (n.handle event).value.classes = n.classes := by
  obtain ⟨_, _, _, h, -⟩ := value_handle_eq n event
  rw [h]

theorem classes_tick (n : Node) : n.tick.value.classes = n.classes := by
  have prepared : n.prepared.classes = n.classes := classes_handle n .tick
  rw [value_tick, proceed]
  split
  · exact prepared
  · split
    · exact prepared
    · rw [classes_handle, prepared]

theorem contains_heard (n : Node) (p : Payload) (k : UInt8) :
    (n.heard p).contains k = n.classes.contains k := by
  unfold heard
  split
  · split
    · next ok => exact Registry.contains_deliver ok k
    · rfl
  · rfl

theorem classes_update (n : Node) (u : ApplicationUpdate) :
    (n.update u).value.classes = (if u.isFailure then n else n.informed u).classes := by
  rw [update_eq, classes_handle]

theorem contains_operate {n : Node} {k : UInt8} (h : n.classes.contains k = true)
    (op : Operation) : (n.operate op).value.classes.contains k = true := by
  cases op with
  | tick =>
    change n.tick.value.classes.contains k = true
    rw [classes_tick]
    exact h
  | call c =>
    cases c with
    | queue | flush | setListening => exact h
    | register handler => exact Registry.contains_register h handler
    | receive f =>
      cases f with
      | applicationCommand command =>
        change (n.receive (.applicationCommand command)).value.classes.contains k = true
        rw [value_receive_command]
        exact (contains_heard n command.payload k).trans h
      | applicationUpdate u =>
        change (n.update u).value.classes.contains k = true
        rw [classes_update]
        unfold informed
        split
        · exact h
        · split
          · exact Registry.contains_registerAll h n.factory u.classes
          · exact h
      | sendData | requestNodeInfo | other => exact h

theorem contains_update {n : Node} {u : ApplicationUpdate}
    (h : n.reported u = .infoReceived true) :
    (n.update u).value.classes.contains ClassId.version = true := by
  unfold reported at h
  rw [classes_update]
  split at h
  · cases h
  · next ok =>
    rw [if_neg ok]
    simpa using h

/-- The states of the Version class are entered only when that is registered. -/
theorem contains_of_entered {n : Node} {op : Operation} {a b : NodeState}
    (pending : n.state = .versionPending → n.classes.contains ClassId.version = true)
    (entered : (a, b) ∈ n.state.transitions (entered (n.operate op).events))
    (version : b = .versionPending ∨ b = .versionQueued) :
    (n.operate op).value.classes.contains ClassId.version = true := by
  rw [(follows_operate n op).entered] at entered
  obtain ⟨before, event, after, told, ha, hb⟩ := Lifecycle.mem_transitions_entered entered
  rcases told_split told with ⟨rfl, rfl, rfl⟩ | ⟨-, rfl, -⟩ | ⟨u, rfl, he⟩
  · cases hb with
    | versionTold => exact contains_operate (pending ha) .tick
    | stateTold => simp at version
  · cases hb <;> simp at version
  · cases hb with
    | versioned => exact contains_update he.symm
    | unknown | known | versionSent | stateSent => simp at version
    | versionTold | stateTold =>
      rcases n.reported_cases u with h | ⟨versioned, h⟩
      all_goals
        rw [h] at he
        cases he

/-- The two states whose frames are to go out are left only by a tick with nothing to send. -/
theorem drained_of_left {n : Node} {op : Operation} {a b : NodeState}
    (entered : (a, b) ∈ n.state.transitions (entered (n.operate op).events))
    (queued : a = .versionQueued ∨ a = .stateQueued) :
    op = .tick ∧ n.pending = none ∧ n.prepared.queues.write = [] := by
  rw [(follows_operate n op).entered] at entered
  obtain ⟨before, event, after, told, -, hb⟩ := Lifecycle.mem_transitions_entered entered
  rcases told_split told with ⟨-, rfl, -⟩ | ⟨rfl, -, idle, empty⟩ | ⟨u, -, rfl⟩
  · cases hb <;> simp at queued
  · exact ⟨rfl, idle, empty⟩
  · rcases n.reported_cases u with he | ⟨versioned, he⟩
    all_goals
      rw [he] at hb
      cases hb <;> simp at queued

/-! ## Requests for node information -/

def Operation.asks : Operation → Bool
  | call (.queue frame _) => frame.isNodeInfoRequest
  | _ => false

theorem count_queries (queries : List Query) (id : NodeId) :
    (queries.map (Query.frame id)).countP Frame.isNodeInfoRequest = 0 := by
  simp [List.countP_eq_zero]

theorem startup_eq (n : Node) : n.startup = n.nextQueries.map (Query.frame n.id) := by
  unfold startup nextQueries
  cases n.state with
  | versionPending => exact n.versionStartup_eq
  | statePending => exact n.stateStartup_eq
  | nodeInfo | versionQueued | stateQueued | started => rfl

theorem count_frames (n : Node) (op : Operation) :
    (op.frames n).countP Frame.isNodeInfoRequest =
      op.asks.toNat + n.lifecycle.retried (op.told n) := by
  cases op with
  | tick =>
    have frames : Operation.tick.frames n = n.startup := rfl
    have unfailing : .infoFailed ∉ Operation.tick.told n := by
      change LifecycleEvent.infoFailed ∉
        LifecycleEvent.tick :: if n.prepared.drained then [LifecycleEvent.queueDrained] else []
      split <;> decide
    rw [frames, startup_eq, count_queries, Lifecycle.retried_of_not_mem unfailing]
    rfl
  | call c =>
    cases c with
    | queue frame defer =>
      change [frame].countP Frame.isNodeInfoRequest = frame.isNodeInfoRequest.toNat + 0
      rw [List.countP_singleton]
      cases frame.isNodeInfoRequest <;> rfl
    | receive f =>
      cases f with
      | applicationUpdate u =>
        have told : n.lifecycle.retried [n.reported u] =
            (n.lifecycle.step (n.reported u)).retried.toNat := rfl
        change (if n.state = .nodeInfo then
          if u.isFailure ∧ n.lifecycle.retries < maxInfoRetries then [.requestNodeInfo n.id] else []
          else n.profile.refresh n.id).countP Frame.isNodeInfoRequest =
            0 + n.lifecycle.retried [n.reported u]
        rw [told, n.lifecycle.retried_step, Nat.zero_add]
        by_cases known : n.state = .nodeInfo
        · have state : n.lifecycle.state = .nodeInfo := known
          rw [if_pos known]
          unfold reported
          cases u.isFailure with
          | false => simp
          | true =>
            by_cases retry : n.lifecycle.retries < maxInfoRetries
            · simp [state, retry, Frame.isNodeInfoRequest]
            · simp [retry]
        · have state : n.lifecycle.state ≠ .nodeInfo := known
          have query := n.profile.query.isNodeInfoRequest_frame n.id
          rw [if_neg known, Profile.refresh_eq, List.countP_singleton, query]
          simp [state]
      | applicationCommand | sendData | requestNodeInfo | other => rfl
    | flush | setListening | register => rfl

/-! ## Histories -/

namespace History

/-- What the bring-up was told of so far. -/
def told : History → List LifecycleEvent
  | start _ => []
  | step h op => h.told ++ op.told h.node

/-- The states that were entered so far. -/
def entered (h : History) : List NodeState := Node.entered h.events

theorem lifecycle_start (s : Setup) : s.start.value.lifecycle = {} := by
  rw [Setup.start_eq]

theorem follows_told (h : History) : h.setup.start.value.Follows h.told ⟨h.node, h.events⟩ := by
  induction h with
  | start s =>
    have quiet : Emits Aside s.start := by
      intro e he
      rw [Setup.start_eq] at he
      obtain ⟨_, -, rfl⟩ := List.mem_map.1 he
      exact ⟨rfl, nofun, nofun⟩
    exact follows_nil rfl quiet
  | step h op ih => exact ih.bind (f := fun n => n.operate op) (follows_operate h.node op)

theorem lifecycle_eq (h : History) : h.node.lifecycle = ({} : Lifecycle).run h.told := by
  rw [← lifecycle_start h.setup]
  exact h.follows_told.lifecycle

theorem entered_eq (h : History) : h.entered = ({} : Lifecycle).entered h.told := by
  rw [← lifecycle_start h.setup]
  exact h.follows_told.entered

theorem climbs (h : History) : NodeState.nodeInfo.Climbs h.entered h.node.state := by
  rw [entered_eq, Node.state, h.lifecycle_eq]
  exact ({} : Lifecycle).climbs h.told

theorem climbs_operate (h : History) (op : Operation) :
    h.node.state.Climbs (Node.entered (h.node.operate op).events)
      (h.node.operate op).value.state :=
  h.node.climbs_operate op

theorem entered_start (s : Setup) : (start s).entered = [] := s.filterMap_start fun _ => rfl

theorem entered_step (h : History) (op : Operation) :
    (h.step op).entered = h.entered ++ Node.entered (h.node.operate op).events :=
  entered_append ..

theorem lt_of_mem_entered {h : History} {op : Operation} {a b : NodeState} (before : a ∈ h.entered)
    (now : b ∈ Node.entered (h.node.operate op).events) : a < b := by
  have climbing := (List.pairwise_cons.1 (h.step op).climbs.pairwise).2
  rw [entered_step] at climbing
  exact (List.pairwise_append.1 climbing).2.2 a before b now

theorem not_mem_entered {h : History} {op : Operation} {b : NodeState}
    (now : b ∈ Node.entered (h.node.operate op).events) : b ∉ h.entered :=
  fun before => Nat.lt_irrefl _ (lt_of_mem_entered before now)

/-- A node that is to ask for versions has the Version class registered. -/
theorem contains_of_versionPending (h : History) (pending : h.node.state = .versionPending) :
    h.node.classes.contains ClassId.version = true := by
  induction h with
  | start s =>
    have low : (start s).node.state = .nodeInfo := congrArg Lifecycle.state (lifecycle_start s)
    rw [low] at pending
    cases pending
  | step h op ih =>
    -- The state is the one before, or the operation entered it.
    rcases (h.climbs_operate op).mem_transitions with same | ⟨a, entered⟩
    · exact contains_operate (ih (same.trans pending)) op
    · rw [node_step] at pending
      rw [pending] at entered
      exact contains_of_entered ih entered (.inl rfl)

theorem counted (h : History) : h.node.lifecycle.Counted := by
  have fresh : ({} : Lifecycle).Counted := ⟨Nat.zero_le 1, fun _ => rfl⟩
  rw [h.lifecycle_eq]
  exact fresh.run h.told

theorem count_retried (h : History) :
    h.events.count .retried = ({} : Lifecycle).retried h.told := by
  rw [← lifecycle_start h.setup]
  exact h.follows_told.retried

theorem count_retried_le (h : History) : h.events.count .retried ≤ 1 := by
  have bound := Lifecycle.retried_le (l := {}) ⟨Nat.zero_le 1, fun _ => rfl⟩ h.told
  rw [count_retried]
  exact Nat.le_trans (Nat.le_add_left ..) bound

/-- The history of a node that is ready holds one notice, and any other none. -/
theorem count_started (h : History) :
    h.events.count .started = if h.node.state = .started then 1 else 0 := by
  rw [h.follows_told.notice]
  exact h.climbs.count_started (by decide)

theorem count_entered (h : History) (state : NodeState) :
    h.events.count (.entered state) =
      if state ∈ ({} : Lifecycle).entered h.told then 1 else 0 := by
  have shown : h.events.count (.entered state) = h.entered.count state := by
    unfold entered Node.entered
    induction h.events with
    | nil => rfl
    | cons e events ih =>
      rw [List.count_cons, List.filterMap_cons, ih]
      cases e <;> simp [NodeEvent.entered?, List.count_cons]
  have once : h.entered.Nodup := by
    refine (List.pairwise_cons.1 h.climbs.pairwise).2.imp fun below same => ?_
    rw [same] at below
    exact Nat.lt_irrefl _ below
  rw [shown, once.count, entered_eq]

/-- The requests for its information that were queued for a node. -/
theorem count_queued (h : History) :
    h.queued.countP Frame.isNodeInfoRequest =
      h.setup.info.listening.toNat + h.operations.countP Operation.asks +
        h.events.count .retried := by
  rw [count_retried]
  induction h with
  | start s =>
    change (s.entries.map (·.frame)).countP Frame.isNodeInfoRequest = s.info.listening.toNat + 0 + 0
    unfold Setup.entries
    cases s.info.listening <;> rfl
  | step h op ih =>
    have split : ({} : Lifecycle).retried (h.step op).told =
        ({} : Lifecycle).retried h.told + h.node.lifecycle.retried (op.told h.node) := by
      rw [h.lifecycle_eq]
      exact Lifecycle.retried_append ..
    have asks : [op].countP Operation.asks = op.asks.toNat := by
      rw [List.countP_singleton]
      cases op.asks <;> rfl
    rw [queued_step, operations_step, List.countP_append, List.countP_append, ih, count_frames,
      split, asks]
    change h.setup.info.listening.toNat + _ + _ + _ = h.setup.info.listening.toNat + _ + _
    omega

/-- What the history of a node says of its bring-up. -/
structure Forward (h : History) : Prop where
  /-- The states that were entered lie higher and higher, so that none was entered twice. -/
  climbs : (NodeState.nodeInfo :: h.entered).Pairwise (· < ·)
  state : (NodeState.nodeInfo :: h.entered).getLast? = some h.node.state
  le : ∀ op, h.node.state ≤ (h.node.operate op).value.state
  version : ∀ op a b,
    (a, b) ∈ h.node.state.transitions (Node.entered (h.node.operate op).events) →
      b = .versionPending ∨ b = .versionQueued →
        (h.node.operate op).value.classes.contains ClassId.version = true
  /-- What follows a state whose frames are to go out is entered once they did. -/
  drained : ∀ op a b,
    (a, b) ∈ h.node.state.transitions (Node.entered (h.node.operate op).events) →
      a = .versionQueued ∨ a = .stateQueued →
        op = .tick ∧ h.node.pending = none ∧ h.node.queues.write = [] ∧
          h.node.prepared.queues.write = []
  retries : h.node.lifecycle.retries ≤ 1
  known : h.node.state ≠ .nodeInfo → h.node.lifecycle.retries = 0
  /-- A node that listens asks for its information when it is made, and no other does. -/
  asked : (start h.setup).node.queues =
    { listening := h.setup.info.listening
      write := if h.setup.info.listening then [.requestNodeInfo h.setup.id] else [] }
  requests : h.queued.countP Frame.isNodeInfoRequest =
    h.setup.info.listening.toNat + h.operations.countP Operation.asks + h.events.count .retried
  retried : h.events.count .retried ≤ 1
  notice : h.events.count .started = if h.node.state = .started then 1 else 0

/-- **The bring-up goes forward.** Whatever is done with a node, its state never goes back, and what
is to be done once is done once. -/
theorem bringUp_forward (h : History) : h.Forward where
  climbs := h.climbs.pairwise
  state := h.climbs.getLast?
  le := fun op => (h.climbs_operate op).le
  version := fun _ _ _ => contains_of_entered h.contains_of_versionPending
  drained := by
    intro op a b entered queued
    obtain ⟨rfl, idle, empty⟩ := drained_of_left entered queued
    have before := empty
    rw [queues_prepared_eq, Operation.filled_eq] at before
    exact ⟨rfl, idle, (List.append_eq_nil_iff.1 before).1, empty⟩
  retries := h.counted.le
  known := h.counted.zero
  asked := by
    rw [queues_start, queued, entries, Setup.entries]
    cases h.setup.info.listening <;> rfl
  requests := h.count_queued
  retried := h.count_retried_le
  notice := h.count_started

theorem bringUp_forward_retry :
    ∃ h : History, h.Forward ∧ h.node.state = .statePending ∧ h.node.lifecycle.retries = 0 ∧
      h.node.pending = none ∧ h.node.queues.write = [] ∧ h.events.count .retried = 1 ∧
      (h.step .tick).entered =
        [.versionPending, .versionQueued, .statePending, .stateQueued, .started] ∧
      (h.step .tick).events.count .started = 1 := by
  let asked : History :=
    [.tick, .call (.receive (.applicationUpdate .requestFailed)), .tick].foldl step
      (start { id := 2, info := ⟨{}, true⟩, factory := .standard })
  let told : ApplicationUpdate := .infoReceived 2 ⟨{}, [ClassId.version]⟩
  let h : History :=
    [.call (.receive (.applicationUpdate told)), .tick,
      .call (.receive (.applicationCommand ⟨2, ⟨ClassId.version, []⟩, 0⟩)), .tick].foldl
        step asked
  have state : h.node.state = .statePending := by decide +kernel
  have forward := h.bringUp_forward
  have last : (.stateQueued, .started) ∈
      h.node.state.transitions (Node.entered (h.node.operate .tick).events) := by decide +kernel
  obtain ⟨-, idle, empty, -⟩ := forward.drained .tick .stateQueued .started last (.inr rfl)
  have notice := (h.step .tick).bringUp_forward.notice
  refine ⟨h, forward, state, forward.known (by rw [state]; decide), idle, empty, ?_, ?_, ?_⟩
  · decide +kernel
  · decide +kernel
  · rw [notice]
    decide +kernel

end History

end ZWave.Node
