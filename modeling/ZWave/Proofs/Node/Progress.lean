import ZWave.Proofs.Node.BringUp

/-!
# A node that is answered becomes ready

In a round a node has a tick, and its device answers with some command if that leaves a transaction
pending. `Node.roundsLeft` bounds the rounds until a node is ready: the frames to be sent and those
that its classes are still to queue, the times it is still to be found with nothing to send, and the
transaction that is pending. Each round lowers it (`roundsLeft_round`).
-/

namespace ZWave

/-- How often a node in this state is still to be found with nothing to send. -/
def NodeState.drainsLeft : NodeState → Nat
  | nodeInfo | versionPending | versionQueued => 2
  | statePending | stateQueued => 1
  | started => 0

def startupBound (ids : List UInt8) : Nat := ids.length + ids.count ClassId.version

theorem length_flatMap_startup_le (r : Registry) (nodeId : NodeId) (ids : List UInt8) :
    (ids.flatMap (r.startup nodeId)).length ≤ startupBound ids := by
  unfold startupBound
  induction ids with
  | nil => exact Nat.le_refl 0
  | cons id ids ih =>
    have first := r.length_startup_le nodeId id
    rw [List.flatMap_cons, List.length_append, List.length_cons, List.count_cons]
    by_cases version : id = ClassId.version
    · subst version
      rw [if_pos rfl] at first
      simp only [beq_self_eq_true, if_true]
      omega
    · rw [if_neg version] at first
      omega

theorem startupBound_filter (ids : List UInt8) :
    startupBound (ids.filter (· != ClassId.version)) + 2 * ids.count ClassId.version =
      startupBound ids := by
  unfold startupBound
  induction ids with
  | nil => rfl
  | cons id ids ih =>
    by_cases version : id = ClassId.version
    · subst version
      simp only [List.filter_cons, bne_self_eq_false, Bool.false_eq_true, if_false,
        List.length_cons, List.count_cons_self]
      omega
    · simp only [List.filter_cons, bne_iff_ne, ne_eq, version, not_false_eq_true, if_true,
        List.length_cons, List.count_cons_of_ne]
      omega

namespace Node

def answered (n : Node) (command : ApplicationCommand) : Node :=
  if n.pending.isSome then (n.operate (.call (.receive (.applicationCommand command)))).value else n

/-- A driver cycle in which the device answers. -/
def round (n : Node) (command : ApplicationCommand) : Node :=
  (n.operate .tick).value.answered command

/-- A bound of the startup frames that are still to be queued. -/
def unqueued (n : Node) : Nat := if n.state < .stateQueued then startupBound n.unstarted else 0

/-- What is left to be done: frames to be sent or queued, and times to have nothing to send. -/
def work (n : Node) : Nat := n.queues.write.length + n.unqueued + n.state.drainsLeft

def roundsLeft (n : Node) : Nat :=
  if n.state = .started then 0 else n.work + n.pending.isSome.toNat

/-! ## Ticks -/

theorem length_write_pushAll_le (q : Queues) (frames : List Frame) (defer : Bool) :
    (q.pushAll frames defer).write.length ≤ q.write.length + frames.length := by
  rw [Queues.pushAll_eq]
  cases q.lane defer <;> simp

/-- What brings up the Version class ahead of the others is part of what was left to be queued. -/
theorem length_versionStartup_le (n : Node) :
    n.versionStartup.length + startupBound { n with versionStarted := true }.unstarted ≤
      startupBound n.unstarted := by
  unfold versionStartup
  cases hs : n.versionStarted with
  | true =>
    have same : { n with versionStarted := true }.unstarted = n.unstarted := by
      unfold unstarted
      rw [hs]
    refine Nat.le_of_eq ?_
    rw [same, if_pos rfl, List.length_nil, Nat.zero_add]
  | false =>
    have all : n.unstarted = n.classes.ids := by simp [unstarted, hs]
    have others : { n with versionStarted := true }.unstarted =
        n.classes.ids.filter (· != ClassId.version) := by simp [unstarted, bne]
    have own : (n.classes.startup n.id ClassId.version).length ≤
        2 * n.classes.ids.count ClassId.version := by
      by_cases registered : n.classes.contains ClassId.version = true
      · have first := n.classes.length_startup_le n.id ClassId.version
        have mem := List.count_pos_iff.2 ((n.classes.mem_ids _).2 registered)
        rw [if_pos rfl] at first
        omega
      · have nothing : n.classes.startup n.id ClassId.version = [] :=
          Classical.not_not.1 (mt (n.classes.startup_ne_nil_iff n.id _).1 registered)
        rw [nothing]
        exact Nat.zero_le _
    have apart := startupBound_filter n.classes.ids
    rw [all, others, if_neg Bool.false_ne_true]
    omega

/-- Queueing frames adds nothing to the work that is left. -/
theorem work_prepared_le (n : Node) : n.prepared.work ≤ n.work := by
  unfold prepared
  rw [value_handle_tick]
  cases hs : n.state with
  | versionPending =>
    have queued := length_write_pushAll_le n.queues n.versionStartup true
    have left := n.length_versionStartup_le
    unfold work unqueued
    rw [hs]
    change (n.queues.pushAll n.versionStartup true).write.length +
      startupBound { n with versionStarted := true }.unstarted + 2 ≤
        n.queues.write.length + startupBound n.unstarted + 2
    omega
  | statePending =>
    have queued := length_write_pushAll_le n.queues n.stateStartup true
    have left : n.stateStartup.length ≤ startupBound n.unstarted := length_flatMap_startup_le ..
    unfold work unqueued
    rw [hs]
    change (n.queues.pushAll n.stateStartup true).write.length + 0 + 1 ≤
      n.queues.write.length + startupBound n.unstarted + 1
    omega
  | nodeInfo | versionQueued | stateQueued | started => exact Nat.le_refl _

/-- A tick does some of the work that is left, if no transaction is pending and the node does not
become ready. -/
theorem work_tick_lt {n : Node} (known : n.state ≠ .nodeInfo) (idle : n.pending = none)
    (unready : n.tick.value.state ≠ .started) : n.tick.value.work < n.work := by
  have prepared := n.work_prepared_le
  cases hw : n.prepared.queues.write with
  | cons f rest =>
    obtain ⟨-, after⟩ := tick_of_write idle hw
    have sent : n.tick.value.work + 1 = n.prepared.work := by
      rw [after]
      unfold work
      rw [hw, List.length_cons]
      change rest.length + n.prepared.unqueued + n.prepared.state.drainsLeft + 1 = _
      omega
    omega
  | nil =>
    obtain ⟨-, after⟩ := tick_of_drained idle hw
    have known : (n.operate .tick).value.state ≠ .nodeInfo := mt unknown_of_operate known
    change n.tick.value.state ≠ .nodeInfo at known
    rw [after, value_handle_queueDrained] at known unready ⊢
    obtain ⟨unversioned, unstated⟩ := n.state_prepared
    cases hs : n.prepared.state with
    | versionQueued =>
      have drained : ({ n.prepared with lifecycle := ⟨.statePending, 0⟩ } : Node).work + 1 =
          n.prepared.work := by
        unfold work unqueued
        rw [hs]
        rfl
      change ({ n.prepared with lifecycle := ⟨.statePending, 0⟩ } : Node).work < n.work
      omega
    | nodeInfo =>
      rw [hs] at known
      exact absurd hs known
    | stateQueued =>
      rw [hs] at unready
      exact absurd rfl unready
    | started =>
      rw [hs] at unready
      exact absurd hs unready
    | versionPending => exact absurd hs unversioned
    | statePending => exact absurd hs unstated

/-! ## Rounds -/

theorem work_command (n : Node) (command : ApplicationCommand) :
    (n.receive (.applicationCommand command)).value.work = n.work ∧
      (n.receive (.applicationCommand command)).value.pending = none := by
  rw [value_receive_command]
  refine ⟨?_, rfl⟩
  have ids : (n.heard command.payload).ids = n.classes.ids :=
    IdMap.ids_congr (n.contains_heard command.payload)
  have left : { n with classes := n.heard command.payload, pending := none }.unstarted =
      n.unstarted := by
    unfold unstarted
    rw [ids]
  unfold work unqueued
  rw [left]
  rfl

theorem work_answered (n : Node) (command : ApplicationCommand) :
    (n.answered command).work = n.work ∧ (n.answered command).pending = none := by
  unfold answered
  split
  · exact n.work_command command
  · next idle => exact ⟨rfl, by simpa using idle⟩

theorem known_round {n : Node} (known : n.state ≠ .nodeInfo) (command : ApplicationCommand) :
    (n.round command).state ≠ .nodeInfo := by
  unfold round answered
  split
  · exact fun unknown => known (unknown_of_operate (unknown_of_operate unknown))
  · exact fun unknown => known (unknown_of_operate unknown)

theorem started_answered {n : Node} (ready : n.state = .started) (command : ApplicationCommand) :
    (n.answered command).state = .started := by
  unfold answered
  split
  · exact started_operate ready _
  · exact ready

theorem roundsLeft_round {n : Node} (known : n.state ≠ .nodeInfo) (command : ApplicationCommand) :
    (n.round command).roundsLeft ≤ n.roundsLeft - 1 := by
  obtain ⟨same, idle⟩ := n.tick.value.work_answered command
  change (n.tick.value.answered command).roundsLeft ≤ _
  by_cases ready : n.tick.value.state = .started
  · have done := started_answered ready command
    rw [roundsLeft, if_pos done]
    exact Nat.zero_le _
  · have unready : n.state ≠ .started := fun h => ready (started_operate h .tick)
    have after : (n.tick.value.answered command).roundsLeft ≤ n.tick.value.work := by
      rw [roundsLeft, same, idle]
      split
      · exact Nat.zero_le _
      · exact Nat.le_refl _
    have before : n.roundsLeft = n.work + n.pending.isSome.toNat := if_neg unready
    rw [before]
    -- The tick does some work, unless it finds a transaction pending: that is then ended.
    cases hp : n.pending with
    | none =>
      have less := work_tick_lt known hp ready
      simp only [Option.isSome_none, Bool.toNat_false]
      omega
    | some f =>
      have ticked : n.tick.value.work = n.prepared.work := by
        rw [tick_of_pending (by rw [hp]; rfl)]
      have prepared := n.work_prepared_le
      simp only [Option.isSome_some, Bool.toNat_true]
      omega

theorem started_of_roundsLeft {n : Node} (nothing : n.roundsLeft = 0) : n.state = .started := by
  unfold roundsLeft work at nothing
  cases hs : n.state with
  | started => rfl
  | nodeInfo | versionPending | versionQueued | statePending | stateQueued =>
    simp [hs, NodeState.drainsLeft] at nothing

theorem roundsLeft_le (n : Node) :
    n.roundsLeft ≤ n.queues.write.length + n.classes.size + 4 := by
  have once : n.unstarted.count ClassId.version ≤ 1 :=
    List.nodup_iff_count.1 (n.classes.handlers.nodup_ids.filter _) _
  have few : n.unstarted.length ≤ n.classes.size := by
    have all : n.classes.ids.length = n.classes.size := List.length_map ..
    rw [← all]
    exact List.length_filter_le ..
  have queued : n.unqueued ≤ n.classes.size + 1 := by
    unfold unqueued startupBound
    split
    · omega
    · exact Nat.zero_le _
  have drains : n.state.drainsLeft ≤ 2 := by cases n.state <;> decide
  have pending : n.pending.isSome.toNat ≤ 1 := Bool.toNat_le _
  unfold roundsLeft work
  split
  · exact Nat.zero_le _
  · omega

theorem started_of_rounds {n : Node} (known : n.state ≠ .nodeInfo)
    {commands : List ApplicationCommand} (enough : n.roundsLeft ≤ commands.length) :
    (commands.foldl round n).state = .started := by
  induction commands generalizing n with
  | nil => exact started_of_roundsLeft (Nat.le_zero.1 enough)
  | cons command commands ih =>
    have less := roundsLeft_round known command
    rw [List.length_cons] at enough
    exact ih (known_round known command) (by omega)

/-- **A node that is answered becomes ready.** Once its classes are known, a command for every
transaction brings it there in as many rounds as it has frames and classes, and five; and it stays
ready. -/
theorem started_of_answered (n : Node) (known : n.state ≠ .nodeInfo)
    (commands : List ApplicationCommand)
    (enough : n.queues.write.length + n.classes.size + 5 ≤ commands.length) :
    (commands.foldl round n).state = .started ∧
      ∀ ops : List Operation,
        (ops.foldl (fun n op => (n.operate op).value) (commands.foldl round n)).state = .started := by
  have bound := n.roundsLeft_le
  have ready : (commands.foldl round n).state = .started := started_of_rounds known (by omega)
  refine ⟨ready, fun ops => ?_⟩
  generalize commands.foldl round n = after at ready
  induction ops generalizing after with
  | nil => exact ready
  | cons op ops ih => exact ih _ (started_operate ready op)

theorem started_of_answered_unread :
    ∃ (h : History) (commands : List ApplicationCommand), h.node.state = .versionPending ∧
      h.node.queues.write.length + h.node.classes.size + 5 = commands.length ∧
      (∀ command ∈ commands, h.node.dispatch command.payload = ⟨h.node, [.dropped .malformed]⟩) ∧
      ((commands.take 6).foldl round h.node).state = .stateQueued ∧
      (commands.foldl round h.node).state = .started ∧
      ((commands.foldl round h.node).operate .tick).value.state = .started := by
  let told : ApplicationUpdate := .infoReceived 2 ⟨{}, [ClassId.version, ClassId.switchMultilevel]⟩
  let h : History :=
    [.call (.queue (Request.basicGet 2) true), .call (.receive (.applicationUpdate told))].foldl
      .step (.start { id := 2, info := ⟨{}, true⟩, factory := .standard })
  let commands : List ApplicationCommand := List.replicate 9 ⟨2, ⟨ClassId.version, []⟩, 0⟩
  have state : h.node.state = .versionPending := by decide +kernel
  have count : h.node.queues.write.length + h.node.classes.size + 5 = commands.length := by
    decide +kernel
  obtain ⟨ready, stays⟩ :=
    h.node.started_of_answered (by rw [state]; decide) commands (Nat.le_of_eq count)
  refine ⟨h, commands, state, count, ?_, by decide +kernel, ready, stays [.tick]⟩
  intro command mem
  rw [List.eq_of_mem_replicate mem]
  rfl

end Node

end ZWave
