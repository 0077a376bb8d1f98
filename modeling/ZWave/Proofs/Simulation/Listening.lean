import Mathlib.Data.List.Basic
import ZWave.Proofs.Simulation.Answers

/-!
# Bring-up of a device that listens

A node whose device listens is asked for its information first. Once it is answered, every step of
its bring-up is determined: `Settling d left n` lists the nodes it goes through when the model `d`
was told, with the cycles that are left until it is ready. One cycle takes it to the next
(`Settling.cycle`).
-/

namespace ZWave

namespace DeviceModel

/-- The node of a listening device that has answered queries, when `rest` is still to be asked. -/
def node (d : DeviceModel) (state : NodeState) (answered rest : List Query)
    (versionStarted : Bool) : Node where
  id := d.id
  device := d.protocolInfo.device
  profile := d.profile
  factory := .standard
  classes := d.registry answered
  queues := { listening := true, write := rest.map (Query.frame d.id) }
  lifecycle := ⟨state, 0⟩
  versionStarted

/-- The node that has been told the classes, and nothing more. -/
def informed (d : DeviceModel) : Node :=
  d.node (if d.lists .version then .versionPending else .statePending) [] [] false

variable {d : DeviceModel}

theorem versionQueries_node {state : NodeState} {answered rest : List Query}
    (hv : d.lists .version = true) :
    (d.node state answered rest false).versionQueries = d.versionQueries :=
  d.queries_version answered hv

theorem stateQueries_node {state : NodeState} {answered rest : List Query} :
    (d.node state answered rest (d.lists .version)).stateQueries = d.stateQueries := by
  have ids : (d.registry answered).ids = d.kinds.map ClassKind.id := by
    change (d.kinds.map fun k => (k.id, d.handler answered k)).map (·.1) = _
    rw [List.map_map]
    rfl
  have others : (d.node state answered rest (d.lists .version)).unstarted =
      (d.kinds.filter (· != .version)).map ClassKind.id := by
    change ((d.registry answered).ids.filter _) = _
    rw [ids, List.filter_map]
    refine congrArg (List.map ClassKind.id) (List.filter_congr fun k hk => ?_)
    have hl : d.lists k = true := (List.mem_filter.1 hk).2
    rw [Function.comp_apply]
    cases k with
    | version => rw [node, hl]; rfl
    | basic | switchBinary | switchMultilevel | manufacturerSpecific => rfl
  have each : ∀ k ∈ d.kinds.filter (· != .version),
      (d.registry answered).queries k.id = [.report k] := by
    intro k hk
    obtain ⟨hk, hv⟩ := List.mem_filter.1 hk
    exact d.queries_registry answered (List.mem_filter.1 hk).2 (bne_iff_ne.1 hv)
  rw [Node.stateQueries, others, stateQueries, List.flatMap_map, List.map_eq_flatMap]
  exact List.flatMap_congr each

/-! ## Ticks -/

theorem prepared_versionPending (answered rest : List Query) (hv : d.lists .version = true) :
    (d.node .versionPending answered rest false).prepared =
      d.node .versionQueued answered (rest ++ d.versionQueries) true := by
  unfold Node.prepared
  rw [Node.value_handle_tick, Node.versionStartup_eq, versionQueries_node hv]
  simp [node, Node.state, Queues.pushAll_eq, Queues.lane]

theorem prepared_statePending (d : DeviceModel) (answered rest : List Query) :
    (d.node .statePending answered rest (d.lists .version)).prepared =
      d.node .stateQueued answered (rest ++ d.stateQueries) (d.lists .version) := by
  unfold Node.prepared
  rw [Node.value_handle_tick, Node.stateStartup_eq, stateQueries_node]
  simp [node, Node.state, Queues.pushAll_eq, Queues.lane]

theorem prepared_node (d : DeviceModel) {state : NodeState} (answered rest : List Query)
    (versionStarted : Bool) (h : state ≠ .versionPending) (h' : state ≠ .statePending) :
    (d.node state answered rest versionStarted).prepared =
      d.node state answered rest versionStarted :=
  Node.prepared_of_state h h'

end DeviceModel

/-! ## Cycles -/

namespace SimulatedDevice

/-- The device answers what a node sends next that was told the model `d`. -/
def Answers (s : SimulatedDevice) (d : DeviceModel) (n : Node) : Prop :=
  ∀ q ∈ d.versionQueries ++ d.stateQueries, n.sends? = some (q.frame d.id) →
    s.handle (q.frame d.id) =
      (s, some (.applicationCommand { nodeId := s.id, payload := d.reply q }))

end SimulatedDevice

theorem DeviceModel.mem_queries {d : DeviceModel} {q : Query}
    (h : q ∈ d.versionQueries ++ d.stateQueries) :
    d.lists q.kind = true ∧ q ≠ .versionOf ClassId.version := by
  rcases List.mem_append.1 h with h | h
  · unfold DeviceModel.versionQueries at h
    split at h
    · next hv =>
      rcases List.mem_cons.1 h with rfl | h
      · exact ⟨hv, by simp⟩
      · split at h
        · cases List.mem_singleton.1 h
          exact ⟨hv, by decide⟩
        · cases h
    · cases h
  · obtain ⟨k, hk, rfl⟩ := List.mem_map.1 h
    exact ⟨(List.mem_filter.1 (List.mem_filter.1 hk).1).2, by simp⟩

namespace Link

variable {d : DeviceModel} {s : SimulatedDevice} {n : Node}

/-- A cycle in which a frame is sent and answered, and the device does not announce itself. -/
theorem cycle_answered {f r : Frame} {s' s'' : SimulatedDevice} (sends : n.sends? = some f)
    (answer : s.handle f = (s', some r)) (quiet : s'.advance = (s'', none)) :
    (⟨n, s⟩ : Link).cycle false = ⟨(n.tick.value.receive r).value, s''⟩ := by
  have sends : (⟨n, s⟩ : Link).node.sends? = some f := sends
  unfold Link.cycle
  rw [turn_of_sends sends]
  simp only [answer, quiet]
  rfl

/-- A cycle in which the next query is sent and answered. -/
theorem cycle_asked {answered : List Query} {q : Query} {write : List Frame}
    {s' : SimulatedDevice} (hp : n.pending = none)
    (first : n.prepared.queues.write = q.frame d.id :: write)
    (classes : n.prepared.classes = d.registry answered) (profile : n.prepared.profile = d.profile)
    (answers : s.handle (q.frame d.id) =
      (s, some (.applicationCommand { nodeId := s.id, payload := d.reply q })))
    (listed : d.lists q.kind = true) (other : q ≠ .versionOf ClassId.version)
    (quiet : s.advance = (s', none)) :
    (⟨n, s⟩ : Link).cycle false =
      ⟨{ n.prepared with
          queues := { n.prepared.queues with write }
          classes := d.registry (answered ++ [q])
          pending := none }, s'⟩ := by
  obtain ⟨sends, tick⟩ := Node.tick_of_write hp first
  have heard : n.tick.value.heard (d.reply q) = d.registry (answered ++ [q]) := by
    refine Node.heard_reply ?_ ?_ listed other
    · rw [tick]; exact classes
    · rw [tick]; exact profile
  rw [cycle_answered sends answers quiet, Node.value_receive_command, heard, tick]

theorem cycle_drained (hp : n.pending = none) (write : n.prepared.queues.write = [])
    (listening : s.model.listening = true) :
    (⟨n, s⟩ : Link).cycle false = ⟨(n.prepared.handle .queueDrained).value, s⟩ := by
  obtain ⟨sends, tick⟩ := Node.tick_of_drained hp write
  have sends : (⟨n, s⟩ : Link).node.sends? = none := sends
  unfold Link.cycle
  rw [turn_of_quiet sends]
  simp only [SimulatedDevice.advance_of_listening listening, tick]
  rfl

end Link

/-! ## From the classes to the start -/

/-- The nodes that a listening device goes through, each with the cycles until it is ready. -/
inductive Settling (d : DeviceModel) : Nat → Node → Prop where
  | versionPending : d.lists .version = true →
      Settling d (d.versionQueries.length + d.stateQueries.length + 2)
        (d.node .versionPending [] [] false)
  | versionQueued (answered rest : List Query) : d.lists .version = true →
      answered ++ rest = d.versionQueries →
      Settling d (rest.length + d.stateQueries.length + 2)
        (d.node .versionQueued answered rest true)
  | statePending :
      Settling d (d.stateQueries.length + 1)
        (d.node .statePending d.versionQueries [] (d.lists .version))
  | stateQueued (answered rest : List Query) :
      answered ++ rest = d.versionQueries ++ d.stateQueries →
      Settling d (rest.length + 1) (d.node .stateQueued answered rest (d.lists .version))
  | started :
      Settling d 0
        (d.node .started (d.versionQueries ++ d.stateQueries) [] (d.lists .version))

namespace Settling

variable {d : DeviceModel} {left : Nat} {n : Node} {s : SimulatedDevice}

theorem initial (d : DeviceModel) : ∃ left, left ≤ 8 ∧ Settling d left d.informed := by
  have hv := d.length_versionQueries
  have hs := d.length_stateQueries
  unfold DeviceModel.informed
  cases h : d.lists .version with
  | true => exact ⟨_, by omega, versionPending h⟩
  | false =>
    have none : d.versionQueries = [] := by simp [DeviceModel.versionQueries, h]
    have start := statePending (d := d)
    rw [none, h] at start
    exact ⟨_, by omega, start⟩

theorem nextIsNodeInfo (h : Settling d left n) : n.nextIsNodeInfo = false := by
  have queries : ∀ (rest : List Query),
      ((rest.map (Query.frame d.id)).head?.any Frame.isNodeInfoRequest) = false := by
    intro rest
    cases rest with
    | nil => rfl
    | cons q rest => exact q.isNodeInfoRequest_frame d.id
  cases h with
  | versionQueued answered rest | stateQueued answered rest => exact queries rest
  | versionPending | statePending | started => rfl

/-- One cycle takes a node to the next. -/
theorem cycle (h : Settling d left n) (answers : s.Answers d n)
    (listening : s.model.listening = true) :
    ∃ n', (⟨n, s⟩ : Link).cycle false = ⟨n', s⟩ ∧ Settling d (left - 1) n' := by
  have asked : ∀ {state answered q rest versionStarted}, n.pending = none →
      n.prepared = d.node state answered (q :: rest) versionStarted →
      q ∈ d.versionQueries ++ d.stateQueries →
      (⟨n, s⟩ : Link).cycle false = ⟨d.node state (answered ++ [q]) rest versionStarted, s⟩ := by
    intro state answered q rest versionStarted hp prepared hq
    obtain ⟨listed, other⟩ := DeviceModel.mem_queries hq
    have first : n.prepared.queues.write = q.frame d.id :: rest.map (Query.frame d.id) := by
      rw [prepared]
      rfl
    rw [Link.cycle_asked hp first (by rw [prepared]; rfl) (by rw [prepared]; rfl)
      (answers q hq (Node.tick_of_write hp first).1) listed other
      (SimulatedDevice.advance_of_listening listening), prepared]
    rfl
  have drained : ∀ {m : Node} {state answered versionStarted}, m.pending = none →
      m.prepared = d.node state answered [] versionStarted →
      (⟨m, s⟩ : Link).cycle false =
        ⟨((d.node state answered [] versionStarted).handle .queueDrained).value, s⟩ := by
    intro m state answered versionStarted hp prepared
    rw [Link.cycle_drained hp (by rw [prepared]; rfl) listening, prepared]
  cases h with
  | versionPending hv =>
    have prepared := DeviceModel.prepared_versionPending [] [] hv
    obtain ⟨q, rest, hq⟩ : ∃ q rest, d.versionQueries = q :: rest := by
      unfold DeviceModel.versionQueries
      rw [if_pos hv]
      exact ⟨_, _, rfl⟩
    rw [hq] at prepared
    have count : d.versionQueries.length + d.stateQueries.length + 2 - 1 =
        rest.length + d.stateQueries.length + 2 := by
      rw [hq, List.length_cons]
      omega
    refine ⟨_, asked rfl prepared (by simp [hq]), ?_⟩
    rw [count]
    exact versionQueued [q] rest hv hq.symm
  | versionQueued answered rest hv split =>
    have prepared := d.prepared_node answered rest true
      (show NodeState.versionQueued ≠ .versionPending by decide) (by decide)
    cases rest with
    | nil =>
      refine ⟨_, drained rfl prepared, ?_⟩
      rw [List.append_nil] at split
      have next := statePending (d := d)
      rw [hv, ← split] at next
      rw [List.length_nil, Nat.zero_add]
      exact next
    | cons q rest =>
      have count : (q :: rest).length + d.stateQueries.length + 2 - 1 =
          rest.length + d.stateQueries.length + 2 := by
        rw [List.length_cons]
        omega
      refine ⟨_, asked rfl prepared (by simp [← split]), ?_⟩
      rw [count]
      exact versionQueued (answered ++ [q]) rest hv (by simpa using split)
  | statePending =>
    have prepared := d.prepared_statePending d.versionQueries []
    cases hq : d.stateQueries with
    | nil =>
      rw [hq] at prepared
      refine ⟨_, drained rfl prepared, ?_⟩
      have next := started (d := d)
      rw [hq, List.append_nil] at next
      exact next
    | cons q rest =>
      rw [hq] at prepared
      refine ⟨_, asked rfl prepared (by simp [hq]), ?_⟩
      exact stateQueued (d.versionQueries ++ [q]) rest (by simp [hq])
  | stateQueued answered rest split =>
    have prepared := d.prepared_node answered rest (d.lists .version)
      (show NodeState.stateQueued ≠ .versionPending by decide) (by decide)
    cases rest with
    | nil =>
      refine ⟨_, drained rfl prepared, ?_⟩
      rw [List.append_nil] at split
      rw [split]
      exact started
    | cons q rest =>
      refine ⟨_, asked rfl prepared (by simp [← split]), ?_⟩
      exact stateQueued (answered ++ [q]) rest (by simpa using split)
  | started =>
    have prepared := d.prepared_node (d.versionQueries ++ d.stateQueries) [] (d.lists .version)
      (show NodeState.started ≠ .versionPending by decide) (by decide)
    exact ⟨_, drained rfl prepared, started⟩

end Settling

/-! ## From joining to the classes -/

namespace DeviceModel

/-- The node of a listening device that is to be asked for its information. -/
def asking (d : DeviceModel) (retries : Nat) : Node where
  id := d.id
  device := d.protocolInfo.device
  profile := d.profile
  factory := .standard
  queues := { listening := true, write := [.requestNodeInfo d.id] }
  lifecycle := ⟨.nodeInfo, retries⟩

def awaiting (d : DeviceModel) (retries : Nat) : Node where
  id := d.id
  device := d.protocolInfo.device
  profile := d.profile
  factory := .standard
  queues := { listening := true }
  pending := some (.requestNodeInfo d.id)
  lifecycle := ⟨.nodeInfo, retries⟩

/-- The model of a device that tells no classes. -/
def silent (d : DeviceModel) : DeviceModel := { d with classes := [] }

theorem registry_silent (d : DeviceModel) (answered : List Query) :
    d.silent.registry answered = .empty := by
  refine Registry.ext_get? fun id => ?_
  rw [get?_registry, Registry.get?_empty]
  cases ClassKind.ofId? id <;> rfl

end DeviceModel

namespace Link

variable {d : DeviceModel} {s : SimulatedDevice}

theorem receive_requestFailed (d : DeviceModel) (retries : Nat) :
    ((d.awaiting retries).receive (.applicationUpdate .requestFailed)).value =
      if retries < maxInfoRetries then d.asking (retries + 1) else d.silent.informed := by
  rw [Node.value_receive_requestFailed]
  by_cases h : retries < maxInfoRetries
  · rw [if_pos h, Node.value_handle_infoFailed_retry rfl h]
    rfl
  · rw [if_neg h, Node.value_handle_infoFailed_last rfl h, DeviceModel.informed, DeviceModel.node,
      d.registry_silent]
    rfl

theorem receive_infoReceived (d : DeviceModel) (retries : Nat) :
    ((d.awaiting retries).receive
        (.applicationUpdate (.infoReceived d.id ⟨d.protocolInfo.device, d.classIds⟩))).value =
      d.informed := by
  rw [Node.value_receive_info rfl rfl rfl]
  rfl

theorem cycle_asking (model : s.model = d) (listening : d.listening = true) (retries : Nat) :
    (⟨d.asking retries, s⟩ : Link).cycle false =
      if 0 < s.failuresLeft then
        ⟨if retries < maxInfoRetries then d.asking (retries + 1) else d.silent.informed,
          { s with failuresLeft := s.failuresLeft - 1 }⟩
      else ⟨d.informed, s⟩ := by
  have sends : (d.asking retries).sends? = some (.requestNodeInfo d.id) := rfl
  have tick : (d.asking retries).tick.value = d.awaiting retries := rfl
  have handle := s.handle_requestNodeInfo d.id
  have reach : ¬ s.isReachable = false := by
    rw [SimulatedDevice.isReachable, model, listening]
    simp
  rw [if_neg reach] at handle
  have quiet : ∀ s' : SimulatedDevice, s'.model = d → s'.advance = (s', none) := by
    intro s' h
    exact SimulatedDevice.advance_of_listening (by rw [h, listening])
  split
  · next hf =>
    rw [if_pos hf] at handle
    rw [cycle_answered sends handle (quiet _ model), tick, receive_requestFailed]
  · next hf =>
    have info : s.nodeInfo =
        .applicationUpdate (.infoReceived d.id ⟨d.protocolInfo.device, d.classIds⟩) := by
      rw [SimulatedDevice.nodeInfo, SimulatedDevice.id, model]
    rw [if_neg hf, info] at handle
    rw [cycle_answered sends handle (quiet _ model), tick, receive_infoReceived]

end Link

/-! ## From joining to the start -/

namespace SimulatedDevice

variable {s : SimulatedDevice} {m : DeviceModel}

/-- A device that listens and speaks its classes answers everything it is asked. -/
theorem answers_model (model : s.model = m) (level : s.level = m.level)
    (listening : m.listening = true) (speaks : m.Speaks) (n : Node) : s.Answers m n := by
  subst model
  intro q hq _
  have reach : s.isReachable = true := by
    rw [isReachable, listening]
    rfl
  exact handle_query reach level (speaks.classVersion_pos (DeviceModel.mem_queries hq).1) _

theorem answers_silent (s : SimulatedDevice) (m : DeviceModel) (n : Node) :
    s.Answers m.silent n :=
  fun _ hq => nomatch hq

end SimulatedDevice

/-- The requests for node information that a node may still send. -/
def Link.requestsLeft (l : Link) : Nat :=
  if l.node.state = .nodeInfo then 2 - l.node.lifecycle.retries else 0

/-- The link of a listening device: it is to be asked, or has `left` cycles at most until it is
ready. -/
inductive Listening (m : DeviceModel) (left : Nat) : Link → Prop where
  | asking {retries : Nat} {s : SimulatedDevice} : retries ≤ 1 → s.model = m → s.level = m.level →
      s.failuresLeft = m.failNodeInfo - retries → Listening m left ⟨m.asking retries, s⟩
  | settling {d : DeviceModel} {t : Nat} {n : Node} {s : SimulatedDevice} :
      (d = m ∨ d = m.silent ∧ 2 ≤ m.failNodeInfo) → Settling d t n → t ≤ left → s.model = m →
      s.level = m.level → Listening m left ⟨n, s⟩

theorem Settling.requestsLeft {d : DeviceModel} {t : Nat} {n : Node} (h : Settling d t n)
    (s : SimulatedDevice) : (⟨n, s⟩ : Link).requestsLeft = 0 := by
  cases h <;> rfl

theorem DeviceModel.requestsLeft_asking (m : DeviceModel) (retries : Nat) (s : SimulatedDevice) :
    (⟨m.asking retries, s⟩ : Link).requestsLeft = 2 - retries := rfl

namespace Listening

variable {m : DeviceModel} {left : Nat} {l : Link}

/-- A node that is to be asked goes on, unless it passes its turn. -/
theorem cycle (h : Listening m left l) (listening : m.listening = true) (speaks : m.Speaks)
    {held : Bool} (asks : held = true → l.node.nextIsNodeInfo = true)
    (ample : 0 < l.requestsLeft → 9 ≤ left) :
    Listening m (left - 1) (l.cycle held) ∧
      (l.cycle held).requestsLeft ≤ l.requestsLeft - if held then 0 else 1 := by
  have quiet : ∀ s : SimulatedDevice, s.model = m → s.advance = (s, none) := by
    intro s h
    exact SimulatedDevice.advance_of_listening (by rw [h, listening])
  cases h with
  | @settling d t n s told settling ht model level =>
    cases held with
    | true =>
      have hn := asks rfl
      rw [settling.nextIsNodeInfo] at hn
      cases hn
    | false =>
      have answers : s.Answers d n := by
        rcases told with rfl | ⟨rfl, -⟩
        · exact s.answers_model model level listening speaks n
        · exact s.answers_silent m n
      obtain ⟨n', hn, next⟩ := settling.cycle answers (by rw [model, listening])
      rw [hn, next.requestsLeft]
      exact ⟨.settling told next (by omega) model level, Nat.zero_le _⟩
  | @asking retries s hr model level failures =>
    rw [m.requestsLeft_asking] at ample ⊢
    -- eight cycles are left for the bring-up once the device has answered in this one
    have ample : 9 ≤ left := ample (by omega)
    cases held with
    | true =>
      have same : (⟨m.asking retries, s⟩ : Link).cycle true = ⟨m.asking retries, s⟩ := by
        change (⟨(m.asking retries).hear s.advance.2, s.advance.1⟩ : Link) = _
        rw [quiet s model]
        rfl
      rw [same, m.requestsLeft_asking]
      exact ⟨.asking hr model level failures, Nat.le_refl _⟩
    | false =>
      have settled : ∀ (d : DeviceModel) (s' : SimulatedDevice),
          (d = m ∨ d = m.silent ∧ 2 ≤ m.failNodeInfo) → s'.model = m → s'.level = m.level →
          Listening m (left - 1) ⟨d.informed, s'⟩ ∧
            (⟨d.informed, s'⟩ : Link).requestsLeft ≤ 2 - retries - 1 := by
        intro d s' told model level
        obtain ⟨t, ht, next⟩ := Settling.initial d
        rw [next.requestsLeft]
        exact ⟨.settling told next (by omega) model level, Nat.zero_le _⟩
      rw [Link.cycle_asking model listening, if_neg Bool.false_ne_true]
      by_cases hf : 0 < s.failuresLeft
      · rw [if_pos hf]
        by_cases hlast : retries < maxInfoRetries
        · rw [if_pos hlast, m.requestsLeft_asking]
          have failures : s.failuresLeft - 1 = m.failNodeInfo - (retries + 1) := by omega
          exact ⟨.asking hlast model level failures, by omega⟩
        · rw [if_neg hlast]
          have hr : 1 ≤ retries := Nat.le_of_not_lt hlast
          exact settled m.silent _ (.inr ⟨rfl, by omega⟩) model level
      · rw [if_neg hf]
        exact settled m s (.inl rfl) model level

/-- A node has requests left exactly if its next frame is one. -/
theorem requestsLeft_pos_iff (h : Listening m left l) :
    0 < l.requestsLeft ↔ l.node.nextIsNodeInfo = true := by
  cases h with
  | @asking retries s hr =>
    have next : (m.asking retries).nextIsNodeInfo = true := rfl
    rw [m.requestsLeft_asking, next]
    exact ⟨fun _ => rfl, fun _ => by omega⟩
  | settling _ settling => simp [settling.requestsLeft, settling.nextIsNodeInfo]

/-- A node that is not to be asked and has no cycle left is ready. -/
theorem started (h : Listening m 0 l) (none : l.requestsLeft = 0) :
    ∃ d, (d = m ∨ d = m.silent ∧ 2 ≤ m.failNodeInfo) ∧ l.node =
      d.node .started (d.versionQueries ++ d.stateQueries) [] (d.lists .version) := by
  cases h with
  | @settling d t n s told settling ht =>
    obtain rfl : t = 0 := Nat.le_zero.1 ht
    refine ⟨d, told, ?_⟩
    cases settling
    rfl
  | @asking retries s hr =>
    rw [m.requestsLeft_asking] at none
    omega

end Listening

end ZWave
