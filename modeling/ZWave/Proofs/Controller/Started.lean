import ZWave.Proofs.Controller.Histories
import ZWave.Summary.Basic

/-!
# The list of the nodes that are ready

A node gives notice in the turn in which it becomes ready, and in no other step
(`started_notMem_call`). The controller's list is the list of these notices (`Run.started_eq`), and
the history of a node holds one notice if the node is ready and none if it is not
(`Run.count_started`). So the list and the states of the nodes always say the same
(`Run.started_exact`).
-/

namespace ZWave

namespace Node

/-- Notice is given once at most, since the states that are entered lie higher and higher. -/
theorem count_started_operate_le (n : Node) (op : Operation) :
    (n.operate op).events.count .started ≤ 1 := by
  have rising := (List.pairwise_cons.1 (n.climbs_operate op).pairwise).2
  have once : (entered (n.operate op).events).Nodup := by
    refine rising.imp fun below same => ?_
    rw [same] at below
    exact Nat.lt_irrefl _ below
  rw [(n.follows_operate op).notice]
  exact List.nodup_iff_count.1 once .started

/-- Notice is given by a node that becomes ready. -/
theorem becomes_started {n : Node} {op : Operation} (notice : .started ∈ (n.operate op).events) :
    n.state ≠ .started ∧ (n.operate op).value.state = .started := by
  have counted : 0 < (entered (n.operate op).events).count .started := by
    rw [← (n.follows_operate op).notice]
    exact List.count_pos_iff.2 notice
  have climbs := n.climbs_operate op
  have low : n.state ≠ .started := by
    intro ready
    have above := (List.pairwise_cons.1 climbs.pairwise).1 _ (List.count_pos_iff.1 counted)
    rw [ready] at above
    exact Nat.lt_irrefl _ above
  refine ⟨low, Decidable.byContradiction fun other => ?_⟩
  rw [climbs.count_started low, if_neg other] at counted
  exact Nat.lt_irrefl 0 counted

/-- No frame that arrives makes a node give notice. -/
theorem started_notMem_receive (n : Node) (f : Frame) : .started ∉ (n.receive f).events := by
  intro notice
  have given : .started ∈ (n.operate (.call (.receive f))).events := notice
  obtain ⟨low, ready⟩ := becomes_started given
  exact low (started_of_receive ready)

theorem started_notMem_call (n : Node) (call : Call) : .started ∉ (n.call call).events := by
  cases call with
  | receive f => exact n.started_notMem_receive f
  | queue frame defer => exact fun notice => nomatch List.mem_singleton.1 notice
  | flush | setListening | register => exact List.not_mem_nil

theorem started_notMem_join (id : NodeId) (info : ProtocolInfo) (factory : Factory) :
    .started ∉ (join id info factory).events := by
  unfold join
  split
  · exact fun notice => nomatch List.mem_singleton.1 notice
  · exact List.not_mem_nil

end Node

namespace Controller

variable {σ : Type}

/-! ## The notices -/

/-- The notices that name a node are those that the node gave. -/
theorem count_notices (id : NodeId) (h : List ControllerEvent) :
    (notices h).count id = (eventsOf id h).count .started := by
  induction h with
  | nil => rfl
  | cons e h ih =>
    have named : notices (e :: h) = e.notice?.toList ++ notices h := by
      unfold notices
      rw [List.filterMap_cons]
      cases e.notice? <;> rfl
    have own : eventsOf id (e :: h) = ((e.on? id).map (·.2)).toList ++ eventsOf id h := by
      unfold eventsOf toldOf
      rw [List.filterMap_cons]
      cases e.on? id <;> rfl
    rw [named, own, List.count_append, List.count_append, ih]
    congr 1
    cases e with
    | node k profile event =>
      by_cases here : k = id
      · subst here
        cases event <;> simp [ControllerEvent.notice?, ControllerEvent.on?]
      · cases event <;> simp [ControllerEvent.notice?, ControllerEvent.on?, here]
    | cycle | routed | unrouted => rfl

theorem notices_eq_nil {n : Node} {events : List NodeEvent} (quiet : .started ∉ events) :
    notices (ofNode n events) = [] := by
  rw [notices_ofNode, List.count_eq_zero.2 quiet]
  rfl

theorem notices_route {c : Controller σ} (hk : c.Keyed) (i : Inbound) :
    notices (c.route i).events = [] := by
  rcases route_cases hk i with ⟨-, hr⟩ | ⟨id, n, -, -, hr⟩
  · rw [hr]
    rfl
  · rw [hr]
    exact notices_eq_nil (n.started_notMem_receive i.frame)

theorem started_route {c : Controller σ} (hk : c.Keyed) (i : Inbound) :
    (c.route i).value.started = c.started := by
  rcases route_cases hk i with ⟨-, hr⟩ | ⟨id, n, -, -, hr⟩
  · rw [hr]
  · rw [hr]
    rfl

theorem notices_routeAll {c : Controller σ} (hk : c.Keyed) (inbound : List Inbound) :
    notices (c.routeAll inbound).events = [] := by
  unfold routeAll
  induction inbound generalizing c with
  | nil => rfl
  | cons i inbound ih =>
    rw [List.foldlM_cons, Traced.events_bind, notices_append, notices_route hk, ih (hk.route i)]
    rfl

variable [Network σ]

theorem notices_turn {c : Controller σ} (hk : c.Keyed) (busy : Option NodeId) (id : NodeId) :
    notices (c.turn busy id).events = [] ∨ notices (c.turn busy id).events = [id] := by
  rcases turn_cases hk busy id with ⟨-, ht⟩ | ⟨n, hn, -, -, -, events⟩
  · rw [ht]
    exact .inl rfl
  · have few : n.tick.events.count .started ≤ 1 := n.count_started_operate_le .tick
    rw [events, notices_ofNode, hk id n hn]
    rcases Nat.le_one_iff_eq_zero_or_eq_one.1 few with none | one
    · rw [none]
      exact .inl rfl
    · rw [one]
      exact .inr rfl

theorem started_turn {c : Controller σ} (hk : c.Keyed) (busy : Option NodeId) (id : NodeId) :
    (c.turn busy id).value.started = c.started ++ notices (c.turn busy id).events := by
  unfold turn
  cases hn : c.node? id with
  | none => exact (List.append_nil _).symm
  | some n =>
    dsimp only
    split
    · exact (List.append_nil _).symm
    · have few : n.tick.events.count .started ≤ 1 := n.count_started_operate_le .tick
      rw [notices_ofNode, hk id n hn]
      by_cases notice : .started ∈ n.tick.events
      · have once : n.tick.events.count .started = 1 :=
          Nat.le_antisymm few (List.count_pos_iff.2 notice)
        rw [if_pos notice, once]
        rfl
      · rw [if_neg notice, List.count_eq_zero.2 notice]
        exact (List.append_nil _).symm

theorem started_kept :
    Kept (σ := σ) (fun _ => True) (fun c h => c.started = notices h) where
  new := fun _ _ => rfl
  add := by
    intro c h id info r _ told hr
    obtain ⟨-, value, events⟩ := add_ok hr
    rw [value, events, notices_append,
      notices_eq_nil (Node.started_notMem_join id info c.factory), List.append_nil]
    exact told
  call := by
    intro c h id call r _ told _ hr
    obtain ⟨n, -, rfl⟩ := onNode?_some hr
    rw [notices_append, notices_eq_nil (n.started_notMem_call call), List.append_nil]
    exact told
  begin := by
    intro c h told
    rw [notices_append]
    exact told.trans (List.append_nil _).symm
  turn := by
    intro c h busy id hk told
    rw [started_turn hk, notices_append, told]
  poll := fun told => told
  route := by
    intro c h i hk told
    rw [started_route hk, notices_append, notices_route hk, List.append_nil, told]

/-- The list is that of the notices. -/
theorem Run.started_eq {c : Controller σ} {h : List ControllerEvent} (run : Run c h) :
    c.started = notices h :=
  run.kept started_kept

theorem notices_turnsOf {c : Controller σ} (hk : c.Keyed) (busy : Option NodeId)
    (ids : List NodeId) : (notices (c.turnsOf busy ids).events).Sublist ids := by
  induction ids generalizing c busy with
  | nil => exact .slnil
  | cons id ids ih =>
    have rest := ih (hk.turn busy id) ((c.turn busy id).value.busyAfter busy id)
    rw [turnsOf, Traced.events_bind, notices_append]
    rcases notices_turn hk busy id with none | one
    · rw [none]
      exact rest.cons id
    · rw [one]
      exact rest.cons_cons id

theorem notices_cycle {c : Controller σ} (hk : c.Keyed) :
    (notices c.cycle.events).Pairwise (· < ·) := by
  let counted : Controller σ := { c with cycles := c.cycles + 1 }
  have turned := notices_turnsOf (c := counted) hk counted.awaiting? counted.nodes.ids
  have polled : c.begun.value.poll.2.Keyed := hk.begun
  rw [cycle_eq, Traced.events_bind, notices_append, notices_routeAll polled, List.append_nil]
  exact counted.nodes.pairwise_ids.sublist turned

/-! ## The list -/

section List

variable {c : Controller σ} {h : List ControllerEvent}

theorem Run.count_started (run : Run c h) (id : NodeId) :
    c.started.count id = if (c.node? id).any (·.state == .started) then 1 else 0 := by
  rw [run.started_eq, count_notices]
  cases there : c.node? id with
  | none =>
    rw [run.tracks.absent id there]
    rfl
  | some n =>
    obtain ⟨own, rfl, -, told⟩ := run.tracks.present id n there
    rw [← told, own.count_started]
    simp

theorem Run.nodup_started (run : Run c h) : c.started.Nodup := by
  refine List.nodup_iff_count.2 fun id => ?_
  rw [run.count_started]
  split <;> decide

theorem Run.mem_started_iff (run : Run c h) (id : NodeId) :
    id ∈ c.started ↔ ∃ n, c.node? id = some n ∧ n.state = .started := by
  rw [← List.count_pos_iff, run.count_started]
  cases c.node? id with
  | none => simp
  | some n => by_cases ready : n.state = .started <;> simp [ready]

/-- The list is as long as there are nodes that are ready. -/
theorem Run.length_started (run : Run c h) :
    c.started.length = c.nodes.values.countP (·.state == .started) := by
  let ready := c.nodes.entries.filter fun e => e.2.state == .started
  have ascending : (ready.map (·.1)).Nodup := c.nodes.nodup_ids.sublist (List.filter_sublist.map _)
  have same : c.started.Perm (ready.map (·.1)) := by
    refine (List.perm_ext_iff_of_nodup run.nodup_started ascending).2 fun id => ?_
    rw [run.mem_started_iff, List.mem_map]
    constructor
    · rintro ⟨n, there, state⟩
      have entry := (c.nodes.get?_eq_some_iff id n).1 there
      exact ⟨(id, n), List.mem_filter.2 ⟨entry, by simp [state]⟩, rfl⟩
    · rintro ⟨⟨k, n⟩, found, rfl⟩
      obtain ⟨entry, state⟩ := List.mem_filter.1 found
      exact ⟨n, (c.nodes.get?_eq_some_iff k n).2 entry, by simpa using state⟩
  rw [same.length_eq, List.length_map, ← List.countP_eq_length_filter, IdMap.values,
    List.countP_map]
  rfl

/-- What a run makes of the list of the nodes that are ready. -/
structure StartedList (c : Controller σ) (h : List ControllerEvent) : Prop where
  /-- It is the list of the notices, in their order. -/
  told : c.started = notices h
  once : c.started.Nodup
  mem : ∀ id, id ∈ c.started ↔ ∃ n, c.node? id = some n ∧ n.state = .started
  summary : c.summary.started = c.started.length
  all : c.allStarted = true ↔ c.started.length = c.nodes.size
  /-- What a cycle adds stands behind the rest, in the order of the ids. -/
  cycle : ∃ ids, c.cycle.value.started = c.started ++ ids ∧ ids.Pairwise (· < ·)
  add : ∀ id info r, c.add id info = .ok r → r.value.started = c.started
  call : ∀ id call r, c.onNode? id (·.call call) = some r → r.value.started = c.started

end List

/-- **The list is exact.** After any nodes that join, cycles and calls on the nodes, the list holds
each node that is ready once, and no other. -/
theorem Run.started_exact {c : Controller σ} {h : List ControllerEvent} (run : Run c h) :
    StartedList c h where
  told := run.started_eq
  once := run.nodup_started
  mem := run.mem_started_iff
  summary := by
    rw [run.length_started, summary, NetworkSummary.started, List.countP_map]
    rfl
  all := by
    have size : c.nodes.size = c.nodes.values.length := (List.length_map _).symm
    rw [run.length_started, size, List.countP_eq_length, allStarted, List.all_eq_true]
  cycle := by
    refine ⟨notices c.cycle.events, ?_, notices_cycle run.keyed_waitsOnly.1⟩
    rw [run.cycle.started_eq, notices_append, run.started_eq]
  add := by
    intro id info r hr
    rw [(add_ok hr).2.1]
    rfl
  call := by
    intro id call r hr
    obtain ⟨n, -, rfl⟩ := onNode?_some hr
    rfl

theorem Run.started_exact_late :
    ∃ (c : Controller ScriptedNetwork) (h : List ControllerEvent), Run c h ∧ StartedList c h ∧
      c.started = [3, 2] ∧ c.nodes.ids = [2, 3, 4] ∧ c.summary.started = 2 ∧
      c.allStarted = false := by
  let told (id : NodeId) : Frame := .applicationUpdate (.infoReceived id ⟨{}, []⟩)
  let network : ScriptedNetwork := { script := [⟨told 2, true⟩] }
  have joined := Run.add 3 ⟨{}, false⟩ (Run.add 2 ⟨{}, false⟩ (Run.new network .standard) rfl) rfl
  have ready := (Run.call 3 (.receive (told 3)) joined rfl).cycle.cycle
  have run := Run.add 4 ⟨{}, true⟩ ready (add_of_free _ (by decide +kernel))
  exact ⟨_, _, run, run.started_exact, by decide +kernel, by decide +kernel, by decide +kernel,
    by decide +kernel⟩

end Controller

end ZWave
