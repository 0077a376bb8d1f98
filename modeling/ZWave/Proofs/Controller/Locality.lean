import ZWave.Proofs.Controller.Charge

/-!
# Which nodes a delivered frame can change

A frame that names a node is given to that node, if it is there. One that names none, or node 0, is
meant for the node that waits for its information if it reports a failure; but whatever it is, it is
given to that node. A frame that is neither a command nor an update changes nothing there, any other
is read as if it had come from the node that waits, and ends its transaction (`Run.route_local`). So
it is between cycles, and after the turns of a cycle and any of its deliveries (`DeliversFrom`).
-/

namespace ZWave

/-- The frame names no node, or node 0, which is no node's address. -/
def Frame.Nameless (f : Frame) : Prop := f.nodeId? = none ∨ f.nodeId? = some 0

namespace Controller

variable {σ : Type} {c : Controller σ} {i : Inbound}

theorem target?_of_named {id : NodeId} (named : i.frame.nodeId? = some id) (nonzero : id ≠ 0) :
    c.target? i.frame = some id := by
  simp [target?, named, nonzero]

theorem target?_of_nameless (h : i.frame.Nameless) : c.target? i.frame = c.awaiting? := by
  rcases h with h | h <;> simp [target?, h]

theorem node?_route_of_ne (hk : c.Keyed) {k : NodeId} (h : c.target? i.frame ≠ some k) :
    (c.route i).value.node? k = c.node? k := by
  rw [node?_route hk, if_neg h]

theorem route_of_absent {id : NodeId} (target : c.target? i.frame = some id)
    (absent : c.node? id = none) : (c.route i).value = c := by
  unfold route
  rw [target, Option.bind_some, absent]

theorem node?_route_of_nameless (hk : c.Keyed) (only : c.WaitsOnly c.awaiting?)
    (h : i.frame.Nameless) (k : NodeId) :
    (c.route i).value.node? k =
      if c.awaits k then (c.node? k).map fun n => (n.receive i.frame).value else c.node? k := by
  rw [node?_route hk, target?_of_nameless h]
  by_cases waits : c.awaits k = true
  · rw [if_pos waits, if_pos ((awaiting?_eq_some_iff only).2 (awaits_iff.1 waits))]
  · rw [if_neg waits, if_neg]
    intro found
    exact waits (awaits_iff.2 ((awaiting?_eq_some_iff only).1 found))

/-- Where a delivery starts: between two cycles, or within the next one. -/
inductive DeliversFrom [Network σ] (c : Controller σ) : Controller σ → Prop where
  | between : c.DeliversFrom c
  | within (before : List Inbound) :
      c.DeliversFrom (c.begun.value.poll.2.routeAll before).value

theorem DeliversFrom.keyed_waitsOnly [Network σ] {h : List ControllerEvent} (run : Run c h)
    {c' : Controller σ} (start : c.DeliversFrom c') : c'.Keyed ∧ c'.WaitsOnly c'.awaiting? := by
  obtain ⟨hk, only⟩ := run.keyed_waitsOnly
  cases start with
  | between => exact ⟨hk, only⟩
  | within before => exact only.delivering hk before

/-- **What a delivery changes.** At most the node that the frame names, or else the one that waits
for its information, which only a command or an update changes. -/
theorem Run.route_local [Network σ] {h : List ControllerEvent} (run : Run c h)
    {c' : Controller σ} (start : c.DeliversFrom c') (i : Inbound) :
    (∀ id, i.frame.nodeId? = some id → id ≠ 0 →
      (∀ k, k ≠ id → (c'.route i).value.node? k = c'.node? k) ∧
        (c'.node? id = none → (c'.route i).value = c')) ∧
    (i.frame.Nameless →
      (∀ k, c'.awaits k = false → (c'.route i).value.node? k = c'.node? k) ∧
      (∀ j k, c'.awaits j = true → c'.awaits k = true → j = k) ∧
      (i.frame.isReport = false → ∀ k, (c'.route i).value.node? k = c'.node? k) ∧
      (i.frame.isReport = true → ∀ k n, c'.node? k = some n → n.awaitsNodeInfo = true →
        (c'.route i).value.node? k = some (n.receive i.frame).value ∧
          (n.receive i.frame).value.pending = none)) := by
  obtain ⟨hk, only⟩ := start.keyed_waitsOnly run
  constructor
  · intro id named nonzero
    have target := target?_of_named (c := c') named nonzero
    refine ⟨fun k hne => ?_, route_of_absent target⟩
    apply node?_route_of_ne hk
    rw [target]
    intro he
    exact hne (Option.some.inj he).symm
  · intro nameless
    have routed := node?_route_of_nameless hk only nameless
    refine ⟨fun k quiet => ?_, fun j k hj hk => ?_, fun silent k => ?_, fun report k n hn waits => ?_⟩
    · rw [routed, quiet]
      rfl
    · have found := (awaiting?_eq_some_iff only).2 (awaits_iff.1 hj)
      rw [(awaiting?_eq_some_iff only).2 (awaits_iff.1 hk)] at found
      exact (Option.some.inj found).symm
    · rw [routed]
      split
      · cases c'.node? k with
        | none => rfl
        | some n => exact congrArg some (n.value_receive_of_not_isReport silent)
      · rfl
    · refine ⟨?_, Node.ending_of_isReport report n⟩
      rw [routed, awaits_iff.2 ⟨n, hn, waits⟩, hn]
      rfl

theorem route_local_foreign :
    ∃ (c : Controller ScriptedNetwork) (h : List ControllerEvent) (i : Inbound) (n n' : Node),
      Run c h ∧ i.frame = .applicationUpdate (.infoReceived 0 ⟨{}, [ClassId.switchBinary]⟩) ∧
        c.node? 2 = some n ∧ n.awaitsNodeInfo = true ∧ n.state = .nodeInfo ∧
        n.classes.contains ClassId.switchBinary = false ∧
        (c.route i).value.node? 2 = some n' ∧ n'.pending = none ∧ n'.state = .statePending ∧
        n'.classes.contains ClassId.switchBinary = true := by
  let i : Inbound :=
    ⟨.applicationUpdate (.infoReceived 0 ⟨{}, [ClassId.switchBinary]⟩), true⟩
  have run := Run.cycle (Run.add 2 ⟨{}, true⟩ (Run.new ({} : ScriptedNetwork) .standard) rfl)
  obtain ⟨-, -, -, given⟩ := (run.route_local .between i).2 (.inr rfl)
  obtain ⟨routed, ended⟩ := given rfl 2 _ rfl (by decide)
  exact ⟨_, _, i, _, _, run, rfl, rfl, by decide, by decide, by decide, routed, ended,
    by decide +kernel, by decide +kernel⟩

end Controller

end ZWave
