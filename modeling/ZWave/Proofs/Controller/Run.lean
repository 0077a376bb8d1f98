import ZWave.Controller.Cycle
import ZWave.Proofs.Node.History

/-!
# Runs of a controller

A run begins with a controller without nodes and goes on with nodes that join, cycles, and calls on
single nodes in between, in any order; `Run` relates the controllers that are reached to what
happened on the way. `turn_cases` and `route_cases` say all that a turn and a delivery can do.
-/

namespace ZWave

namespace Controller

variable {σ : Type} [Network σ]

/-- The controllers that runs lead to, with what happened on the way. -/
inductive Run : Controller σ → List ControllerEvent → Prop where
  | new (network : σ) (factory : Factory) : Run { network, factory } []
  | add {c : Controller σ} {h : List ControllerEvent} (id : NodeId) (info : ProtocolInfo)
      {r : Traced ControllerEvent (Controller σ)} :
      Run c h → c.add id info = .ok r → Run r.value (h ++ r.events)
  | cycle {c : Controller σ} {h : List ControllerEvent} :
      Run c h → Run c.cycle.value (h ++ c.cycle.events)
  | call {c : Controller σ} {h : List ControllerEvent} (id : NodeId) (call : Node.Call)
      {r : Traced ControllerEvent (Controller σ)} :
      Run c h → c.onNode? id (·.call call) = some r → Run r.value (h ++ r.events)

/-! ## The nodes of a controller -/

/-- Every node is kept under its own id. -/
def Keyed (c : Controller σ) : Prop := ∀ id n, c.node? id = some n → n.id = id

omit [Network σ]

theorem node?_withNode (c : Controller σ) (n : Node) (k : NodeId) :
    (c.withNode n).node? k = if k = n.id then some n else c.node? k := IdMap.get?_insert ..

theorem Keyed.withNode {c : Controller σ} (h : c.Keyed) (n : Node) : (c.withNode n).Keyed := by
  intro id m hm
  rw [node?_withNode] at hm
  split at hm
  · next e => cases hm; exact e.symm
  · exact h id m hm

theorem id_join (id : NodeId) (info : ProtocolInfo) (factory : Factory) :
    (Node.join id info factory).value.id = id := by
  unfold Node.join
  split <;> rfl

/-- Adding a node puts a new one under an id that was free. -/
theorem add_ok {c : Controller σ} {id : NodeId} {info : ProtocolInfo}
    {r : Traced ControllerEvent (Controller σ)} (h : c.add id info = .ok r) :
    c.node? id = none ∧ r.value = c.withNode
        ((Node.join id info c.factory).value.withProfile (.ofGenericType info.device.generic)) ∧
      r.events =
        ofNode (Node.join id info c.factory).value (Node.join id info c.factory).events := by
  unfold add at h
  split at h
  · cases h
  · next hc =>
    cases h
    refine ⟨?_, rfl, rfl⟩
    simpa [IdMap.contains, node?] using hc

theorem add_of_free {c : Controller σ} {id : NodeId} (info : ProtocolInfo)
    (free : c.nodes.contains id = false) :
    c.add id info = .ok
      ⟨c.withNode
        ((Node.join id info c.factory).value.withProfile (.ofGenericType info.device.generic)),
        ofNode (Node.join id info c.factory).value (Node.join id info c.factory).events⟩ := by
  rw [add, free]
  rfl

theorem onNode?_some {c : Controller σ} {id : NodeId} {f : Node → Traced NodeEvent Node}
    {r : Traced ControllerEvent (Controller σ)} (h : c.onNode? id f = some r) :
    ∃ n, c.node? id = some n ∧ r = ⟨c.withNode (f n).value, ofNode n (f n).events⟩ := by
  obtain ⟨n, hn, rfl⟩ := Option.map_eq_some_iff.1 h
  exact ⟨n, hn, rfl⟩

@[simp] theorem id_call (n : Node) (call : Node.Call) : (n.call call).value.id = n.id := by
  cases call with
  | receive f => exact n.id_receive f
  | queue | flush | setListening | register => rfl

/-! ## Turns and deliveries -/

variable [Network σ]

theorem sentFrames_eq (events : List NodeEvent) : turn.sentFrames events = Node.sent events := by
  unfold turn.sentFrames Node.sent
  congr 1

theorem turn_cases {c : Controller σ} (h : c.Keyed) (busy : Option NodeId) (id : NodeId) :
    ((∀ n, c.node? id = some n → holdsBack busy id n = true) ∧ c.turn busy id = pure c) ∨
    ∃ n, c.node? id = some n ∧ holdsBack busy id n = false ∧
      (∀ k, (c.turn busy id).value.node? k = if k = id then some n.tick.value else c.node? k) ∧
      (c.turn busy id).value.network =
        n.sends?.elim c.network (fun frame => Network.send frame c.network) ∧
      (c.turn busy id).events = ofNode n n.tick.events := by
  unfold turn
  cases hn : c.node? id with
  | none => exact .inl ⟨fun n hn => (nomatch hn), rfl⟩
  | some n =>
    simp only
    cases hb : holdsBack busy id n with
    | true =>
      refine .inl ⟨fun m hm => ?_, by simp⟩
      cases hm
      exact hb
    | false =>
      have hid : n.tick.value.id = id := n.id_tick.trans (h id n hn)
      refine .inr ⟨n, rfl, hb, fun k => ?_, ?_, rfl⟩
      · rw [← hid]
        exact node?_withNode c n.tick.value k
      · simp only [Bool.false_eq_true, if_false]
        rw [sentFrames_eq, Node.sent_tick]
        cases n.sends? <;> rfl

/-- A turn is a tick of the node whose turn it is, unless that is held back. -/
theorem node?_turn {c : Controller σ} (h : c.Keyed) (busy : Option NodeId) (id k : NodeId) :
    (c.turn busy id).value.node? k =
      if k = id then (c.node? id).map fun n => if holdsBack busy id n then n else n.tick.value
      else c.node? k := by
  rcases turn_cases h busy id with ⟨hb, ht⟩ | ⟨n, hn, hb, hv, -, -⟩
  · rw [ht, Traced.value_pure]
    split
    · next e =>
      subst e
      cases hn : c.node? k with
      | none => rfl
      | some n => rw [Option.map_some, if_pos (hb n hn)]
    · rfl
  · rw [hv, hn, Option.map_some, hb]
    rfl

theorem Keyed.turn {c : Controller σ} (h : c.Keyed) (busy : Option NodeId) (id : NodeId) :
    (c.turn busy id).value.Keyed := by
  intro k n hn
  rw [node?_turn h] at hn
  split at hn
  · next e =>
    subst e
    obtain ⟨m, hm, rfl⟩ := Option.map_eq_some_iff.1 hn
    split
    · exact h k m hm
    · rw [Node.id_tick]; exact h k m hm
  · exact h k n hn

omit [Network σ]

/-- A frame is given to the node it belongs to, or to none. -/
theorem route_cases {c : Controller σ} (h : c.Keyed) (inbound : Inbound) :
    ((c.target? inbound.frame).bind c.node? = none ∧ c.route inbound = ⟨c, [.unrouted inbound]⟩) ∨
    ∃ id n, c.target? inbound.frame = some id ∧ c.node? id = some n ∧
      c.route inbound = ⟨c.withNode (n.receive inbound.frame).value,
        .routed id inbound :: ofNode n (n.receive inbound.frame).events⟩ := by
  unfold route
  cases ht : c.target? inbound.frame with
  | none => exact .inl ⟨rfl, rfl⟩
  | some id =>
    cases hn : c.node? id with
    | none => exact .inl ⟨hn, by simp [hn]⟩
    | some n =>
      refine .inr ⟨id, n, rfl, hn, ?_⟩
      have hid := h id n hn
      subst hid
      simp [hn]

/-- A delivery changes the node the frame belongs to, by what it makes of the frame. -/
theorem node?_route {c : Controller σ} (h : c.Keyed) (inbound : Inbound) (k : NodeId) :
    (c.route inbound).value.node? k =
      if c.target? inbound.frame = some k then
        (c.node? k).map fun n => (n.receive inbound.frame).value
      else c.node? k := by
  rcases route_cases h inbound with ⟨hb, hr⟩ | ⟨id, n, ht, hn, hr⟩
  · rw [hr]
    split
    · next ht =>
      rw [ht, Option.bind_some] at hb
      rw [hb, Option.map_none]
    · rfl
  · have hid : (n.receive inbound.frame).value.id = id := (n.id_receive _).trans (h id n hn)
    rw [hr, node?_withNode, hid, ht]
    by_cases hk : id = k
    · subst hk; simp [hn]
    · simp [hk, Ne.symm hk]

theorem node?_route_of_target {c : Controller σ} (h : c.Keyed) (inbound : Inbound) {id : NodeId}
    {n : Node} (target : c.target? inbound.frame = some id) (hn : c.node? id = some n) :
    (c.route inbound).value.node? id = some (n.receive inbound.frame).value := by
  rw [node?_route h, if_pos target, hn]
  rfl

theorem Keyed.route {c : Controller σ} (h : c.Keyed) (inbound : Inbound) :
    (c.route inbound).value.Keyed := by
  intro k n hn
  rw [node?_route h] at hn
  split at hn
  · obtain ⟨m, hm, rfl⟩ := Option.map_eq_some_iff.1 hn
    rw [Node.id_receive]
    exact h k m hm
  · exact h k n hn

end Controller

end ZWave
