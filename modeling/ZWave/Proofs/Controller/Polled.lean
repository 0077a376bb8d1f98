import ZWave.Proofs.Controller.Histories
import ZWave.Proofs.Node.Traffic

/-!
# Frames that are polled

A controller whose nodes are handed nothing between the cycles gives them what it polls, and nothing
else. Each frame that is polled is delivered once (`PolledRun.delivered_eq`), to a node that is
there or to none, and a node receives what is delivered to it (`PolledRun.heard`).
-/

namespace ZWave.Controller

variable {σ : Type}

/-! ## What nodes are given -/

def givenTo (id : NodeId) (h : List ControllerEvent) : List Frame :=
  (delivered h).filterMap fun d => if d.1 = some id then some d.2.frame else none

theorem givenTo_append (id : NodeId) (h e : List ControllerEvent) :
    givenTo id (h ++ e) = givenTo id h ++ givenTo id e := by
  rw [givenTo, delivered_append, List.filterMap_append]
  rfl

theorem delivered_ofNode (n : Node) (events : List NodeEvent) : delivered (ofNode n events) = [] :=
  delivered_eq_nil fun _ => isDelivery_of_mem_ofNode

/-- What was given to nodes was given to nodes that are there, and they received it. -/
structure Heard (c : Controller σ) (h : List ControllerEvent) : Prop where
  received : ∀ id, Node.receptions (eventsOf id h) = (givenTo id h).filterMap Frame.inboundKind?
  absent : ∀ id, c.node? id = none → givenTo id h = []

section Heard

variable {c c' : Controller σ} {h e : List ControllerEvent}

/-- The nodes stay, and frames come to the nodes that receive them. -/
theorem Heard.append (heard : Heard c h) (stay : ∀ k, c'.node? k = none → c.node? k = none)
    (received : ∀ k, Node.receptions (eventsOf k e) = (givenTo k e).filterMap Frame.inboundKind?)
    (absent : ∀ k, c.node? k = none → givenTo k e = []) : Heard c' (h ++ e) where
  received := by
    intro k
    rw [eventsOf_append, Node.receptions_append, heard.received, received, givenTo_append,
      List.filterMap_append]
  absent := by
    intro k none
    rw [givenTo_append, heard.absent k (stay k none), absent k (stay k none)]
    rfl

theorem Heard.quiet (heard : Heard c h) (stay : ∀ k, c'.node? k = none → c.node? k = none)
    (undelivered : delivered e = []) (unheard : ∀ k, Node.receptions (eventsOf k e) = []) :
    Heard c' (h ++ e) := by
  have nothing : ∀ k, givenTo k e = [] := by
    intro k
    rw [givenTo, undelivered]
    rfl
  exact heard.append stay (fun k => by rw [unheard, nothing]; rfl) fun k _ => nothing k

theorem receptions_ofNode {n : Node} {events : List NodeEvent} (quiet : Node.receptions events = [])
    (k : NodeId) : Node.receptions (eventsOf k (ofNode n events)) = [] := by
  rw [eventsOf_ofNode]
  split
  · exact quiet
  · rfl

theorem node?_withNode_eq_none {n : Node} {k : NodeId} (gone : (c.withNode n).node? k = none) :
    c.node? k = none := by
  rw [node?_withNode] at gone
  split at gone
  · cases gone
  · exact gone

/-- A frame is given to one node at most, which is there and receives it. -/
theorem Heard.route (heard : Heard c h) (hk : c.Keyed) (i : Inbound) :
    Heard (c.route i).value (h ++ (c.route i).events) := by
  rcases route_cases hk i with ⟨-, hr⟩ | ⟨id, n, -, hn, hr⟩
  · rw [hr]
    exact heard.append (fun _ none => none) (fun _ => rfl) fun _ _ => rfl
  · have given : ∀ k, givenTo k (.routed id i :: ofNode n (n.receive i.frame).events) =
        if id = k then [i.frame] else [] := by
      intro k
      change ((some id, i) :: delivered (ofNode n _)).filterMap _ = _
      rw [delivered_ofNode]
      by_cases own : id = k <;> simp [own]
    have events : ∀ k, eventsOf k (.routed id i :: ofNode n (n.receive i.frame).events) =
        if id = k then (n.receive i.frame).events else [] := by
      intro k
      exact (eventsOf_ofNode k n _).trans (by rw [hk id n hn])
    rw [hr]
    refine heard.append (fun _ => node?_withNode_eq_none) (fun k => ?_) fun k none => ?_
    · rw [events, given]
      by_cases own : id = k
      · rw [if_pos own, if_pos own, (n.receptions_receive i.frame).1]
        cases i.frame <;> rfl
      · rw [if_neg own, if_neg own]
        rfl
    · have other : id ≠ k := by
        rintro rfl
        rw [hn] at none
        cases none
      rw [given, if_neg other]

end Heard

variable [Network σ]

theorem heard_kept : Kept (σ := σ) (fun call => ∀ f, call ≠ .receive f) Heard where
  new := fun _ _ => ⟨fun _ => rfl, fun _ _ => rfl⟩
  add := by
    intro c h id info r _ heard hr
    obtain ⟨-, value, events⟩ := add_ok hr
    have quiet : Node.receptions (Node.join id info c.factory).events = [] := by
      unfold Node.join
      split <;> rfl
    rw [value, events]
    exact heard.quiet (fun _ => node?_withNode_eq_none) (delivered_ofNode ..)
      (receptions_ofNode quiet)
  call := by
    intro c h id call r _ heard unread hr
    obtain ⟨n, -, rfl⟩ := onNode?_some hr
    have quiet : Node.receptions (n.call call).events = [] := by
      cases call with
      | receive f => exact absurd rfl (unread f)
      | queue | flush | setListening | register => rfl
    exact heard.quiet (fun _ => node?_withNode_eq_none) (delivered_ofNode ..)
      (receptions_ofNode quiet)
  begin := fun heard => heard.quiet (fun _ none => none) rfl fun _ => rfl
  turn := by
    intro c h busy id hk heard
    rcases turn_cases hk busy id with ⟨-, ht⟩ | ⟨n, hn, -, nodes, -, events⟩
    · rw [ht]
      exact heard.quiet (fun _ none => none) rfl fun _ => rfl
    · have quiet : Node.receptions n.tick.events = [] :=
        (Node.receptions_of_unprompted n.unprompted_tick).1
      rw [events]
      refine heard.quiet (fun k none => ?_) (delivered_ofNode ..) (receptions_ofNode quiet)
      rw [nodes] at none
      split at none
      · cases none
      · exact none
  poll := fun heard => ⟨heard.received, heard.absent⟩
  route := fun i hk heard => heard.route hk i

/-! ## Runs -/

/-- The runs in which nodes are handed no frame between the cycles, with what was polled. -/
inductive PolledRun : Controller σ → List ControllerEvent → List Inbound → Prop where
  | new (network : σ) (factory : Factory) : PolledRun { network, factory } [] []
  | add {c : Controller σ} {h : List ControllerEvent} {polled : List Inbound} (id : NodeId)
      (info : ProtocolInfo) {r : Traced ControllerEvent (Controller σ)} :
      PolledRun c h polled → c.add id info = .ok r → PolledRun r.value (h ++ r.events) polled
  | cycle {c : Controller σ} {h : List ControllerEvent} {polled : List Inbound} :
      PolledRun c h polled →
      PolledRun c.cycle.value (h ++ c.cycle.events) (polled ++ c.begun.value.poll.1)
  | call {c : Controller σ} {h : List ControllerEvent} {polled : List Inbound} (id : NodeId)
      (call : Node.Call) {r : Traced ControllerEvent (Controller σ)} :
      PolledRun c h polled → (∀ f, call ≠ .receive f) →
      c.onNode? id (·.call call) = some r → PolledRun r.value (h ++ r.events) polled

namespace PolledRun

variable {c : Controller σ} {h : List ControllerEvent} {polled : List Inbound}

theorem run (polledRun : PolledRun c h polled) : Run c h := by
  induction polledRun with
  | new network factory => exact Run.new network factory
  | add id info _ hr ih => exact Run.add id info ih hr
  | cycle _ ih => exact Run.cycle ih
  | call id call _ _ hr ih => exact Run.call id call ih hr

theorem kept (polledRun : PolledRun c h polled) {P : Controller σ → List ControllerEvent → Prop}
    (kept : Kept (fun call => ∀ f, call ≠ .receive f) P) : P c h := by
  induction polledRun with
  | new network factory => exact kept.new network factory
  | add id info before hr ih => exact kept.add before.run.keyed_waitsOnly.1 ih hr
  | cycle before ih => exact kept.cycle before.run.keyed_waitsOnly.1 ih
  | call id call before unread hr ih =>
    exact kept.call before.run.keyed_waitsOnly.1 ih unread hr

theorem heard (polledRun : PolledRun c h polled) : Heard c h := polledRun.kept heard_kept

/-- Each frame that was polled was delivered once, in the order in which they came. -/
theorem delivered_eq (polledRun : PolledRun c h polled) :
    (delivered h).map (·.2) = polled := by
  induction polledRun with
  | new => rfl
  | add id info _ hr ih =>
    rw [(add_ok hr).2.2, delivered_append, delivered_ofNode, List.append_nil]
    exact ih
  | cycle before ih =>
    rw [delivered_append, List.map_append, delivered_cycle before.run.keyed_waitsOnly.1, ih]
  | call id call _ _ hr ih =>
    obtain ⟨n, -, rfl⟩ := onNode?_some hr
    rw [delivered_append, delivered_ofNode, List.append_nil]
    exact ih

end PolledRun

end ZWave.Controller
