import ZWave.Proofs.Controller.Charge

/-!
# Reading the trace of a controller

What was handed to the network, what was delivered and to whom, and which nodes were told to be
ready is read from the trace. The network is given what the turns hand to it (`network_turnsOf`),
and each frame that it has for a cycle is delivered once (`delivered_cycle`).
-/

namespace ZWave

def ControllerEvent.handed? : ControllerEvent → Option Frame
  | .node _ _ event => event.sent?
  | _ => none

def ControllerEvent.routed? : ControllerEvent → Option (NodeId × Inbound)
  | .routed id inbound => some (id, inbound)
  | _ => none

def ControllerEvent.delivered? : ControllerEvent → Option (Option NodeId × Inbound)
  | .routed id inbound => some (some id, inbound)
  | .unrouted inbound => some (none, inbound)
  | _ => none

def ControllerEvent.notice? : ControllerEvent → Option NodeId
  | .node id _ .started => some id
  | _ => none

def ControllerEvent.isDelivery : ControllerEvent → Bool
  | .routed _ _ | .unrouted _ => true
  | .cycle | .node _ _ _ => false

namespace Controller

/-- The frames that were handed to the network, in order. -/
def handed (h : List ControllerEvent) : List Frame := h.filterMap ControllerEvent.handed?

/-- The frames that were given to nodes, in order. -/
def routed (h : List ControllerEvent) : List (NodeId × Inbound) :=
  h.filterMap ControllerEvent.routed?

/-- The frames that were delivered, in order, each with the node that it was given to. -/
def delivered (h : List ControllerEvent) : List (Option NodeId × Inbound) :=
  h.filterMap ControllerEvent.delivered?

/-- The nodes that were told to be ready, in order. -/
def notices (h : List ControllerEvent) : List NodeId := h.filterMap ControllerEvent.notice?

theorem handed_append (h e : List ControllerEvent) : handed (h ++ e) = handed h ++ handed e :=
  List.filterMap_append

theorem routed_append (h e : List ControllerEvent) : routed (h ++ e) = routed h ++ routed e :=
  List.filterMap_append

theorem delivered_append (h e : List ControllerEvent) :
    delivered (h ++ e) = delivered h ++ delivered e :=
  List.filterMap_append

theorem notices_append (h e : List ControllerEvent) : notices (h ++ e) = notices h ++ notices e :=
  List.filterMap_append

theorem handed_ofNode (n : Node) (events : List NodeEvent) :
    handed (ofNode n events) = Node.sent events := by
  unfold handed ofNode
  rw [List.filterMap_map]
  rfl

theorem notices_ofNode (n : Node) (events : List NodeEvent) :
    notices (ofNode n events) = List.replicate (events.count .started) n.id := by
  induction events with
  | nil => rfl
  | cons e events ih =>
    have cons : notices (ofNode n (e :: events)) =
        (ControllerEvent.notice? (.node n.id n.profile e)).toList ++ notices (ofNode n events) := by
      cases e <;> rfl
    rw [cons, ih, List.count_cons]
    cases e with
    | started => exact List.replicate_succ.symm
    | queued | sent | received | dropped | entered | retried => rfl

theorem isDelivery_of_mem_ofNode {n : Node} {events : List NodeEvent} {e : ControllerEvent}
    (h : e ∈ ofNode n events) : e.isDelivery = false := by
  obtain ⟨event, -, rfl⟩ := List.mem_map.1 h
  rfl

theorem routed_eq_nil {h : List ControllerEvent} (quiet : ∀ e ∈ h, e.isDelivery = false) :
    routed h = [] := by
  refine List.filterMap_eq_nil_iff.2 fun e he => ?_
  have := quiet e he
  cases e with
  | routed | unrouted => cases this
  | cycle | node => rfl

theorem delivered_eq_nil {h : List ControllerEvent} (quiet : ∀ e ∈ h, e.isDelivery = false) :
    delivered h = [] := by
  refine List.filterMap_eq_nil_iff.2 fun e he => ?_
  have := quiet e he
  cases e with
  | routed | unrouted => cases this
  | cycle | node => rfl

theorem unrouted_notMem {h : List ControllerEvent} (quiet : ∀ e ∈ h, e.isDelivery = false)
    (i : Inbound) : .unrouted i ∉ h := by
  intro hm
  cases quiet _ hm

section Turns

variable {σ : Type} [Network σ] {c : Controller σ}

/-- What the turns hand to the network it is given, in that order. -/
theorem network_turnsOf (hk : c.Keyed) (busy : Option NodeId) (ids : List NodeId) :
    (c.turnsOf busy ids).value.network =
      (handed (c.turnsOf busy ids).events).foldl (fun net f => Network.send f net) c.network := by
  induction ids generalizing c busy with
  | nil => rfl
  | cons id ids ih =>
    have first : (c.turn busy id).value.network =
        (handed (c.turn busy id).events).foldl (fun net f => Network.send f net) c.network := by
      rcases turn_cases hk busy id with ⟨-, ht⟩ | ⟨n, -, -, -, network, events⟩
      · rw [ht]
        rfl
      · rw [events, handed_ofNode, Node.sent_tick, network]
        cases n.sends? <;> rfl
    rw [turnsOf, Traced.value_bind, Traced.events_bind, handed_append, List.foldl_append, ← first]
    exact ih (hk.turn busy id) _

theorem isDelivery_turnsOf (hk : c.Keyed) (busy : Option NodeId) (ids : List NodeId) :
    ∀ e ∈ (c.turnsOf busy ids).events, e.isDelivery = false := by
  induction ids generalizing c busy with
  | nil => exact fun e he => (nomatch he)
  | cons id ids ih =>
    intro e he
    rcases List.mem_append.1 he with he | he
    · rcases turn_cases hk busy id with ⟨-, ht⟩ | ⟨n, -, -, -, -, events⟩
      · rw [ht] at he
        cases he
      · rw [events] at he
        exact isDelivery_of_mem_ofNode he
    · exact ih (hk.turn busy id) _ e he

theorem isDelivery_begun (hk : c.Keyed) : ∀ e ∈ c.begun.events, e.isDelivery = false := by
  intro e he
  rcases List.mem_append.1 he with he | he
  · cases List.mem_singleton.1 he
    rfl
  · exact isDelivery_turnsOf (c := { c with cycles := c.cycles + 1 }) hk _ _ e he

theorem node?_turnsOf_of_notMem (hk : c.Keyed) {busy : Option NodeId} {ids : List NodeId}
    {k : NodeId} (hid : k ∉ ids) : (c.turnsOf busy ids).value.node? k = c.node? k := by
  induction ids generalizing c busy with
  | nil => rfl
  | cons id ids ih =>
    rw [List.mem_cons, not_or] at hid
    refine (ih (hk.turn busy id) hid.2).trans ?_
    rw [node?_turn hk, if_neg hid.1]

end Turns

theorem handed_routeAll {σ : Type} (c : Controller σ) (inbound : List Inbound) :
    handed (inbound.foldlM route c).events = [] := by
  induction inbound generalizing c with
  | nil => rfl
  | cons i inbound ih =>
    have first : handed (c.route i).events = [] := by
      unfold route
      split
      · next n _ => exact (handed_ofNode _ _).trans (Node.sent_eq_nil (n.emits_receive _))
      · rfl
    rw [List.foldlM_cons, Traced.events_bind, handed_append, first, ih]
    rfl

/-- Each frame is delivered once, in the order in which they came. -/
theorem delivered_routeAll {σ : Type} (c : Controller σ) (inbound : List Inbound) :
    (delivered (c.routeAll inbound).events).map (·.2) = inbound := by
  unfold routeAll
  induction inbound generalizing c with
  | nil => rfl
  | cons i inbound ih =>
    have first : (delivered (c.route i).events).map (·.2) = [i] := by
      unfold route
      split
      · next n _ =>
        have quiet : delivered (ofNode n (n.receive i.frame).events) = [] :=
          delivered_eq_nil fun _ => isDelivery_of_mem_ofNode
        exact congrArg (fun l => i :: l.map (·.2)) quiet
      · rfl
    rw [List.foldlM_cons, Traced.events_bind, delivered_append, List.map_append, first, ih]
    rfl

/-- In a cycle the frames are delivered that the network has for it. -/
theorem delivered_cycle {σ : Type} [Network σ] {c : Controller σ} (hk : c.Keyed) :
    (delivered c.cycle.events).map (·.2) = c.begun.value.poll.1 := by
  rw [c.cycle_eq, Traced.events_bind, delivered_append, delivered_eq_nil (isDelivery_begun hk),
    List.nil_append]
  exact delivered_routeAll ..

section Count

variable {σ : Type}

/-! ## The number of cycles -/

theorem cycles_route (c : Controller σ) (i : Inbound) : (c.route i).value.cycles = c.cycles := by
  unfold route
  split <;> rfl

theorem cycles_routeAll (c : Controller σ) (inbound : List Inbound) :
    (c.routeAll inbound).value.cycles = c.cycles := by
  unfold routeAll
  induction inbound generalizing c with
  | nil => rfl
  | cons i inbound ih => rw [List.foldlM_cons, Traced.value_bind, ih, cycles_route]

variable [Network σ]

theorem cycles_turn (c : Controller σ) (busy : Option NodeId) (id : NodeId) :
    (c.turn busy id).value.cycles = c.cycles := by
  unfold turn
  split
  · rfl
  · split <;> rfl

theorem cycles_turnsOf (c : Controller σ) (busy : Option NodeId) (ids : List NodeId) :
    (c.turnsOf busy ids).value.cycles = c.cycles := by
  induction ids generalizing c busy with
  | nil => rfl
  | cons id ids ih => rw [turnsOf, Traced.value_bind, ih, cycles_turn]

theorem cycles_cycle (c : Controller σ) : c.cycle.value.cycles = c.cycles + 1 :=
  (cycles_routeAll ..).trans (cycles_turnsOf ..)

end Count

end Controller

end ZWave
