import ZWave.Proofs.Controller.Trace
import ZWave.Proofs.Node.BringUp

/-!
# Nodes in a run

A run is made of single steps: a node joins, a cycle begins, a node has its turn, the network is
polled, a frame is delivered, something is done with a node. What each of them keeps true is true in
every run (`Run.kept`). To a node every step is one operation at most (`LocalKept.kept`), so what a
run tells of a node is what the node's own history tells (`Run.tracks`).
-/

namespace ZWave

/-- What happens on the node of an id, and the profile that it is told under. -/
def ControllerEvent.on? (id : NodeId) : ControllerEvent → Option (Profile × NodeEvent)
  | .node k profile event => if k = id then some (profile, event) else none
  | _ => none

namespace Controller

variable {σ : Type} [Network σ]

/-! ## What the steps of runs keep -/

/-- The single steps of runs keep `P` true, if only what is `admitted` is done with the nodes
between cycles. -/
structure Kept (admitted : Node.Call → Prop) (P : Controller σ → List ControllerEvent → Prop) :
    Prop where
  new : ∀ (network : σ) (factory : Factory), P { network, factory } []
  add : ∀ {c : Controller σ} {h : List ControllerEvent} {id : NodeId} {info : ProtocolInfo}
    {r : Traced ControllerEvent (Controller σ)},
    c.Keyed → P c h → c.add id info = .ok r → P r.value (h ++ r.events)
  call : ∀ {c : Controller σ} {h : List ControllerEvent} {id : NodeId} {call : Node.Call}
    {r : Traced ControllerEvent (Controller σ)},
    c.Keyed → P c h → admitted call → c.onNode? id (·.call call) = some r →
      P r.value (h ++ r.events)
  begin : ∀ {c : Controller σ} {h : List ControllerEvent},
    P c h → P { c with cycles := c.cycles + 1 } (h ++ [.cycle])
  turn : ∀ {c : Controller σ} {h : List ControllerEvent} (busy : Option NodeId) (id : NodeId),
    c.Keyed → P c h → P (c.turn busy id).value (h ++ (c.turn busy id).events)
  poll : ∀ {c : Controller σ} {h : List ControllerEvent}, P c h → P c.poll.2 h
  route : ∀ {c : Controller σ} {h : List ControllerEvent} (i : Inbound),
    c.Keyed → P c h → P (c.route i).value (h ++ (c.route i).events)

section Kept

variable {admitted : Node.Call → Prop} {P : Controller σ → List ControllerEvent → Prop}
  {c : Controller σ} {h : List ControllerEvent}

theorem Keyed.turnsOf (hk : c.Keyed) (busy : Option NodeId) (ids : List NodeId) :
    (c.turnsOf busy ids).value.Keyed := by
  induction ids generalizing c busy with
  | nil => exact hk
  | cons id ids ih => exact ih (hk.turn busy id) _

theorem Keyed.begun (hk : c.Keyed) : c.begun.value.Keyed :=
  let counted : Controller σ := { c with cycles := c.cycles + 1 }
  Keyed.turnsOf (c := counted) hk counted.awaiting? counted.nodes.ids

theorem Kept.turnsOf (kept : Kept admitted P) (hk : c.Keyed) (holds : P c h) (busy : Option NodeId)
    (ids : List NodeId) :
    P (c.turnsOf busy ids).value (h ++ (c.turnsOf busy ids).events) := by
  induction ids generalizing c h busy with
  | nil =>
    change P c (h ++ [])
    rwa [List.append_nil]
  | cons id ids ih =>
    rw [Controller.turnsOf, Traced.value_bind, Traced.events_bind, ← List.append_assoc]
    exact ih (hk.turn busy id) (kept.turn busy id hk holds) _

theorem Kept.routeAll (kept : Kept admitted P) (hk : c.Keyed) (holds : P c h)
    (inbound : List Inbound) :
    P (c.routeAll inbound).value (h ++ (c.routeAll inbound).events) := by
  unfold Controller.routeAll
  induction inbound generalizing c h with
  | nil =>
    change P c (h ++ [])
    rwa [List.append_nil]
  | cons i inbound ih =>
    rw [List.foldlM_cons, Traced.value_bind, Traced.events_bind, ← List.append_assoc]
    exact ih (hk.route i) (kept.route i hk holds)

theorem Kept.cycle (kept : Kept admitted P) (hk : c.Keyed) (holds : P c h) :
    P c.cycle.value (h ++ c.cycle.events) := by
  let counted : Controller σ := { c with cycles := c.cycles + 1 }
  have turned : P c.begun.value (h ++ [.cycle] ++ counted.turns.events) :=
    kept.turnsOf (c := counted) hk (kept.begin holds) counted.awaiting? counted.nodes.ids
  have keyed : c.begun.value.poll.2.Keyed := hk.begun
  rw [List.append_assoc] at turned
  rw [cycle_eq, Traced.value_bind, Traced.events_bind, ← List.append_assoc]
  exact kept.routeAll keyed (kept.poll turned) _

/-- What every step of a run keeps true is true in every run. -/
theorem Run.kept (run : Run c h) (kept : Kept (fun _ => True) P) : P c h := by
  induction run with
  | new network factory => exact kept.new network factory
  | add id info run hr ih => exact kept.add run.keyed_waitsOnly.1 ih hr
  | cycle run ih => exact kept.cycle run.keyed_waitsOnly.1 ih
  | call id call run hr ih => exact kept.call run.keyed_waitsOnly.1 ih trivial hr

end Kept

/-! ## Single nodes -/

section Local

omit [Network σ]

/-- What is told of the node of an id, in order. -/
def toldOf (id : NodeId) (h : List ControllerEvent) : List (Profile × NodeEvent) :=
  h.filterMap (ControllerEvent.on? id)

/-- What happened on the node of an id, in order. -/
def eventsOf (id : NodeId) (h : List ControllerEvent) : List NodeEvent := (toldOf id h).map (·.2)

theorem toldOf_append (id : NodeId) (h e : List ControllerEvent) :
    toldOf id (h ++ e) = toldOf id h ++ toldOf id e :=
  List.filterMap_append

theorem eventsOf_append (id : NodeId) (h e : List ControllerEvent) :
    eventsOf id (h ++ e) = eventsOf id h ++ eventsOf id e := by
  rw [eventsOf, toldOf_append, List.map_append]
  rfl

theorem toldOf_ofNode (id : NodeId) (n : Node) (events : List NodeEvent) :
    toldOf id (ofNode n events) = if n.id = id then events.map (Prod.mk n.profile) else [] := by
  unfold toldOf ofNode
  rw [List.filterMap_map]
  by_cases own : n.id = id
  · have all : ControllerEvent.on? id ∘ ControllerEvent.node n.id n.profile =
        some ∘ Prod.mk n.profile := by
      funext e
      exact if_pos own
    rw [if_pos own, all, List.filterMap_eq_map]
  · rw [if_neg own]
    exact List.filterMap_eq_nil_iff.2 fun e _ => if_neg own

theorem eventsOf_eq {id k : NodeId} {profile : Profile} {events : List NodeEvent}
    {e : List ControllerEvent}
    (told : toldOf k e = if id = k then events.map (Prod.mk profile) else []) :
    eventsOf k e = if id = k then events else [] := by
  rw [eventsOf, told]
  split
  · simp [Function.comp_def]
  · rfl

theorem eventsOf_ofNode (id : NodeId) (n : Node) (events : List NodeEvent) :
    eventsOf id (ofNode n events) = if n.id = id then events else [] :=
  eventsOf_eq (toldOf_ofNode id n events)

/-- The operations on single nodes keep `P` true. -/
structure LocalKept (P : Controller σ → List ControllerEvent → Prop) : Prop where
  new : ∀ (network : σ) (factory : Factory), P { network, factory } []
  join : ∀ {c c' : Controller σ} {h e : List ControllerEvent} (s : Node.Setup),
    c.node? s.id = none →
    (∀ k, c'.node? k = if k = s.id then some s.start.value else c.node? k) →
    (∀ k, toldOf k e = if s.id = k then s.start.events.map (Prod.mk .generic) else []) →
      P c h → P c' (h ++ e)
  same : ∀ {c c' : Controller σ} {h e : List ControllerEvent},
    (∀ k, c'.node? k = c.node? k) → (∀ k, toldOf k e = []) → P c h → P c' (h ++ e)
  operate : ∀ {c c' : Controller σ} {h e : List ControllerEvent} {id : NodeId} {n : Node}
    (op : Node.Operation), n.id = id → c.node? id = some n →
    (∀ k, c'.node? k = if k = id then some (n.operate op).value else c.node? k) →
    (∀ k, toldOf k e = if id = k then (n.operate op).events.map (Prod.mk n.profile) else []) →
      P c h → P c' (h ++ e)

end Local

theorem LocalKept.kept {P : Controller σ → List ControllerEvent → Prop} (each : LocalKept P) :
    Kept (fun _ => True) P where
  new := each.new
  add := by
    intro c h id info r _ holds hr
    obtain ⟨free, value, events⟩ := add_ok hr
    let s : Node.Setup := ⟨id, info, c.factory, .ofGenericType info.device.generic⟩
    have joined : (Node.join id info c.factory).value.id = id := id_join ..
    refine each.join s free (fun k => ?_) (fun k => ?_) holds
    · rw [value, node?_withNode]
      change (if k = (Node.join id info c.factory).value.id then _ else _) = _
      rw [joined]
      rfl
    · have bare : (Node.join id info c.factory).value.profile = .generic := by
        unfold Node.join
        split <;> rfl
      have all : s.start.events = (Node.join id info c.factory).events := List.append_nil _
      rw [events, toldOf_ofNode, joined, bare, all]
  call := by
    intro c h id call r hk holds _ hr
    obtain ⟨n, hn, rfl⟩ := onNode?_some hr
    have named : n.id = id := hk id n hn
    refine each.operate (.call call) named hn (fun k => ?_) (fun k => ?_) holds
    · have kept : (n.call call).value.id = id := (id_call n call).trans named
      rw [← kept]
      exact node?_withNode ..
    · rw [toldOf_ofNode, named]
      rfl
  begin := each.same (fun _ => rfl) fun _ => rfl
  turn := by
    intro c h busy id hk holds
    rcases turn_cases hk busy id with ⟨-, ht⟩ | ⟨n, hn, -, nodes, -, events⟩
    · rw [ht]
      exact each.same (fun _ => rfl) (fun _ => rfl) holds
    · have named : n.id = id := hk id n hn
      refine each.operate .tick named hn nodes (fun k => ?_) holds
      rw [events, toldOf_ofNode, named]
      rfl
  poll := by
    intro c h holds
    have nodes : ∀ k, c.poll.2.node? k = c.node? k := fun _ => rfl
    have polled := each.same (e := []) nodes (fun _ => rfl) holds
    rwa [List.append_nil] at polled
  route := by
    intro c h i hk holds
    rcases route_cases hk i with ⟨-, hr⟩ | ⟨id, n, -, hn, hr⟩
    · rw [hr]
      exact each.same (fun _ => rfl) (fun _ => rfl) holds
    · have named : n.id = id := hk id n hn
      rw [hr]
      refine each.operate (.call (.receive i.frame)) named hn (fun k => ?_) (fun k => ?_) holds
      · have kept : (n.receive i.frame).value.id = id := (n.id_receive _).trans named
        rw [← kept]
        exact node?_withNode ..
      · exact (toldOf_ofNode k n _).trans (by rw [named]; rfl)

/-! ## The history of a node -/

section Tracks

omit [Network σ]

/-- What is told of the nodes: of each the events of its own history, and nothing of others. -/
structure Tracks (c : Controller σ) (h : List ControllerEvent) : Prop where
  absent : ∀ id, c.node? id = none → eventsOf id h = []
  present : ∀ id n, c.node? id = some n →
    ∃ own : Node.History, own.node = n ∧ own.setup.id = id ∧ own.events = eventsOf id h

/-- A node comes to stand where its own history leads. -/
theorem Tracks.place {c c' : Controller σ} {h e : List ControllerEvent} (tracks : Tracks c h)
    {id : NodeId} (own : Node.History)
    (nodes : ∀ k, c'.node? k = if k = id then some own.node else c.node? k)
    (named : own.setup.id = id) (told : own.events = eventsOf id h ++ eventsOf id e)
    (others : ∀ k, k ≠ id → eventsOf k e = []) : Tracks c' (h ++ e) where
  absent := by
    intro k none
    have other : k ≠ id := by
      rintro rfl
      rw [nodes, if_pos rfl] at none
      cases none
    rw [nodes, if_neg other] at none
    rw [eventsOf_append, tracks.absent k none, others k other]
    rfl
  present := by
    intro k n some
    rw [nodes] at some
    by_cases here : k = id
    · subst here
      rw [if_pos rfl] at some
      exact ⟨own, Option.some.inj some, named, told.trans (eventsOf_append ..).symm⟩
    · rw [if_neg here] at some
      rw [eventsOf_append, others k here, List.append_nil]
      exact tracks.present k n some

theorem tracks_kept : LocalKept (σ := σ) Tracks where
  new := fun _ _ => ⟨fun _ _ => rfl, fun _ _ hn => nomatch hn⟩
  join := by
    intro c c' h e s free nodes told tracks
    have own : ∀ k, eventsOf k e = if s.id = k then s.start.events else [] :=
      fun k => eventsOf_eq (told k)
    refine tracks.place (.start s) nodes rfl ?_ fun k other => ?_
    · rw [tracks.absent s.id free, own, if_pos rfl]
      rfl
    · rw [own, if_neg (Ne.symm other)]
  same := by
    intro c c' h e nodes quiet tracks
    have nothing : ∀ k, eventsOf k (h ++ e) = eventsOf k h := by
      intro k
      rw [eventsOf, toldOf_append, quiet, List.append_nil]
      rfl
    refine ⟨fun k none => ?_, fun k n some => ?_⟩
    · rw [nothing]
      exact tracks.absent k ((nodes k).symm.trans none)
    · rw [nothing]
      exact tracks.present k n ((nodes k).symm.trans some)
  operate := by
    intro c c' h e id n op _ there nodes told tracks
    have own : ∀ k, eventsOf k e = if id = k then (n.operate op).events else [] :=
      fun k => eventsOf_eq (told k)
    obtain ⟨before, rfl, named, earlier⟩ := tracks.present id n there
    refine tracks.place (before.step op) nodes named ?_ fun k other => ?_
    · rw [own, if_pos rfl, ← earlier]
      rfl
    · rw [own, if_neg (Ne.symm other)]

end Tracks

/-- What a run tells of a node is what the node's own history tells. -/
theorem Run.tracks {c : Controller σ} {h : List ControllerEvent} (run : Run c h) : Tracks c h :=
  run.kept tracks_kept.kept

end Controller

end ZWave
