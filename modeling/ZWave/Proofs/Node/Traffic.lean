import ZWave.Proofs.Node.Advance
import ZWave.Proofs.Node.Conservation

/-!
# Frames held back and frames received

All that an operation queues goes to one lane (`inLane_operate`), so the trace shows which frames
were held back (`History.deferredIn_events`). A frame that is given to the node is received under
its kind (`receptions_operate`), and no more payloads are dropped than commands were received
(`History.countP_isDropped_le`).
-/

namespace ZWave

/-- The kind under which a frame is received; one that is neither is ignored. -/
def Frame.inboundKind? : Frame → Option InboundKind
  | .applicationCommand _ => some .command
  | .applicationUpdate _ => some .update
  | _ => none

namespace NodeEvent

def deferred? : NodeEvent → Option Frame
  | .queued frame .wakeup _ => some frame
  | _ => none

def received? : NodeEvent → Option InboundKind
  | .received kind => some kind
  | _ => none

def isDropped : NodeEvent → Bool
  | .dropped _ => true
  | _ => false

end NodeEvent

/-! ## Frames that are held back -/

/-- Whether what is queued as part of a step may be held back. -/
def Effect.defers : Effect → Bool
  | .refresh | .flushWakeupQueue => false
  | .requestNodeInfo | .queueVersionStartup | .queueAllStartup | .notifyStarted => true

/-- What a step queues may be held back, unless it answers a device that is known already. -/
theorem Lifecycle.defers_step (l : Lifecycle) (event : LifecycleEvent) :
    ∀ effect ∈ (l.step event).effects,
      effect.defers = (l.state = .nodeInfo ∨ event = .tick ∨ event = .queueDrained : Bool) := by
  obtain ⟨state, retries⟩ := l
  cases state <;> cases event <;> grind [step, Effect.defers]

theorem Queues.lane_pushAll (q : Queues) (frames : List Frame) (defer defer' : Bool) :
    (q.pushAll frames defer).lane defer' = q.lane defer' := by
  rw [pushAll_eq]
  rfl

namespace Node

open Traced (Emits)

def deferredIn (events : List NodeEvent) : List Frame := events.filterMap NodeEvent.deferred?

theorem deferredIn_append (l l' : List NodeEvent) :
    deferredIn (l ++ l') = deferredIn l ++ deferredIn l' :=
  List.filterMap_append

/-- An event that puts no frame in another lane. -/
def InLane (lane : Lane) (e : NodeEvent) : Prop :=
  ∀ frame other origin, e = .queued frame other origin → other = lane

theorem inLane_of_queued? {e : NodeEvent} (none : e.queued? = none) (lane : Lane) :
    InLane lane e := by
  rintro frame other origin rfl
  cases none

/-- What goes to one lane is held back as a whole, or not at all. -/
theorem deferredIn_of_inLane {lane : Lane} {events : List NodeEvent}
    (same : ∀ e ∈ events, InLane lane e) :
    deferredIn events = if lane = .wakeup then queuedIn events else [] := by
  induction events with
  | nil => simp [deferredIn, queuedIn]
  | cons e events ih =>
    obtain ⟨first, rest⟩ := List.forall_mem_cons.1 same
    have tail := ih rest
    unfold deferredIn queuedIn at *
    rw [List.filterMap_cons, List.filterMap_cons, tail]
    cases e with
    | queued frame other origin =>
      cases first frame other origin rfl
      cases lane <;> simp [NodeEvent.deferred?, NodeEvent.queued?]
    | sent | received | dropped | entered | retried | started => rfl

theorem inLane_enqueueAll (n : Node) (frames : List Frame) (defer : Bool) (origin : Origin) :
    Emits (InLane (n.queues.lane defer)) (n.enqueueAll frames defer origin) := by
  intro e he
  rw [enqueueAll_eq] at he
  obtain ⟨frame, -, rfl⟩ := List.mem_map.1 he
  intro frame' other origin' same
  cases same
  rfl

theorem inLane_startClasses (n : Node) (ids : List UInt8) :
    Emits (InLane (n.queues.lane true)) (ids.foldlM startClass n) := by
  induction ids generalizing n with
  | nil => exact Emits.pure n
  | cons id ids ih =>
    have rest := ih (n.startClass id).value
    rw [value_startClass, Queues.lane_pushAll] at rest
    intro e he
    rw [List.foldlM_cons, Traced.events_bind, value_startClass] at he
    rcases List.mem_append.1 he with he | he
    · exact inLane_enqueueAll n _ true _ e he
    · exact rest e he

theorem inLane_perform (n : Node) (effect : Effect) :
    Emits (InLane (n.queues.lane effect.defers)) (n.perform effect) := by
  cases effect with
  | requestNodeInfo => exact inLane_enqueueAll n [.requestNodeInfo n.id] true .nodeInfo
  | queueVersionStartup =>
    change Emits (InLane (n.queues.lane true)) n.startVersion
    unfold startVersion
    split
    · exact Emits.pure n
    · exact inLane_enqueueAll { n with versionStarted := true } _ true _
  | queueAllStartup => exact inLane_startClasses n n.unstarted
  | flushWakeupQueue => exact Emits.pure n.flush
  | refresh => exact inLane_enqueueAll n (n.profile.refresh n.id) false .refresh
  | notifyStarted =>
    intro e he
    cases List.mem_singleton.1 he
    exact inLane_of_queued? rfl _

theorem lane_perform (n : Node) (effect : Effect) (defer : Bool) :
    (n.perform effect).value.queues.lane defer = n.queues.lane defer := by
  cases effect with
  | requestNodeInfo => exact Queues.lane_push ..
  | queueVersionStartup =>
    change n.startVersion.value.queues.lane defer = _
    unfold startVersion
    split
    · rfl
    · rw [value_startClass]
      exact Queues.lane_pushAll ..
  | queueAllStartup =>
    change (n.unstarted.foldlM startClass n).value.queues.lane defer = _
    rw [value_startClasses]
    exact Queues.lane_pushAll ..
  | refresh =>
    change (n.enqueueAll (n.profile.refresh n.id) false .refresh).value.queues.lane defer = _
    rw [value_enqueueAll]
    exact Queues.lane_pushAll ..
  | flushWakeupQueue | notifyStarted => rfl

theorem inLane_effects {effects : List Effect} {defer : Bool}
    (same : ∀ effect ∈ effects, effect.defers = defer) (n : Node) :
    Emits (InLane (n.queues.lane defer)) (effects.foldlM perform n) := by
  induction effects generalizing n with
  | nil => exact Emits.pure n
  | cons effect effects ih =>
    obtain ⟨first, rest⟩ := List.forall_mem_cons.1 same
    have later := ih rest (n.perform effect).value
    rw [lane_perform] at later
    have now := inLane_perform n effect
    rw [first] at now
    intro e he
    rw [List.foldlM_cons, Traced.events_bind] at he
    exact (List.mem_append.1 he).elim (now e) (later e)

theorem inLane_handle (n : Node) (event : LifecycleEvent) :
    Emits (InLane (n.queues.lane
      (n.state = .nodeInfo ∨ event = .tick ∨ event = .queueDrained))) (n.handle event) := by
  intro e he
  rw [events_handle] at he
  rcases List.mem_append.1 he with he | he
  · obtain ⟨state, -, rfl⟩ := List.mem_map.1 he
    exact inLane_of_queued? rfl _
  · rcases List.mem_append.1 he with he | he
    · split at he
      · cases List.mem_singleton.1 he
        exact inLane_of_queued? rfl _
      · cases he
    · exact inLane_effects (n.lifecycle.defers_step event)
        { n with lifecycle := n.lifecycle.apply (n.lifecycle.step event) } e he

theorem inLane_tick (n : Node) : Emits (InLane (n.queues.lane true)) n.tick := by
  have prepared := inLane_handle n .tick
  have drained := inLane_handle n.prepared .queueDrained
  have lane : n.prepared.queues.lane true = n.queues.lane true := by
    rw [Queues.lane, Queues.lane, Node.prepared, listening_handle]
  simp only [reduceCtorEq, or_true, true_or, decide_true] at prepared drained
  rw [lane] at drained
  intro e he
  rw [events_tick] at he
  rcases List.mem_append.1 he with he | he
  · exact prepared e he
  · unfold proceed at he
    split at he
    · cases he
    · split at he
      · cases List.mem_singleton.1 he
        exact inLane_of_queued? rfl _
      · exact drained e he

theorem inLane_update (n : Node) (u : ApplicationUpdate) :
    Emits (InLane (n.queues.lane (n.state = .nodeInfo))) (n.update u) := by
  have same : (if u.isFailure then n else n.informed u).state = n.state ∧
      (if u.isFailure then n else n.informed u).queues = n.queues := by
    unfold informed
    split
    · exact ⟨rfl, rfl⟩
    · split <;> exact ⟨rfl, rfl⟩
  have step := inLane_handle (if u.isFailure then n else n.informed u) (n.reported u)
  rw [← update_eq, same.1, same.2] at step
  rcases n.reported_cases u with told | ⟨versioned, told⟩
  all_goals
    rw [told] at step
    simpa using step

/-- All that an operation queues goes to one lane. -/
theorem inLane_operate (n : Node) (op : Operation) :
    Emits (InLane (n.queues.lane (op.defers n))) (n.operate op) := by
  cases op with
  | tick => exact n.inLane_tick
  | call c =>
    cases c with
    | queue frame defer => exact inLane_enqueueAll n [frame] defer .caller
    | flush | setListening | register => exact Emits.pure _
    | receive f =>
      cases f with
      | applicationCommand command =>
        have received : Emits (InLane (n.queues.lane true)) (Traced.emit (.received .command)) :=
          Emits.emit (inLane_of_queued? rfl _)
        exact received.bind fun _ => (emits_dispatch (fun _ => inLane_of_queued? rfl _) n _).bind
          fun _ => Emits.pure _
      | applicationUpdate u =>
        have received : Emits (InLane (n.queues.lane (n.state = .nodeInfo)))
            (Traced.emit (.received .update)) := Emits.emit (inLane_of_queued? rfl _)
        exact received.bind fun _ => (n.inLane_update u).bind fun _ => Emits.pure _
      | sendData | requestNodeInfo | other => exact Emits.pure n

theorem deferredIn_operate (n : Node) (op : Operation) :
    deferredIn (n.operate op).events = op.put n .wakeup := by
  rw [deferredIn_of_inLane (inLane_operate n op), queuedIn_operate]
  rfl

/-! ## Frames that are received -/

/-- The kinds of the frames that were received in a trace, in order. -/
def receptions (events : List NodeEvent) : List InboundKind :=
  events.filterMap NodeEvent.received?

theorem receptions_append (l l' : List NodeEvent) :
    receptions (l ++ l') = receptions l ++ receptions l' :=
  List.filterMap_append

theorem count_received (events : List NodeEvent) (kind : InboundKind) :
    events.count (.received kind) = (receptions events).count kind := by
  induction events with
  | nil => rfl
  | cons e events ih =>
    unfold receptions at *
    rw [List.count_cons, List.filterMap_cons, ih]
    cases e <;> simp [NodeEvent.received?, List.count_cons]

theorem count_dropped (events : List NodeEvent) :
    events.count (.dropped .unknownClass) + events.count (.dropped .malformed) =
      events.countP NodeEvent.isDropped := by
  induction events with
  | nil => rfl
  | cons e events ih =>
    rw [List.count_cons, List.count_cons, List.countP_cons, ← ih]
    cases e with
    | dropped reason =>
      cases reason <;> simp only [NodeEvent.isDropped, beq_self_eq_true, if_true, beq_iff_eq,
        NodeEvent.dropped.injEq, reduceCtorEq, if_false] <;> omega
    | queued | sent | received | entered | retried | started => simp [NodeEvent.isDropped]

/-- An event that is not about a frame from the device. -/
def Unprompted (e : NodeEvent) : Prop := e.received? = none ∧ e.isDropped = false

theorem unprompted_handle (n : Node) (event : LifecycleEvent) : Emits Unprompted (n.handle event) :=
  emits_step (p := Unprompted) (fun _ _ _ => ⟨rfl, rfl⟩) (fun _ => ⟨rfl, rfl⟩) ⟨rfl, rfl⟩ ⟨rfl, rfl⟩ n
    event

theorem unprompted_tick (n : Node) : Emits Unprompted n.tick := by
  intro e he
  rw [events_tick] at he
  rcases List.mem_append.1 he with he | he
  · exact unprompted_handle n .tick e he
  · unfold proceed at he
    split at he
    · cases he
    · split at he
      · cases List.mem_singleton.1 he
        exact ⟨rfl, rfl⟩
      · exact unprompted_handle n.prepared .queueDrained e he

theorem receptions_of_unprompted {events : List NodeEvent} (quiet : ∀ e ∈ events, Unprompted e) :
    receptions events = [] ∧ events.countP NodeEvent.isDropped = 0 := by
  refine ⟨List.filterMap_eq_nil_iff.2 fun e he => (quiet e he).1, List.countP_eq_zero.2 ?_⟩
  intro e he
  rw [(quiet e he).2]
  exact Bool.false_ne_true

/-- A payload is dropped once at most. -/
theorem receptions_dispatch (n : Node) (p : Payload) :
    receptions (n.dispatch p).events = [] ∧
      (n.dispatch p).events.countP NodeEvent.isDropped ≤ 1 := by
  unfold dispatch
  split
  · split
    · exact ⟨rfl, Nat.zero_le 1⟩
    · exact ⟨rfl, Nat.le_refl 1⟩
  · exact ⟨rfl, Nat.le_refl 1⟩

/-- A frame is received under its kind, and dropped only if it is a command. -/
theorem receptions_receive (n : Node) (f : Frame) :
    receptions (n.receive f).events = f.inboundKind?.toList ∧
      (n.receive f).events.countP NodeEvent.isDropped ≤ f.inboundKind?.toList.count .command := by
  cases f with
  | applicationCommand command =>
    obtain ⟨nothing, few⟩ := n.receptions_dispatch command.payload
    have events : (n.receive (.applicationCommand command)).events =
        .received .command :: ((n.dispatch command.payload).events ++ []) := rfl
    rw [events, List.append_nil]
    refine ⟨congrArg (InboundKind.command :: ·) nothing, ?_⟩
    rwa [List.countP_cons_of_neg (by decide)]
  | applicationUpdate u =>
    have quiet : Emits Unprompted (n.update u) := by
      rw [update_eq]
      exact unprompted_handle _ _
    obtain ⟨nothing, none⟩ := receptions_of_unprompted quiet
    have events : (n.receive (.applicationUpdate u)).events =
        .received .update :: ((n.update u).events ++ []) := rfl
    rw [events, List.append_nil]
    refine ⟨congrArg (InboundKind.update :: ·) nothing, ?_⟩
    rw [List.countP_cons_of_neg (by decide), none]
    exact Nat.zero_le _
  | sendData | requestNodeInfo | other => exact ⟨rfl, Nat.le_refl 0⟩

def Operation.receives? : Operation → Option InboundKind
  | call (.receive f) => f.inboundKind?
  | _ => none

theorem receptions_operate (n : Node) (op : Operation) :
    receptions (n.operate op).events = op.receives?.toList ∧
      (n.operate op).events.countP NodeEvent.isDropped ≤ op.receives?.toList.count .command := by
  cases op with
  | tick =>
    obtain ⟨nothing, none⟩ := receptions_of_unprompted n.unprompted_tick
    exact ⟨nothing, Nat.le_of_eq none⟩
  | call c =>
    cases c with
    | receive f => exact n.receptions_receive f
    | queue | flush | setListening | register => exact ⟨rfl, Nat.le_refl 0⟩

/-! ## Histories -/

namespace History

/-- The frames that were put in the wake-up queue so far, in order. -/
def parked : History → List Frame
  | start _ => []
  | step h op => h.parked ++ op.put h.node .wakeup

theorem deferredIn_events (h : History) : deferredIn h.events = h.parked := by
  induction h with
  | start s => exact s.filterMap_start fun _ => rfl
  | step h op ih => rw [events_step, deferredIn_append, ih, deferredIn_operate, parked]

/-- No more payloads are dropped than commands were received. -/
theorem countP_isDropped_le (h : History) :
    h.events.countP NodeEvent.isDropped ≤ (receptions h.events).count .command := by
  induction h with
  | start s =>
    have quiet : ∀ e ∈ (start s).events, Unprompted e := by
      intro e he
      change e ∈ s.start.events at he
      rw [Setup.start_eq] at he
      obtain ⟨_, -, rfl⟩ := List.mem_map.1 he
      exact ⟨rfl, rfl⟩
    rw [(receptions_of_unprompted quiet).2]
    exact Nat.zero_le _
  | step h op ih =>
    obtain ⟨received, few⟩ := h.node.receptions_operate op
    rw [events_step, List.countP_append, receptions_append, List.count_append, received]
    exact Nat.add_le_add ih few

end History

end Node

end ZWave
