import Mathlib.Algebra.Order.Group.Multiset
import ZWave.Proofs.Node.History

/-!
# Queued frames are kept

The frames that an operation queues are those in its trace, and each stands there with what it is
queued for (`queuedFor_operate`). A frame that is queued for a node is sent, or waits in one of the
two queues, and is in one place only (`History.coe_queued`). Nothing is held back for a node that
listens (`History.wakeup_of_listening`), and of one that has always listened the frames are sent in
the order they were queued.
-/

namespace ZWave

def NodeEvent.queued? : NodeEvent → Option Frame
  | .queued frame _ _ => some frame
  | _ => none

def NodeEvent.queuedFor? : NodeEvent → Option (Origin × Frame)
  | .queued frame _ origin => some (origin, frame)
  | _ => none

namespace Node

/-! ## What is queued -/

def queuedIn (events : List NodeEvent) : List Frame := events.filterMap NodeEvent.queued?

/-- The frames in a trace that were put in a queue, each with what it was queued for. -/
def queuedFor (events : List NodeEvent) : List (Origin × Frame) :=
  events.filterMap NodeEvent.queuedFor?

theorem queuedIn_append (l l' : List NodeEvent) : queuedIn (l ++ l') = queuedIn l ++ queuedIn l' :=
  List.filterMap_append

theorem queuedFor_append (l l' : List NodeEvent) :
    queuedFor (l ++ l') = queuedFor l ++ queuedFor l' :=
  List.filterMap_append

theorem queuedIn_eq (events : List NodeEvent) : queuedIn events = (queuedFor events).map (·.2) := by
  unfold queuedIn queuedFor
  rw [List.map_filterMap]
  exact congrArg (List.filterMap · events) (funext fun e => by cases e <;> rfl)

theorem queuedFor_enqueueAll (n : Node) (frames : List Frame) (defer : Bool) (origin : Origin) :
    queuedFor (n.enqueueAll frames defer origin).events = frames.map (Prod.mk origin) := by
  unfold enqueueAll
  induction frames generalizing n with
  | nil => rfl
  | cons frame frames ih =>
    rw [List.foldlM_cons, Traced.events_bind, queuedFor_append, ih]
    rfl

/-- The startup frames of a class, each marked with it. -/
def startupFor (n : Node) (id : UInt8) : List (Origin × Frame) :=
  (n.classes.startup n.id id).map (Prod.mk (.startup id))

theorem queuedFor_startClasses (n : Node) (ids : List UInt8) :
    queuedFor (ids.foldlM startClass n).events = ids.flatMap n.startupFor := by
  induction ids generalizing n with
  | nil => rfl
  | cons id ids ih =>
    have first : queuedFor (n.startClass id).events = n.startupFor id := queuedFor_enqueueAll ..
    rw [List.foldlM_cons, Traced.events_bind, queuedFor_append, ih, first, value_startClass,
      List.flatMap_cons]
    rfl

theorem queuedFor_handle (n : Node) (event : LifecycleEvent) :
    queuedFor (n.handle event).events =
      queuedFor ((n.lifecycle.step event).effects.foldlM perform
        { n with lifecycle := n.lifecycle.apply (n.lifecycle.step event) }).events := by
  rw [events_handle, queuedFor_append, queuedFor_append]
  cases (n.lifecycle.step event).next <;> cases (n.lifecycle.step event).retried <;> rfl

theorem queuedFor_handle_tick (n : Node) :
    queuedFor (n.handle .tick).events = n.brought.flatMap n.startupFor := by
  obtain ⟨id, device, profile, factory, classes, queues, pending, ⟨state, retries⟩, started⟩ := n
  rw [queuedFor_handle]
  cases state with
  | versionPending =>
    cases started with
    | true => rfl
    | false =>
      change queuedFor ((startClass _ ClassId.version).events ++ []) = startupFor _ _ ++ []
      rw [List.append_nil, List.append_nil]
      exact queuedFor_enqueueAll ..
  | statePending =>
    change queuedFor ((List.foldlM startClass _ (unstarted _)).events ++ []) = _
    rw [List.append_nil]
    exact queuedFor_startClasses ..
  | nodeInfo | versionQueued | stateQueued | started => rfl

theorem queuedFor_handle_queueDrained (n : Node) :
    queuedFor (n.handle .queueDrained).events = [] := by
  obtain ⟨id, device, profile, factory, classes, queues, pending, ⟨state, retries⟩, started⟩ := n
  rw [queuedFor_handle]
  cases state <;> rfl

def receiveOrigin (n : Node) : Origin := if n.state = .nodeInfo then .nodeInfo else .refresh

theorem queuedFor_handle_info {n : Node} {event : LifecycleEvent}
    (info : event = .infoFailed ∨ ∃ versioned, event = .infoReceived versioned) :
    queuedFor (n.handle event).events =
      (if n.state = .nodeInfo then
        if event = .infoFailed ∧ n.lifecycle.retries < maxInfoRetries then [.requestNodeInfo n.id]
        else []
      else n.profile.refresh n.id).map (Prod.mk n.receiveOrigin) := by
  obtain ⟨id, device, profile, factory, classes, queues, pending, ⟨state, retries⟩, started⟩ := n
  rw [queuedFor_handle]
  cases state with
  | nodeInfo =>
    rcases info with rfl | ⟨versioned, rfl⟩
    · by_cases retry : retries < maxInfoRetries
      · simp [Lifecycle.step, retry, Node.state, perform, enqueue, queuedFor, NodeEvent.queuedFor?,
          receiveOrigin]
      · simp [Lifecycle.step, retry, Node.state, queuedFor]
    · simp [Lifecycle.step, Node.state, queuedFor]
  | versionPending | versionQueued | statePending | stateQueued | started =>
    rcases info with rfl | ⟨versioned, rfl⟩
    all_goals
      change queuedFor ([] ++ ((enqueueAll _ (profile.refresh id) false .refresh).events ++ [])) = _
      rw [List.nil_append, List.append_nil]
      exact queuedFor_enqueueAll ..

/-- The frames that an operation queues, each with what it is queued for. -/
def Operation.purposes (n : Node) : Operation → List (Origin × Frame)
  | tick => n.brought.flatMap n.startupFor
  | call (.queue frame _) => [(.caller, frame)]
  | op => (op.frames n).map (Prod.mk n.receiveOrigin)

theorem Operation.map_purposes (n : Node) (op : Operation) :
    (op.purposes n).map (·.2) = op.frames n := by
  have all : ∀ (origin : Origin) (l : List Frame), (l.map (Prod.mk origin)).map (·.2) = l := by
    intro origin l
    simp [Function.comp_def]
  unfold purposes
  split
  · change _ = n.startup
    rw [startup_eq_flatMap, List.map_flatMap]
    exact congrArg (List.flatMap · n.brought) (funext fun id => all ..)
  · rfl
  · exact all ..

theorem queuedFor_operate (n : Node) (op : Operation) :
    queuedFor (n.operate op).events = op.purposes n := by
  cases op with
  | tick =>
    change queuedFor n.tick.events = n.brought.flatMap n.startupFor
    have nothing : queuedFor n.prepared.proceed.events = [] := by
      unfold proceed
      split
      · rfl
      · split
        · rfl
        · exact queuedFor_handle_queueDrained _
    rw [events_tick, queuedFor_append, nothing, List.append_nil, queuedFor_handle_tick]
  | call c =>
    cases c with
    | queue | flush | setListening | register => rfl
    | receive f =>
      cases f with
      | applicationCommand command =>
        change queuedFor (n.receive (.applicationCommand command)).events = []
        have received : Traced.Emits (NodeEvent.queuedFor? · = none)
            (Traced.emit (NodeEvent.received .command)) := Traced.Emits.emit rfl
        exact List.filterMap_eq_nil_iff.2 <| received.bind fun _ =>
          (emits_dispatch (fun _ => rfl) n command.payload).bind fun _ => Traced.Emits.pure _
      | applicationUpdate u =>
        change queuedFor (.received .update :: ((n.update u).events ++ [])) =
          (if n.state = .nodeInfo then
            if u.isFailure ∧ n.lifecycle.retries < maxInfoRetries then [Frame.requestNodeInfo n.id]
            else []
          else n.profile.refresh n.id).map (Prod.mk n.receiveOrigin)
        rw [List.append_nil]
        change queuedFor (n.update u).events = _
        unfold update
        cases u.isFailure with
        | true =>
          rw [if_pos rfl, queuedFor_handle_info (.inl rfl)]
          simp
        | false =>
          change queuedFor ((n.informed u).handle (.infoReceived _)).events = _
          rw [queuedFor_handle_info (.inr ⟨_, rfl⟩), informed]
          by_cases known : n.state = .nodeInfo
          · have kept : ∀ classes, ({ n with classes } : Node).state = .nodeInfo := fun _ => known
            rw [if_pos known, if_pos (kept _)]
            simp [known]
          · rw [if_neg known, if_neg known, if_neg known]
      | sendData | requestNodeInfo | other => rfl

theorem queuedIn_operate (n : Node) (op : Operation) :
    queuedIn (n.operate op).events = op.frames n := by
  rw [queuedIn_eq, queuedFor_operate, Operation.map_purposes]

/-! ## Where it is -/

namespace Operation

theorem released_of_wakeup {n : Node} (h : n.queues.wakeup = []) (op : Operation) :
    op.released n = n.queues := by
  unfold released
  split
  · unfold Queues.flush
    rw [h, List.nil_append, ← h]
  · rfl

/-- Releasing moves frames from one queue to the other. -/
theorem coe_released (op : Operation) (n : Node) :
    ((op.released n).write : Multiset Frame) + (op.released n).wakeup =
      n.queues.write + n.queues.wakeup := by
  unfold released
  split
  · change ((n.queues.wakeup ++ n.queues.write : List Frame) : Multiset Frame) +
      (([] : List Frame) : Multiset Frame) = _
    rw [Multiset.coe_nil, add_zero, ← Multiset.coe_add, add_comm]
  · rfl

theorem coe_put (op : Operation) (n : Node) :
    (op.put n .write : Multiset Frame) + op.put n .wakeup = op.frames n := by
  unfold put
  cases n.queues.lane (op.defers n) with
  | write => simp
  | wakeup => simp

theorem lane_of_listening {n : Node} (h : n.queues.listening = true) (defer : Bool) :
    n.queues.lane defer = .write := by
  simp [Queues.lane, h]

theorem put_of_listening {n : Node} (h : n.queues.listening = true) (op : Operation) :
    op.put n .write = op.frames n ∧ op.put n .wakeup = [] := by
  unfold put
  rw [lane_of_listening h]
  exact ⟨if_pos rfl, if_neg (by decide)⟩

end Operation

theorem coe_operate (n : Node) (op : Operation) :
    (sent (n.operate op).events : Multiset Frame) + (n.operate op).value.queues.write +
        (n.operate op).value.queues.wakeup =
      n.queues.write + n.queues.wakeup + op.frames n := by
  have front := congrArg (fun l : List Frame => (l : Multiset Frame)) (sent_append_write n op)
  simp only [← Multiset.coe_add] at front
  rw [front, wakeup_operate, ← Multiset.coe_add, ← op.coe_released n, ← op.coe_put n]
  ac_rfl

/-- An operation that leaves a node listening leaves nothing held back for it, if nothing was while
it listened before. -/
theorem wakeup_operate_of_listening {n : Node} (h : n.queues.listening = true → n.queues.wakeup = [])
    {op : Operation} (listening : op.listens n = true) :
    (n.operate op).value.queues.wakeup = [] := by
  have kept : op.listens n = n.queues.listening → (n.operate op).value.queues.wakeup = [] := by
    intro same
    have before : n.queues.listening = true := same.symm.trans listening
    rw [wakeup_operate, Operation.released_of_wakeup (h before), h before,
      (Operation.put_of_listening before op).2]
    rfl
  cases op with
  | tick => exact kept rfl
  | call c =>
    cases c with
    | setListening b =>
      cases listening
      rw [wakeup_operate]
      have nothing : (Operation.call (.setListening true)).put n .wakeup = [] := by
        unfold Operation.put
        split <;> rfl
      rw [nothing]
      rfl
    | queue | flush | register | receive => exact kept rfl

namespace History

/-- What was queued is in the trace. -/
theorem queued_eq (h : History) : h.queued = queuedIn h.events := by
  induction h with
  | start s =>
    change s.entries.map (·.frame) = queuedIn s.start.events
    rw [Setup.start_eq, queuedIn, List.filterMap_map]
    exact (congrFun List.filterMap_eq_map s.entries).symm
  | step h op ih =>
    rw [queued_step, events_step, queuedIn_append, queuedIn_operate, ih]

/-- Nothing is held back for a node that listens. -/
theorem wakeup_of_listening (h : History) (listening : h.node.queues.listening = true) :
    h.node.queues.wakeup = [] := by
  induction h with
  | start s => rw [queues_start]
  | step h op ih =>
    rw [node_step, listening_operate] at listening
    exact wakeup_operate_of_listening ih listening

theorem coe_queued (h : History) :
    (h.queued : Multiset Frame) = h.sent + h.node.queues.write + h.node.queues.wakeup := by
  induction h with
  | start s => simp [sent_start, queues_start]
  | step h op ih =>
    have moved := coe_operate h.node op
    rw [queued_step, sent_step, node_step, ← Multiset.coe_add, ← Multiset.coe_add, ih, add_assoc,
      add_assoc, add_assoc, add_assoc, ← add_assoc (h.node.queues.write : Multiset Frame), ← moved]
    ac_rfl

/-- A node that listened from the start, and was never told otherwise, does. -/
theorem listening_of_awake {h : History} (born : h.setup.info.listening = true)
    (awake : ∀ op ∈ h.operations, op ≠ .call (.setListening false)) :
    h.node.queues.listening = true := by
  induction h with
  | start s =>
    rw [queues_start]
    exact born
  | step h op ih =>
    rw [operations_step] at awake
    have before := ih born fun o ho => awake o (List.mem_append_left _ ho)
    have now : op ≠ .call (.setListening false) := awake op (by simp)
    rw [node_step, listening_operate]
    cases op with
    | tick => exact before
    | call c =>
      cases c with
      | setListening b =>
        cases b with
        | true => rfl
        | false => exact absurd rfl now
      | queue | flush | register | receive => exact before

/-- What a node that always listened was given, it sends in that order. -/
theorem queued_of_awake {h : History} (born : h.setup.info.listening = true)
    (awake : ∀ op ∈ h.operations, op ≠ .call (.setListening false)) :
    h.sent ++ h.node.queues.write = h.queued := by
  induction h with
  | start s => rw [sent_start, queues_start, List.nil_append]
  | step h op ih =>
    rw [operations_step] at awake
    have earlier : ∀ o ∈ h.operations, o ≠ .call (.setListening false) := by
      intro o ho
      exact awake o (List.mem_append_left _ ho)
    have listening : h.node.queues.listening = true := listening_of_awake born earlier
    have empty := h.wakeup_of_listening listening
    calc (h.step op).sent ++ (h.step op).node.queues.write
        = h.sent ++ (Node.sent (h.node.operate op).events ++
            (h.node.operate op).value.queues.write) := by
          rw [sent_step, node_step, List.append_assoc]
      _ = h.sent ++ (h.node.queues.write ++ op.frames h.node) := by
          rw [sent_append_write, Operation.released_of_wakeup empty,
            (Operation.put_of_listening listening op).1]
      _ = (h.step op).queued := by
          rw [← List.append_assoc, ih born earlier, queued_step]

/-- **No frame is lost or duplicated.** The frames that were queued for a node are those that were
sent and those in its two queues, and a node that always listened sends them in their order. -/
theorem queued_conserved (h : History) :
    h.queued = queuedIn h.events ∧
      (h.queued : Multiset Frame) = h.sent + h.node.queues.write + h.node.queues.wakeup ∧
      (h.node.queues.listening = true → h.node.queues.wakeup = []) ∧
      (h.setup.info.listening = true →
        (∀ op ∈ h.operations, op ≠ .call (.setListening false)) →
          h.sent ++ h.node.queues.write = h.queued) :=
  ⟨h.queued_eq, h.coe_queued, h.wakeup_of_listening, queued_of_awake⟩

theorem queued_conserved_retry :
    ∃ h : History, h.setup.info.listening = true ∧
      (∀ op ∈ h.operations, op ≠ .call (.setListening false)) ∧
      h.node.queues.listening = true ∧ h.node.queues.wakeup = [] ∧
      h.sent ++ h.node.queues.write = h.queued ∧
      h.sent = [.requestNodeInfo 2, Request.basicGet 2] ∧
      h.node.queues.write = [.requestNodeInfo 2] := by
  let asked : History := (start { id := 2, info := ⟨{}, true⟩, factory := .standard }).step .tick
  let h : History := ((asked.step (.call (.queue (Request.basicGet 2) true))).step
    (.call (.receive (.applicationUpdate .requestFailed)))).step .tick
  have awake : ∀ op ∈ h.operations, op ≠ .call (.setListening false) := by
    simp [h, asked, operations, steps]
  obtain ⟨-, -, empty, ordered⟩ := h.queued_conserved
  have listening : h.node.queues.listening = true := by decide +kernel
  exact ⟨h, rfl, awake, listening, empty listening, ordered rfl awake, by decide +kernel,
    by decide +kernel⟩

end History

end Node

end ZWave
