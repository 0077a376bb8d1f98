import ZWave.Proofs.Node.History
import ZWave.Proofs.Node.Lifecycle

/-!
# What moves the bring-up

An operation tells the bring-up of a node of two events at most (`Operation.told`) and moves it by
these alone: the states that are entered, the retries and the notice in the trace are those of the
bring-up (`follows_operate`). What can be told in which operation says `told_split`.
-/

namespace ZWave

/-- The state that an event enters. -/
def NodeEvent.entered? : NodeEvent → Option NodeState
  | .entered state => some state
  | _ => none

namespace Node

open Traced (Emits)

def entered (events : List NodeEvent) : List NodeState := events.filterMap NodeEvent.entered?

theorem entered_append (l l' : List NodeEvent) : entered (l ++ l') = entered l ++ entered l' :=
  List.filterMap_append

/-! ## A step of the bring-up -/

/-- What is done as part of a step enters no state and tries nothing again. -/
theorem emits_effects (n : Node) (effects : List Effect) :
    Emits (fun e => e.entered? = none ∧ e ≠ .retried) (effects.foldlM perform n) := by
  have each : ∀ (m : Node) (effect : Effect),
      Emits (fun e => e.entered? = none ∧ e ≠ .retried) (m.perform effect) :=
    fun m _ => emits_perform (fun _ _ _ => ⟨rfl, nofun⟩) m fun _ => ⟨rfl, nofun⟩
  exact Emits.foldlM each effects n

theorem entered_handle (n : Node) (event : LifecycleEvent) :
    entered (n.handle event).events = (n.lifecycle.step event).next.toList := by
  have quiet : ∀ m : Node,
      entered ((n.lifecycle.step event).effects.foldlM perform m).events = [] := by
    intro m
    exact List.filterMap_eq_nil_iff.2 fun e he => (emits_effects m _ e he).1
  rw [events_handle, entered_append, entered_append, quiet]
  cases (n.lifecycle.step event).next <;> cases (n.lifecycle.step event).retried <;> rfl

theorem count_retried_handle (n : Node) (event : LifecycleEvent) :
    (n.handle event).events.count .retried = (n.lifecycle.step event).retried.toNat := by
  have quiet : ∀ m : Node,
      ((n.lifecycle.step event).effects.foldlM perform m).events.count .retried = 0 := by
    intro m
    rw [List.count_eq_zero]
    intro hm
    exact (emits_effects m _ _ hm).2 rfl
  rw [events_handle, List.count_append, List.count_append, quiet]
  cases (n.lifecycle.step event).next <;> cases (n.lifecycle.step event).retried <;> rfl

theorem count_started_perform (n : Node) (effect : Effect) :
    (n.perform effect).events.count .started = if effect = .notifyStarted then 1 else 0 := by
  by_cases h : effect = .notifyStarted
  · subst h
    rfl
  · have other : Emits (· ≠ .started) (n.perform effect) :=
      emits_perform (fun _ _ _ he => nomatch he) n fun he => absurd he h
    rw [if_neg h, List.count_eq_zero]
    exact fun hm => other _ hm rfl

theorem count_started_effects (n : Node) (effects : List Effect) :
    (effects.foldlM perform n).events.count .started = effects.count .notifyStarted := by
  induction effects generalizing n with
  | nil => rfl
  | cons effect effects ih =>
    rw [List.foldlM_cons, Traced.events_bind, List.count_append, count_started_perform, ih,
      List.count_cons, Nat.add_comm]
    simp

/-- Notice is given as often as the last state is entered. -/
theorem count_started_handle (n : Node) (event : LifecycleEvent) :
    (n.handle event).events.count .started =
      (entered (n.handle event).events).count .started := by
  rw [entered_handle, ← n.lifecycle.count_notifyStarted event, events_handle, List.count_append,
    List.count_append, count_started_effects]
  cases (n.lifecycle.step event).next <;> cases (n.lifecycle.step event).retried <;> simp

theorem lifecycle_perform (n : Node) (effect : Effect) :
    (n.perform effect).value.lifecycle = n.lifecycle := by
  cases effect with
  | requestNodeInfo | flushWakeupQueue | notifyStarted => rfl
  | queueVersionStartup =>
    change n.startVersion.value.lifecycle = n.lifecycle
    unfold startVersion
    split
    · rfl
    · rw [value_startClass]
  | queueAllStartup =>
    change (n.unstarted.foldlM startClass n).value.lifecycle = n.lifecycle
    rw [value_startClasses]
  | refresh =>
    change (n.enqueueAll (n.profile.refresh n.id) false .refresh).value.lifecycle = n.lifecycle
    rw [value_enqueueAll]

theorem lifecycle_effects (n : Node) (effects : List Effect) :
    (effects.foldlM perform n).value.lifecycle = n.lifecycle := by
  induction effects generalizing n with
  | nil => rfl
  | cons effect effects ih => rw [List.foldlM_cons, Traced.value_bind, ih, lifecycle_perform]

theorem lifecycle_handle (n : Node) (event : LifecycleEvent) :
    (n.handle event).value.lifecycle = n.lifecycle.next event := by
  rw [value_handle, lifecycle_effects]
  rfl

/-! ## What an operation tells the bring-up -/

/-- What an update says about the information that was asked for. -/
def reported (n : Node) (u : ApplicationUpdate) : LifecycleEvent :=
  if u.isFailure then .infoFailed
  else .infoReceived ((n.informed u).classes.contains ClassId.version)

theorem reported_cases (n : Node) (u : ApplicationUpdate) :
    n.reported u = .infoFailed ∨ ∃ versioned, n.reported u = .infoReceived versioned := by
  unfold reported
  split
  · exact .inl rfl
  · exact .inr ⟨_, rfl⟩

/-- The node has no transaction and nothing to send. -/
def drained (n : Node) : Bool := n.pending.isNone && n.queues.write.isEmpty

/-- The events that an operation tells the bring-up. -/
def Operation.told (n : Node) : Operation → List LifecycleEvent
  | tick => .tick :: if n.prepared.drained then [.queueDrained] else []
  | call (.receive (.applicationUpdate u)) => [n.reported u]
  | _ => []

/-- An event that tells nothing of the bring-up. -/
def Aside (e : NodeEvent) : Prop := e.entered? = none ∧ e ≠ .retried ∧ e ≠ .started

/-- What the bring-up does, and what a trace from the node tells of it, when it is told of `events`.
-/
structure Follows (n : Node) (events : List LifecycleEvent) (r : Traced NodeEvent Node) : Prop where
  lifecycle : r.value.lifecycle = n.lifecycle.run events
  entered : Node.entered r.events = n.lifecycle.entered events
  retried : r.events.count .retried = n.lifecycle.retried events
  notice : r.events.count .started = (Node.entered r.events).count .started

theorem follows_handle (n : Node) (event : LifecycleEvent) :
    n.Follows [event] (n.handle event) where
  lifecycle := lifecycle_handle n event
  entered := by rw [entered_handle, Lifecycle.entered, Lifecycle.entered, List.append_nil]
  retried := count_retried_handle n event
  notice := count_started_handle n event

theorem Follows.bind {n : Node} {es es' : List LifecycleEvent} {r : Traced NodeEvent Node}
    {f : Node → Traced NodeEvent Node} (h : n.Follows es r) (h' : r.value.Follows es' (f r.value)) :
    n.Follows (es ++ es') (r >>= f) where
  lifecycle := by rw [Traced.value_bind, h'.lifecycle, h.lifecycle, Lifecycle.run_append]
  entered := by
    rw [Traced.events_bind, entered_append, h.entered, h'.entered, h.lifecycle,
      Lifecycle.entered_append]
  retried := by
    rw [Traced.events_bind, List.count_append, h.retried, h'.retried, h.lifecycle,
      Lifecycle.retried_append]
  notice := by
    rw [Traced.events_bind, entered_append, List.count_append, List.count_append, h.notice,
      h'.notice]

theorem follows_nil {n : Node} {r : Traced NodeEvent Node} (same : r.value.lifecycle = n.lifecycle)
    (quiet : Emits Aside r) : n.Follows [] r := by
  have nothing : Node.entered r.events = [] :=
    List.filterMap_eq_nil_iff.2 fun e he => (quiet e he).1
  refine ⟨same, nothing, ?_, ?_⟩
  · change _ = 0
    rw [List.count_eq_zero]
    exact fun hm => (quiet _ hm).2.1 rfl
  · rw [nothing, List.count_nil, List.count_eq_zero]
    exact fun hm => (quiet _ hm).2.2 rfl

theorem follows_proceed (n : Node) :
    n.Follows (if n.drained then [.queueDrained] else []) n.proceed := by
  unfold drained proceed
  cases n.pending with
  | some f => exact follows_nil rfl (Emits.pure n)
  | none =>
    cases n.queues.write with
    | nil => exact follows_handle n .queueDrained
    | cons f rest =>
      refine follows_nil rfl ?_
      intro e he
      cases List.mem_singleton.1 he
      exact ⟨rfl, nofun, nofun⟩

theorem follows_tick (n : Node) : n.Follows (Operation.tick.told n) n.tick := by
  rw [tick_eq]
  exact (follows_handle n .tick).bind (follows_proceed n.prepared)

theorem update_eq (n : Node) (u : ApplicationUpdate) :
    n.update u = (if u.isFailure then n else n.informed u).handle (n.reported u) := by
  unfold update reported
  cases u.isFailure <;> rfl

theorem follows_update (n : Node) (u : ApplicationUpdate) :
    n.Follows [n.reported u] (n.update u) := by
  have same : (if u.isFailure then n else n.informed u).lifecycle = n.lifecycle := by
    unfold informed
    split
    · rfl
    · split <;> rfl
  have step := follows_handle (if u.isFailure then n else n.informed u) (n.reported u)
  rw [← update_eq] at step
  exact ⟨same ▸ step.lifecycle, same ▸ step.entered, same ▸ step.retried, step.notice⟩

theorem follows_receive (n : Node) (f : Frame) :
    n.Follows ((Operation.call (.receive f)).told n) (n.receive f) := by
  cases f with
  | applicationUpdate u =>
    have received : n.Follows [] (⟨n, [.received .update]⟩ : Traced NodeEvent Node) := by
      refine follows_nil rfl fun e he => ?_
      cases List.mem_singleton.1 he
      exact ⟨rfl, nofun, nofun⟩
    have settled : (n.update u).value.Follows [] (pure (n.update u).value.settle) :=
      follows_nil rfl (Emits.pure _)
    exact (received.bind (f := fun m => m.update u) (follows_update n u)).bind
      (f := fun m => pure m.settle) settled
  | applicationCommand command =>
    have received : Emits Aside (Traced.emit (.received .command)) :=
      Emits.emit ⟨rfl, nofun, nofun⟩
    refine follows_nil ?_ (received.bind fun _ =>
      (emits_dispatch (fun _ => ⟨rfl, nofun, nofun⟩) n _).bind fun _ => Emits.pure _)
    rw [value_receive_command]
  | sendData | requestNodeInfo | other => exact follows_nil rfl (Emits.pure n)

theorem follows_operate (n : Node) (op : Operation) : n.Follows (op.told n) (n.operate op) := by
  cases op with
  | tick => exact follows_tick n
  | call c =>
    cases c with
    | queue frame defer =>
      refine follows_nil rfl fun e he => ?_
      cases List.mem_singleton.1 he
      exact ⟨rfl, nofun, nofun⟩
    | flush => exact follows_nil rfl (Emits.pure n.flush)
    | setListening listening => exact follows_nil rfl (Emits.pure (n.setListening listening))
    | register handler => exact follows_nil rfl (Emits.pure (n.register handler))
    | receive f => exact follows_receive n f

theorem climbs_operate (n : Node) (op : Operation) :
    n.state.Climbs (entered (n.operate op).events) (n.operate op).value.state := by
  have step := follows_operate n op
  rw [step.entered, state, state, step.lifecycle]
  exact n.lifecycle.climbs (op.told n)

/-- A node that does not know its classes never knew them. -/
theorem unknown_of_operate {n : Node} {op : Operation}
    (unknown : (n.operate op).value.state = .nodeInfo) : n.state = .nodeInfo := by
  have up := (n.climbs_operate op).le
  rw [unknown] at up
  exact NodeState.eq_nodeInfo_of_le up

/-- A node that is ready stays so. -/
theorem started_operate {n : Node} (ready : n.state = .started) (op : Operation) :
    (n.operate op).value.state = .started := by
  have up := (n.climbs_operate op).le
  rw [ready] at up
  exact NodeState.eq_started_of_le up

theorem started_of_handle {n : Node} {event : LifecycleEvent}
    (ready : (n.handle event).value.state = .started) :
    n.state = .started ∨ n.state = .stateQueued ∧ event = .queueDrained := by
  rw [state, lifecycle_handle] at ready
  exact Lifecycle.started_of_next ready

/-- No frame makes a node ready. -/
theorem started_of_receive {n : Node} {f : Frame}
    (ready : (n.receive f).value.state = .started) : n.state = .started := by
  cases f with
  | applicationCommand command =>
    rw [value_receive_command] at ready
    exact ready
  | applicationUpdate u =>
    change (n.update u).value.state = .started at ready
    rw [update_eq] at ready
    have kept : (if u.isFailure then n else n.informed u).state = n.state := by
      unfold informed
      split
      · rfl
      · split <;> rfl
    rcases started_of_handle ready with ready | ⟨-, drained⟩
    · rwa [kept] at ready
    · rcases n.reported_cases u with told | ⟨_, told⟩
      all_goals
        rw [told] at drained
        cases drained
  | sendData | requestNodeInfo | other => exact ready

/-- What the bring-up is told of: a tick, then that nothing was found to be sent, or an update. -/
theorem told_split {n : Node} {op : Operation} {before after : List LifecycleEvent}
    {event : LifecycleEvent} (split : op.told n = before ++ event :: after) :
    (op = .tick ∧ event = .tick ∧ before = []) ∨
    (op = .tick ∧ event = .queueDrained ∧ n.pending = none ∧ n.prepared.queues.write = []) ∨
    (∃ u, op = .call (.receive (.applicationUpdate u)) ∧ event = n.reported u) := by
  cases op with
  | tick =>
    cases before with
    | nil =>
      cases split
      exact .inl ⟨rfl, rfl, rfl⟩
    | cons e before =>
      obtain ⟨rfl, rest⟩ := List.cons.inj split
      cases hd : n.prepared.drained with
      | false => simp [hd] at rest
      | true =>
        rw [hd, if_pos rfl] at rest
        have last : event ∈ [LifecycleEvent.queueDrained] := by
          rw [rest]
          simp
        simp only [drained, pending_prepared, Bool.and_eq_true, Option.isNone_iff_eq_none,
          List.isEmpty_iff] at hd
        exact .inr (.inl ⟨rfl, List.mem_singleton.1 last, hd⟩)
  | call c =>
    cases c with
    | receive f =>
      cases f with
      | applicationUpdate u =>
        have only : event ∈ [n.reported u] := by
          change [n.reported u] = _ at split
          rw [split]
          simp
        exact .inr (.inr ⟨u, rfl, List.mem_singleton.1 only⟩)
      | applicationCommand | sendData | requestNodeInfo | other => simp [Operation.told] at split
    | queue | flush | setListening | register => simp [Operation.told] at split

end Node

end ZWave
