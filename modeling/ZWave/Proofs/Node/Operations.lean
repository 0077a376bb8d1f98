import ZWave.Node.Step

/-!
# What the operations of a node do

One statement per operation, so that later proofs need not open them. `Node.handle` changes how far
the bring-up has come, the queues, and whether the Version class was started, and nothing else;
`value_handle_tick`, `value_handle_queueDrained`, `value_handle_infoFailed` and
`value_handle_infoReceived` say what it makes of each event. A tick is `Node.prepared` followed by
at most one frame, `Node.sends?`.
-/

namespace ZWave

/-! ## Several frames in a queue -/

namespace Queues

def pushAll (q : Queues) (frames : List Frame) (defer : Bool) : Queues :=
  frames.foldl (fun q frame => q.push frame defer) q

@[simp] theorem lane_push (q : Queues) (frame : Frame) (defer defer' : Bool) :
    (q.push frame defer).lane defer' = q.lane defer' := by
  unfold push
  cases q.lane defer <;> rfl

theorem push_eq (q : Queues) (frame : Frame) (defer : Bool) :
    q.push frame defer =
      { q with
        write := q.write ++ (if q.lane defer = .write then [frame] else [])
        wakeup := q.wakeup ++ (if q.lane defer = .wakeup then [frame] else []) } := by
  unfold push
  cases q.lane defer <;> simp

theorem pushAll_eq (q : Queues) (frames : List Frame) (defer : Bool) :
    q.pushAll frames defer =
      { q with
        write := q.write ++ (if q.lane defer = .write then frames else [])
        wakeup := q.wakeup ++ (if q.lane defer = .wakeup then frames else []) } := by
  induction frames generalizing q with
  | nil => simp [pushAll]
  | cons frame frames ih =>
    have step : q.pushAll (frame :: frames) defer = (q.push frame defer).pushAll frames defer := rfl
    rw [step, ih, lane_push, push_eq]
    cases q.lane defer <;> simp

theorem pushAll_append (q : Queues) (l₁ l₂ : List Frame) (defer : Bool) :
    q.pushAll (l₁ ++ l₂) defer = (q.pushAll l₁ defer).pushAll l₂ defer := List.foldl_append

theorem mem_pushAll {q : Queues} {frames : List Frame} {defer : Bool} {f : Frame}
    (h : f ∈ (q.pushAll frames defer).write ++ (q.pushAll frames defer).wakeup) :
    f ∈ q.write ++ q.wakeup ∨ f ∈ frames := by
  rw [pushAll_eq] at h
  cases hl : q.lane defer <;> simp only [hl] at h <;> grind

end Queues

namespace Node

/-! ## Queueing -/

theorem value_enqueueAll (n : Node) (frames : List Frame) (defer : Bool) (origin : Origin) :
    (n.enqueueAll frames defer origin).value =
      { n with queues := n.queues.pushAll frames defer } := by
  unfold enqueueAll
  rw [Traced.value_foldlM]
  induction frames generalizing n with
  | nil => rfl
  | cons frame frames ih => rw [List.foldl_cons, ih]; rfl

theorem value_startClass (n : Node) (id : UInt8) :
    (n.startClass id).value =
      { n with queues := n.queues.pushAll (n.classes.startup n.id id) true } :=
  value_enqueueAll ..

theorem value_startClasses (n : Node) (ids : List UInt8) :
    (ids.foldlM startClass n).value =
      { n with queues := n.queues.pushAll (ids.flatMap (n.classes.startup n.id)) true } := by
  rw [Traced.value_foldlM]
  induction ids generalizing n with
  | nil => rfl
  | cons id ids ih =>
    rw [List.foldl_cons, value_startClass, ih, List.flatMap_cons, Queues.pushAll_append]

/-! ## Steps of the bring-up -/

theorem value_handle (n : Node) (event : LifecycleEvent) :
    (n.handle event).value =
      ((n.lifecycle.step event).effects.foldlM perform
        { n with lifecycle := n.lifecycle.apply (n.lifecycle.step event) }).value := by
  unfold handle
  generalize n.lifecycle.step event = t
  obtain ⟨next, retried, effects⟩ := t
  cases next <;> cases retried <;> rfl

/-- The startup frames of the Version class that are still to be queued. -/
def versionStartup (n : Node) : List Frame :=
  if n.versionStarted then [] else n.classes.startup n.id ClassId.version

/-- The startup frames of the classes that are still to be brought up. -/
def stateStartup (n : Node) : List Frame := n.unstarted.flatMap (n.classes.startup n.id)

theorem value_handle_tick (n : Node) :
    (n.handle .tick).value =
      match n.state with
      | .versionPending =>
        { n with
          lifecycle := ⟨.versionQueued, 0⟩
          queues := n.queues.pushAll n.versionStartup true
          versionStarted := true }
      | .statePending =>
        { n with
          lifecycle := ⟨.stateQueued, 0⟩
          queues := n.queues.pushAll n.stateStartup true }
      | _ => n := by
  obtain ⟨id, device, profile, factory, classes, queues, pending, ⟨state, retries⟩, started⟩ := n
  rw [value_handle]
  cases state
  case versionPending =>
    cases started
    · exact value_startClass ..
    · rfl
  case statePending => exact value_startClasses ..
  all_goals rfl

theorem value_handle_queueDrained (n : Node) :
    (n.handle .queueDrained).value =
      match n.state with
      | .versionQueued => { n with lifecycle := ⟨.statePending, 0⟩ }
      | .stateQueued => { n with lifecycle := ⟨.started, 0⟩ }
      | _ => n := by
  obtain ⟨id, device, profile, factory, classes, queues, pending, ⟨state, retries⟩, started⟩ := n
  rw [value_handle]
  cases state <;> rfl

/-- The node after its device was found to be awake. -/
def refreshed (n : Node) : Node :=
  { n with queues := n.queues.flush.pushAll (n.profile.refresh n.id) false }

theorem value_handle_infoFailed (n : Node) :
    (n.handle .infoFailed).value =
      match n.state with
      | .nodeInfo =>
        if n.lifecycle.retries < maxInfoRetries then
          { n with
            lifecycle := ⟨.nodeInfo, n.lifecycle.retries + 1⟩
            queues := n.queues.push (.requestNodeInfo n.id) true }
        else { n with lifecycle := ⟨.statePending, 0⟩ }
      | _ => n.refreshed := by
  obtain ⟨id, device, profile, factory, classes, queues, pending, ⟨state, retries⟩, started⟩ := n
  rw [value_handle]
  cases state
  case nodeInfo =>
    by_cases h : retries < maxInfoRetries
    · have hr : retries = 0 := by simp only [maxInfoRetries] at h; omega
      subst hr
      rfl
    · simp [Lifecycle.step, Lifecycle.apply, Node.state, h, pure]
  all_goals
    simp only [Lifecycle.step, Lifecycle.apply, List.foldlM_cons, List.foldlM_nil,
      Traced.value_bind, Traced.value_pure, perform, value_enqueueAll, refreshed, Node.state]
    rfl

theorem value_handle_infoFailed_retry {n : Node} (h : n.state = .nodeInfo)
    (hr : n.lifecycle.retries < maxInfoRetries) :
    (n.handle .infoFailed).value =
      { n with
        lifecycle := ⟨.nodeInfo, n.lifecycle.retries + 1⟩
        queues := n.queues.push (.requestNodeInfo n.id) true } := by
  rw [value_handle_infoFailed]
  simp only [h]
  exact if_pos hr

theorem value_handle_infoFailed_last {n : Node} (h : n.state = .nodeInfo)
    (hr : ¬ n.lifecycle.retries < maxInfoRetries) :
    (n.handle .infoFailed).value = { n with lifecycle := ⟨.statePending, 0⟩ } := by
  rw [value_handle_infoFailed]
  simp only [h]
  exact if_neg hr

theorem value_handle_infoReceived (n : Node) (versioned : Bool) :
    (n.handle (.infoReceived versioned)).value =
      match n.state with
      | .nodeInfo =>
        { n with lifecycle := ⟨if versioned then .versionPending else .statePending, 0⟩ }
      | _ => n.refreshed := by
  obtain ⟨id, device, profile, factory, classes, queues, pending, ⟨state, retries⟩, started⟩ := n
  rw [value_handle]
  cases state
  case nodeInfo => rfl
  all_goals
    simp only [Lifecycle.step, Lifecycle.apply, List.foldlM_cons, List.foldlM_nil,
      Traced.value_bind, Traced.value_pure, perform, value_enqueueAll, refreshed, Node.state]
    rfl

/-- What the bring-up moves on: itself, the queues, and whether the Version class was started. -/
theorem value_handle_eq (n : Node) (event : LifecycleEvent) :
    ∃ lifecycle queues versionStarted,
      (n.handle event).value = { n with lifecycle, queues, versionStarted } ∧
        queues.listening = n.queues.listening := by
  cases event with
  | tick =>
    rw [value_handle_tick]
    split
    · exact ⟨_, _, _, rfl, by rw [Queues.pushAll_eq]⟩
    · exact ⟨_, _, _, rfl, by rw [Queues.pushAll_eq]⟩
    · exact ⟨_, _, _, rfl, rfl⟩
  | queueDrained =>
    rw [value_handle_queueDrained]
    split <;> exact ⟨_, _, _, rfl, rfl⟩
  | infoFailed =>
    rw [value_handle_infoFailed]
    split
    · split
      · exact ⟨_, _, _, rfl, by rw [Queues.push_eq]⟩
      · exact ⟨_, _, _, rfl, rfl⟩
    · exact ⟨_, _, _, rfl, by rw [Queues.pushAll_eq]; rfl⟩
  | infoReceived versioned =>
    rw [value_handle_infoReceived]
    split
    · exact ⟨_, _, _, rfl, rfl⟩
    · exact ⟨_, _, _, rfl, by rw [Queues.pushAll_eq]; rfl⟩

section Kept

variable (n : Node) (event : LifecycleEvent)

@[simp] theorem id_handle : (n.handle event).value.id = n.id := by
  obtain ⟨_, _, _, h, -⟩ := value_handle_eq n event; rw [h]

@[simp] theorem profile_handle : (n.handle event).value.profile = n.profile := by
  obtain ⟨_, _, _, h, -⟩ := value_handle_eq n event; rw [h]

@[simp] theorem pending_handle : (n.handle event).value.pending = n.pending := by
  obtain ⟨_, _, _, h, -⟩ := value_handle_eq n event; rw [h]

@[simp] theorem listening_handle :
    (n.handle event).value.queues.listening = n.queues.listening := by
  obtain ⟨_, _, _, h, hl⟩ := value_handle_eq n event; rw [h, hl]

end Kept

/-! ## Ticks -/

/-- The node once a tick has queued what its bring-up asks for. -/
def prepared (n : Node) : Node := (n.handle .tick).value

def sends? (n : Node) : Option Frame :=
  if n.pending.isSome then none else n.prepared.queues.write.head?

/-- What a tick does with a prepared node: send the next frame, or move the bring-up on. -/
def proceed (n : Node) : Traced NodeEvent Node :=
  if n.pending.isSome then pure n
  else match n.queues.write with
    | frame :: write =>
      ⟨{ n with queues := { n.queues with write }, pending := some frame },
        [.sent frame write.length]⟩
    | [] => n.handle .queueDrained

theorem tick_eq (n : Node) : n.tick = n.handle .tick >>= proceed := by
  unfold tick
  congr 1
  funext m
  unfold proceed Queues.pop?
  cases m.pending with
  | some _ => rfl
  | none => cases m.queues.write <;> rfl

theorem value_tick (n : Node) : n.tick.value = n.prepared.proceed.value := by
  rw [tick_eq]
  rfl

@[simp] theorem pending_prepared (n : Node) : n.prepared.pending = n.pending :=
  pending_handle n .tick

theorem tick_of_write {n : Node} {f : Frame} {write : List Frame} (hp : n.pending = none)
    (hw : n.prepared.queues.write = f :: write) :
    n.sends? = some f ∧ n.tick.value =
      { n.prepared with queues := { n.prepared.queues with write }, pending := some f } := by
  rw [value_tick, proceed, sends?, pending_prepared, hp, hw]
  exact ⟨rfl, rfl⟩

/-- A node that has no transaction and nothing to send goes on with its bring-up. -/
theorem tick_of_drained {n : Node} (hp : n.pending = none) (hw : n.prepared.queues.write = []) :
    n.sends? = none ∧ n.tick.value = (n.prepared.handle .queueDrained).value := by
  rw [value_tick, proceed, sends?, pending_prepared, hp, hw]
  exact ⟨rfl, rfl⟩

theorem tick_of_pending {n : Node} (h : n.pending.isSome) : n.tick.value = n.prepared := by
  rw [value_tick, proceed, pending_prepared, if_pos h]
  rfl

/-- In most states a tick queues nothing. -/
theorem prepared_of_state {n : Node} (h : n.state ≠ .versionPending)
    (h' : n.state ≠ .statePending) : n.prepared = n := by
  unfold prepared
  rw [value_handle_tick]
  split
  · next e => exact absurd e h
  · next e => exact absurd e h'
  · rfl

/-- A tick leaves neither of the two states in which it does. -/
theorem state_prepared (n : Node) :
    n.prepared.state ≠ .versionPending ∧ n.prepared.state ≠ .statePending := by
  unfold prepared
  rw [value_handle_tick]
  split
  · exact ⟨by simp [state], by simp [state]⟩
  · exact ⟨by simp [state], by simp [state]⟩
  · next h h' => exact ⟨h, h'⟩

@[simp] theorem id_tick (n : Node) : n.tick.value.id = n.id := by
  rw [value_tick, proceed]
  split
  · exact id_handle n .tick
  · split
    · exact id_handle n .tick
    · rw [id_handle]; exact id_handle n .tick

@[simp] theorem profile_tick (n : Node) : n.tick.value.profile = n.profile := by
  rw [value_tick, proceed]
  split
  · exact profile_handle n .tick
  · split
    · exact profile_handle n .tick
    · rw [profile_handle]; exact profile_handle n .tick

/-- The pending transaction after a tick: the one before it, or else the frame it sends. -/
theorem pending_tick (n : Node) : n.tick.value.pending = n.pending.or n.sends? := by
  rw [value_tick, proceed, sends?, pending_prepared]
  cases hp : n.pending with
  | some f => simp [hp]
  | none =>
    simp only [Option.isSome_none, Bool.false_eq_true, if_false, Option.none_or]
    split
    · next h => simp [h]
    · next h => simp [h, hp]

/-! ## Frames from the device -/

def heard (n : Node) (p : Payload) : Registry :=
  if n.classes.contains p.classId then
    match n.classes.deliver (n.reader p.classId) p with
    | .ok classes => classes
    | .error _ => n.classes
  else n.classes

theorem value_dispatch (n : Node) (p : Payload) :
    (n.dispatch p).value = { n with classes := n.heard p } := by
  unfold dispatch heard
  cases n.classes.contains p.classId with
  | false => rfl
  | true =>
    simp only [if_true]
    cases n.classes.deliver (n.reader p.classId) p <;> rfl

/-- The node once it has registered the classes that an update reports. -/
def informed (n : Node) (u : ApplicationUpdate) : Node :=
  if n.state = .nodeInfo then
    { n with classes := n.classes.registerAll n.factory u.classes }
  else n

theorem value_update (n : Node) (u : ApplicationUpdate) :
    (n.update u).value =
      if u.isFailure then (n.handle .infoFailed).value
      else ((n.informed u).handle
        (.infoReceived ((n.informed u).classes.contains ClassId.version))).value := by
  unfold update
  split <;> rfl

theorem value_receive_command (n : Node) (command : ApplicationCommand) :
    (n.receive (.applicationCommand command)).value =
      { n with classes := n.heard command.payload, pending := none } := by
  change (n.dispatch command.payload).value.settle = _
  rw [value_dispatch]
  rfl

theorem value_receive_update (n : Node) (u : ApplicationUpdate) :
    (n.receive (.applicationUpdate u)).value = { (n.update u).value with pending := none } := rfl

theorem value_receive_requestFailed (n : Node) :
    (n.receive (.applicationUpdate .requestFailed)).value =
      { (n.handle .infoFailed).value with pending := none } := rfl

theorem value_receive_infoReceived (n : Node) (id : NodeId) (info : NodeInfo) :
    (n.receive (.applicationUpdate (.infoReceived id info))).value =
      { ((n.informed (.infoReceived id info)).handle (.infoReceived
          ((n.informed (.infoReceived id info)).classes.contains ClassId.version))).value with
        pending := none } := rfl

@[simp] theorem id_update (n : Node) (u : ApplicationUpdate) : (n.update u).value.id = n.id := by
  rw [value_update]
  split
  · simp
  · unfold informed
    split <;> simp

@[simp] theorem profile_update (n : Node) (u : ApplicationUpdate) :
    (n.update u).value.profile = n.profile := by
  rw [value_update]
  split
  · simp
  · unfold informed
    split <;> simp

@[simp] theorem id_receive (n : Node) (f : Frame) : (n.receive f).value.id = n.id := by
  cases f with
  | applicationCommand command => rw [value_receive_command]
  | applicationUpdate u => rw [value_receive_update]; exact id_update n u
  | sendData | requestNodeInfo | other => rfl

@[simp] theorem profile_receive (n : Node) (f : Frame) : (n.receive f).value.profile = n.profile := by
  cases f with
  | applicationCommand command => rw [value_receive_command]
  | applicationUpdate u => rw [value_receive_update]; exact profile_update n u
  | sendData | requestNodeInfo | other => rfl

end Node

end ZWave
