import ZWave.Proofs.Node.Events
import ZWave.Proofs.Node.Known

/-!
# Histories of a node

A node is made once and then operated on, by ticks and by calls in any order. A `History` is what
was done with it; the node it led to, the frames that were queued for it and those that were sent
are read from that.

What an operation does to the queues is said once. It may release the frames that are held back, and
then queues frames of its own (`Operation.filled`); where all of them are afterwards is said by
`sent_append_write` and `wakeup_operate`.
-/

namespace ZWave.Node

/-- What can be done with a node between cycles. -/
inductive Call where
  | queue (frame : Frame) (defer : Bool)
  | flush
  | setListening (listening : Bool)
  | register (handler : Handler)
  | receive (frame : Frame)

def call (n : Node) : Call → Traced NodeEvent Node
  | .queue frame defer => n.queue frame defer
  | .flush => pure n.flush
  | .setListening listening => pure (n.setListening listening)
  | .register handler => pure (n.register handler)
  | .receive frame => n.receive frame

/-- What can be done with a node. -/
inductive Operation where
  | tick
  | call (call : Call)

def operate (n : Node) : Operation → Traced NodeEvent Node
  | .tick => n.tick
  | .call call => n.call call

/-! ## What an operation queues -/

def startup (n : Node) : List Frame :=
  match n.state with
  | .versionPending => n.versionStartup
  | .statePending => n.stateStartup
  | _ => []

def brought (n : Node) : List UInt8 :=
  match n.state with
  | .versionPending => if n.versionStarted then [] else [ClassId.version]
  | .statePending => n.unstarted
  | _ => []

theorem startup_eq_flatMap (n : Node) : n.startup = n.brought.flatMap (n.classes.startup n.id) := by
  unfold startup brought
  cases n.state with
  | versionPending =>
    change n.versionStartup = _
    unfold versionStartup
    cases n.versionStarted <;> simp
  | statePending => rfl
  | nodeInfo | versionQueued | stateQueued | started => rfl

namespace Operation

/-- Whether the node is handed a command or an update. -/
def isReport : Operation → Bool
  | call (.receive f) => f.isReport
  | _ => false

/-- The frames that an operation queues. -/
def frames (n : Node) : Operation → List Frame
  | tick => n.startup
  | call (.queue frame _) => [frame]
  | call (.receive (.applicationUpdate u)) =>
    if n.state = .nodeInfo then
      if u.isFailure ∧ n.lifecycle.retries < maxInfoRetries then [.requestNodeInfo n.id] else []
    else n.profile.refresh n.id
  | _ => []

def defers (n : Node) : Operation → Bool
  | call (.queue _ defer) => defer
  | call (.receive (.applicationUpdate _)) => n.state = .nodeInfo
  | _ => true

/-- Whether the frames that were held back are released first. -/
def releases (n : Node) : Operation → Bool
  | call .flush => true
  | call (.setListening listening) => listening
  | call (.receive (.applicationUpdate _)) => n.state ≠ .nodeInfo
  | _ => false

/-- Whether the node is listening afterwards. -/
def listens (n : Node) : Operation → Bool
  | call (.setListening listening) => listening
  | _ => n.queues.listening

def released (op : Operation) (n : Node) : Queues :=
  if op.releases n then n.queues.flush else n.queues

/-- The queues before a frame is sent. -/
def filled (op : Operation) (n : Node) : Queues :=
  (op.released n).pushAll (op.frames n) (op.defers n)

def put (op : Operation) (n : Node) (lane : Lane) : List Frame :=
  if n.queues.lane (op.defers n) = lane then op.frames n else []

@[simp] theorem listening_released (op : Operation) (n : Node) :
    (op.released n).listening = n.queues.listening := by
  unfold released
  split <;> rfl

theorem filled_eq (op : Operation) (n : Node) :
    op.filled n =
      { listening := n.queues.listening
        write := (op.released n).write ++ op.put n .write
        wakeup := (op.released n).wakeup ++ op.put n .wakeup } := by
  have lane : (op.released n).lane (op.defers n) = n.queues.lane (op.defers n) := by
    simp [Queues.lane]
  unfold filled put
  rw [Queues.pushAll_eq, lane, listening_released]

end Operation

/-! ## What an operation does to the queues -/

theorem queues_prepared_eq (n : Node) : n.prepared.queues = Operation.tick.filled n := by
  have filled : Operation.tick.filled n = n.queues.pushAll n.startup true := rfl
  rw [filled]
  unfold prepared startup
  rw [value_handle_tick]
  cases n.state <;> rfl

theorem queues_update (n : Node) (u : ApplicationUpdate) :
    (n.update u).value.queues =
      (Operation.call (.receive (.applicationUpdate u))).filled n := by
  unfold Operation.filled Operation.released Operation.releases Operation.frames Operation.defers
  by_cases known : n.state = .nodeInfo
  · rw [value_update]
    cases failed : u.isFailure with
    | true =>
      rw [if_pos rfl, value_handle_infoFailed]
      by_cases retry : n.lifecycle.retries < maxInfoRetries
      · simp [known, failed, retry, Queues.pushAll]
      · simp [known, retry, Queues.pushAll]
    | false =>
      have informed : (n.informed u).state = .nodeInfo := by
        rw [Node.informed, if_pos known]
        exact known
      rw [if_neg Bool.false_ne_true, value_handle_infoReceived, informed, Node.informed]
      simp [known, failed, Queues.pushAll]
  · rw [value_update_of_known known]
    simp [known, refreshed]

theorem queues_call (n : Node) (c : Call) :
    (n.call c).value.queues =
      { (Operation.call c).filled n with listening := (Operation.call c).listens n } := by
  cases c with
  | queue frame defer =>
    change n.queues.push frame defer = _
    rw [Operation.filled_eq, Queues.push_eq]
    rfl
  | flush => rfl
  | register handler => rfl
  | setListening listening =>
    change n.queues.setListening listening = _
    unfold Queues.setListening Operation.filled Operation.released
    cases listening <;> rfl
  | receive f =>
    cases f with
    | applicationCommand command =>
      change (n.receive (.applicationCommand command)).value.queues = _
      rw [value_receive_command]
      rfl
    | applicationUpdate u =>
      change (n.update u).value.queues = _
      rw [queues_update, Operation.filled_eq]
      rfl
    | sendData | requestNodeInfo | other => rfl

theorem emits_call (n : Node) (c : Call) : Traced.Emits Inner (n.call c) := by
  cases c with
  | queue frame defer => intro e he; cases List.mem_singleton.1 he; rfl
  | flush => exact Traced.Emits.pure n.flush
  | setListening listening => exact Traced.Emits.pure (n.setListening listening)
  | register handler => exact Traced.Emits.pure (n.register handler)
  | receive f => exact emits_receive n f

theorem queues_tick (n : Node) :
    n.prepared.queues =
      { n.tick.value.queues with write := sent n.tick.events ++ n.tick.value.queues.write } := by
  rw [sent_tick]
  cases hp : n.pending with
  | some f =>
    rw [sends?_of_pending (by rw [hp]; rfl), tick_of_pending (by rw [hp]; rfl)]
    rfl
  | none =>
    cases hw : n.prepared.queues.write with
    | nil =>
      obtain ⟨nothing, hv⟩ := tick_of_drained hp hw
      have drained : (n.prepared.handle .queueDrained).value.queues = n.prepared.queues := by
        rw [value_handle_queueDrained]
        split <;> rfl
      rw [nothing, hv, drained]
      rfl
    | cons f rest =>
      obtain ⟨one, hv⟩ := tick_of_write hp hw
      rw [one, hv]
      change n.prepared.queues = { n.prepared.queues with write := f :: rest }
      rw [← hw]

/-- An operation fills the queues, and sends from the front of the write queue. -/
theorem queues_operate (n : Node) (op : Operation) :
    { (n.operate op).value.queues with
      write := sent (n.operate op).events ++ (n.operate op).value.queues.write } =
    { op.filled n with listening := op.listens n } := by
  cases op with
  | tick =>
    change { n.tick.value.queues with
      write := sent n.tick.events ++ n.tick.value.queues.write } = _
    rw [← queues_tick, queues_prepared_eq, Operation.filled_eq]
    rfl
  | call c =>
    change { (n.call c).value.queues with
      write := sent (n.call c).events ++ (n.call c).value.queues.write } = _
    rw [sent_eq_nil (emits_call n c), queues_call]
    rfl

theorem listening_operate (n : Node) (op : Operation) :
    (n.operate op).value.queues.listening = op.listens n :=
  congrArg Queues.listening (queues_operate n op)

theorem sent_append_write (n : Node) (op : Operation) :
    sent (n.operate op).events ++ (n.operate op).value.queues.write =
      (op.released n).write ++ op.put n .write := by
  have h := congrArg Queues.write (queues_operate n op)
  rwa [Operation.filled_eq] at h

theorem wakeup_operate (n : Node) (op : Operation) :
    (n.operate op).value.queues.wakeup = (op.released n).wakeup ++ op.put n .wakeup := by
  have h := congrArg Queues.wakeup (queues_operate n op)
  rwa [Operation.filled_eq] at h

/-! ## Histories -/

/-- How a node is made. -/
structure Setup where
  id : NodeId
  info : ProtocolInfo
  factory : Factory
  profile : Profile := .generic

def Setup.start (s : Setup) : Traced NodeEvent Node := do
  let n ← join s.id s.info s.factory
  return n.withProfile s.profile

/-- A frame that was queued, and whether it could be held back. -/
structure Entry where
  frame : Frame
  defer : Bool
deriving DecidableEq

def Setup.entries (s : Setup) : List Entry :=
  if s.info.listening then [⟨.requestNodeInfo s.id, true⟩] else []

/-- A new node has done nothing but ask for its information, if it listens. -/
theorem Setup.start_eq (s : Setup) :
    s.start =
      ⟨{ id := s.id
         device := s.info.device
         profile := s.profile
         factory := s.factory
         queues := { listening := s.info.listening, write := s.entries.map (·.frame) } },
        s.entries.map fun e => .queued e.frame .write .nodeInfo⟩ := by
  obtain ⟨id, ⟨device, listening⟩, factory, profile⟩ := s
  cases listening <;> rfl

theorem Setup.filterMap_start {α : Type} (s : Setup) {tells : NodeEvent → Option α}
    (silent : ∀ frame, tells (.queued frame .write .nodeInfo) = none) :
    s.start.events.filterMap tells = [] := by
  rw [start_eq, List.filterMap_map]
  exact List.filterMap_eq_nil_iff.2 fun e _ => silent e.frame

/-- What was done with a node: how it was made, and the operations since. -/
inductive History where
  | start (setup : Setup)
  | step (before : History) (op : Operation)

/-- A step of a history: the node before it, and the operation. -/
structure Step where
  node : Node
  op : Operation

def Step.events (s : Step) : List NodeEvent := (s.node.operate s.op).events

def Step.sent (s : Step) : List Frame := Node.sent s.events

namespace History

def setup : History → Setup
  | start s => s
  | step h _ => h.setup

def node : History → Node
  | start s => s.start.value
  | step h op => (h.node.operate op).value

def events : History → List NodeEvent
  | start s => s.start.events
  | step h op => h.events ++ (h.node.operate op).events

def steps : History → List Step
  | start _ => []
  | step h op => h.steps ++ [⟨h.node, op⟩]

def operations (h : History) : List Operation := h.steps.map (·.op)

/-- Everything that was queued so far, in order. -/
def entries : History → List Entry
  | start s => s.entries
  | step h op => h.entries ++ (op.frames h.node).map fun f => ⟨f, op.defers h.node⟩

/-- The frames that were queued so far, in order. -/
def queued (h : History) : List Frame := h.entries.map (·.frame)

def sent (h : History) : List Frame := Node.sent h.events

@[simp] theorem node_step (h : History) (op : Operation) :
    (h.step op).node = (h.node.operate op).value := rfl

theorem events_step (h : History) (op : Operation) :
    (h.step op).events = h.events ++ (h.node.operate op).events := rfl

@[simp] theorem steps_start (s : Setup) : (start s).steps = [] := rfl

@[simp] theorem steps_step (h : History) (op : Operation) :
    (h.step op).steps = h.steps ++ [⟨h.node, op⟩] := rfl

theorem steps_step_split {h : History} {op : Operation} {l r : List Step} {s : Step}
    (split : (h.step op).steps = l ++ s :: r) :
    h.steps = l ∧ s = ⟨h.node, op⟩ ∧ r = [] ∨
      ∃ rest, r = rest ++ [⟨h.node, op⟩] ∧ h.steps = l ++ s :: rest := by
  rw [steps_step] at split
  rcases List.eq_nil_or_concat r with rfl | ⟨rest, t, rfl⟩
  · obtain ⟨same, last⟩ := List.append_inj' split rfl
    cases last
    exact .inl ⟨same, rfl, rfl⟩
  · have moved : h.steps ++ [⟨h.node, op⟩] = (l ++ s :: rest) ++ [t] := by
      rw [split]
      simp
    obtain ⟨same, last⟩ := List.append_inj' moved rfl
    cases last
    exact .inr ⟨rest, List.concat_eq_append .., same⟩

@[simp] theorem operations_step (h : History) (op : Operation) :
    (h.step op).operations = h.operations ++ [op] := by
  simp [operations]

@[simp] theorem queued_step (h : History) (op : Operation) :
    (h.step op).queued = h.queued ++ op.frames h.node := by
  simp [queued, entries, Function.comp_def]

@[simp] theorem sent_step (h : History) (op : Operation) :
    (h.step op).sent = h.sent ++ Node.sent (h.node.operate op).events := List.filterMap_append

theorem sent_start (s : Setup) : (start s).sent = [] := s.filterMap_start fun _ => rfl

theorem queues_start (s : Setup) :
    (start s).node.queues =
      { listening := s.info.listening, write := (start s).queued, wakeup := [] } := by
  change s.start.value.queues = _
  rw [Setup.start_eq]
  rfl

end History

end ZWave.Node
