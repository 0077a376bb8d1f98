import ZWave.Proofs.Node.BringUp
import ZWave.Proofs.Node.Conservation

/-!
# Startup frames are queued once

A tick brings up classes in two states of the bring-up, and each of these is left for good in that
tick. When a node comes to ask for states it has brought up the Version class, if it asked for
versions before, and nothing else (`History.VersionFirst`). It then brings up all others, so that
every class that is registered has its startup frames queued in one step of the history
(`History.startup_once`).
-/

namespace ZWave

def NodeEvent.startup? : NodeEvent → Option (UInt8 × Frame)
  | .queued frame _ (.startup id) => some (id, frame)
  | _ => none

namespace Node

/-! ## The startup frames in a trace -/

/-- The startup frames that a trace queues, each with the class it is of. -/
def startups (events : List NodeEvent) : List (UInt8 × Frame) :=
  events.filterMap NodeEvent.startup?

def startupsOf (events : List NodeEvent) (id : UInt8) : List Frame :=
  ((startups events).filter (·.1 = id)).map (·.2)

theorem startups_append (l l' : List NodeEvent) : startups (l ++ l') = startups l ++ startups l' :=
  List.filterMap_append

theorem startupsOf_append (l l' : List NodeEvent) (id : UInt8) :
    startupsOf (l ++ l') id = startupsOf l id ++ startupsOf l' id := by
  simp [startupsOf, startups_append]

theorem startups_sublist (events : List NodeEvent) :
    ((startups events).map (·.2)).Sublist (queuedIn events) := by
  induction events with
  | nil => exact List.Sublist.refl _
  | cons e events ih =>
    cases e with
    | queued frame lane origin =>
      cases origin with
      | startup id => exact ih.cons_cons frame
      | caller | nodeInfo | refresh => exact ih.cons frame
    | sent | received | dropped | entered | retried | started => exact ih

def startupOf : Origin × Frame → Option (UInt8 × Frame)
  | (.startup id, frame) => some (id, frame)
  | _ => none

theorem filterMap_startupOf (origin : Origin) (frames : List Frame) :
    (frames.map (Prod.mk origin)).filterMap startupOf =
      match origin with
      | .startup id => frames.map (Prod.mk id)
      | _ => [] := by
  rw [List.filterMap_map]
  cases origin with
  | startup id => exact congrFun List.filterMap_eq_map frames
  | caller | nodeInfo | refresh => exact List.filterMap_eq_nil_iff.2 fun _ _ => rfl

theorem startups_eq (events : List NodeEvent) :
    startups events = (queuedFor events).filterMap startupOf := by
  unfold startups queuedFor
  rw [List.filterMap_filterMap]
  refine congrArg (List.filterMap · events) (funext fun e => ?_)
  cases e with
  | queued frame lane origin => cases origin <;> rfl
  | sent | received | dropped | entered | retried | started => rfl

def Operation.brings (n : Node) : Operation → List UInt8
  | tick => n.brought
  | _ => []

theorem startups_operate (n : Node) (op : Operation) :
    startups (n.operate op).events =
      (op.brings n).flatMap fun id => (n.classes.startup n.id id).map (Prod.mk id) := by
  rw [startups_eq, queuedFor_operate]
  unfold Operation.purposes
  split
  · rw [List.filterMap_flatMap]
    refine congrArg (List.flatMap · n.brought) (funext fun id => ?_)
    exact filterMap_startupOf (.startup id) _
  · rfl
  · next notTick _ =>
    have brings : op.brings n = [] := by
      cases op with
      | tick => exact absurd rfl notTick
      | call c => rfl
    rw [brings, filterMap_startupOf, receiveOrigin]
    split
    · next startup => split at startup <;> cases startup
    · rfl

theorem nodup_brings (n : Node) (op : Operation) : (op.brings n).Nodup := by
  cases op with
  | tick =>
    change n.brought.Nodup
    unfold brought
    split
    · split
      · exact List.nodup_nil
      · exact List.nodup_singleton _
    · exact n.classes.handlers.nodup_ids.filter _
    · exact List.nodup_nil
  | call c => exact List.nodup_nil

theorem startupsOf_operate (n : Node) (op : Operation) (id : UInt8) :
    startupsOf (n.operate op).events id =
      if id ∈ op.brings n then n.classes.startup n.id id else [] := by
  have apart := n.nodup_brings op
  unfold startupsOf
  rw [startups_operate]
  generalize op.brings n = ids at apart
  induction ids with
  | nil => rfl
  | cons k ids ih =>
    obtain ⟨fresh, apart⟩ := List.nodup_cons.1 apart
    rw [List.flatMap_cons, List.filter_append, List.map_append, ih apart]
    by_cases same : k = id
    · subst same
      simp [fresh, List.filter_map, Function.comp_def]
    · simp [same, Ne.symm same, List.filter_map]

theorem startupsOf_ne_nil_iff {n : Node} {op : Operation} {id : UInt8} :
    startupsOf (n.operate op).events id ≠ [] ↔
      id ∈ op.brings n ∧ n.classes.contains id = true := by
  rw [startupsOf_operate, ← Registry.startup_ne_nil_iff n.classes n.id]
  by_cases mem : id ∈ op.brings n
  · simp [mem]
  · simp [mem]

/-! ## When classes are brought up -/

/-- A tick in which classes are brought up enters a state that is entered in no other way. -/
theorem mem_entered_iff {n : Node} {op : Operation} {a b : NodeState}
    (tick : Lifecycle.Enters a .tick b) :
    b ∈ entered (n.operate op).events ↔ op = .tick ∧ n.state = a := by
  constructor
  · intro reached
    obtain ⟨c, left⟩ := NodeState.mem_transitions_of_mem n.state reached
    rw [(follows_operate n op).entered] at left
    obtain ⟨before, event, after, told, hc, hb⟩ := Lifecycle.mem_transitions_entered left
    obtain ⟨rfl, rfl⟩ := tick.unique hb
    rcases told_split told with ⟨rfl, -, rfl⟩ | ⟨-, he, -⟩ | ⟨u, -, he⟩
    · exact ⟨rfl, hc⟩
    · cases he
    · rcases n.reported_cases u with h | ⟨versioned, h⟩
      all_goals
        rw [h] at he
        cases he
  · rintro ⟨rfl, rfl⟩
    have next : (n.lifecycle.step .tick).next = some b := tick.next_eq
    change b ∈ entered n.tick.events
    rw [events_tick, entered_append, entered_handle, next]
    exact List.mem_append_left _ (List.mem_singleton_self b)

theorem versionQueued_mem_entered {n : Node} {op : Operation} :
    .versionQueued ∈ entered (n.operate op).events ↔ op = .tick ∧ n.state = .versionPending :=
  mem_entered_iff .versionTold

theorem stateQueued_mem_entered {n : Node} {op : Operation} :
    .stateQueued ∈ entered (n.operate op).events ↔ op = .tick ∧ n.state = .statePending :=
  mem_entered_iff .stateTold

theorem versionStarted_handle (n : Node) (event : LifecycleEvent) :
    (n.handle event).value.versionStarted = true ↔
      n.versionStarted = true ∨ event = .tick ∧ n.state = .versionPending := by
  cases event with
  | tick =>
    rw [value_handle_tick]
    cases n.state <;> simp
  | queueDrained =>
    rw [value_handle_queueDrained]
    cases n.state <;> simp
  | infoFailed =>
    rw [value_handle_infoFailed]
    split
    · split <;> simp
    · simp [refreshed]
  | infoReceived versioned =>
    rw [value_handle_infoReceived]
    split <;> simp [refreshed]

theorem versionStarted_operate (n : Node) (op : Operation) :
    (n.operate op).value.versionStarted = true ↔
      n.versionStarted = true ∨ .versionQueued ∈ entered (n.operate op).events := by
  rw [versionQueued_mem_entered]
  cases op with
  | tick =>
    have prepared : n.prepared.versionStarted = true ↔
        n.versionStarted = true ∨ n.state = .versionPending := by
      rw [Node.prepared, versionStarted_handle]
      simp only [true_and]
    change n.tick.value.versionStarted = true ↔ _
    simp only [true_and]
    rw [← prepared, value_tick, proceed]
    split
    · rfl
    · split
      · rfl
      · simp [versionStarted_handle]
  | call c =>
    have untold : ¬ (Operation.call c = .tick ∧ n.state = .versionPending) := by simp
    rw [or_iff_left untold]
    cases c with
    | queue | flush | register | setListening => exact Iff.rfl
    | receive f =>
      cases f with
      | applicationCommand command =>
        change (n.receive (.applicationCommand command)).value.versionStarted = true ↔ _
        rw [value_receive_command]
      | applicationUpdate u =>
        change (n.update u).value.versionStarted = true ↔ _
        have kept : (if u.isFailure then n else n.informed u).versionStarted = n.versionStarted := by
          unfold informed
          split
          · rfl
          · split <;> rfl
        have other : n.reported u ≠ .tick := by
          intro tick
          rcases n.reported_cases u with h | ⟨versioned, h⟩
          all_goals
            rw [h] at tick
            cases tick
        rw [update_eq, versionStarted_handle, kept]
        exact or_iff_left fun h => other h.1
      | sendData | requestNodeInfo | other => exact Iff.rfl

theorem write_of_started {n : Node} {op : Operation}
    (ready : .started ∈ Node.entered (n.operate op).events) :
    (n.operate op).value.queues.write = [] := by
  obtain ⟨a, left⟩ := NodeState.mem_transitions_of_mem n.state ready
  have left' := left
  rw [(follows_operate n op).entered] at left'
  obtain ⟨_, _, _, _, _, enters⟩ := Lifecycle.mem_transitions_entered left'
  have queued : a = .stateQueued := by
    cases enters
    rfl
  obtain ⟨rfl, -, empty⟩ := drained_of_left left (.inr queued)
  have taken := congrArg Queues.write n.queues_tick
  rw [empty] at taken
  exact (List.append_eq_nil_iff.1 taken.symm).2

namespace History

theorem versionStarted_iff (h : History) :
    h.node.versionStarted = true ↔ .versionQueued ∈ h.entered := by
  induction h with
  | start s =>
    have fresh : (start s).node.versionStarted = false := by
      change s.start.value.versionStarted = false
      rw [Setup.start_eq]
    simp [fresh, entered_start]
  | step h op ih => rw [node_step, versionStarted_operate, ih, entered_step, List.mem_append]

/-! ## What is brought up -/

/-- Left to be brought up are all classes, but for the Version class if versions were asked for. -/
theorem mem_unstarted (h : History) (id : UInt8) :
    id ∈ h.node.unstarted ↔
      h.node.classes.contains id = true ∧ ¬ (id = ClassId.version ∧ .versionQueued ∈ h.entered) := by
  rw [← versionStarted_iff, unstarted, List.mem_filter, Registry.mem_ids]
  cases h.node.versionStarted <;> simp

/-- Which classes an operation brings up is told by the state that it enters. -/
theorem mem_brings_iff (h : History) (op : Operation) (id : UInt8) :
    id ∈ op.brings h.node ↔
      id = ClassId.version ∧ .versionQueued ∈ Node.entered (h.node.operate op).events ∨
      id ∈ h.node.unstarted ∧ .stateQueued ∈ Node.entered (h.node.operate op).events := by
  rw [versionQueued_mem_entered, stateQueued_mem_entered]
  cases op with
  | call c => simp [Operation.brings]
  | tick =>
    change id ∈ h.node.brought ↔ _
    unfold brought
    cases hs : h.node.state with
    | versionPending =>
      have asks := versionQueued_mem_entered.2 ⟨rfl, hs⟩
      have fresh : h.node.versionStarted = false := by
        rw [Bool.eq_false_iff, ne_eq, versionStarted_iff]
        exact not_mem_entered asks
      simp [fresh]
    | statePending | nodeInfo | versionQueued | stateQueued | started => simp

theorem contains_of_brings {h : History} {op : Operation} {id : UInt8}
    (mem : id ∈ op.brings h.node) : h.node.classes.contains id = true := by
  rcases (h.mem_brings_iff op id).1 mem with ⟨rfl, asks⟩ | ⟨left, -⟩
  · exact h.contains_of_versionPending (versionQueued_mem_entered.1 asks).2
  · exact ((h.mem_unstarted id).1 left).1

/-- Once states are asked for, nothing is brought up any more. -/
theorem startups_of_stateQueued {h : History} (asked : .stateQueued ∈ h.entered) (op : Operation) :
    Node.startups (h.node.operate op).events = [] := by
  have nothing : op.brings h.node = [] := by
    refine List.eq_nil_iff_forall_not_mem.2 fun id mem => ?_
    rcases (h.mem_brings_iff op id).1 mem with ⟨-, now⟩ | ⟨-, now⟩
    · exact absurd (lt_of_mem_entered asked now) (by decide)
    · exact not_mem_entered now asked
  rw [startups_operate, nothing]
  rfl

/-- The steps that queued startup frames of a class. -/
def startupSteps (h : History) (id : UInt8) : List Step :=
  h.steps.filter fun s => startupsOf s.events id ≠ []

theorem startupSteps_step (h : History) (op : Operation) (id : UInt8) :
    (h.step op).startupSteps id = h.startupSteps id ++
      if id ∈ op.brings h.node then [⟨h.node, op⟩] else [] := by
  unfold startupSteps
  rw [steps_step, List.filter_append]
  congr 1
  by_cases starts : id ∈ op.brings h.node
  · have some : startupsOf (h.node.operate op).events id ≠ [] :=
      startupsOf_ne_nil_iff.2 ⟨starts, contains_of_brings starts⟩
    simp [Step.events, starts, some]
  · have nothing : startupsOf (h.node.operate op).events id = [] :=
      (startupsOf_operate ..).trans (if_neg starts)
    simp [Step.events, starts, nothing]

theorem startupsOf_events (h : History) (id : UInt8) :
    startupsOf h.events id = (h.startupSteps id).flatMap fun s => startupsOf s.events id := by
  induction h with
  | start s =>
    have none : Node.startups s.start.events = [] := s.filterMap_start fun _ => rfl
    change startupsOf s.start.events id = []
    rw [startupsOf, none]
    rfl
  | step h op ih =>
    rw [events_step, startupsOf_append, ih, startupSteps_step, List.flatMap_append]
    congr 1
    split
    · exact (List.append_nil _).symm
    · next quiet => exact (startupsOf_operate ..).trans (if_neg quiet)

theorem brings_of_mem {h : History} {id : UInt8} {s : Step} (hs : s ∈ h.startupSteps id) :
    id ∈ s.op.brings s.node ∧ s.node.classes.contains id = true := by
  have some : startupsOf s.events id ≠ [] := by simpa using (List.mem_filter.1 hs).2
  exact startupsOf_ne_nil_iff.1 some

theorem startupsOf_of_mem {h : History} {id : UInt8} {s : Step} (hs : s ∈ h.startupSteps id) :
    startupsOf s.events id = s.node.classes.startup s.node.id id :=
  (startupsOf_operate s.node s.op id).trans (if_pos (brings_of_mem hs).1)

/-- What was brought up before the classes are asked for their state. -/
structure VersionFirst (h : History) : Prop where
  version : .versionQueued ∈ h.entered → ∃ s, h.startupSteps ClassId.version = [s] ∧
    .versionQueued ∈ Node.entered s.events
  others : ∀ id, ¬ (id = ClassId.version ∧ .versionQueued ∈ h.entered) → h.startupSteps id = []

theorem versionFirst {h : History} (before : .stateQueued ∉ h.entered) : h.VersionFirst := by
  induction h with
  | start s =>
    refine ⟨fun reached => ?_, fun _ _ => rfl⟩
    rw [entered_start] at reached
    cases reached
  | step h op ih =>
    rw [entered_step, List.mem_append, not_or] at before
    obtain ⟨before, unasked⟩ := before
    have first := ih before
    -- States are not asked for in this step, so that it brings up Version or nothing.
    have starts : ∀ id, (h.step op).startupSteps id = h.startupSteps id ++
        if id = ClassId.version ∧ .versionQueued ∈ Node.entered (h.node.operate op).events then
          [⟨h.node, op⟩] else [] := by
      intro id
      rw [startupSteps_step]
      simp only [h.mem_brings_iff op, unasked, and_false, or_false]
    constructor
    · intro reached
      rw [entered_step, List.mem_append] at reached
      rw [starts]
      rcases reached with earlier | now
      · have once : .versionQueued ∉ Node.entered (h.node.operate op).events :=
          fun now => not_mem_entered now earlier
        obtain ⟨s, only, asks⟩ := first.version earlier
        exact ⟨s, by simp [only, once], asks⟩
      · have fresh := not_mem_entered now
        rw [first.others _ fun same => fresh same.2]
        exact ⟨⟨h.node, op⟩, by simp [now], now⟩
    · intro id other
      rw [entered_step, List.mem_append] at other
      rw [starts, first.others id fun same => other ⟨same.1, .inl same.2⟩]
      exact if_neg fun same => other ⟨same.1, .inr same.2⟩

/-! ## Once -/

/-- What was queued for the classes of a node when the last operation comes to ask for their states.
-/
structure BroughtUp (h : History) (op : Operation) : Prop where
  /-- The startup frames of each class were queued in one step. -/
  once : ∀ id, (h.step op).node.classes.contains id = true →
    ∃ s, (h.step op).startupSteps id = [s] ∧
      startupsOf s.events id = s.node.classes.startup s.node.id id ∧
      startupsOf (h.step op).events id = startupsOf s.events id ∧
      if id = ClassId.version ∧ .versionQueued ∈ h.entered then
        .versionQueued ∈ Node.entered s.events
      else s = ⟨h.node, op⟩
  /-- The last step goes through the classes in ascending order. -/
  order : ∃ ids : List UInt8, ids.Pairwise (· < ·) ∧
    (∀ id, id ∈ ids ↔ (h.step op).node.classes.contains id = true ∧
      ¬ (id = ClassId.version ∧ .versionQueued ∈ h.entered)) ∧
    Node.startups (h.node.operate op).events =
      ids.flatMap fun id => (h.node.classes.startup h.node.id id).map (Prod.mk id)
  /-- Version asks for its own report, and for the classes that may speak more than the default. -/
  version : ∀ s ∈ (h.step op).startupSteps ClassId.version, ∃ ids : List UInt8,
    ids.Pairwise (· < ·) ∧
    (∀ id, id ∈ ids ↔ id ≠ ClassId.version ∧
      ∃ handler, s.node.classes.get? id = some handler ∧ defaultVersion < handler.maxVersion) ∧
    startupsOf s.events ClassId.version =
      Request.versionGet s.node.id :: ids.map (Request.classVersionGet s.node.id)
  /-- No more is ever queued. -/
  last : ∀ ops : List Operation,
    Node.startups (ops.foldl step (h.step op)).events = Node.startups (h.step op).events

/-- When states are asked for, each class that is registered has been brought up in one step. -/
theorem exists_startupStep {h : History} {op : Operation}
    (asks : .stateQueued ∈ Node.entered (h.node.operate op).events) {id : UInt8}
    (registered : h.node.classes.contains id = true) :
    ∃ s, (h.step op).startupSteps id = [s] ∧
      if id = ClassId.version ∧ .versionQueued ∈ h.entered then
        .versionQueued ∈ Node.entered s.events
      else s = ⟨h.node, op⟩ := by
  have first := versionFirst (not_mem_entered asks)
  have brings := h.mem_brings_iff op id
  by_cases version : id = ClassId.version ∧ .versionQueued ∈ h.entered
  · obtain ⟨s, only, entered⟩ := first.version version.2
    have quiet : id ∉ op.brings h.node := by
      intro mem
      rcases brings.1 mem with ⟨-, again⟩ | ⟨left, -⟩
      · exact not_mem_entered again version.2
      · exact ((h.mem_unstarted id).1 left).2 version
    rw [startupSteps_step, if_neg quiet, version.1, only]
    exact ⟨s, rfl, by rwa [if_pos ⟨rfl, version.2⟩]⟩
  · have left : id ∈ h.node.unstarted := (h.mem_unstarted id).2 ⟨registered, version⟩
    rw [startupSteps_step, if_pos (brings.2 (.inr ⟨left, asks⟩)), first.others id version]
    exact ⟨⟨h.node, op⟩, rfl, by rw [if_neg version]⟩

theorem startups_foldl {h : History} (asked : .stateQueued ∈ h.entered) (ops : List Operation) :
    Node.startups (ops.foldl step h).events = Node.startups h.events := by
  induction ops generalizing h with
  | nil => rfl
  | cons op ops ih =>
    have still : .stateQueued ∈ (h.step op).entered := by
      rw [entered_step]
      exact List.mem_append_left _ asked
    rw [List.foldl_cons, ih still, events_step, startups_append, startups_of_stateQueued asked,
      List.append_nil]

theorem broughtUp {h : History} {op : Operation}
    (asks : .stateQueued ∈ Node.entered (h.node.operate op).events) : h.BroughtUp op := by
  obtain ⟨rfl, pending⟩ := stateQueued_mem_entered.1 asks
  have classes : (h.step .tick).node.classes = h.node.classes := classes_tick h.node
  constructor
  case once =>
    intro id registered
    rw [classes] at registered
    obtain ⟨s, only, whichever⟩ := exists_startupStep asks registered
    have mem : s ∈ (h.step .tick).startupSteps id := by
      rw [only]
      exact List.mem_singleton_self s
    refine ⟨s, only, startupsOf_of_mem mem, ?_, whichever⟩
    rw [startupsOf_events, only]
    exact List.append_nil _
  case order =>
    have brings : Operation.tick.brings h.node = h.node.unstarted := by
      change h.node.brought = _
      unfold brought
      rw [pending]
    refine ⟨h.node.unstarted, h.node.classes.handlers.pairwise_ids.filter _, fun id => ?_, ?_⟩
    · rw [classes]
      exact h.mem_unstarted id
    · rw [startups_operate, brings]
  case version =>
    intro s hs
    have registered := (brings_of_mem hs).2
    refine ⟨s.node.classes.versioned, Registry.pairwise_versioned _, Registry.mem_versioned _, ?_⟩
    rw [startupsOf_of_mem hs]
    exact Registry.startup_version registered s.node.id
  case last =>
    have asked : .stateQueued ∈ (h.step .tick).entered := by
      rw [entered_step]
      exact List.mem_append_right _ asks
    exact startups_foldl asked

/-- **Startup frames are queued once.** When a node comes to ask for the states of its classes, the
startup frames of each have been queued once, and none is from then on. -/
theorem startup_once (h : History) (op : Operation) :
    (.stateQueued ∈ Node.entered (h.node.operate op).events → h.BroughtUp op) ∧
    (.started ∈ Node.entered (h.node.operate op).events →
      ((Node.startups (h.step op).events).map (·.2) : Multiset Frame) ≤
        (h.step op).sent + (h.step op).node.queues.wakeup) := by
  refine ⟨broughtUp, fun ready => ?_⟩
  have empty : (h.step op).node.queues.write = [] := write_of_started ready
  have kept := (h.step op).coe_queued
  rw [empty, Multiset.coe_nil, add_zero, queued_eq] at kept
  rw [← kept]
  exact Multiset.coe_le.2 (startups_sublist _).subperm

/-- A dimmer is asked for its versions, and then for the states of its other classes. -/
theorem startup_once_dimmer :
    ∃ h h' : History, h.BroughtUp .tick ∧
      .started ∈ Node.entered (h'.node.operate .tick).events ∧
      ((Node.startups (h'.step .tick).events).map (·.2) : Multiset Frame) ≤
        (h'.step .tick).sent + (h'.step .tick).node.queues.wakeup ∧
      (h.step .tick).startupSteps ClassId.basic = [⟨h.node, .tick⟩] ∧
      Node.startups (h'.step .tick).events =
        [(ClassId.version, Request.versionGet 2),
          (ClassId.version, Request.classVersionGet 2 ClassId.switchMultilevel),
          (ClassId.basic, Request.basicGet 2),
          (ClassId.switchMultilevel, Request.switchMultilevelGet 2)] := by
  let told : ApplicationUpdate :=
    .infoReceived 2 ⟨{}, [ClassId.version, ClassId.switchMultilevel, ClassId.basic]⟩
  let answer : Operation := .call (.receive (.applicationCommand ⟨2, ⟨ClassId.basic, []⟩, 0⟩))
  let h : History :=
    [.tick, .call (.receive (.applicationUpdate told)), .tick, answer, .tick, answer, .tick].foldl
      step (start { id := 2, info := ⟨{}, true⟩, factory := .standard })
  let h' : History := [.tick, answer, .tick, answer].foldl step h
  have asks : .stateQueued ∈ Node.entered (h.node.operate .tick).events := by decide +kernel
  have ready : .started ∈ Node.entered (h'.node.operate .tick).events := by decide +kernel
  have up := (h.startup_once .tick).1 asks
  obtain ⟨s, only, -, -, whichever⟩ := up.once ClassId.basic (by decide +kernel)
  rw [if_neg (by decide)] at whichever
  subst whichever
  exact ⟨h, h', up, ready, (h'.startup_once .tick).2 ready, only, by decide +kernel⟩

end History

end Node

end ZWave
