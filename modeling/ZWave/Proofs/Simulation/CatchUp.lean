import Mathlib.Data.List.Dedup
import ZWave.Proofs.Simulation.Discovery
import ZWave.Proofs.Simulation.Isolation

/-!
# What is known of a device that sleeps

When a device that sleeps announces itself first, its node learns the classes and holds the queries
of its bring-up back, also while the device stays awake. They are asked when it announces itself a
second time, one in every cycle, so all are answered if it stays awake long enough.
`CatchingUp d left` lists the links on the way with the cycles that are left, and one cycle takes
each to the next (`CatchingUp.cycle`). Further announcements only have the state of the device asked
for once more, which tells nothing new (`Refreshing`).
-/

namespace ZWave

namespace DeviceModel

variable (d : DeviceModel)

def startupQueries : List Query := d.versionQueries ++ d.stateQueries

/-- The node of a sleeping device, while `rest` is to be asked and `held` is held back. -/
def sleeper (state : NodeState) (answered rest held : List Query) (versionStarted : Bool) : Node :=
  { d.node state answered rest versionStarted with
    queues :=
      { listening := false
        write := rest.map (Query.frame d.id)
        wakeup := held.map (Query.frame d.id) } }

theorem prepared_sleeper (answered rest held : List Query) (versionStarted : Bool) :
    (d.sleeper .started answered rest held versionStarted).prepared =
      d.sleeper .started answered rest held versionStarted :=
  Node.prepared_of_state (show NodeState.started ≠ .versionPending by decide)
    (show NodeState.started ≠ .statePending by decide)

/-- Once it has heard its device, a node knows the classes and has its whole bring-up before it. -/
theorem hear_announcement :
    d.unheard.hear (some (.applicationUpdate
        (.infoReceived d.id ⟨d.protocolInfo.device, d.classIds⟩))) =
      d.sleeper (if d.lists .version then .versionPending else .statePending) [] [] [] false := by
  change (d.unheard.receive (.applicationUpdate _)).value = _
  rw [Node.value_receive_info rfl rfl rfl]
  rfl

/-! ## Queries are held back -/

/-- The nodes between the first announcement and the second. -/
inductive Deferred (d : DeviceModel) : Nat → Node → Prop where
  | versionPending : d.lists .version = true →
      Deferred d 2 (d.sleeper .versionPending [] [] [] false)
  | statePending :
      Deferred d 1 (d.sleeper .statePending [] [] d.versionQueries (d.lists .version))
  | started : Deferred d 0 (d.sleeper .started [] [] d.startupQueries (d.lists .version))

variable {d}

theorem Deferred.initial (d : DeviceModel) : ∃ ticks ≤ 2, Deferred d ticks
    (d.sleeper (if d.lists .version then .versionPending else .statePending) [] [] [] false) := by
  cases h : d.lists .version with
  | true => exact ⟨2, Nat.le_refl 2, .versionPending h⟩
  | false =>
    have none : d.versionQueries = [] := by simp [versionQueries, h]
    have start := Deferred.statePending (d := d)
    rw [none, h] at start
    exact ⟨1, by decide, start⟩

theorem Deferred.tick {ticks : Nat} {n : Node} (h : Deferred d ticks n) :
    n.sends? = none ∧ Deferred d (ticks - 1) n.tick.value := by
  have deferring : n.Deferring := by cases h <;> exact ⟨rfl, rfl, rfl⟩
  obtain ⟨sends, tick, -⟩ := deferring.tick
  refine ⟨sends, ?_⟩
  rw [tick]
  cases h with
  | versionPending hv =>
    have queries : (d.sleeper .versionPending [] [] [] false).versionQueries = d.versionQueries :=
      d.queries_version [] hv
    have prepared : (d.sleeper .versionPending [] [] [] false).prepared =
        d.sleeper .versionQueued [] [] d.versionQueries true := by
      unfold Node.prepared
      rw [Node.value_handle_tick, Node.versionStartup_eq, queries]
      simp [sleeper, node, Node.state, Queues.pushAll_eq, Queues.lane]
    have next := Deferred.statePending (d := d)
    rw [hv] at next
    rw [prepared]
    exact next
  | statePending =>
    have queries : (d.sleeper .statePending [] [] d.versionQueries
        (d.lists .version)).stateQueries = d.stateQueries := by
      have listening : (d.node .statePending [] [] (d.lists .version)).stateQueries =
          d.stateQueries := stateQueries_node
      exact listening
    have prepared :
        (d.sleeper .statePending [] [] d.versionQueries (d.lists .version)).prepared =
          d.sleeper .stateQueued [] [] d.startupQueries (d.lists .version) := by
      unfold Node.prepared
      rw [Node.value_handle_tick, Node.stateStartup_eq, queries]
      simp [sleeper, node, Node.state, Queues.pushAll_eq, Queues.lane, startupQueries]
    rw [prepared]
    exact Deferred.started
  | started =>
    rw [prepared_sleeper]
    exact Deferred.started

/-- At the second announcement they go ahead of the query that refreshes the state. -/
theorem receive_of_started (answered held : List Query) (versionStarted : Bool)
    (u : ApplicationUpdate) :
    ((d.sleeper .started answered [] held versionStarted).receive (.applicationUpdate u)).value =
      d.sleeper .started answered (held ++ [d.profile.query]) [] versionStarted := by
  have known : (d.sleeper .started answered [] held versionStarted).state ≠ .nodeInfo :=
    show NodeState.started ≠ .nodeInfo by decide
  rw [Node.value_receive_update_of_known known, Profile.refresh_eq]
  simp [sleeper, node]

/-! ## Answers that tell nothing new -/

/-- What was answered before may be answered again. -/
theorem registry_append_of_mem {answered : List Query} {q : Query} (h : q ∈ answered) :
    d.registry (answered ++ [q]) = d.registry answered := by
  have handler : ∀ k, d.handler (answered ++ [q]) k = d.handler answered k := by
    intro k
    have read : (answered ++ [q]).any (d.informs k) = answered.any (d.informs k) := by
      rw [List.any_append, Bool.eq_iff_iff, Bool.or_eq_true, List.any_eq_true, or_iff_left_iff_imp]
      intro hq
      exact ⟨q, h, by simpa using hq⟩
    have told : .versionOf k.id ∈ answered ++ [q] ↔ .versionOf k.id ∈ answered := by
      rw [List.mem_append, List.mem_singleton, or_iff_left_iff_imp]
      rintro rfl
      exact h
    unfold DeviceModel.handler
    rw [read]
    simp only [told]
  refine Registry.ext_get? fun id => ?_
  rw [get?_registry, get?_registry]
  simp only [handler]

/-- The node knows all that its device was to be asked, and asks only for its state again. -/
structure Refreshing (d : DeviceModel) (n : Node) : Prop where
  id : n.id = d.id
  profile : n.profile = d.profile
  state : n.state = .started
  listening : n.queues.listening = false
  wakeup : n.queues.wakeup = []
  write : ∀ f ∈ n.queues.write, f = d.profile.query.frame d.id
  classes : n.classes = d.registry d.startupQueries

namespace Refreshing

variable {n : Node}

theorem tick (h : Refreshing d n) :
    Refreshing d n.tick.value ∧ ∀ f, n.sends? = some f → f = d.profile.query.frame d.id := by
  have prepared : n.prepared = n :=
    Node.prepared_of_state (by rw [h.state]; decide) (by rw [h.state]; decide)
  constructor
  · rw [Node.value_tick, prepared, Node.proceed]
    split
    · exact h
    · split
      · next f write hw =>
        refine { h with write := fun g hg => h.write g ?_ }
        rw [hw]
        exact List.mem_cons_of_mem f hg
      · rw [Node.value_handle_queueDrained, h.state]
        exact h
  · intro f sends
    unfold Node.sends? at sends
    rw [prepared] at sends
    split at sends
    · cases sends
    · exact h.write f (List.mem_of_mem_head? sends)

theorem receive_update (h : Refreshing d n) (u : ApplicationUpdate) :
    Refreshing d (n.receive (.applicationUpdate u)).value := by
  rw [Node.value_receive_update_of_known (by rw [h.state]; decide)]
  refine ⟨h.id, h.profile, h.state, h.listening, rfl, fun f hf => ?_, h.classes⟩
  change f ∈ n.queues.wakeup ++ n.queues.write ++ n.profile.refresh n.id at hf
  rw [h.wakeup, Profile.refresh_eq, h.profile, h.id] at hf
  rcases List.mem_append.1 hf with hf | hf
  · exact h.write f hf
  · exact List.mem_singleton.1 hf

theorem receive_reply (h : Refreshing d n) (id : NodeId) :
    Refreshing d (n.receive (.applicationCommand
      { nodeId := id, payload := d.reply d.profile.query })).value := by
  have heard : n.heard (d.reply d.profile.query) = n.classes := by
    obtain ⟨k, hk⟩ : ∃ k, d.profile.query = .report k := by cases d.profile <;> exact ⟨_, rfl⟩
    rw [hk]
    cases listed : d.lists k with
    | true =>
      have again : .report k ∈ d.startupQueries := (d.report_mem k).2 listed
      rw [Node.heard_reply (q := .report k) h.classes h.profile listed (by simp),
        registry_append_of_mem again, h.classes]
    | false =>
      -- the node drops a report of a class it has no handler for
      have unlisted : n.classes.contains k.id = false := by
        rw [h.classes, d.contains_registry, listed]
      unfold Node.heard
      rw [classId_reply, Query.kind, unlisted]
      rfl
  rw [Node.value_receive_command, heard]
  exact { h with }

theorem hear_advance (h : Refreshing d n) (s : SimulatedDevice) :
    Refreshing d (n.hear s.advance.2) := by
  cases ha : s.advance.2 with
  | none => exact h
  | some f =>
    rw [SimulatedDevice.advance_announcement ha]
    exact h.receive_update _

/-- It stays so, whether its query is answered or lost. -/
theorem cycle (h : Refreshing d n) {s : SimulatedDevice} (model : s.model = d)
    (level : s.level = d.level) :
    ∃ n', (⟨n, s⟩ : Link).cycle false = ⟨n', s.advance.1⟩ ∧ Refreshing d n' := by
  obtain ⟨ticked, sends⟩ := h.tick
  cases hs : n.sends? with
  | none => exact ⟨_, Link.cycle_of_quiet hs, ticked.hear_advance s⟩
  | some f =>
    have hs' : (⟨n, s⟩ : Link).node.sends? = some f := hs
    have answer := SimulatedDevice.handle_query_cases (by rw [level, model]) d.profile.query d.id
    rw [model, ← sends f hs] at answer
    unfold Link.cycle
    rw [Link.turn_of_sends hs']
    rcases answer with answer | lost
    · simp only [answer]
      exact ⟨_, rfl, (ticked.receive_reply s.id).hear_advance s⟩
    · simp only [lost]
      exact ⟨_, rfl, ticked.hear_advance s⟩

end Refreshing

end DeviceModel

/-! ## The schedule -/

open DeviceModel (Deferred Refreshing)

/-- The links of a device that sleeps, with the cycles that are left until it has caught up. -/
inductive CatchingUp (d : DeviceModel) : Nat → Link → Prop where
  | unheard {s : SimulatedDevice} : s.model = d → s.level = d.level → s.awakeFor = 0 →
      CatchingUp d (max s.asleepFor 1 + max d.awakeCycles 1 + max (d.wakeInterval.getD 0) 1 +
        d.startupQueries.length) ⟨d.unheard, s⟩
  | awake {ticks : Nat} {n : Node} {s : SimulatedDevice} : s.model = d → s.level = d.level →
      0 < s.awakeFor → Deferred d ticks n →
      ticks ≤ s.awakeFor + max (d.wakeInterval.getD 0) 1 →
      CatchingUp d (s.awakeFor + max (d.wakeInterval.getD 0) 1 + d.startupQueries.length) ⟨n, s⟩
  | asleep {ticks : Nat} {n : Node} {s : SimulatedDevice} : s.model = d → s.level = d.level →
      s.awakeFor = 0 → Deferred d ticks n → ticks ≤ max s.asleepFor 1 →
      CatchingUp d (max s.asleepFor 1 + d.startupQueries.length) ⟨n, s⟩
  | asking {s : SimulatedDevice} (answered : List Query) (q : Query) (rest : List Query) :
      s.model = d → s.level = d.level → rest.length < s.awakeFor →
      answered ++ q :: rest = d.startupQueries →
      CatchingUp d (rest.length + 1)
        ⟨d.sleeper .started answered (q :: rest ++ [d.profile.query]) [] (d.lists .version), s⟩
  | caughtUp {n : Node} {s : SimulatedDevice} : s.model = d → s.level = d.level →
      Refreshing d n → CatchingUp d 0 ⟨n, s⟩

namespace CatchingUp

variable {d : DeviceModel} {left : Nat} {l : Link}

/-- The link of a device that is awake for long enough and has `rest` still to answer. -/
theorem of_rest {s : SimulatedDevice} {answered rest : List Query} (model : s.model = d)
    (level : s.level = d.level) (fits : rest.length ≤ s.awakeFor)
    (split : answered ++ rest = d.startupQueries) :
    CatchingUp d rest.length
      ⟨d.sleeper .started answered (rest ++ [d.profile.query]) [] (d.lists .version), s⟩ := by
  cases rest with
  | cons q rest => exact asking answered q rest model level fits split
  | nil =>
    rw [List.append_nil] at split
    refine caughtUp model level ⟨rfl, rfl, rfl, rfl, rfl, fun f hf => ?_, ?_⟩
    · exact List.mem_singleton.1 hf
    · rw [← split]
      rfl

section Phases

variable {s : SimulatedDevice} {ticks : Nat} {n : Node} (model : s.model = d)
  (level : s.level = d.level) (sleeps : d.listening = false)

include model level sleeps

theorem cycle_unheard (awake : s.awakeFor = 0) :
    ∃ left' ≤ max s.asleepFor 1 + max d.awakeCycles 1 + max (d.wakeInterval.getD 0) 1 +
        d.startupQueries.length - 1,
      CatchingUp d left' ((⟨d.unheard, s⟩ : Link).cycle false) := by
  have sends : d.unheard.sends? = none := rfl
  have tick : d.unheard.tick.value = d.unheard := rfl
  rw [Link.cycle_of_quiet sends, tick]
  subst model
  rw [SimulatedDevice.advance_of_asleep sleeps awake]
  by_cases hlast : 0 < s.asleepFor - 1
  · rw [if_pos hlast]
    refine ⟨_, ?_, unheard (s := { s with asleepFor := s.asleepFor - 1 }) rfl level awake⟩
    simp only
    omega
  · rw [if_neg hlast]
    obtain ⟨ticks, few, deferred⟩ := Deferred.initial s.model
    have heard := s.model.hear_announcement
    rw [← heard] at deferred
    refine ⟨_, ?_, CatchingUp.awake (s := { s with
      asleepFor := s.asleepFor - 1
      awakeFor := max s.model.awakeCycles 1 }) rfl level ?_ deferred ?_⟩
    all_goals
      simp only
      omega

theorem cycle_awake (awake : 0 < s.awakeFor) (deferred : Deferred d ticks n)
    (enough : ticks ≤ s.awakeFor + max (d.wakeInterval.getD 0) 1) :
    ∃ left' ≤ s.awakeFor + max (d.wakeInterval.getD 0) 1 + d.startupQueries.length - 1,
      CatchingUp d left' ((⟨n, s⟩ : Link).cycle false) := by
  obtain ⟨sends, deferred⟩ := deferred.tick
  subst model
  rw [Link.cycle_of_quiet sends, SimulatedDevice.advance_of_awake sleeps awake]
  by_cases last : s.awakeFor = 1
  · rw [if_pos last]
    refine ⟨_, ?_, CatchingUp.asleep (s := { s with
      awakeFor := s.awakeFor - 1
      asleepFor := s.model.wakeInterval.getD 0 }) rfl level ?_ deferred ?_⟩
    all_goals
      simp only
      omega
  · rw [if_neg last]
    refine ⟨_, ?_, CatchingUp.awake (s := { s with awakeFor := s.awakeFor - 1 }) rfl level ?_
      deferred ?_⟩
    all_goals
      simp only
      omega

/-- When the device announces itself again, all that was held back is to be asked. -/
theorem cycle_asleep (awake : s.awakeFor = 0) (deferred : Deferred d ticks n)
    (enough : ticks ≤ max s.asleepFor 1) (fits : d.startupQueries.length ≤ max d.awakeCycles 1) :
    ∃ left' ≤ max s.asleepFor 1 + d.startupQueries.length - 1,
      CatchingUp d left' ((⟨n, s⟩ : Link).cycle false) := by
  obtain ⟨sends, deferred⟩ := deferred.tick
  subst model
  rw [Link.cycle_of_quiet sends, SimulatedDevice.advance_of_asleep sleeps awake]
  by_cases hlast : 0 < s.asleepFor - 1
  · rw [if_pos hlast]
    refine ⟨_, ?_, CatchingUp.asleep (s := { s with asleepFor := s.asleepFor - 1 }) rfl level awake
      deferred ?_⟩
    all_goals
      simp only
      omega
  · rw [if_neg hlast]
    -- the ticks that were left fit into its sleep, so all queries are held back by now
    have none : ticks - 1 = 0 := by omega
    rw [none] at deferred
    generalize n.tick.value = n at deferred
    cases deferred
    have heard := s.model.receive_of_started [] s.model.startupQueries
      (s.model.lists .version) (.infoReceived s.id ⟨s.model.protocolInfo.device, s.model.classIds⟩)
    have next := of_rest (s := { s with
      asleepFor := s.asleepFor - 1
      awakeFor := max s.model.awakeCycles 1 }) rfl level fits
        (List.nil_append s.model.startupQueries)
    rw [← heard] at next
    exact ⟨_, by omega, next⟩

theorem cycle_asking {answered rest : List Query} {q : Query} (speaks : d.Speaks)
    (awake : rest.length < s.awakeFor) (split : answered ++ q :: rest = d.startupQueries) :
    CatchingUp d rest.length
      ((⟨d.sleeper .started answered (q :: rest ++ [d.profile.query]) [] (d.lists .version), s⟩ :
        Link).cycle false) := by
  subst model
  have asked : q ∈ s.model.versionQueries ++ s.model.stateQueries := by
    rw [DeviceModel.startupQueries] at split
    rw [← split]
    exact List.mem_append_right _ (List.mem_cons_self ..)
  obtain ⟨listed, other⟩ := DeviceModel.mem_queries asked
  have reach : s.isReachable = true := by
    rw [SimulatedDevice.isReachable, sleeps]
    exact decide_eq_true (by omega)
  have answer := SimulatedDevice.handle_query reach level (speaks.classVersion_pos listed)
    s.model.id
  have prepared := s.model.prepared_sleeper answered (q :: rest ++ [s.model.profile.query]) []
    (s.model.lists .version)
  have classes := congrArg Node.classes prepared
  change _ = s.model.registry answered at classes
  rw [Link.cycle_asked rfl (by rw [prepared]; rfl) classes (by rw [prepared]; rfl) answer listed
    other (SimulatedDevice.advance_of_awake sleeps (by omega)), prepared]
  have split : answered ++ [q] ++ rest = s.model.startupQueries := by
    rw [← split, List.append_assoc]
    rfl
  exact of_rest (s := { s with
    awakeFor := s.awakeFor - 1
    asleepFor := if s.awakeFor = 1 then s.model.wakeInterval.getD 0 else s.asleepFor }) rfl level
      (by simp only; omega) split

end Phases

/-- Every cycle brings the link nearer. -/
theorem cycle (h : CatchingUp d left l) (sleeps : d.listening = false) (speaks : d.Speaks)
    (fits : d.startupQueries.length ≤ max d.awakeCycles 1) :
    ∃ left' ≤ left - 1, CatchingUp d left' (l.cycle false) := by
  cases h with
  | unheard model level awake => exact cycle_unheard model level sleeps awake
  | awake model level awake deferred enough =>
    exact cycle_awake model level sleeps awake deferred enough
  | asleep model level awake deferred enough =>
    exact cycle_asleep model level sleeps awake deferred enough fits
  | asking answered q rest model level awake split =>
    exact ⟨rest.length, Nat.le_refl _, cycle_asking model level sleeps speaks awake split⟩
  | @caughtUp n s model level refreshing =>
    obtain ⟨n', hn, refreshing⟩ := refreshing.cycle model level
    rw [hn]
    have model' : s.advance.1.model = d := by rw [SimulatedDevice.model_advance, model]
    have level' : s.advance.1.level = d.level := by rw [SimulatedDevice.level_advance, level]
    exact ⟨0, Nat.le_refl 0, caughtUp model' level' refreshing⟩

theorem advance (h : CatchingUp d left l) (sleeps : d.listening = false) (speaks : d.Speaks)
    (fits : d.startupQueries.length ≤ max d.awakeCycles 1) (t : Nat) :
    ∃ left' ≤ left - t, CatchingUp d left' (l.advance t) := by
  induction t with
  | zero => exact ⟨left, Nat.le_refl left, h⟩
  | succ t ih =>
    obtain ⟨left', few, before⟩ := ih
    obtain ⟨left'', fewer, next⟩ := before.cycle sleeps speaks fits
    rw [Link.advance_succ]
    exact ⟨left'', by omega, next⟩

theorem refreshing (h : CatchingUp d left l) (done : left = 0) : Refreshing d l.node := by
  cases h with
  | caughtUp _ _ refreshing => exact refreshing
  | awake _ _ awake => omega
  | unheard | asleep | asking => omega

end CatchingUp

/-! ## What is known in the end -/

namespace DeviceModel

variable (d : DeviceModel)

def implementedIds : List UInt8 :=
  (d.classIds.filter fun id => (Factory.standard.create? id).isSome).dedup

/-- The frames of the bring-up. -/
def startupCount : Nat :=
  d.implementedIds.length +
    if ClassId.version ∈ d.implementedIds ∧ ClassId.switchMultilevel ∈ d.implementedIds then 1
    else 0

theorem mem_implementedIds (k : ClassKind) : k.id ∈ d.implementedIds ↔ d.lists k = true := by
  have implemented : (Factory.standard.create? k.id).isSome = true := by
    change ((ClassKind.ofId? k.id).map Handler.fresh).isSome = true
    rw [ClassKind.ofId?_id]
    rfl
  rw [implementedIds, List.mem_dedup, List.mem_filter, and_iff_left implemented, lists,
    List.contains_iff_mem]

theorem length_implementedIds : d.implementedIds.length = d.kinds.length := by
  have distinct : (d.kinds.map ClassKind.id).Nodup :=
    (List.pairwise_map.2 (ClassKind.ascending_all.filter d.lists)).imp fun h => UInt8.ne_of_lt h
  have same : d.implementedIds.Perm (d.kinds.map ClassKind.id) := by
    refine (List.perm_ext_iff_of_nodup (List.nodup_dedup _) distinct).2 fun id => ?_
    constructor
    · intro hid
      have created := (List.mem_filter.1 (List.mem_dedup.1 hid)).2
      change ((ClassKind.ofId? id).map Handler.fresh).isSome = true at created
      rw [Option.isSome_map] at created
      obtain ⟨k, hk⟩ := Option.isSome_iff_exists.1 created
      obtain rfl := ClassKind.ofId?_eq_some_iff.1 hk
      exact List.mem_map_of_mem
        (List.mem_filter.2 ⟨k.mem_all, (d.mem_implementedIds k).1 hid⟩)
    · intro hid
      obtain ⟨k, hk, rfl⟩ := List.mem_map.1 hid
      exact (d.mem_implementedIds k).2 (List.mem_filter.1 hk).2
  rw [same.length_eq, List.length_map]

theorem length_startupQueries : d.startupQueries.length = d.startupCount := by
  have versioned : d.kinds.countP (· == .version) = if d.lists .version then 1 else 0 := by
    rw [kinds, List.countP_filter]
    cases h : d.lists .version <;> simp [ClassKind.all, h]
  have both : ClassId.version ∈ d.implementedIds ∧ ClassId.switchMultilevel ∈ d.implementedIds ↔
      d.lists .version = true ∧ d.lists .switchMultilevel = true :=
    and_congr (d.mem_implementedIds .version) (d.mem_implementedIds .switchMultilevel)
  have split := d.kinds.length_eq_countP_add_countP (· == .version)
  have others : d.stateQueries.length =
      d.kinds.countP fun k => decide ¬(k == ClassKind.version) = true := by
    rw [stateQueries, List.length_map, List.countP_eq_length_filter]
    refine congrArg List.length (List.filter_congr fun k _ => ?_)
    cases k <;> rfl
  rw [startupQueries, List.length_append, others, startupCount, length_implementedIds, split,
    versioned, versionQueries]
  simp only [both]
  generalize d.kinds.countP _ = others
  cases d.lists .version with
  | false => simp
  | true =>
    cases d.lists .switchMultilevel with
    | false => simp
    | true =>
      simp
      omega

/-- The node is ready, holds nothing back, and knows of its device what the model says. -/
structure CaughtUp (n : Node) : Prop where
  started : n.state = .started
  flushed : n.queues.wakeup = []
  handlers : ∀ k, n.classes.get? k.id = if d.lists k then some ⟨d.known k, d.spoken k⟩ else none
  texts : d.lists .version = true → ∃ f, n.classes.firmware? = some f ∧
    f.libraryText = toString d.firmware.library ∧
    f.protocol.text = s!"{d.firmware.protocol.major}.{d.firmware.protocol.minor}" ∧
    f.application.text = s!"{d.firmware.application.major}.{d.firmware.application.minor}"

variable {d}

theorem Refreshing.caughtUp {n : Node} (h : Refreshing d n) : d.CaughtUp n where
  started := h.state
  flushed := h.wakeup
  handlers k := by
    rw [h.classes]
    exact d.get?_ready
  texts hv := by
    refine ⟨d.firmware, ?_, rfl, rfl, rfl⟩
    rw [h.classes]
    exact d.firmware?_ready.trans (if_pos hv)

end DeviceModel

/-- **A device that sleeps catches up.** If it stays awake for as many cycles as its bring-up has
frames, its node knows it as the model describes it once it has slept twice and answered every
frame. -/
theorem NetworkModel.caughtUp_runFor {m : NetworkModel} (valid : m.validate = .ok ()) :
    ∃ c, Controller.ofModel m = .ok c ∧ ∀ d ∈ m.nodes, d.listening = false →
      (∀ k ∈ d.classes, d.classVersions.lookup k ≠ some 0) →
      d.startupCount ≤ max d.awakeCycles 1 →
      ∀ cycles, 2 * max (d.wakeInterval.getD 0) 1 + max d.awakeCycles 1 + d.startupCount ≤ cycles →
        ∃ n, (c.runFor cycles).value.node? d.id = some n ∧ d.CaughtUp n := by
  obtain ⟨c, hc, paced⟩ := exists_paced valid
  refine ⟨c, hc, fun d hd sleeps speaks fits cycles enough => ?_⟩
  rw [← d.length_startupQueries] at fits enough
  obtain ⟨turns, p⟩ := paced cycles
  have start := CatchingUp.unheard (d := d) (s := .ofModel d) rfl rfl rfl
  rw [← Link.ofModel_of_sleeps sleeps] at start
  obtain ⟨left, few, last⟩ := start.advance sleeps speaks fits cycles
  have asleep : (SimulatedDevice.ofModel d).asleepFor = d.wakeInterval.getD 0 := rfl
  rw [asleep] at few
  have known := last.refreshing (by omega)
  rw [Controller.runFor_value]
  exact ⟨_, (Controller.link?_eq_some_iff.1 (p.link?_of_sleeps hd sleeps)).1, known.caughtUp⟩

/-- A dimmer that sleeps, and stays awake for just the four frames of its bring-up, beside a switch
that listens. -/
theorem NetworkModel.caughtUp_runFor_dimmer :
    ∃ m : NetworkModel, m.nodes.length = 2 ∧ m.validate = .ok () ∧
      ∃ c, Controller.ofModel m = .ok c ∧ ∃ n, (c.runFor 16).value.node? 9 = some n ∧
        n.state = .started ∧ n.queues.wakeup = [] ∧
        n.classes.get? ClassId.basic = some ⟨.basic (some 30), 1⟩ ∧
        n.classes.get? ClassId.switchMultilevel = some ⟨.switchMultilevel (some 30), 3⟩ ∧
        ∃ f, n.classes.firmware? = some f ∧ f.application.text = "1.0" := by
  let dimmer : DeviceModel :=
    { id := 9, listening := false, classes := [.version, .wakeUp, .basic, .switchMultilevel],
      classVersions := [(.switchMultilevel, 3)], wakeInterval := some 4, awakeCycles := 4,
      level := 30 }
  let m : NetworkModel :=
    ⟨[{ id := 2, kind := .binarySwitch, classes := [.switchBinary] }, dimmer]⟩
  obtain ⟨c, hc, run⟩ := NetworkModel.caughtUp_runFor (m := m) rfl
  obtain ⟨n, hn, known⟩ := run dimmer (by decide) rfl (by decide) (by decide) 16 (by decide)
  obtain ⟨f, hf, -, -, application⟩ := known.texts (by decide)
  exact ⟨m, rfl, rfl, c, hc, n, hn, known.started, known.flushed, known.handlers .basic,
    known.handlers .switchMultilevel, f, hf, application.trans (by decide +kernel)⟩

end ZWave
