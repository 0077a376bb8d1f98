import ZWave.Proofs.Metric.Tally
import ZWave.Proofs.Node.Traffic

/-!
# What a node records

An event increments one counter at most, under the labels of its node (`NodeEvent.samples_eq`), and
the series that it increments tells the event from others (`counter?_sent_iff`,
`counter?_deferred_iff`, `counter?_eq_iff`). So a series of a node counts the events that are meant
by it (`count_samples`).
-/

namespace ZWave

/-! ## The samples of an event -/

def Metric.series (m : Metric) (id : NodeId) (profile : Profile) (extra : Labels) : Series :=
  ⟨m, .ofNode (toString id) profile.name extra⟩

theorem NodeId.toString_inj {a b : NodeId} : toString a = toString b ↔ a = b := by
  refine ⟨fun same => ?_, congrArg toString⟩
  have digits : Nat.toDigits 10 a.toNat = Nat.toDigits 10 b.toNat := String.ofList_injective same
  have value := congrArg (Nat.ofDigitChars 10 · 0) digits
  rw [Nat.ofDigitChars_ten_toDigits, Nat.ofDigitChars_ten_toDigits] at value
  exact UInt8.toNat_inj.1 value

@[simp] theorem InboundKind.label_inj {a b : InboundKind} : a.label = b.label ↔ a = b := by
  cases a <;> cases b <;> decide

@[simp] theorem DropReason.label_inj {a b : DropReason} : a.label = b.label ↔ a = b := by
  cases a <;> cases b <;> decide

@[simp] theorem NodeState.label_inj {a b : NodeState} : a.label = b.label ↔ a = b := by
  cases a <;> cases b <;> decide

namespace NodeEvent

/-- The counter that an event increments, and the labels beside those of the node. -/
def counter? : NodeEvent → Option (Metric × Labels)
  | .queued _ .wakeup _ => some (.framesDeferred, [])
  | .queued _ .write _ => none
  | .sent _ _ => some (.framesSent, [])
  | .received kind => some (.framesReceived, [("kind", kind.label)])
  | .dropped reason => some (.framesDropped, [("reason", reason.label)])
  | .entered state => some (.stateTransitions, [("state", state.label)])
  | .retried => some (.nodeInfoRetries, [])
  | .started => some (.nodesStarted, [])

/-- The number of frames that an event leaves to be sent, where it says so. -/
def backlog? : NodeEvent → Option Nat
  | .sent _ backlog => some backlog
  | _ => none

def Unrecorded (e : NodeEvent) : Prop := e.counter? = none ∧ e.backlog? = none

theorem samples_eq (id : NodeId) (profile : Profile) (e : NodeEvent) :
    e.samples id profile =
      (e.counter?.map fun c => Sample.increment (c.1.series id profile c.2)).toList ++
        (e.backlog?.map (Sample.level (Metric.writeQueueDepth.series id profile []))).toList := by
  cases e with
  | queued frame lane origin => cases lane <;> rfl
  | sent | received | dropped | entered | retried | started => rfl

theorem Unrecorded.samples {e : NodeEvent} (h : e.Unrecorded) (id : NodeId) (profile : Profile) :
    e.samples id profile = [] := by
  rw [samples_eq, h.1, h.2]
  rfl

theorem counter?_ne_writeQueueDepth (e : NodeEvent) (extra : Labels) :
    e.counter? ≠ some (.writeQueueDepth, extra) := by
  cases e with
  | queued frame lane origin =>
    cases lane <;> simp [counter?, Metric.framesDeferred, Metric.writeQueueDepth]
  | sent | received | dropped | entered | retried | started =>
    simp [counter?, Metric.framesSent, Metric.framesReceived, Metric.framesDropped,
      Metric.stateTransitions, Metric.nodeInfoRetries, Metric.nodesStarted, Metric.writeQueueDepth]

theorem labels_samples {id : NodeId} {profile : Profile} {e : NodeEvent} {s : Sample}
    (recorded : s ∈ e.samples id profile) :
    ∃ (metric : Metric) (extra : Labels), s.series = metric.series id profile extra ∧
      metric.nodeScoped = true ∧ extra.map Prod.fst = metric.extraLabels := by
  cases e with
  | queued frame lane origin =>
    cases lane with
    | write => cases recorded
    | wakeup => cases List.mem_singleton.1 recorded; exact ⟨_, _, rfl, rfl, rfl⟩
  | sent frame backlog =>
    rcases List.mem_cons.1 recorded with rfl | recorded
    · exact ⟨_, _, rfl, rfl, rfl⟩
    · cases List.mem_singleton.1 recorded; exact ⟨_, _, rfl, rfl, rfl⟩
  | received | dropped | entered | retried | started =>
    cases List.mem_singleton.1 recorded; exact ⟨_, _, rfl, rfl, rfl⟩

/-- A series of its node counts an event if it is the one of the event. -/
theorem count_samples (id : NodeId) (profile : Profile) (metric : Metric) (extra : Labels)
    (e : NodeEvent) :
    (e.samples id profile).count (.increment (metric.series id profile extra)) =
      if e.counter? = some (metric, extra) then 1 else 0 := by
  have level : ∀ b : Option Nat,
      ((b.map (Sample.level (Metric.writeQueueDepth.series id profile []))).toList).count
        (.increment (metric.series id profile extra)) = 0 := by
    intro b
    cases b <;> simp
  rw [samples_eq, List.count_append, level]
  cases e.counter? with
  | none => rfl
  | some c =>
    obtain ⟨m, l⟩ := c
    by_cases own : m = metric ∧ l = extra
    · obtain ⟨rfl, rfl⟩ := own
      simp
    · have other : (m, l) ≠ (metric, extra) := fun same => own (Prod.mk.inj same)
      have apart : Sample.increment (m.series id profile l) ≠
          .increment (metric.series id profile extra) := by
        simpa [Metric.series, Labels.ofNode] using own
      simp [other, apart]

/-- A series of another node counts nothing. -/
theorem count_samples_of_ne {id k : NodeId} (other : k ≠ id) (profile profile' : Profile)
    (metric : Metric) (extra : Labels) (e : NodeEvent) :
    (e.samples k profile).count (.increment (metric.series id profile' extra)) = 0 := by
  rw [List.count_eq_zero]
  intro recorded
  obtain ⟨m, l, series, -, -⟩ := labels_samples recorded
  have labels : Labels.ofNode (toString id) profile'.name extra =
      .ofNode (toString k) profile.name l := congrArg Series.labels series
  have named : toString id = toString k := congrArg Prod.snd (List.cons.inj labels).1
  exact other (NodeId.toString_inj.1 named).symm

/-- A node gives a level to one series, that of its write queue. -/
theorem level?_samples (id : NodeId) (profile : Profile) (e : NodeEvent) (series : Series) :
    (e.samples id profile).filterMap (Sample.level? series) =
      if Metric.writeQueueDepth.series id profile [] = series then e.backlog?.toList else [] := by
  have counters : ∀ c : Option (Metric × Labels),
      ((c.map fun c => Sample.increment (c.1.series id profile c.2)).toList).filterMap
        (Sample.level? series) = [] := by
    intro c
    cases c <;> rfl
  rw [samples_eq, List.filterMap_append, counters, List.nil_append]
  by_cases own : Metric.writeQueueDepth.series id profile [] = series
  · cases e.backlog? <;> simp [Sample.level?, own]
  · cases e.backlog? <;> simp [Sample.level?, own]

/-! ## The events of a counter -/

def frame? : NodeEvent → Option Frame
  | .queued frame _ _ | .sent frame _ => some frame
  | _ => none

theorem counter?_sent_iff (e : NodeEvent) :
    e.counter? = some (.framesSent, []) ↔ e.sent?.isSome = true := by
  cases e with
  | queued frame lane origin =>
    cases lane <;> simp [counter?, sent?, Metric.framesDeferred, Metric.framesSent]
  | sent | received | dropped | entered | retried | started =>
    simp [counter?, sent?, Metric.framesSent, Metric.framesReceived, Metric.framesDropped,
      Metric.stateTransitions, Metric.nodeInfoRetries, Metric.nodesStarted]

theorem counter?_deferred_iff (e : NodeEvent) :
    e.counter? = some (.framesDeferred, []) ↔ e.deferred?.isSome = true := by
  cases e with
  | queued frame lane origin => cases lane <;> simp [counter?, deferred?]
  | sent | received | dropped | entered | retried | started =>
    simp [counter?, deferred?, Metric.framesDeferred, Metric.framesSent, Metric.framesReceived,
      Metric.framesDropped, Metric.stateTransitions, Metric.nodeInfoRetries, Metric.nodesStarted]

/-- Of the events without a frame, the counter and its labels tell which is counted. -/
theorem counter?_eq_iff {e e' : NodeEvent} (bare : e'.frame? = none) :
    e.counter? = e'.counter? ↔ e = e' := by
  refine ⟨fun same => ?_, congrArg counter?⟩
  cases e' with
  | queued | sent => cases bare
  | received | dropped | entered | retried | started =>
    cases e with
    | queued frame lane origin =>
      cases lane <;> simp [counter?, Metric.framesDeferred, Metric.framesReceived,
        Metric.framesDropped, Metric.stateTransitions, Metric.nodeInfoRetries,
        Metric.nodesStarted] at same
    | sent | received | dropped | entered | retried | started =>
      simp_all [counter?, Metric.framesSent, Metric.framesReceived, Metric.framesDropped,
        Metric.stateTransitions, Metric.nodeInfoRetries, Metric.nodesStarted]

end NodeEvent

namespace Node

theorem countP_sent (events : List NodeEvent) :
    events.countP (·.counter? == some (.framesSent, [])) = (sent events).length := by
  rw [sent, List.length_filterMap_eq_countP]
  refine List.countP_congr fun e _ => ?_
  rw [beq_iff_eq]
  exact e.counter?_sent_iff

theorem countP_deferred (events : List NodeEvent) :
    events.countP (·.counter? == some (.framesDeferred, [])) = (deferredIn events).length := by
  rw [deferredIn, List.length_filterMap_eq_countP]
  refine List.countP_congr fun e _ => ?_
  rw [beq_iff_eq]
  exact e.counter?_deferred_iff

theorem countP_bare {e' : NodeEvent} (bare : e'.frame? = none) (events : List NodeEvent) :
    events.countP (·.counter? == e'.counter?) = events.count e' := by
  refine List.countP_congr fun e _ => ?_
  rw [beq_iff_eq, beq_iff_eq]
  exact NodeEvent.counter?_eq_iff bare

theorem profile_operate (n : Node) (op : Operation) :
    (n.operate op).value.profile = n.profile := by
  cases op with
  | tick => exact n.profile_tick
  | call c =>
    cases c with
    | receive f => exact n.profile_receive f
    | queue | flush | setListening | register => rfl

end Node

end ZWave
