import ZWave.Node.Lifecycle

/-!
# The bring-up as a run of its own

How far the bring-up of a node has come depends only on the events it was told of. `Lifecycle.run`
takes it through a list of them. Whatever the list, the states that are entered lie higher and
higher (`Lifecycle.climbs`), and a request for information is tried again once at most
(`retried_le`).
-/

namespace ZWave

namespace NodeState

/-- Above `a` the states of a list lie higher and higher, and the last of them is `b`. -/
def Climbs : NodeState → List NodeState → NodeState → Prop
  | a, [], b => a = b
  | a, c :: l, b => a < c ∧ Climbs c l b

/-- The transitions from `a` through the states of a list. -/
def transitions : NodeState → List NodeState → List (NodeState × NodeState)
  | _, [] => []
  | a, b :: l => (a, b) :: transitions b l

theorem Climbs.append {a b c : NodeState} {l l' : List NodeState} (h : Climbs a l b)
    (h' : Climbs b l' c) : Climbs a (l ++ l') c := by
  induction l generalizing a with
  | nil =>
    cases h
    exact h'
  | cons d l ih => exact ⟨h.1, ih h.2⟩

theorem Climbs.le {a b : NodeState} {l : List NodeState} (h : Climbs a l b) : a ≤ b := by
  induction l generalizing a with
  | nil =>
    cases h
    exact Nat.le_refl _
  | cons d l ih => exact Nat.le_trans (Nat.le_of_lt h.1) (ih h.2)

theorem Climbs.pairwise {a b : NodeState} {l : List NodeState} (h : Climbs a l b) :
    (a :: l).Pairwise (· < ·) := by
  induction l generalizing a with
  | nil => exact List.pairwise_singleton _ _
  | cons d l ih =>
    have upper := ih h.2
    rw [List.pairwise_cons]
    refine ⟨fun x hx => ?_, upper⟩
    rcases List.mem_cons.1 hx with rfl | hx
    · exact h.1
    · exact Nat.lt_trans h.1 ((List.pairwise_cons.1 upper).1 x hx)

theorem Climbs.getLast? {a b : NodeState} {l : List NodeState} (h : Climbs a l b) :
    (a :: l).getLast? = some b := by
  induction l generalizing a with
  | nil =>
    cases h
    rfl
  | cons d l ih =>
    rw [List.getLast?_cons_cons]
    exact ih h.2

theorem Climbs.mem_transitions {a b : NodeState} {l : List NodeState} (h : Climbs a l b) :
    a = b ∨ ∃ c, (c, b) ∈ a.transitions l := by
  induction l generalizing a with
  | nil => exact .inl h
  | cons d l ih =>
    rcases ih h.2 with rfl | ⟨c, hc⟩
    · exact .inr ⟨a, List.mem_cons_self ..⟩
    · exact .inr ⟨c, List.mem_cons_of_mem _ hc⟩

theorem mem_transitions_of_mem (a : NodeState) {b : NodeState} {l : List NodeState} (h : b ∈ l) :
    ∃ c, (c, b) ∈ a.transitions l := by
  induction l generalizing a with
  | nil => cases h
  | cons d l ih =>
    rcases List.mem_cons.1 h with rfl | h
    · exact ⟨a, List.mem_cons_self ..⟩
    · obtain ⟨c, hc⟩ := ih d h
      exact ⟨c, List.mem_cons_of_mem _ hc⟩

theorem eq_nodeInfo_of_le {a : NodeState} (h : a ≤ .nodeInfo) : a = .nodeInfo := by
  cases a with
  | nodeInfo => rfl
  | versionPending | versionQueued | statePending | stateQueued | started =>
    exact absurd h (by decide)

theorem eq_started_of_le {a : NodeState} (h : started ≤ a) : a = .started := by
  cases a with
  | started => rfl
  | nodeInfo | versionPending | versionQueued | statePending | stateQueued =>
    exact absurd h (by decide)

theorem not_started_lt (a : NodeState) : ¬ started < a := by
  cases a <;> decide

/-- Nothing lies above `started`: it is entered last, if at all. -/
theorem Climbs.count_started {a b : NodeState} {l : List NodeState} (h : Climbs a l b)
    (low : a ≠ .started) : l.count .started = if b = .started then 1 else 0 := by
  induction l generalizing a with
  | nil =>
    cases h
    rw [if_neg low]
    rfl
  | cons d l ih =>
    by_cases top : d = .started
    · subst top
      cases l with
      | nil =>
        cases h.2
        rfl
      | cons e l => exact absurd h.2.1 (not_started_lt e)
    · rw [List.count_cons_of_ne top]
      exact ih h.2 top

end NodeState

namespace Lifecycle

/-! ## Steps -/

def next (l : Lifecycle) (event : LifecycleEvent) : Lifecycle := l.apply (l.step event)

/-- The transitions of the bring-up, and the events that make them. -/
inductive Enters : NodeState → LifecycleEvent → NodeState → Prop where
  | unknown : Enters .nodeInfo .infoFailed .statePending
  | known : Enters .nodeInfo (.infoReceived false) .statePending
  | versioned : Enters .nodeInfo (.infoReceived true) .versionPending
  | versionTold : Enters .versionPending .tick .versionQueued
  | versionSent : Enters .versionQueued .queueDrained .statePending
  | stateTold : Enters .statePending .tick .stateQueued
  | stateSent : Enters .stateQueued .queueDrained .started

theorem Enters.lt {a b : NodeState} {event : LifecycleEvent} (h : Enters a event b) : a < b := by
  cases h <;> decide

/-- A state that a tick enters is entered in no other way. -/
theorem Enters.unique {a b c : NodeState} {event : LifecycleEvent} (tick : Enters a .tick b)
    (h : Enters c event b) : c = a ∧ event = .tick := by
  cases tick <;> cases h <;> exact ⟨rfl, rfl⟩

theorem Enters.next_eq {l : Lifecycle} {b : NodeState} (h : Enters l.state .tick b) :
    (l.step .tick).next = some b := by
  obtain ⟨state, retries⟩ := l
  cases h <;> rfl

theorem enters_of_next {l : Lifecycle} {event : LifecycleEvent} {s : NodeState}
    (h : (l.step event).next = some s) : Enters l.state event s := by
  obtain ⟨state, retries⟩ := l
  cases state with
  | nodeInfo =>
    cases event with
    | tick | queueDrained => cases h
    | infoReceived versioned =>
      cases h
      cases versioned with
      | true => exact .versioned
      | false => exact .known
    | infoFailed =>
      unfold step at h
      by_cases retry : retries < maxInfoRetries
      · simp [retry] at h
      · simp only [retry, if_false, Option.some.injEq] at h
        cases h
        exact .unknown
  | versionPending =>
    cases event with
    | tick => cases h; exact .versionTold
    | queueDrained | infoFailed | infoReceived => cases h
  | versionQueued =>
    cases event with
    | queueDrained => cases h; exact .versionSent
    | tick | infoFailed | infoReceived => cases h
  | statePending =>
    cases event with
    | tick => cases h; exact .stateTold
    | queueDrained | infoFailed | infoReceived => cases h
  | stateQueued =>
    cases event with
    | queueDrained => cases h; exact .stateSent
    | tick | infoFailed | infoReceived => cases h
  | started => cases event <;> cases h

theorem retried_step (l : Lifecycle) (event : LifecycleEvent) :
    (l.step event).retried =
      (event = .infoFailed && l.state = .nodeInfo && l.retries < maxInfoRetries) := by
  obtain ⟨state, retries⟩ := l
  cases state with
  | nodeInfo =>
    cases event with
    | infoFailed =>
      unfold step
      by_cases retry : retries < maxInfoRetries
      · simp [retry]
      · simp [retry]
    | tick | queueDrained | infoReceived => rfl
  | versionPending | versionQueued | statePending | stateQueued | started => cases event <;> rfl

/-- An event enters a state, has the request for information tried again, or does nothing. -/
theorem step_cases (l : Lifecycle) (event : LifecycleEvent) :
    ((l.step event).next = none ∧ (l.step event).retried = false ∧ l.next event = l) ∨
    (∃ s, (l.step event).next = some s ∧ (l.step event).retried = false ∧
      l.next event = ⟨s, 0⟩ ∧ l.state < s) ∨
    ((l.step event).next = none ∧ (l.step event).retried = true ∧ l.state = .nodeInfo ∧
      l.retries = 0 ∧ l.next event = ⟨.nodeInfo, 1⟩) := by
  cases hr : (l.step event).retried with
  | true =>
    have retry := l.retried_step event
    rw [hr] at retry
    simp only [Bool.true_eq, Bool.and_eq_true, decide_eq_true_eq] at retry
    obtain ⟨⟨rfl, low⟩, few⟩ := retry
    obtain ⟨state, retries⟩ := l
    cases low
    have zero : retries = 0 := by
      simp only [maxInfoRetries] at few
      omega
    subst zero
    exact .inr (.inr ⟨rfl, rfl, rfl, rfl, rfl⟩)
  | false =>
    cases hn : (l.step event).next with
    | none => exact .inl ⟨rfl, rfl, by simp [next, apply, hn, hr]⟩
    | some s =>
      have entered : l.next event = ⟨s, 0⟩ := by simp [next, apply, hn]
      exact .inr (.inl ⟨s, rfl, rfl, entered, (enters_of_next hn).lt⟩)

theorem count_notifyStarted (l : Lifecycle) (event : LifecycleEvent) :
    (l.step event).effects.count .notifyStarted = (l.step event).next.toList.count .started := by
  obtain ⟨state, retries⟩ := l
  cases state with
  | nodeInfo =>
    cases event with
    | tick | queueDrained => rfl
    | infoReceived versioned => cases versioned <;> rfl
    | infoFailed =>
      unfold step
      by_cases h : retries < maxInfoRetries
      · simp [h]
      · simp [h]
  | versionPending | versionQueued | statePending | stateQueued | started => cases event <;> rfl

theorem climbs_next (l : Lifecycle) (event : LifecycleEvent) :
    l.state.Climbs (l.step event).next.toList (l.next event).state := by
  rcases l.step_cases event with ⟨hn, -, hl⟩ | ⟨s, hn, -, hl, up⟩ | ⟨hn, -, hs, -, hl⟩
  · rw [hn, hl]
    rfl
  · rw [hn, hl]
    exact ⟨up, rfl⟩
  · rw [hn, hl]
    exact hs

/-- A bring-up that is done was done before, or has just found that all it queued has gone out. -/
theorem started_of_next {l : Lifecycle} {event : LifecycleEvent}
    (ready : (l.next event).state = .started) :
    l.state = .started ∨ l.state = .stateQueued ∧ event = .queueDrained := by
  obtain ⟨state, retries⟩ := l
  cases state <;> cases event <;> grind [next, step, apply]

/-! ## Runs -/

def run (l : Lifecycle) (events : List LifecycleEvent) : Lifecycle := events.foldl next l

def entered (l : Lifecycle) : List LifecycleEvent → List NodeState
  | [] => []
  | event :: events => (l.step event).next.toList ++ (l.next event).entered events

/-- How often the work of a state is tried once more. -/
def retried (l : Lifecycle) : List LifecycleEvent → Nat
  | [] => 0
  | event :: events => (l.step event).retried.toNat + (l.next event).retried events

theorem run_append (l : Lifecycle) (es es' : List LifecycleEvent) :
    l.run (es ++ es') = (l.run es).run es' := List.foldl_append

theorem entered_append (l : Lifecycle) (es es' : List LifecycleEvent) :
    l.entered (es ++ es') = l.entered es ++ (l.run es).entered es' := by
  induction es generalizing l with
  | nil => rfl
  | cons e es ih =>
    rw [List.cons_append, entered, ih, entered, List.append_assoc]
    rfl

theorem retried_append (l : Lifecycle) (es es' : List LifecycleEvent) :
    l.retried (es ++ es') = l.retried es + (l.run es).retried es' := by
  induction es generalizing l with
  | nil => exact (Nat.zero_add _).symm
  | cons e es ih =>
    rw [List.cons_append, retried, ih, retried, Nat.add_assoc]
    rfl

theorem transitions_entered_cons (l : Lifecycle) (event : LifecycleEvent)
    (events : List LifecycleEvent) :
    l.state.transitions (l.entered (event :: events)) =
      (l.step event).next.toList.map (Prod.mk l.state) ++
        (l.next event).state.transitions ((l.next event).entered events) := by
  rw [entered]
  rcases l.step_cases event with ⟨hn, -, hl⟩ | ⟨s, hn, -, hl, -⟩ | ⟨hn, -, hs, -, hl⟩
  · rw [hn, hl]
    rfl
  · rw [hn, hl]
    rfl
  · rw [hn, hl, hs]
    rfl

/-- Each transition of a run is made by an event of it. -/
theorem mem_transitions_entered {l : Lifecycle} {events : List LifecycleEvent} {a b : NodeState}
    (h : (a, b) ∈ l.state.transitions (l.entered events)) :
    ∃ before event after, events = before ++ event :: after ∧
      (l.run before).state = a ∧ Enters a event b := by
  induction events generalizing l with
  | nil => cases h
  | cons e es ih =>
    rw [transitions_entered_cons] at h
    rcases List.mem_append.1 h with now | later
    · obtain ⟨s, hs, same⟩ := List.mem_map.1 now
      cases same
      exact ⟨[], e, es, rfl, rfl, enters_of_next (Option.mem_toList.1 hs)⟩
    · obtain ⟨before, event, after, rfl, ha, hb⟩ := ih later
      exact ⟨e :: before, event, after, rfl, ha, hb⟩

/-- The states that are entered lie higher and higher, up to the present one. -/
theorem climbs (l : Lifecycle) (events : List LifecycleEvent) :
    l.state.Climbs (l.entered events) (l.run events).state := by
  induction events generalizing l with
  | nil => rfl
  | cons e es ih => exact (l.climbs_next e).append (ih (l.next e))

/-! ## Retries -/

/-- A retry is counted while the node is asked for its information, one at most. -/
structure Counted (l : Lifecycle) : Prop where
  le : l.retries ≤ 1
  zero : l.state ≠ .nodeInfo → l.retries = 0

theorem Counted.next {l : Lifecycle} (h : l.Counted) (event : LifecycleEvent) :
    (l.next event).Counted := by
  rcases l.step_cases event with ⟨-, -, hl⟩ | ⟨s, -, -, hl, -⟩ | ⟨-, -, -, -, hl⟩
  · rw [hl]
    exact h
  · rw [hl]
    exact ⟨Nat.zero_le 1, fun _ => rfl⟩
  · rw [hl]
    exact ⟨Nat.le_refl 1, fun known => absurd rfl known⟩

theorem Counted.run {l : Lifecycle} (h : l.Counted) (events : List LifecycleEvent) :
    (l.run events).Counted := by
  induction events generalizing l with
  | nil => exact h
  | cons e es ih => exact ih (h.next e)

/-- Only a failure is tried again. -/
theorem retried_of_not_mem {l : Lifecycle} {events : List LifecycleEvent}
    (h : .infoFailed ∉ events) : l.retried events = 0 := by
  induction events generalizing l with
  | nil => rfl
  | cons e es ih =>
    have other : e ≠ .infoFailed := fun he => h (he ▸ List.mem_cons_self ..)
    rw [retried, retried_step, ih fun he => h (List.mem_cons_of_mem _ he)]
    simp [other]

/-- Once the classes of a node are known nothing is tried again. -/
theorem retried_of_known {l : Lifecycle} (known : l.state ≠ .nodeInfo)
    (events : List LifecycleEvent) : l.retried events = 0 := by
  induction events generalizing l with
  | nil => rfl
  | cons e es ih =>
    rw [retried]
    rcases l.step_cases e with ⟨-, hr, hl⟩ | ⟨s, -, hr, hl, up⟩ | ⟨-, -, hs, -⟩
    · rw [hr, hl, ih known]
      rfl
    · have above : s ≠ .nodeInfo := by
        intro low
        rw [low] at up
        exact absurd up (Nat.not_lt_zero _)
      rw [hr, hl, ih above]
      rfl
    · exact absurd hs known

theorem retried_le {l : Lifecycle} (h : l.Counted) (events : List LifecycleEvent) :
    l.retries + l.retried events ≤ 1 := by
  induction events generalizing l with
  | nil => exact h.le
  | cons e es ih =>
    have later := ih (h.next e)
    rw [retried]
    rcases l.step_cases e with ⟨-, hr, hl⟩ | ⟨s, -, hr, hl, up⟩ | ⟨-, hr, -, hz, hl⟩
    · rw [hl] at later
      rw [hr, hl]
      simpa using later
    · have above : s ≠ .nodeInfo := by
        intro low
        rw [low] at up
        exact absurd up (Nat.not_lt_zero _)
      have none : (l.next e).retried es = 0 := by
        rw [hl]
        exact retried_of_known above es
      rw [hr, none]
      exact h.le
    · rw [hl] at later
      rw [hr, hl, hz, Nat.zero_add]
      exact later

end Lifecycle

end ZWave
