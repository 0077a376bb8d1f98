import ZWave.Metric.Tally

/-!
# Values in a tally

A recording changes the value of its own series and no other (`value_record`). So the value of a
counter is the number of its increments (`value_recordAll_counter`), that of a gauge the level that
was recorded last (`value_recordAll_gauge`), and a series that is not recorded has the value it had
(`value_recordAll`).
-/

namespace ZWave

/-- The level that a recording gives to a series. -/
def Sample.level? (series : Series) : Sample → Option Nat
  | .level s value => if s = series then some value else none
  | .increment _ => none

namespace Tally

theorem lookup_recordIn (s : Sample) (series : Series) (entries : List (Series × Nat)) :
    (recordIn s entries).lookup series =
      if s.series = series then some (s.update ((entries.lookup series).getD 0))
      else entries.lookup series := by
  induction entries with
  | nil => grind [recordIn]
  | cons e entries ih =>
    obtain ⟨k, v⟩ := e
    unfold recordIn
    by_cases here : k = s.series
    · rw [if_pos here, List.lookup_cons, List.lookup_cons]
      grind
    · rw [if_neg here, List.lookup_cons, List.lookup_cons, ih]
      grind

theorem value_record (t : Tally) (s : Sample) (series : Series) :
    (t.record s).value series =
      if s.series = series then s.update (t.value series) else t.value series := by
  unfold value record
  rw [lookup_recordIn]
  split <;> rfl

theorem value_recordAll {samples : List Sample} {series : Series}
    (h : ∀ s ∈ samples, s.series ≠ series) (t : Tally) :
    (t.recordAll samples).value series = t.value series := by
  induction samples generalizing t with
  | nil => rfl
  | cons s samples ih =>
    obtain ⟨first, rest⟩ := List.forall_mem_cons.1 h
    refine (ih rest (t.record s)).trans ?_
    rw [value_record, if_neg first]

/-- A series that is given no level counts its increments. -/
theorem value_recordAll_counter {samples : List Sample} {series : Series}
    (counter : ∀ s ∈ samples, s.level? series = none) (t : Tally) :
    (t.recordAll samples).value series = t.value series + samples.count (.increment series) := by
  induction samples generalizing t with
  | nil => rfl
  | cons s samples ih =>
    obtain ⟨first, rest⟩ := List.forall_mem_cons.1 counter
    refine (ih rest (t.record s)).trans ?_
    rw [value_record, List.count_cons]
    cases s with
    | increment k =>
      by_cases own : k = series
      · subst own
        simp only [Sample.series, Sample.update, if_true, beq_self_eq_true]
        omega
      · simp [Sample.series, own]
    | level k v =>
      have other : k ≠ series := fun own => by simp [Sample.level?, own] at first
      simp [Sample.series, other]

/-- Where each of a list of events increments a series or leaves it, the series counts those that
do. -/
theorem value_events {ε : Type} {samples : ε → List Sample} {counted : ε → Bool} {series : Series}
    {events : List ε} (counter : ∀ e ∈ events, ∀ s ∈ samples e, s.level? series = none)
    (one : ∀ e ∈ events,
      (samples e).count (.increment series) = if counted e then 1 else 0) :
    (({} : Tally).recordAll (events.flatMap samples)).value series = events.countP counted := by
  have unleveled : ∀ s ∈ events.flatMap samples, s.level? series = none := by
    intro s recorded
    obtain ⟨e, he, recorded⟩ := List.mem_flatMap.1 recorded
    exact counter e he s recorded
  rw [value_recordAll_counter unleveled]
  refine (Nat.zero_add _).trans ?_
  clear counter unleveled
  induction events with
  | nil => rfl
  | cons e events ih =>
    obtain ⟨first, rest⟩ := List.forall_mem_cons.1 one
    rw [List.flatMap_cons, List.count_append, first, ih rest, List.countP_cons, Nat.add_comm]

/-- A series that is never incremented holds the level that was recorded last. -/
theorem value_recordAll_gauge {samples : List Sample} {series : Series}
    (gauge : .increment series ∉ samples) (t : Tally) :
    (t.recordAll samples).value series =
      (samples.filterMap (Sample.level? series)).getLast?.getD (t.value series) := by
  induction samples generalizing t with
  | nil => rfl
  | cons s samples ih =>
    rw [List.mem_cons, not_or] at gauge
    refine (ih gauge.2 (t.record s)).trans ?_
    rw [value_record, List.filterMap_cons]
    cases s with
    | increment k =>
      have other : k ≠ series := fun own => gauge.1 (own ▸ rfl)
      simp [Sample.series, Sample.level?, other]
    | level k v =>
      by_cases own : k = series
      · subst own
        simp [Sample.series, Sample.level?, Sample.update, List.getLast?_cons]
      · simp [Sample.series, Sample.level?, own]

end Tally

end ZWave
