import ZWave.CommandClass.Registry

/-!
# What is registered and what is read

Two operations change the handlers of a node: registering the classes a device reports, which adds
handlers and touches none that is there (`get?_registerAll`), and having a payload read, which
changes the handler that reads it and the version of the one it may name (`deliver_eq`). Both are
given by their effect on the view `get?`.
-/

namespace ZWave.Registry

theorem get?_empty (k : UInt8) : Registry.empty.get? k = none := rfl

/-! ## The handlers in order -/

theorem mem_ids (r : Registry) (k : UInt8) : k ∈ r.ids ↔ r.contains k = true :=
  (r.handlers.contains_iff k).symm

theorem mem_toList (r : Registry) (h : Handler) : h ∈ r.toList ↔ r.get? h.id = some h := by
  unfold toList IdMap.values get?
  rw [IdMap.get?_eq_some_iff, List.mem_map]
  constructor
  · rintro ⟨⟨id, _⟩, entry, rfl⟩
    have keyed := r.keyed id _ ((r.handlers.get?_eq_some_iff id _).2 entry)
    rwa [keyed]
  · intro entry
    exact ⟨_, entry, rfl⟩

theorem map_id_toList (r : Registry) : r.toList.map Handler.id = r.ids := by
  unfold toList IdMap.values ids IdMap.ids
  rw [List.map_map]
  refine List.map_congr_left fun e entry => ?_
  exact r.keyed e.1 e.2 ((r.handlers.get?_eq_some_iff ..).2 entry)

theorem pairwise_toList (r : Registry) : r.toList.Pairwise (·.id < ·.id) := by
  have ascending : (r.toList.map Handler.id).Pairwise (· < ·) := by
    rw [map_id_toList]
    exact r.handlers.pairwise_ids
  exact List.pairwise_map.1 ascending

theorem put_without {r : Registry} {id : UInt8} {h : Handler} (registered : r.get? id = some h) :
    (r.without id).put h = r := by
  refine ext_get? fun k => ?_
  rw [get?_put, get?_without, id_of_get? registered]
  split
  · next same => rw [same, registered]
  · rfl

/-! ## Registering and reading -/

/-- The reported classes that the factory implements are added to those that are there. -/
theorem get?_registerAll (r : Registry) (f : Factory) (ids : List UInt8) (k : UInt8) :
    (r.registerAll f ids).get? k = (r.get? k).or (if k ∈ ids then f.create? k else none) := by
  induction ids generalizing r with
  | nil => simp [registerAll]
  | cons id ids ih =>
    have first : (r.registerAll f [id]).get? k =
        (r.get? k).or (if k = id then f.create? id else none) := by
      rw [registerAll, List.foldl_cons, List.foldl_nil]
      cases hc : f.create? id with
      | none => simp
      | some h => simp only [get?_register, Factory.id_of_create? hc]
    refine (ih (r.registerAll f [id])).trans ?_
    rw [first, Option.or_assoc]
    congr 1
    by_cases hk : k = id
    · subst hk
      cases f.create? k <;> simp
    · simp [hk]

/-- The other handlers after a reading: the one whose version it tells notes that. -/
theorem get?_record (others : Registry) {self k : UInt8} (reading : Reading) (hk : k ≠ self) :
    (others.record self reading).get? k = (others.get? k).map fun h =>
      match reading with
      | .classVersion classId version => if k = classId then h.setVersion version else h
      | _ => h := by
  cases reading with
  | classVersion classId version =>
    unfold record
    dsimp only
    split
    · next hs =>
      have hne : k ≠ classId := fun e => hk (e.trans hs)
      simp [hne]
    · exact get?_setVersion others classId version k
  | _ => simp [record]

/-- What a handler reads it records; the other handlers note the version it may tell of them. -/
theorem deliver_eq {r : Registry} {id : UInt8} {h : Handler} {p : Payload} {reading : Reading}
    (hg : r.get? id = some h) (hr : Reading.ofPayload h.kind p = .ok reading) :
    ∃ r', r.deliver id p = .ok r' ∧ ∀ k, r'.get? k =
      if k = id then some (h.record reading)
      else (r.get? k).map fun h => match reading with
        | .classVersion classId version => if k = classId then h.setVersion version else h
        | _ => h := by
  have hid : h.id = id := id_of_get? hg
  refine ⟨((r.without id).record h.id reading).put (h.record reading), ?_, fun k => ?_⟩
  · simp [deliver, hg, read, hr, bind, Except.bind, pure, Except.pure]
  · rw [get?_put, Handler.id_record, hid]
    split
    · rfl
    · next hk => rw [get?_record _ _ hk, get?_without, if_neg hk]

/-- Having a payload read neither adds handlers nor takes any away. -/
theorem contains_deliver {r r' : Registry} {id : UInt8} {p : Payload} (ok : r.deliver id p = .ok r')
    (k : UInt8) : r'.contains k = r.contains k := by
  cases hg : r.get? id with
  | none =>
    unfold deliver at ok
    rw [hg] at ok
    cases ok
    rfl
  | some h =>
    cases hr : Reading.ofPayload h.kind p with
    | error e => simp [deliver, hg, read, hr, bind, Except.bind] at ok
    | ok reading =>
      obtain ⟨r'', delivered, view⟩ := deliver_eq hg hr
      rw [delivered] at ok
      cases ok
      rw [contains_eq, contains_eq, view]
      split
      · next hk =>
        rw [hk, hg]
        rfl
      · exact Option.isSome_map

theorem contains_register {r : Registry} {k : UInt8} (h : r.contains k = true) (handler : Handler) :
    (r.register handler).contains k = true := by
  rw [contains_eq] at h ⊢
  rw [get?_register, Option.isSome_or, h, Bool.true_or]

theorem contains_registerAll {r : Registry} {k : UInt8} (h : r.contains k = true) (f : Factory)
    (ids : List UInt8) : (r.registerAll f ids).contains k = true := by
  rw [contains_eq] at h ⊢
  rw [get?_registerAll, Option.isSome_or, h, Bool.true_or]

end ZWave.Registry
