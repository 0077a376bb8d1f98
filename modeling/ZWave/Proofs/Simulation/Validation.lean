import ZWave.Proofs.Simulation.Start

/-!
# What validation accepts

A model is judged by three rules, which are tried in turn on each device, in the order of the file.
A device may break several rules, and so may those after it; the error is that of the first device
that breaks one, under the first rule that it breaks (`NetworkModel.validate_eq_error_iff`). A model
in which every device keeps the rules has a controller with one node and one device for every entry
(`NetworkModel.exists_built`).
-/

namespace ZWave

/-! ## Rules -/

/-- The rules for the devices of a model. -/
inductive ModelRule where
  | inRange
  | unused
  | wakes
deriving DecidableEq

namespace ModelRule

/-- The place of a rule in the order in which they are tried. -/
def rank : ModelRule → Nat
  | inRange => 0
  | unused => 1
  | wakes => 2

def fault : ModelRule → NodeId → ModelFault
  | inRange => .invalidNodeId
  | unused => .duplicateNode
  | wakes => .missingWakeInterval

end ModelRule

namespace DeviceModel

/-- What it means to break a rule, for a device that follows others. -/
def Breaks (d : DeviceModel) (before : List DeviceModel) : ModelRule → Prop
  | .inRange => d.id < 1 ∨ 232 < d.id
  | .unused => ∃ x ∈ before, x.id = d.id
  | .wakes => d.listening = false ∧ d.wakeInterval = none

instance (d : DeviceModel) (before : List DeviceModel) (r : ModelRule) :
    Decidable (d.Breaks before r) :=
  match r with
  | .inRange => inferInstanceAs (Decidable (_ ∨ _))
  | .unused => inferInstanceAs (Decidable (∃ x ∈ before, x.id = d.id))
  | .wakes => inferInstanceAs (Decidable (_ ∧ _))

structure BreaksFirst (d : DeviceModel) (before : List DeviceModel) (r : ModelRule) : Prop where
  breaks : d.Breaks before r
  keeps : ∀ sooner : ModelRule, sooner.rank < r.rank → ¬ d.Breaks before sooner

variable {d : DeviceModel} {before : List DeviceModel}

theorem fault?_eq (d : DeviceModel) (before : List DeviceModel) :
    d.fault? (before.map (·.id)) =
      if d.Breaks before .inRange then some (ModelRule.inRange.fault d.id)
      else if d.Breaks before .unused then some (ModelRule.unused.fault d.id)
      else if d.Breaks before .wakes then some (ModelRule.wakes.fault d.id)
      else none := by
  have range : d.Breaks before .inRange ↔ d.id = 0 ∨ NodeId.highest < d.id := by
    rw [Breaks, UInt8.lt_one_iff]
  have used : d.Breaks before .unused ↔ d.id ∈ before.map (·.id) := List.mem_map.symm
  have wakes : d.Breaks before .wakes ↔ d.listening = false ∧ d.wakeInterval = none := Iff.rfl
  simp only [fault?, range, used, wakes, ModelRule.fault]

theorem fault?_eq_some_iff {fault : ModelFault} :
    d.fault? (before.map (·.id)) = some fault ↔
      ∃ r : ModelRule, d.BreaksFirst before r ∧ r.fault d.id = fault := by
  rw [fault?_eq]
  constructor
  · intro found
    split at found
    · next range =>
      refine ⟨.inRange, ⟨range, fun sooner h => ?_⟩, Option.some.inj found⟩
      exact absurd h (Nat.not_lt_zero _)
    · next range =>
      split at found
      · next used =>
        refine ⟨.unused, ⟨used, fun sooner h => ?_⟩, Option.some.inj found⟩
        cases sooner with
        | inRange => exact range
        | unused | wakes => simp [ModelRule.rank] at h
      · next used =>
        split at found
        · next wakes =>
          refine ⟨.wakes, ⟨wakes, fun sooner h => ?_⟩, Option.some.inj found⟩
          cases sooner with
          | inRange => exact range
          | unused => exact used
          | wakes => simp [ModelRule.rank] at h
        · cases found
  · rintro ⟨r, ⟨breaks, keeps⟩, rfl⟩
    cases r with
    | inRange => rw [if_pos breaks]
    | unused => rw [if_neg (keeps .inRange (by decide)), if_pos breaks]
    | wakes =>
      rw [if_neg (keeps .inRange (by decide)), if_neg (keeps .unused (by decide)), if_pos breaks]

theorem fault?_eq_none_iff :
    d.fault? (before.map (·.id)) = none ↔ ∀ r : ModelRule, ¬ d.Breaks before r := by
  rw [fault?_eq]
  constructor
  · intro silent r broken
    cases r <;> grind
  · intro keeps
    rw [if_neg (keeps _), if_neg (keeps _), if_neg (keeps _)]

end DeviceModel

/-! ## The first fault -/

/-- The fault of the device at a place in a list that follows others. -/
def faultAt? (before ds : List DeviceModel) (i : Nat) : Option ModelFault :=
  ds[i]?.bind fun d => d.fault? ((before ++ ds.take i).map (·.id))

theorem faultAt?_cons_succ (before : List DeviceModel) (d : DeviceModel) (ds : List DeviceModel)
    (i : Nat) :
    faultAt? before (d :: ds) (i + 1) = faultAt? (before ++ [d]) ds i := by
  simp [faultAt?]

theorem faultAt?_cons_zero (before : List DeviceModel) (d : DeviceModel) (ds : List DeviceModel) :
    faultAt? before (d :: ds) 0 = d.fault? (before.map (·.id)) := by
  simp [faultAt?]

theorem DeviceModel.fault?_congr (d : DeviceModel) {seen seen' : List NodeId}
    (same : ∀ k, k ∈ seen ↔ k ∈ seen') : d.fault? seen = d.fault? seen' := by
  simp only [fault?, same]

/-- The fault of a list is that of the first place which has one. -/
theorem firstFault?_eq_some_iff {before ds : List DeviceModel} {seen : List NodeId}
    {fault : ModelFault} (same : ∀ k, k ∈ seen ↔ k ∈ before.map (·.id)) :
    firstFault? ds seen = some fault ↔
      ∃ i, faultAt? before ds i = some fault ∧ ∀ j < i, faultAt? before ds j = none := by
  induction ds generalizing before seen with
  | nil => simp [firstFault?, faultAt?]
  | cons d ds ih =>
    -- `seen` lists the ids of `before` the last one first; only which they are makes a difference
    have later : ∀ k, k ∈ d.id :: seen ↔ k ∈ (before ++ [d]).map (·.id) := by
      intro k
      simp [same, or_comm]
    have head : d.fault? seen = faultAt? before (d :: ds) 0 :=
      (d.fault?_congr same).trans (faultAt?_cons_zero ..).symm
    rw [firstFault?]
    cases first : d.fault? seen with
    | some f =>
      rw [head] at first
      constructor
      · rintro ⟨⟩
        exact ⟨0, first, fun j hj => absurd hj (Nat.not_lt_zero j)⟩
      · rintro ⟨i, found, none⟩
        cases i with
        | zero => exact first.symm.trans found
        | succ i =>
          exact absurd (first.symm.trans (none 0 (Nat.succ_pos i))) (Option.some_ne_none f)
    | none =>
      rw [head] at first
      refine (ih later).trans ⟨?_, ?_⟩
      · rintro ⟨i, found, none⟩
        refine ⟨i + 1, (faultAt?_cons_succ ..).trans found, fun j hj => ?_⟩
        cases j with
        | zero => exact first
        | succ j => exact (faultAt?_cons_succ ..).trans (none j (by omega))
      · rintro ⟨i, found, none⟩
        cases i with
        | zero => exact absurd (found.symm.trans first) (Option.some_ne_none fault)
        | succ i =>
          refine ⟨i, (faultAt?_cons_succ ..).symm.trans found, fun j hj => ?_⟩
          exact (faultAt?_cons_succ ..).symm.trans (none (j + 1) (by omega))

theorem NodeId.one_le_iff {k : NodeId} : 1 ≤ k ↔ k ≠ 0 := by
  rw [← UInt8.not_lt, UInt8.lt_one_iff]

namespace NetworkModel

variable {m : NetworkModel}

def BreaksAt (m : NetworkModel) (i : Nat) (r : ModelRule) : Prop :=
  ∃ d, m.nodes[i]? = some d ∧ d.Breaks (m.nodes.take i) r

/-- The first device that breaks a rule, and the first rule it breaks. -/
structure FirstBreak (m : NetworkModel) (i : Nat) (d : DeviceModel) (r : ModelRule) : Prop where
  place : m.nodes[i]? = some d
  first : d.BreaksFirst (m.nodes.take i) r
  earlier : ∀ j < i, ∀ r, ¬ m.BreaksAt j r

theorem faultAt?_eq_none_iff {i : Nat} :
    faultAt? [] m.nodes i = none ↔ ∀ r, ¬ m.BreaksAt i r := by
  unfold faultAt? BreaksAt
  cases m.nodes[i]? with
  | none => simp
  | some d =>
    rw [Option.bind_some, List.nil_append, DeviceModel.fault?_eq_none_iff]
    simp

theorem validate_eq_error_iff {fault : ModelFault} :
    m.validate = .error fault ↔ ∃ i d r, m.FirstBreak i d r ∧ r.fault d.id = fault := by
  have error : m.validate = .error fault ↔ firstFault? m.nodes [] = some fault := by
    unfold validate
    cases firstFault? m.nodes [] <;> simp
  have none : ∀ k : NodeId, k ∈ [] ↔ k ∈ ([] : List DeviceModel).map (·.id) := fun k => Iff.rfl
  rw [error, firstFault?_eq_some_iff none]
  constructor
  · rintro ⟨i, found, earlier⟩
    obtain ⟨d, hd, found⟩ := Option.bind_eq_some_iff.1 found
    obtain ⟨r, first, rfl⟩ := DeviceModel.fault?_eq_some_iff.1 found
    exact ⟨i, d, r, ⟨hd, first, fun j hj => faultAt?_eq_none_iff.1 (earlier j hj)⟩, rfl⟩
  · rintro ⟨i, d, r, ⟨hd, first, earlier⟩, rfl⟩
    have found : d.fault? ((m.nodes.take i).map (·.id)) = some (r.fault d.id) :=
      DeviceModel.fault?_eq_some_iff.2 ⟨r, first, rfl⟩
    refine ⟨i, Option.bind_eq_some_iff.2 ⟨d, hd, found⟩, fun j hj => ?_⟩
    exact faultAt?_eq_none_iff.2 (earlier j hj)

/-! ## What is accepted -/

/-- Ids that a network can assign, each for one device, and a time of sleep for what sleeps. -/
structure Sound (m : NetworkModel) : Prop where
  inRange : ∀ d ∈ m.nodes, 1 ≤ d.id ∧ d.id ≤ 232
  distinct : (m.nodes.map (·.id)).Nodup
  wakes : ∀ d ∈ m.nodes, d.listening = false → ∃ cycles, d.wakeInterval = some cycles

theorem validate_eq_ok_iff_sound : m.validate = .ok () ↔ m.Sound := by
  rw [validate_eq_ok_iff, firstFault?_eq_none_iff]
  constructor
  · rintro ⟨rules, distinct⟩
    refine ⟨fun d hd => ?_, distinct, fun d hd sleeps => ?_⟩
    · obtain ⟨zero, highest, -⟩ := rules d hd
      exact ⟨NodeId.one_le_iff.2 zero, highest⟩
    · obtain ⟨-, -, -, wakes⟩ := rules d hd
      exact Option.ne_none_iff_exists'.1 (wakes sleeps)
  · rintro ⟨inRange, distinct, wakes⟩
    refine ⟨fun d hd => ⟨?_, (inRange d hd).2, List.not_mem_nil, fun sleeps => ?_⟩, distinct⟩
    · exact NodeId.one_le_iff.1 (inRange d hd).1
    · exact Option.ne_none_iff_exists'.2 (wakes d hd sleeps)

/-- One node and one device for every entry of the model. -/
structure BuiltAs (m : NetworkModel) (c : Controller SimulatedNetwork) : Prop where
  nodes : c.nodes.ids.Perm (m.nodes.map (·.id))
  devices : c.network.devices.ids.Perm (m.nodes.map (·.id))
  node : ∀ d ∈ m.nodes, ∃ n, c.node? d.id = some n ∧ n.id = d.id ∧
    n.device = d.protocolInfo.device ∧ n.queues.listening = d.protocolInfo.listening
  device : ∀ d ∈ m.nodes, c.network.device? d.id = some (.ofModel d)

theorem exists_built (valid : m.validate = .ok ()) :
    ∃ c, Controller.ofModel m = .ok c ∧ m.BuiltAs c := by
  obtain ⟨-, distinct⟩ := validate_ok valid
  obtain ⟨c, hc, linked, links⟩ := Controller.ofModel_ok valid
  have link : ∀ d ∈ m.nodes, c.node? d.id = some d.joined ∧
      c.network.device? d.id = some (.ofModel d) := by
    intro d hd
    have hl := links d.id
    rw [(device?_eq_some_iff distinct).2 ⟨hd, rfl⟩] at hl
    exact Controller.link?_eq_some_iff.1 hl
  have known : ∀ k, (c.node? k).isSome ↔ k ∈ m.nodes.map (·.id) := by
    intro k
    rw [← linked.matched.isSome_link?, links, Option.isSome_map, isSome_device?_iff distinct]
  have nodes : c.nodes.ids.Perm (m.nodes.map (·.id)) := by
    refine (List.perm_ext_iff_of_nodup c.nodes.nodup_ids distinct).2 fun k => ?_
    exact (c.nodes.contains_iff k).symm.trans (known k)
  have devices : c.network.devices.ids.Perm (m.nodes.map (·.id)) := by
    rwa [← IdMap.ids_congr linked.matched.paired]
  refine ⟨c, hc, nodes, devices, fun d hd => ?_, fun d hd => (link d hd).2⟩
  exact ⟨d.joined, (link d hd).1, d.joined_keeps⟩

structure Judged (m : NetworkModel) : Prop where
  accepted : m.validate = .ok () ↔ m.Sound
  refused : ∀ fault, m.validate = .error fault ↔
    ∃ i d r, m.FirstBreak i d r ∧ r.fault d.id = fault
  built : m.validate = .ok () → ∃ c, Controller.ofModel m = .ok c ∧ m.BuiltAs c

/-- **Validation is exact.** A sound model is accepted and has its controller, and any other is
refused with the fault of the first device that breaks a rule. -/
theorem validate_exact (m : NetworkModel) : m.Judged where
  accepted := validate_eq_ok_iff_sound
  refused := fun _ => validate_eq_error_iff
  built := exists_built

theorem validate_exact_both :
    ∃ bad good : NetworkModel,
      (∃ d, bad.FirstBreak 1 d .inRange ∧ d.Breaks (bad.nodes.take 1) .wakes ∧
        bad.BreaksAt 2 .unused) ∧ bad.validate = .error (.invalidNodeId 233) ∧
      good.validate = .ok () ∧ good.nodes.map (·.id) = [9, 2] ∧
      ∃ c, Controller.ofModel good = .ok c ∧ good.BuiltAs c := by
  let lost : DeviceModel := { id := 233, listening := false }
  let bad : NetworkModel := ⟨[{ id := 2 }, lost, { id := 2 }]⟩
  let good : NetworkModel :=
    ⟨[{ id := 9, listening := false, wakeInterval := some 3 }, { id := 2 }]⟩
  have kept : ∀ r, ¬ bad.BreaksAt 0 r := by
    rintro r ⟨d, hd, breaks⟩
    cases hd
    cases r <;> simp [DeviceModel.Breaks] at breaks
  have first : bad.FirstBreak 1 lost .inRange := by
    refine ⟨rfl, ⟨.inr (by decide), fun _ h => absurd h (Nat.not_lt_zero _)⟩, fun j hj => ?_⟩
    obtain rfl : j = 0 := by omega
    exact kept
  have sound : good.Sound := by
    refine ⟨by decide, by decide, ?_⟩
    intro d hd sleeps
    rcases List.mem_pair.1 hd with rfl | rfl
    · exact ⟨3, rfl⟩
    · cases sleeps
  have judged := good.validate_exact
  have accepted := judged.accepted.2 sound
  have refused :=
    (bad.validate_exact.refused (.invalidNodeId 233)).2 ⟨1, lost, .inRange, first, rfl⟩
  have taken : bad.BreaksAt 2 .unused := ⟨_, rfl, _, List.mem_cons_self, rfl⟩
  exact ⟨bad, good, ⟨lost, first, ⟨rfl, rfl⟩, taken⟩, refused, accepted, rfl, judged.built accepted⟩

end NetworkModel

end ZWave
