import ZWave.Proofs.Simulation.Answers

/-!
# What a device announces and what it answers

In its node information a device announces the classes that its model lists. The handler of a class
asks for what the class reports when it is brought up, and that of Version for the versions of
others (`Handler.Asks`). A device that can be reached answers these questions about any class that
it announces, with what it is at the time, unless its model gives the class version zero: such a
class is announced as well, and nothing that is asked of it is answered
(`SimulatedDevice.answersFor_iff`).
-/

namespace ZWave

theorem Query.kind_of_mem_queries {h : Handler} {others : Registry} {q : Query}
    (mem : q ∈ h.queries others) : q.kind = h.kind := by
  obtain rfl | mem := List.mem_cons.1 mem
  · rfl
  · cases kind : h.kind with
    | version =>
      simp only [kind] at mem
      obtain ⟨other, -, rfl⟩ := List.mem_map.1 mem
      rfl
    | basic | switchBinary | switchMultilevel | manufacturerSpecific =>
      simp only [kind] at mem
      cases mem

namespace SimulatedDevice

/-- The classes that a device tells in its node information. -/
def announced (s : SimulatedDevice) : List UInt8 :=
  match s.nodeInfo with
  | .applicationUpdate u => u.classes
  | _ => []

theorem announced_eq (s : SimulatedDevice) : s.announced = s.model.classIds := rfl

end SimulatedDevice

/-- The frames with which the handler of a class may ask a device. -/
inductive Handler.Asks (h : Handler) (s : SimulatedDevice) : Frame → Prop where
  | startup (others : Registry) {f : Frame} : f ∈ h.startup s.id others → Asks h s f
  | versionOf {classId : UInt8} : h.kind = .version → classId ∈ s.announced →
      Asks h s (Request.classVersionGet s.id classId)

theorem Handler.Asks.exists_query {h : Handler} {s : SimulatedDevice} {f : Frame} (asks : h.Asks s f) :
    ∃ q : Query, q.kind = h.kind ∧ f = q.frame s.id := by
  cases asks with
  | startup others mem =>
    rw [Handler.startup_eq] at mem
    obtain ⟨q, asked, rfl⟩ := List.mem_map.1 mem
    exact ⟨q, Query.kind_of_mem_queries asked, rfl⟩
  | @versionOf classId version _ => exact ⟨.versionOf classId, version.symm, rfl⟩

namespace SimulatedDevice

/-- A frame is answered from the class, and leaves the device as it is. -/
def AnswersFor (s : SimulatedDevice) (classId : UInt8) (f : Frame) : Prop :=
  ∃ payload, s.handle f = (s, some (.applicationCommand { nodeId := s.id, payload })) ∧
    payload.classId = classId

theorem not_answersFor_of_lost {s : SimulatedDevice} {classId : UInt8} {f : Frame}
    (lost : s.handle f = (s, none)) : ¬ s.AnswersFor classId f := by
  rintro ⟨payload, answered, -⟩
  rw [lost] at answered
  cases answered

theorem answersFor_of_asks {s : SimulatedDevice} (reach : s.isReachable = true) {h : Handler} {f : Frame}
    (asks : h.Asks s f) :
    (s.model.classVersion h.id ≠ 0 → s.AnswersFor h.id f) ∧
      (s.model.classVersion h.id = 0 → s.handle f = (s, none)) := by
  obtain ⟨q, kind, rfl⟩ := asks.exists_query
  have own : h.id = q.kind.id := congrArg ClassKind.id kind.symm
  rw [own]
  constructor
  · intro spoken
    have answered := handle_query_present reach (UInt8.pos_iff_ne_zero.2 spoken) s.id
    exact ⟨s.present.reply q, answered, s.present.classId_reply q⟩
  · intro unspoken
    exact handle_query_of_mute (.inr unspoken) s.id

/-- **A device answers for what it announces, unless it speaks no version of it.** What it does not
answer is lost. -/
theorem answersFor_iff {d : DeviceModel} {ops : List Operation}
    (reach : (d.after ops).isReachable = true) {h : Handler}
    (announced : h.id ∈ (d.after ops).announced) {f : Frame} (asks : h.Asks (d.after ops) f) :
    ((d.after ops).AnswersFor h.id f ↔
      ∀ c ∈ d.classes, c.id = h.id → d.classVersions.lookup c ≠ some 0) ∧
    (¬ (d.after ops).AnswersFor h.id f → (d.after ops).handle f = (d.after ops, none)) := by
  obtain ⟨answered, lost⟩ := answersFor_of_asks reach asks
  rw [announced_eq] at announced
  rw [d.model_after] at announced answered lost
  have mute := DeviceModel.classVersion_eq_zero_iff announced
  constructor
  · constructor
    · intro answers c listed same zero
      exact not_answersFor_of_lost (lost (mute.2 ⟨c, listed, same, zero⟩)) answers
    · intro spoken
      refine answered fun unspoken => ?_
      obtain ⟨c, listed, same, zero⟩ := mute.1 unspoken
      exact spoken c listed same zero
  · intro unanswered
    exact lost (Decidable.byContradiction fun spoken => unanswered (answered spoken))

theorem answersFor_iff_dimmer :
    ∃ (d : DeviceModel) (ops : List Operation),
      d.classes = [.basic, .switchMultilevel, .version] ∧ d.classVersions = [(.basic, 0)] ∧
      (d.after ops).announced = [ClassId.basic, ClassId.switchMultilevel, ClassId.version] ∧
      (d.after ops).level = 40 ∧
      (Handler.fresh .basic).startup 2 .empty = [Request.basicGet 2] ∧
      ¬ (d.after ops).AnswersFor ClassId.basic (Request.basicGet 2) ∧
      (d.after ops).handle (Request.basicGet 2) = (d.after ops, none) ∧
      (d.after ops).AnswersFor ClassId.switchMultilevel (Request.switchMultilevelGet 2) ∧
      (d.after ops).AnswersFor ClassId.version (Request.classVersionGet 2 ClassId.basic) ∧
      (d.after ops).handle (Request.classVersionGet 2 ClassId.basic) =
        (d.after ops, some (.applicationCommand
          ⟨2, ⟨ClassId.version, [Command.classVersionReport, ClassId.basic, 0]⟩, 0⟩)) := by
  let d : DeviceModel :=
    { id := 2, kind := .multilevelSwitch, classes := [.basic, .switchMultilevel, .version],
      classVersions := [(.basic, 0)] }
  let ops : List Operation := [.handle (Request.switchMultilevelSet 2 1 40), .advance]
  have reach : (d.after ops).isReachable = true := by decide +kernel
  have announced : ∀ k ∈ [ClassKind.basic, .switchMultilevel, .version],
    k.id ∈ (d.after ops).announced := by decide +kernel
  have basic := answersFor_iff (h := .fresh .basic) reach (announced _ (by decide))
    (.startup .empty (List.mem_singleton.2 rfl))
  have level := answersFor_iff (h := .fresh .switchMultilevel) reach (announced _ (by decide))
    (.startup .empty (List.mem_singleton.2 rfl))
  have version := answersFor_iff (h := .fresh .version) reach (announced _ (by decide))
    (.versionOf rfl (announced .basic (by decide)))
  have mute : ¬ (d.after ops).AnswersFor ClassId.basic (Request.basicGet 2) := fun answers =>
    basic.1.1 answers .basic (by decide) rfl rfl
  exact ⟨d, ops, rfl, rfl, rfl, by decide +kernel, rfl, mute, basic.2 mute,
    level.1.2 (by decide), version.1.2 (by decide), by decide +kernel⟩

end SimulatedDevice

end ZWave
