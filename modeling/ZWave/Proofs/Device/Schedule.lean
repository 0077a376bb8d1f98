import ZWave.Proofs.Device.Operations

/-!
# When a device wakes

A device that sleeps counts the cycles down, first those until it wakes and then those until it goes
to sleep again, and it starts over each time. So the cycles of the counts are a period, and where
the device is in it after some cycles is told by their number alone (`Phase`), whatever frames it
was sent meanwhile. The main result says with which cycles a device wakes and after which it can be
reached, for any number of cycles (`DeviceModel.wakes_on_schedule`).
-/

namespace ZWave

namespace DeviceModel

variable (d : DeviceModel)

/-! ## The schedule -/

def sleepSpan : Nat := max (d.wakeInterval.getD 0) 1

def awakeSpan : Nat := max d.awakeCycles 1

/-- The cycles from one time that it wakes to the next. -/
def period : Nat := d.awakeSpan + d.sleepSpan

/-- The cycle with which the device wakes for the `j + 1`st time. -/
def wakeTime (j : Nat) : Nat := d.sleepSpan + j * d.period

def WakesAt (t : Nat) : Prop := ∃ j, t = d.wakeTime j

def AwakeAt (t : Nat) : Prop := ∃ j, d.wakeTime j ≤ t ∧ t < d.wakeTime j + d.awakeSpan

theorem sleepSpan_pos : 0 < d.sleepSpan := by
  unfold sleepSpan
  omega

theorem awakeSpan_pos : 0 < d.awakeSpan := by
  unfold awakeSpan
  omega

theorem sleepSpan_lt_period : d.sleepSpan < d.period := by
  have awake := d.awakeSpan_pos
  unfold period
  omega

theorem period_pos : 0 < d.period := Nat.lt_of_le_of_lt (Nat.zero_le _) d.sleepSpan_lt_period

theorem mod_add_mul_div (t : Nat) : t = t % d.period + t / d.period * d.period := by
  rw [Nat.mul_comm]
  exact (Nat.mod_add_div t d.period).symm

variable {d}

theorem wakesAt_iff {t : Nat} : d.WakesAt t ↔ t % d.period = d.sleepSpan := by
  constructor
  · rintro ⟨j, rfl⟩
    unfold wakeTime
    rw [Nat.add_mul_mod_self_right, Nat.mod_eq_of_lt d.sleepSpan_lt_period]
  · intro within
    refine ⟨t / d.period, ?_⟩
    have whole := d.mod_add_mul_div t
    rw [within] at whole
    exact whole

theorem awakeAt_iff {t : Nat} : d.AwakeAt t ↔ d.sleepSpan ≤ t % d.period := by
  constructor
  · rintro ⟨j, woken, before⟩
    unfold wakeTime at woken before
    obtain ⟨r, rfl⟩ : ∃ r, t = r + j * d.period := ⟨t - j * d.period, by omega⟩
    have within : r < d.period := by
      unfold period at before ⊢
      omega
    rw [Nat.add_mul_mod_self_right, Nat.mod_eq_of_lt within]
    omega
  · intro within
    have whole := d.mod_add_mul_div t
    have lt := Nat.mod_lt t d.period_pos
    have split : d.period = d.awakeSpan + d.sleepSpan := rfl
    refine ⟨t / d.period, ?_, ?_⟩
    · unfold wakeTime
      omega
    · unfold wakeTime
      omega

instance (t : Nat) : Decidable (d.WakesAt t) := decidable_of_iff _ wakesAt_iff.symm

instance (t : Nat) : Decidable (d.AwakeAt t) := decidable_of_iff _ awakeAt_iff.symm

end DeviceModel

/-! ## Cycles in a run -/

namespace SimulatedDevice

def Operation.cycles (ops : List Operation) : Nat := ops.countP Operation.isAdvance

/-- What a device sends with the cycles of a run, one entry for each. -/
def announcements (s : SimulatedDevice) (ops : List Operation) : List (Option Frame) :=
  ((s.exchanges ops).filter fun e => e.operation.isAdvance).map Exchange.reply

theorem announcements_handle (s : SimulatedDevice) (f : Frame) (ops : List Operation) :
    s.announcements (.handle f :: ops) = (s.handle f).1.announcements ops := rfl

theorem announcements_advance (s : SimulatedDevice) (ops : List Operation) :
    s.announcements (.advance :: ops) = s.advance.2 :: s.advance.1.announcements ops := rfl

/-- What frames keep of a device, and what it sends with the next cycle, hold along a run. -/
theorem announcements_eq (P : Nat → SimulatedDevice → Prop) (sent : Nat → Option Frame)
    (handle : ∀ t s f, P t s → P t (s.handle f).1)
    (advance : ∀ t s, P t s → P (t + 1) s.advance.1 ∧ s.advance.2 = sent (t + 1))
    {t : Nat} {s : SimulatedDevice} (start : P t s) (ops : List Operation) :
    s.announcements ops = (List.range (Operation.cycles ops)).map (fun i => sent (t + i + 1)) ∧
      P (t + Operation.cycles ops) (s.after ops) := by
  induction ops generalizing t s with
  | nil => exact ⟨rfl, start⟩
  | cons op ops ih =>
    cases op with
    | handle f =>
      rw [announcements_handle]
      exact ih (handle t s f start)
    | advance =>
      obtain ⟨next, reply⟩ := advance t s start
      obtain ⟨later, final⟩ := ih next
      have cycles : Operation.cycles (.advance :: ops) = Operation.cycles ops + 1 :=
        List.countP_cons_of_pos rfl
      rw [announcements_advance, later, reply, cycles, map_range_succ]
      constructor
      · congr 1
        apply List.map_congr_left
        intro i _
        rw [show t + (i + 1) + 1 = t + 1 + i + 1 by omega]
      · rw [show t + (Operation.cycles ops + 1) = t + 1 + Operation.cycles ops by omega]
        exact final

/-! ## The phases of a device that sleeps -/

/-- Where a device of a model is in its period, `r` cycles after it went to sleep. -/
inductive Phase (d : DeviceModel) (r : Nat) (s : SimulatedDevice) : Prop where
  | asleep : s.model = d → s.awakeFor = 0 → r < d.sleepSpan →
      s.asleepFor = d.wakeInterval.getD 0 - r → Phase d r s
  | awake : s.model = d → d.sleepSpan ≤ r → r < d.period →
      s.awakeFor = d.period - r → Phase d r s

namespace Phase

variable {d : DeviceModel} {r : Nat} {s : SimulatedDevice}

theorem initial (d : DeviceModel) : Phase d 0 (.ofModel d) := .asleep rfl rfl d.sleepSpan_pos rfl

theorem model (h : Phase d r s) : s.model = d := by cases h <;> assumption

theorem awakeFor_pos_iff (h : Phase d r s) : 0 < s.awakeFor ↔ d.sleepSpan ≤ r := by
  cases h <;> omega

theorem handle (h : Phase d r s) (f : Frame) : Phase d r (s.handle f).1 := by
  cases h with
  | asleep model awake before left =>
    exact .asleep ((s.model_handle f).trans model) ((s.awakeFor_handle f).trans awake) before
      ((s.asleepFor_handle f).trans left)
  | awake model woken within left =>
    exact .awake ((s.model_handle f).trans model) woken within ((s.awakeFor_handle f).trans left)

theorem advance (sleeps : d.listening = false) (h : Phase d r s) :
    Phase d ((r + 1) % d.period) s.advance.1 ∧
      s.advance.2 = if (r + 1) % d.period = d.sleepSpan then some d.information else none := by
  obtain rfl := h.model
  have wakes := s.model.sleepSpan_lt_period
  have positive := s.model.sleepSpan_pos
  cases h with
  | asleep _ awake before left =>
    rw [advance_of_asleep sleeps awake, Nat.mod_eq_of_lt (by omega)]
    by_cases more : 0 < s.asleepFor - 1
    · have later : r + 1 < s.model.sleepSpan := by
        unfold DeviceModel.sleepSpan
        omega
      rw [if_pos more, if_neg (by omega)]
      refine ⟨asleep rfl awake later ?_, rfl⟩
      simp only [left]
      omega
    · have last : r + 1 = s.model.sleepSpan := by
        unfold DeviceModel.sleepSpan at before ⊢
        omega
      rw [if_neg more, if_pos last]
      refine ⟨Phase.awake rfl (by omega) (by omega) ?_, rfl⟩
      have split : s.model.period = s.model.awakeSpan + s.model.sleepSpan := rfl
      change s.model.awakeSpan = _
      omega
  | awake _ woken within left =>
    rw [advance_of_awake sleeps (by omega)]
    by_cases last : s.awakeFor = 1
    · have again : (r + 1) % s.model.period = 0 := by
        rw [show r + 1 = s.model.period by omega, Nat.mod_self]
      rw [again, if_pos last, if_neg (by omega)]
      refine ⟨asleep rfl ?_ positive rfl, rfl⟩
      simp only [last]
    · rw [Nat.mod_eq_of_lt (show r + 1 < s.model.period by omega), if_neg last, if_neg (by omega)]
      refine ⟨Phase.awake rfl (by omega) (by omega) ?_, rfl⟩
      simp only [left]
      omega

end Phase

end SimulatedDevice

namespace DeviceModel

open SimulatedDevice (Phase Operation)

variable {d : DeviceModel}

theorem schedule_of_sleeps (sleeps : d.listening = false) (ops : List Operation) :
    (SimulatedDevice.ofModel d).announcements ops = (List.range (Operation.cycles ops)).map
        (fun i => if d.WakesAt (i + 1) then some d.information else none) ∧
      (d.after ops).isReachable = decide (d.AwakeAt (Operation.cycles ops)) := by
  have start : Phase d (0 % d.period) (.ofModel d) := by
    rw [Nat.zero_mod]
    exact Phase.initial d
  have step : ∀ t s, Phase d (t % d.period) s → Phase d ((t + 1) % d.period) s.advance.1 ∧
      s.advance.2 = if d.WakesAt (t + 1) then some d.information else none := by
    intro t s h
    have next := h.advance sleeps
    rw [Nat.mod_add_mod] at next
    simpa only [wakesAt_iff] using next
  obtain ⟨announced, final⟩ := SimulatedDevice.announcements_eq (fun t => Phase d (t % d.period))
    (fun t => if d.WakesAt t then some d.information else none)
    (fun t s f h => h.handle f) step start ops
  rw [Nat.zero_add] at final
  constructor
  · simpa only [Nat.zero_add] using announced
  · have reach := final.awakeFor_pos_iff.trans awakeAt_iff.symm
    rw [SimulatedDevice.isReachable, model_after, sleeps, Bool.false_or]
    exact decide_eq_decide.2 reach

theorem schedule_of_listens (listens : d.listening = true) (ops : List Operation) :
    (SimulatedDevice.ofModel d).announcements ops =
        (List.range (Operation.cycles ops)).map (fun _ => none) ∧
      (d.after ops).isReachable = true := by
  have step : ∀ (_ : Nat) (s : SimulatedDevice), s.model = d →
      s.advance.1.model = d ∧ s.advance.2 = none := by
    rintro - s rfl
    rw [SimulatedDevice.advance_of_listening listens]
    exact ⟨rfl, rfl⟩
  have run := SimulatedDevice.announcements_eq (fun _ s => s.model = d) (fun _ => none)
    (fun _ s f h => (s.model_handle f).trans h) step (t := 0) (s := .ofModel d) rfl ops
  refine ⟨run.1, ?_⟩
  rw [SimulatedDevice.isReachable, model_after, listens, Bool.true_or]

/-- **A device wakes on a fixed schedule.** It announces itself with the cycles in which it wakes,
and can be reached while it is awake; frames make no difference. -/
theorem wakes_on_schedule (d : DeviceModel) (ops : List Operation) :
    (SimulatedDevice.ofModel d).announcements ops =
        (List.range (Operation.cycles ops)).map (fun i =>
          if d.listening = false ∧ d.WakesAt (i + 1) then some d.information else none) ∧
      (d.after ops).isReachable = (d.listening || decide (d.AwakeAt (Operation.cycles ops))) := by
  cases listens : d.listening with
  | false =>
    obtain ⟨announced, reach⟩ := schedule_of_sleeps listens ops
    simpa only [true_and, Bool.false_or] using ⟨announced, reach⟩
  | true =>
    obtain ⟨announced, reach⟩ := schedule_of_listens listens ops
    simpa only [Bool.true_eq_false, false_and, if_false, Bool.true_or] using
      And.intro announced reach

example :
    let d : DeviceModel := { id := 7, listening := false, wakeInterval := some 2, awakeCycles := 3 }
    ((SimulatedDevice.ofModel d).announcements
      ([.advance, .handle (.requestNodeInfo 7)] ++ List.replicate 7 .advance)).map Option.isSome =
        [false, true, false, false, false, false, true, false] := by
  decide

end DeviceModel

end ZWave
