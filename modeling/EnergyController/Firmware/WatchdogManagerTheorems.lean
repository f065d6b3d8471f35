/-
EnergyController.Firmware.WatchdogManagerTheorems — what a health check says
about the tasks.

`Inv` ties the table to the history: a slot holds the clock value of the latest
recorded beat, and no call has read a time that is still to come. With it,
`healthy_of_fresh_iff` says when a check reports healthy although, or because,
every task has beaten in time: exactly if no slot was overtaken, that is, no
recorded beat had read the clock later than the check had (short of a whole
turn of the counter). A beat recorded between the two steps of a check has an
age of almost 2^32 ms, and `healthy_spurious` shows that one millisecond is
enough.
-/
import EnergyController.Firmware.WatchdogManager
import EnergyController.Heartbeat.MonitorTheorems

namespace EnergyController

theorem HeartbeatId.slot_injective {id id' : HeartbeatId} (h : id.slot = id'.slot) : id = id' := by
  cases id <;> cases id' <;> simp [slot] at h ⊢

theorem HeartbeatId.slot_lt (id : HeartbeatId) : id.slot < heartbeatCount := by
  cases id <;> simp [slot, heartbeatCount]

/-- Every slot belongs to a task. -/
theorem HeartbeatId.exists_slot {slot : Nat} (h : slot < heartbeatCount) :
    ∃ id : HeartbeatId, id.slot = slot := by
  match slot, h with
  | 0, _ => exact ⟨.sensor, rfl⟩
  | 1, _ => exact ⟨.control, rfl⟩
  | 2, _ => exact ⟨.display, rfl⟩
  | 3, _ => exact ⟨.network, rfl⟩
  | 4, _ => exact ⟨.watchdog, rfl⟩
  | 5, _ => exact ⟨.cli, rfl⟩

namespace WatchdogManager

variable {s : WatchdogManager}

/-! ## The table and its history -/

structure Inv (s : WatchdogManager) : Prop where
  slots : s.monitor.slots = heartbeatCount
  table : ∀ id : HeartbeatId, s.monitor.lastBeat id.slot = (s.stamped id).map millis
  beating_le : ∀ id time, s.beating id = some time → time ≤ s.clock
  stamped_le : ∀ id time, s.stamped id = some time → time ≤ s.clock
  checking_le : ∀ time, s.checking = some time → time ≤ s.clock

theorem inv_start (time : Nat) : (start time).Inv where
  slots := rfl
  table := fun id => HeartbeatMonitor.lastBeat_new _ _
  beating_le := by simp [start]
  stamped_le := by simp [start]
  checking_le := by simp [start]

theorem Inv.record (h : s.Inv) {id : HeartbeatId} {time : Nat} (htime : time ≤ s.clock) :
    (s.record id time).Inv where
  slots := by simp [WatchdogManager.record, h.slots]
  table := by
    intro id'
    simp only [WatchdogManager.record, HeartbeatMonitor.lastBeat_beat, h.slots, id.slot_lt,
      and_true, h.table]
    by_cases hid : id' = id
    · simp [hid]
    · have hslot : id'.slot ≠ id.slot := fun hs => hid (HeartbeatId.slot_injective hs)
      simp [hid, hslot]
  beating_le := by
    intro id' time' hb
    simp only [WatchdogManager.record] at hb ⊢
    split at hb
    · cases hb
    · exact h.beating_le id' time' hb
  stamped_le := by
    intro id' time' hs
    simp only [WatchdogManager.record] at hs ⊢
    split at hs
    · cases hs
      exact htime
    · exact h.stamped_le id' time' hs
  checking_le := h.checking_le

theorem Inv.step (h : s.Inv) (st : WatchdogStep) : (s.step st).Inv := by
  cases st with
  | elapse ms =>
    exact {
      slots := h.slots
      table := h.table
      beating_le := fun id time hb => Nat.le_add_right_of_le (h.beating_le id time hb)
      stamped_le := fun id time hs => Nat.le_add_right_of_le (h.stamped_le id time hs)
      checking_le := fun time hc => Nat.le_add_right_of_le (h.checking_le time hc) }
  | heartbeatRead id =>
    simp only [WatchdogManager.step]
    split
    · refine { h with beating_le := ?_ }
      intro id' time hb
      dsimp only at hb ⊢
      split at hb
      · cases hb
        exact le_refl _
      · exact h.beating_le id' time hb
    · exact h
  | heartbeatRecord id =>
    simp only [WatchdogManager.step]
    split
    · exact h
    · rename_i time hb
      exact h.record (h.beating_le id time hb)
  | healthyRead =>
    simp only [WatchdogManager.step]
    split
    · refine { h with checking_le := ?_ }
      intro time hc
      cases hc
      exact le_refl _
    · exact h
  | healthyReturn => exact { h with checking_le := fun _ hc => by cases hc }

/-- Time does not run back. -/
theorem clock_le_step (s : WatchdogManager) (st : WatchdogStep) : s.clock ≤ (s.step st).clock := by
  cases st with
  | elapse ms => exact Nat.le_add_right _ _
  | heartbeatRead id =>
    simp only [WatchdogManager.step]
    split <;> exact Nat.le_refl _
  | heartbeatRecord id =>
    simp only [WatchdogManager.step]
    split <;> exact Nat.le_refl _
  | healthyRead =>
    simp only [WatchdogManager.step]
    split <;> exact Nat.le_refl _
  | healthyReturn => exact Nat.le_refl _

/-- Both steps of a heartbeat call, with nothing in between. -/
theorem beat_once {id : HeartbeatId} (hidle : s.beating id = none) :
    (s.step (.heartbeatRead id)).step (.heartbeatRecord id) = s.record id s.clock := by
  simp only [WatchdogManager.step, hidle, WatchdogManager.record, if_true]
  congr 1
  funext id'
  split <;> rfl

theorem inv_run (time : Nat) (steps : List WatchdogStep) : ((start time).run steps).Inv :=
  Run.invariant (inv_start time) (fun _ st h => h.step st) steps

/-! ## Health checks -/

/-- A check is healthy exactly if each task's latest beat has an age within
the timeout. -/
theorem healthy_iff (h : s.Inv) (time : Nat) (timeoutMs : Millis) :
    s.healthy time timeoutMs = true ↔
      ∀ id, ∃ t, s.stamped id = some t ∧ millis time - millis t ≠ heartbeatNever ∧
        millis time - millis t ≤ timeoutMs := by
  simp only [healthy, decide_eq_true_eq, HeartbeatMonitor.firstStale_eq_sizeMax_iff, h.slots,
    HeartbeatMonitor.stale_eq_false_iff]
  constructor
  · intro hall id
    obtain ⟨t, hlast, hage⟩ := hall id.slot id.slot_lt
    rw [h.table id] at hlast
    obtain ⟨t', hstamp, rfl⟩ := Option.map_eq_some_iff.mp hlast
    exact ⟨t', hstamp, hage⟩
  · intro hall slot hslot
    obtain ⟨id, rfl⟩ := HeartbeatId.exists_slot hslot
    obtain ⟨t, hstamp, hage⟩ := hall id
    exact ⟨millis t, by rw [h.table id, hstamp]; rfl, hage⟩

/-- Every task has beaten, and the latest beat is at most `timeoutMs` old. -/
def AllFresh (s : WatchdogManager) (timeoutMs : Millis) : Prop :=
  ∀ id, ∃ t, s.stamped id = some t ∧ s.clock ≤ t + timeoutMs.toNat

/-- A beat stamped at `t` does not look old to a check that read the clock at
`time`: it is not the later of the two, unless the counter made a whole turn,
or almost one, in between. -/
def NotOvertaken (time t : Nat) (timeoutMs : Millis) : Prop :=
  t ≤ time ∨ (t - time) % 2 ^ 32 = 0 ∨ 2 ^ 32 ≤ (t - time) % 2 ^ 32 + timeoutMs.toNat

/-- The age of one fresh beat, as a check sees it. -/
theorem age_of_fresh_iff {time t clock : Nat} {timeoutMs : Millis}
    (htimeout : timeoutMs.toNat < 2 ^ 31) (htime : time ≤ clock)
    (hfresh : clock ≤ t + timeoutMs.toNat) :
    millis time - millis t ≠ heartbeatNever ∧ millis time - millis t ≤ timeoutMs ↔
      NotOvertaken time t timeoutMs := by
  have hnever : millis time - millis t ≤ timeoutMs →
      millis time - millis t ≠ heartbeatNever := by
    intro hle heq
    rw [heq, BitVec.le_def] at hle
    have : heartbeatNever.toNat = 2 ^ 32 - 1 := by decide
    omega
  rw [and_iff_right_of_imp hnever]
  rcases Nat.lt_or_ge time t with hlt | hle
  · rw [millis, millis, WrappedClock.sub_reading_le_iff_of_gt hlt, NotOvertaken]
    simp [Nat.not_le.mpr hlt]
  · rw [millis, millis, WrappedClock.sub_reading_le_iff hle (by omega), NotOvertaken]
    exact iff_of_true (by omega) (.inl hle)

/-- **When a check on healthy tasks reports healthy**: exactly if no slot
was overtaken. -/
theorem healthy_of_fresh_iff (start₀ : Nat) (steps : List WatchdogStep) (timeoutMs : Millis)
    (htimeout : timeoutMs.toNat < 2 ^ 31) (time : Nat)
    (hchecking : ((start start₀).run steps).checking = some time)
    (hfresh : ((start start₀).run steps).AllFresh timeoutMs) :
    ((start start₀).run steps).healthy time timeoutMs = true ↔
      ∀ id t, ((start start₀).run steps).stamped id = some t →
        NotOvertaken time t timeoutMs := by
  have hinv := inv_run start₀ steps
  generalize (start start₀).run steps = s at hinv hchecking hfresh ⊢
  have htime := hinv.checking_le time hchecking
  rw [healthy_iff hinv]
  constructor
  · intro hall id t hstamp
    obtain ⟨t', hstamp', hage⟩ := hall id
    obtain ⟨t'', hstamp'', hclock⟩ := hfresh id
    rw [hstamp] at hstamp' hstamp''
    cases hstamp'
    cases hstamp''
    exact (age_of_fresh_iff htimeout htime hclock).mp hage
  · intro hall id
    obtain ⟨t, hstamp, hclock⟩ := hfresh id
    exact ⟨t, hstamp, (age_of_fresh_iff htimeout htime hclock).mpr (hall id t hstamp)⟩

theorem healthy_of_fresh_iff_quiet :
    let s := (start 0).run
      (.elapse 1 :: .healthyRead :: .elapse 999 :: oneBeatEach ++ [.elapse 20000])
    s.healthy 20999 6000 = true := by
  intro s
  refine (healthy_of_fresh_iff 0 _ 6000 (by decide) 20999 rfl ?_).mpr ?_
  · intro id
    cases id <;> exact ⟨20000, rfl, by decide⟩
  · intro id t ht
    cases id <;> (cases ht; exact .inl (by decide))

/-- **A spurious failure**: every task beat a second ago; SensorTask beats once
more, between the clock read of the check and its critical section, and 1 ms
after that read. The check finds SensorTask stale. -/
theorem healthy_spurious :
    let s := (start 0).run
      (.heartbeatRecord .sensor :: .heartbeatRead .sensor :: .elapse 1 :: .healthyRead ::
        .elapse 999 :: oneBeatEach ++ [.elapse 20000])
    s.checking = some 20999 ∧ s.AllFresh 6000 ∧ s.healthy 20999 6000 = false ∧
      s.monitor.firstStale (millis 20999) 6000 = HeartbeatId.sensor.slot := by
  refine ⟨rfl, ?_, by decide, by decide⟩
  intro id
  cases id
  case sensor => exact ⟨21000, rfl, by decide⟩
  all_goals exact ⟨20000, rfl, by decide⟩

end WatchdogManager

end EnergyController
