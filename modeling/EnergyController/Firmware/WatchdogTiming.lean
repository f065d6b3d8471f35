/-
EnergyController.Firmware.WatchdogTiming — how long a task can hang unnoticed.

`WatchdogTaskTheorems` says what a pass of the supervisor makes of the beats it
is faced with. Here the passes come no further apart than `gap`, and the result
is about time: at any uptime, a task whose latest beat is older than the timeout,
the grace and two gaps has been noticed. The grace is part of it because it opens
again after every turn of the counter (`grace_reopens`); `Watched` carries the
last pass that was past it, and the turn at which it has opened since.
-/
import EnergyController.Firmware.WatchdogTaskTheorems

namespace EnergyController

namespace WatchdogManager

variable {s : WatchdogManager}

/-! ## Beats -/

/-- Nothing happened before the start, and a task's beats come one after the
other. -/
structure BeatsInOrder (begun : ℕ) (s : WatchdogManager) : Prop where
  begun_le : begun ≤ s.clock
  begun_le_beating : ∀ id t, s.beating id = some t → begun ≤ t
  begun_le_stamped : ∀ id t, s.stamped id = some t → begun ≤ t
  stamped_le_beating : ∀ id t t', s.stamped id = some t → s.beating id = some t' → t ≤ t'

/-- At the start no slot has a beat, and no beat is under way. -/
theorem beatsInOrder_start (time : ℕ) : (start time).BeatsInOrder time where
  begun_le := Nat.le_refl _
  begun_le_beating := by simp [start]
  begun_le_stamped := by simp [start]
  stamped_le_beating := by simp [start]

/-- A beat is stamped with the reading that its task took before, which is not
before the last one it stamped. -/
theorem BeatsInOrder.step {begun : ℕ} (h : s.BeatsInOrder begun) (hinv : s.Inv)
    (st : WatchdogStep) : (s.step st).BeatsInOrder begun := by
  cases st with
  | elapse ms => exact { h with begun_le := Nat.le_add_right_of_le h.begun_le }
  | heartbeatRead id =>
    simp only [WatchdogManager.step]
    split
    · refine { h with begun_le_beating := ?_, stamped_le_beating := ?_ }
      · intro id' t hb
        dsimp only at hb
        split at hb
        · cases hb
          exact h.begun_le
        · exact h.begun_le_beating id' t hb
      · intro id' t t' hs hb
        dsimp only at hb
        split at hb
        · cases hb
          exact hinv.stamped_le id' t hs
        · exact h.stamped_le_beating id' t t' hs hb
    · exact h
  | heartbeatRecord id =>
    simp only [WatchdogManager.step]
    split
    · exact h
    · rename_i time hb
      refine { h with begun_le_beating := ?_, begun_le_stamped := ?_, stamped_le_beating := ?_ }
      · intro id' t hb'
        simp only [WatchdogManager.record] at hb'
        split at hb'
        · cases hb'
        · exact h.begun_le_beating id' t hb'
      · intro id' t hs
        simp only [WatchdogManager.record] at hs
        split at hs
        · cases hs
          exact h.begun_le_beating id time hb
        · exact h.begun_le_stamped id' t hs
      · intro id' t t' hs hb'
        simp only [WatchdogManager.record] at hs hb'
        split at hb'
        · cases hb'
        · rw [if_neg ‹_›] at hs
          exact h.stamped_le_beating id' t t' hs hb'
  | healthyRead =>
    simp only [WatchdogManager.step]
    split
    · exact { h with }
    · exact h
  | healthyReturn => exact { h with }

/-- A recorded beat is only replaced by a later one. -/
theorem BeatsInOrder.stamped_step {begun : ℕ} (h : s.BeatsInOrder begun) (st : WatchdogStep)
    {id : HeartbeatId} {t : ℕ} (hs : s.stamped id = some t) :
    ∃ t', (s.step st).stamped id = some t' ∧ t ≤ t' := by
  cases st with
  | heartbeatRecord id' =>
    simp only [WatchdogManager.step]
    split
    · exact ⟨t, hs, Nat.le_refl t⟩
    · rename_i time hb
      simp only [WatchdogManager.record]
      split
      · rename_i hid
        rw [← hid] at hb
        exact ⟨time, rfl, h.stamped_le_beating id t time hs hb⟩
      · exact ⟨t, hs, Nat.le_refl t⟩
  | heartbeatRead id' =>
    simp only [WatchdogManager.step]
    split <;> exact ⟨t, hs, Nat.le_refl t⟩
  | healthyRead =>
    simp only [WatchdogManager.step]
    split <;> exact ⟨t, hs, Nat.le_refl t⟩
  | _ => exact ⟨t, hs, Nat.le_refl t⟩

end WatchdogManager

namespace WatchdogTask

variable {cfg : WatchdogConfig} {s : WatchdogTask} {begun gap : ℕ}

/-! ## Passes -/

/-- The grace test of the newest finished pass, or the start. -/
def lastTested (s : WatchdogTask) : ℕ := (s.passes.head?.map (·.testedAt)).getD s.startup

/-- No check has failed. -/
def AtWork (s : WatchdogTask) : Prop := s.pc ≠ .failed ∧ s.pc ≠ .forced ∧ s.pc ≠ .restarted

instance (s : WatchdogTask) : Decidable s.AtWork := inferInstanceAs (Decidable (_ ∧ _ ∧ _))

/-- While the supervisor is at work, the newest finished pass began within the
last `gap`. -/
def Prompt (gap : ℕ) (s : WatchdogTask) : Prop :=
  s.AtWork → s.manager.clock ≤ s.lastTested + gap

instance (gap : ℕ) (s : WatchdogTask) : Decidable (s.Prompt gap) :=
  inferInstanceAs (Decidable (_ → _))

/-- A pass in progress: it is later than the finished ones, and its check reads
the clock after its grace test. -/
structure PassInOrder (s : WatchdogTask) : Prop where
  lastTested_le : s.lastTested ≤ s.manager.clock
  startup_le : s.startup ≤ s.lastTested
  unchecked : (∀ t, s.pc ≠ .checking t) → s.manager.checking = none
  testing : ∀ t, s.pc = .checking t → s.lastTested ≤ t ∧ t ≤ s.manager.clock
  testing_le : ∀ t time, s.pc = .checking t → s.manager.checking = some time → t ≤ time

/-- What has been seen up to `armed`: there was a pass past the grace that found
every task alive, or the supervisor started. -/
structure Watched (cfg : WatchdogConfig) (gap : ℕ) (s : WatchdogTask) (armed : ℕ) : Prop where
  armed_le : armed ≤ s.lastTested
  alive : armed = s.startup ∨
    ∀ id, ∃ t, s.manager.stamped id = some t ∧ armed ≤ t + cfg.heartbeatTimeoutMs.toNat
  /-- the passes since were within a grace that opened at a turn of the counter -/
  since : armed = s.lastTested ∨
    ∃ turns, s.startup + 2 ^ 32 * turns ≤ s.lastTested ∧
      s.lastTested < s.startup + 2 ^ 32 * turns + cfg.watchdogStartupGraceMs.toNat ∧
      s.startup + 2 ^ 32 * turns ≤ armed + gap

/-- The supervisor has not been past the grace for at most the grace and two
gaps. -/
theorem Watched.clock_le {armed : ℕ} (h : s.Watched cfg gap armed) (hprompt : s.Prompt gap)
    (hwork : s.AtWork) :
    s.manager.clock ≤ armed + cfg.watchdogStartupGraceMs.toNat + 2 * gap := by
  have hclock := hprompt hwork
  rcases h.since with hsince | ⟨turns, -, hwithin, hopened⟩
  · omega
  · omega

/-- A pass within the grace. -/
theorem within_grace {start x y graceMs turns : ℕ} (hstart : start ≤ x)
    (hgrace : (x - start) % 2 ^ 32 < graceMs) (hle : start + 2 ^ 32 * turns ≤ y) (hy : y ≤ x)
    (hshort : x < start + 2 ^ 32 * turns + 2 ^ 32) : x < start + 2 ^ 32 * turns + graceMs := by
  have hx : x - start = 2 ^ 32 * turns + (x - start - 2 ^ 32 * turns) := by omega
  rw [hx, Nat.mul_add_mod, Nat.mod_eq_of_lt (by omega)] at hgrace
  omega

/-- The grace opens at a turn of the counter. -/
theorem opened_of_within {start x graceMs : ℕ} (hstart : start ≤ x)
    (hgrace : (x - start) % 2 ^ 32 < graceMs) :
    ∃ turns, start + 2 ^ 32 * turns ≤ x ∧ x < start + 2 ^ 32 * turns + graceMs :=
  ⟨(x - start) / 2 ^ 32, by omega, by omega⟩

/-- What is known of a supervisor whose passes come promptly. The clause that does
the work is `watched`: as long as it is at work, it has seen every task alive not
longer than the grace and two gaps ago, or has just started. -/
structure Supervised (cfg : WatchdogConfig) (begun gap : ℕ) (s : WatchdogTask) : Prop where
  inv : s.Inv cfg
  beats : s.manager.BeatsInOrder begun
  pass : s.PassInOrder
  prompt : s.Prompt gap
  watched : s.AtWork → ∃ armed, s.Watched cfg gap armed

/-! ## One step -/

/-- A step of the heartbeats, or of time. -/
theorem Supervised.manager_step (h : s.Supervised cfg begun gap) (st : WatchdogStep)
    (hchecking : (s.manager.step st).checking = s.manager.checking)
    (hprompt : ({ s with manager := s.manager.step st } : WatchdogTask).Prompt gap) :
    ({ s with manager := s.manager.step st } : WatchdogTask).Supervised cfg begun gap where
  inv := h.inv.manager_step st
  beats := h.beats.step h.inv.manager st
  pass := {
    lastTested_le := h.pass.lastTested_le.trans (WatchdogManager.clock_le_step _ st)
    startup_le := h.pass.startup_le
    unchecked := fun hpc => hchecking.trans (h.pass.unchecked hpc)
    testing := fun t ht =>
      ⟨(h.pass.testing t ht).1, (h.pass.testing t ht).2.trans (WatchdogManager.clock_le_step _ st)⟩
    testing_le := fun t time ht hc => h.pass.testing_le t time ht (hchecking.symm.trans hc) }
  prompt := hprompt
  watched := by
    intro hwork
    obtain ⟨armed, hw⟩ := h.watched hwork
    refine ⟨armed, { hw with alive := hw.alive.imp id fun halive id => ?_ }⟩
    obtain ⟨t, hs, ht⟩ := halive id
    obtain ⟨t', hs', ht'⟩ := h.beats.stamped_step st hs
    exact ⟨t', hs', by omega⟩

/-- The test of the grace. Where it ends the pass, the grace is open: at the start,
or again at a turn of the counter, and then nothing is seen until it is over. -/
theorem Supervised.testGrace (h : s.Supervised cfg begun gap)
    (hroom : cfg.watchdogStartupGraceMs.toNat + gap < 2 ^ 32) (hpc : s.pc = .looping)
    (hprompt : (s.testGrace cfg).Prompt gap) : (s.testGrace cfg).Supervised cfg begun gap := by
  have hwork : s.AtWork := by simp [AtWork, hpc]
  have hinv := h.inv.testGrace hpc
  have hstarted := h.inv.started
  have hunchecked := h.pass.unchecked (by simp [hpc])
  have hclock := h.prompt hwork
  have hle := h.pass.lastTested_le
  obtain ⟨armed, hw⟩ := h.watched hwork
  unfold WatchdogTask.testGrace at hinv hprompt ⊢
  split
  · rename_i hover
    rw [if_pos hover] at hinv hprompt
    refine ⟨hinv, h.beats, ?_, hprompt, fun _ => ⟨armed, { hw with }⟩⟩
    refine { h.pass with
      unchecked := fun hno => absurd rfl (hno _), testing := ?_, testing_le := ?_ }
    · rintro t ⟨⟩
      exact ⟨hle, Nat.le_refl _⟩
    · intro t time ht hc
      rw [hunchecked] at hc
      cases hc
  · rename_i hwithin
    rw [if_neg hwithin] at hinv hprompt
    rw [graceOver_iff hstarted, Nat.not_le] at hwithin
    refine ⟨hinv, h.beats, ?_, hprompt, fun _ => ⟨armed, ?_⟩⟩
    · exact {
        lastTested_le := Nat.le_refl _
        startup_le := hstarted
        unchecked := fun _ => hunchecked
        testing := fun t ht => by rw [hpc] at ht; cases ht
        testing_le := fun t time ht => by rw [hpc] at ht; cases ht }
    · -- the newest pass is now one within the grace
      refine ⟨hw.armed_le.trans hle, hw.alive, .inr ?_⟩
      rcases hw.since with hsince | ⟨turns, hturn, hlast, hopened⟩
      · obtain ⟨turns, hturn, hgrace⟩ := opened_of_within hstarted hwithin
        refine ⟨turns, hturn, hgrace, ?_⟩
        rw [hsince]
        exact hturn.trans hclock
      · have hgrace := within_grace hstarted hwithin hturn hle (by omega)
        exact ⟨turns, hturn.trans hle, hgrace, hopened⟩

/-- A beat that shows as within the timeout is, if it is less than a turn old. -/
theorem within_timeout {t judgedAt : ℕ} {timeoutMs : Millis}
    (hage : millis judgedAt - millis t ≤ timeoutMs) (hturn : judgedAt < t + 2 ^ 32) :
    judgedAt ≤ t + timeoutMs.toNat := by
  rcases Nat.le_total t judgedAt with hle | hle
  · rw [millis, millis, WrappedClock.sub_reading_le_iff hle (by omega)] at hage
    omega
  · omega

/-- The check is over. If the supervisor goes on, every beat was within the timeout
at the reading of the check, by the clock and, as no turn of it fits in between,
in true time; so the tasks were seen alive at the test of this pass. -/
theorem Supervised.judge (h : s.Supervised cfg begun gap)
    (hroom : cfg.heartbeatTimeoutMs.toNat + cfg.watchdogStartupGraceMs.toNat + 2 * gap < 2 ^ 32)
    (hboot : s.startup + cfg.watchdogStartupGraceMs.toNat + 2 * gap < begun + 2 ^ 32)
    {testedAt time : ℕ} (hpc : s.pc = .checking testedAt)
    (hchecking : s.manager.checking = some time)
    (hprompt : (s.judge cfg testedAt time).Prompt gap) :
    (s.judge cfg testedAt time).Supervised cfg begun gap := by
  have hwork : s.AtWork := by simp [AtWork, hpc]
  obtain ⟨htested, htested'⟩ := h.pass.testing testedAt hpc
  have htime := h.pass.testing_le testedAt time hpc hchecking
  have hclock := h.inv.manager.checking_le time hchecking
  obtain ⟨armed, hw⟩ := h.watched hwork
  have hseen := hw.clock_le h.prompt hwork
  refine ⟨h.inv.judge hpc, h.beats.step h.inv.manager .healthyReturn, ?_, hprompt, ?_⟩
  · exact {
      lastTested_le := htested'
      startup_le := h.pass.startup_le.trans htested
      unchecked := fun _ => rfl
      testing := fun t ht => by
        simp only [WatchdogTask.judge] at ht
        split at ht <;> cases ht
      testing_le := fun t time ht => by
        simp only [WatchdogTask.judge] at ht
        split at ht <;> cases ht }
  · intro hwork'
    have hhealthy : s.manager.healthy time cfg.heartbeatTimeoutMs = true := by
      by_contra hfalse
      simp [AtWork, WatchdogTask.judge, hfalse] at hwork'
    refine ⟨testedAt, Nat.le_refl _, .inr fun id => ?_, .inl rfl⟩
    obtain ⟨t, hstamp, -, hage⟩ := (WatchdogManager.healthy_iff h.inv.manager _ _).mp hhealthy id
    refine ⟨t, hstamp, htime.trans (within_timeout hage ?_)⟩
    rcases hw.alive with hstart | halive
    · have hbegun := h.beats.begun_le_stamped id t hstamp
      omega
    · obtain ⟨t', hstamp', halive⟩ := halive id
      rw [hstamp] at hstamp'
      cases hstamp'
      omega

/-- What a step of the supervisor, or of a task that beats, can do. -/
inductive Effect (cfg : WatchdogConfig) (s : WatchdogTask) : WatchdogTask → Prop where
  | unchanged : Effect cfg s s
  | manager (st : WatchdogStep)
      (hchecking : (s.manager.step st).checking = s.manager.checking) :
      Effect cfg s { s with manager := s.manager.step st }
  | testGrace (hpc : s.pc = .looping) : Effect cfg s (s.testGrace cfg)
  | healthyRead (t : ℕ) (hpc : s.pc = .checking t) :
      Effect cfg s { s with manager := s.manager.step .healthyRead }
  | healthyReturn (t time : ℕ) (hpc : s.pc = .checking t)
      (hchecking : s.manager.checking = some time) : Effect cfg s (s.judge cfg t time)
  | applySafe (hpc : s.pc = .failed) :
      Effect cfg s
        { s with applied := outputsForState SystemState.fault :: s.applied, pc := .forced }
  | restart (hpc : s.pc = .forced) : Effect cfg s { s with pc := .restarted }

/-- **What a step can do**, once: the other proofs are cases on `Effect` and do not
unfold `step`. -/
theorem step_effect (cfg : WatchdogConfig) (s : WatchdogTask) (st : WatchdogTaskStep) :
    Effect cfg s (s.step cfg st) := by
  unfold WatchdogTask.step
  split
  · exact .unchanged
  cases st with
  | elapse ms => exact .manager (.elapse ms) rfl
  | heartbeatRead id =>
    refine .manager (.heartbeatRead id) ?_
    simp only [WatchdogManager.step]
    split <;> rfl
  | heartbeatRecord id =>
    refine .manager (.heartbeatRecord id) ?_
    simp only [WatchdogManager.step]
    split <;> rfl
  | testGrace =>
    dsimp only
    split
    · rename_i hpc
      exact .testGrace hpc
    · exact .unchanged
  | healthyRead =>
    dsimp only
    split
    · rename_i t hpc
      exact .healthyRead t hpc
    · exact .unchanged
  | healthyReturn =>
    dsimp only
    split
    · rename_i t time hpc hchecking
      exact .healthyReturn t time hpc hchecking
    · exact .unchanged
  | applySafe =>
    dsimp only
    split
    · rename_i hpc
      exact .applySafe hpc
    · exact .unchanged
  | restart =>
    dsimp only
    split
    · rename_i hpc
      exact .restart hpc
    · exact .unchanged

/-- The check reads the clock, unless it has done so. -/
theorem Supervised.healthyRead (h : s.Supervised cfg begun gap) {t : ℕ}
    (hpc : s.pc = .checking t)
    (hprompt : ({ s with manager := s.manager.step .healthyRead } : WatchdogTask).Prompt gap) :
    ({ s with manager := s.manager.step .healthyRead } : WatchdogTask).Supervised cfg begun
      gap := by
  have hinv := h.inv.manager_step .healthyRead
  cases hc : s.manager.checking with
  | some time =>
    refine h.manager_step .healthyRead ?_ hprompt
    simp [WatchdogManager.step, hc]
  | none =>
    simp only [WatchdogManager.step, hc] at hprompt hinv ⊢
    obtain ⟨armed, hw⟩ := h.watched (by simp [AtWork, hpc])
    refine ⟨hinv, { h.beats with }, ?_, hprompt, fun _ => ⟨armed, { hw with }⟩⟩
    refine { h.pass with unchecked := fun hno => absurd hpc (hno t), testing_le := ?_ }
    rintro t' time ht' ⟨⟩
    exact (h.pass.testing t' ht').2

/-- Once a check has failed there are no passes to be prompt. -/
theorem Supervised.leave (h : s.Supervised cfg begun gap) {pc : SupervisorPc}
    {applied : List OutputCommand} (hpc : ∀ t, s.pc ≠ .checking t)
    (hends : pc = .forced ∨ pc = .restarted)
    (hinv : ({ s with applied := applied, pc := pc } : WatchdogTask).Inv cfg) :
    ({ s with applied := applied, pc := pc } : WatchdogTask).Supervised cfg begun gap where
  inv := hinv
  beats := h.beats
  pass := { h.pass with
    unchecked := fun _ => h.pass.unchecked hpc
    testing := by rcases hends with rfl | rfl <;> nofun
    testing_le := by rcases hends with rfl | rfl <;> nofun }
  prompt := fun hwork => absurd hends (not_or.mpr hwork.2)
  watched := fun hwork => absurd hends (not_or.mpr hwork.2)

/-- Each effect keeps it, as long as the pass stays prompt. -/
theorem Supervised.step (h : s.Supervised cfg begun gap)
    (hroom : cfg.heartbeatTimeoutMs.toNat + cfg.watchdogStartupGraceMs.toNat + 2 * gap < 2 ^ 32)
    (hboot : s.startup + cfg.watchdogStartupGraceMs.toNat + 2 * gap < begun + 2 ^ 32)
    (st : WatchdogTaskStep) (hprompt : (s.step cfg st).Prompt gap) :
    (s.step cfg st).Supervised cfg begun gap := by
  have hinv := h.inv.step st
  have heffect := step_effect cfg s st
  generalize s.step cfg st = s' at hprompt hinv heffect ⊢
  cases heffect with
  | unchanged => exact h
  | manager st hchecking => exact h.manager_step st hchecking hprompt
  | testGrace hpc => exact h.testGrace (by omega) hpc hprompt
  | healthyRead t hpc => exact h.healthyRead hpc hprompt
  | healthyReturn t time hpc hchecking => exact h.judge hroom hboot hpc hchecking hprompt
  | applySafe hpc => exact h.leave (by simp [hpc]) (.inl rfl) hinv
  | restart hpc => exact h.leave (by simp [hpc]) (.inr rfl) hinv

/-! ## Whole runs -/

/-- At its start the task is in the grace, and no check is due. -/
theorem supervised_start {time : ℕ} {before : List WatchdogStep} :
    (start ((WatchdogManager.start time).run before)).Supervised cfg time gap where
  inv := inv_start time before
  beats :=
    have hbeats : ((WatchdogManager.start time).run before).Inv ∧
        ((WatchdogManager.start time).run before).BeatsInOrder time :=
      Run.invariant (P := fun s : WatchdogManager => s.Inv ∧ s.BeatsInOrder time)
        ⟨WatchdogManager.inv_start time, WatchdogManager.beatsInOrder_start time⟩
        (fun _ st h => ⟨h.1.step st, h.2.step h.1 st⟩) before
    { hbeats.2 with }
  pass := {
    lastTested_le := Nat.le_refl _
    startup_le := Nat.le_refl _
    unchecked := fun _ => rfl
    testing := nofun
    testing_le := nofun }
  prompt := fun _ => Nat.le_add_right _ _
  watched := fun _ => ⟨_, Nat.le_refl _, .inl rfl, .inl rfl⟩

/-- A second in which the supervisor makes a pass, and only it beats. -/
def loneSecond : List WatchdogTaskStep :=
  [.healthyReturn, .healthyRead, .testGrace, .heartbeatRecord .watchdog, .heartbeatRead .watchdog,
    .elapse 1000]

end WatchdogTask

end EnergyController
