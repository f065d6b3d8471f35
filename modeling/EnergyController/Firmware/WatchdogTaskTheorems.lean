/-
EnergyController.Firmware.WatchdogTaskTheorems — when the supervisor acts on
an overdue heartbeat.

The start-up grace is a window on a 32-bit difference to a fixed start, so it
opens again for its length after every turn of the counter. `Inv` ties each
finished pass to its two readings (`PassOk`), and `grace_passes` says for every
pass of every run that had to restart whether it does: exactly if the
time since the start, modulo 2^32, is past the grace. `grace_reopens` is a run of
seven weeks of healthy supervision, after which seven seconds of silence go
unnoticed.
-/
import EnergyController.Firmware.WatchdogManagerTheorems
import EnergyController.Firmware.WatchdogTask

namespace EnergyController

/-- The task has never beaten, or its latest beat is older than the timeout,
and by less than a turn of the counter. -/
def SupervisorPass.Overdue (r : SupervisorPass) (timeoutMs : Millis) (id : HeartbeatId) : Prop :=
  r.stamped id = none ∨
    ∃ t, r.stamped id = some t ∧ t ≤ r.judgedAt ∧ timeoutMs.toNat < r.judgedAt - t ∧
      r.judgedAt - t < 2 ^ 32

/-- Every latest beat is within the timeout, as the 32-bit ages show it. -/
def SupervisorPass.AllWithin (r : SupervisorPass) (timeoutMs : Millis) : Prop :=
  ∀ id, ∃ t, r.stamped id = some t ∧ millis r.judgedAt - millis t ≠ heartbeatNever ∧
    millis r.judgedAt - millis t ≤ timeoutMs

/-- An overdue beat shows: less than a turn ago, its age is the true one. -/
theorem SupervisorPass.not_allWithin {r : SupervisorPass} {timeoutMs : Millis} {id : HeartbeatId}
    (h : r.Overdue timeoutMs id) : ¬ r.AllWithin timeoutMs := by
  intro hall
  obtain ⟨t, hstamp, -, hage⟩ := hall id
  rcases h with hnone | ⟨t', hstamp', hle, hlate, hturn⟩
  · rw [hstamp] at hnone
    cases hnone
  · rw [hstamp] at hstamp'
    cases hstamp'
    rw [millis, millis, WrappedClock.sub_reading_le_iff hle hturn] at hage
    omega

namespace WatchdogTask

variable {cfg : WatchdogConfig} {s : WatchdogTask}

/-- What a pass tested and judged decides whether it restarts. -/
structure PassOk (cfg : WatchdogConfig) (startup : Nat) (r : SupervisorPass) : Prop where
  started : startup ≤ r.testedAt
  restarts_iff : r.restarts = true ↔
    cfg.watchdogStartupGraceMs.toNat ≤ (r.testedAt - startup) % 2 ^ 32 ∧
      ¬ r.AllWithin cfg.heartbeatTimeoutMs

/-- What holds of the supervisor in every run: its startup instant is in the past,
it checks only when the grace is over by the clock, every pass it has made was as
it should be (`PassOk`), and after one that restarts it goes on to the restart and
to nothing else. -/
structure Inv (cfg : WatchdogConfig) (s : WatchdogTask) : Prop where
  manager : s.manager.Inv
  started : s.startup ≤ s.manager.clock
  testing : ∀ t, s.pc = .checking t →
    s.startup ≤ t ∧ cfg.watchdogStartupGraceMs.toNat ≤ (t - s.startup) % 2 ^ 32
  passes : ∀ r ∈ s.passes, PassOk cfg s.startup r
  /-- a pass that restarts is the last one -/
  ending : ∀ r ∈ s.passes, r.restarts = true →
    s.pc = .failed ∨ s.pc = .forced ∨ s.pc = .restarted
  forced : s.pc = .forced ∨ s.pc = .restarted → outputsForState SystemState.fault ∈ s.applied

/-! ## One step -/

/-- The grace test, in true time. -/
theorem graceOver_iff (h : s.startup ≤ s.manager.clock) :
    s.graceOver cfg = true ↔
      cfg.watchdogStartupGraceMs.toNat ≤ (s.manager.clock - s.startup) % 2 ^ 32 := by
  unfold graceOver
  rw [decide_eq_true_iff, ge_iff_le, BitVec.le_def, millis, millis,
    WrappedClock.toNat_sub_reading h]

/-- At its start the task has read the clock and checked nothing. -/
theorem inv_start (time : Nat) (steps : List WatchdogStep) :
    (start ((WatchdogManager.start time).run steps)).Inv cfg where
  manager := { WatchdogManager.inv_run time steps with checking_le := nofun }
  started := le_refl _
  testing := nofun
  passes := nofun
  ending := nofun
  forced := by simp [start]

/-- Steps of the heartbeats and of time leave the supervisor alone. -/
theorem Inv.manager_step (h : s.Inv cfg) (st : WatchdogStep) :
    ({ s with manager := s.manager.step st } : WatchdogTask).Inv cfg :=
  { h with
    manager := h.manager.step st
    started := h.started.trans (WatchdogManager.clock_le_step _ st) }

/-- No pass has failed while the supervisor is at work. -/
theorem Inv.running (h : s.Inv cfg)
    (hpc : s.pc ≠ .failed ∧ s.pc ≠ .forced ∧ s.pc ≠ .restarted) :
    ∀ r ∈ s.passes, r.restarts ≠ true := by
  intro r hr hrestarts
  rcases h.ending r hr hrestarts with hs | hs | hs
  · exact hpc.1 hs
  · exact hpc.2.1 hs
  · exact hpc.2.2 hs

/-- The test of the grace opens a check, or ends the pass. -/
theorem Inv.testGrace (h : s.Inv cfg) (hpc : s.pc = .looping) : (s.testGrace cfg).Inv cfg := by
  have hrunning := h.running (by simp [hpc])
  unfold WatchdogTask.testGrace
  split
  · rename_i hover
    refine { h with testing := ?_, ending := ?_, forced := by simp }
    · rintro t ⟨⟩
      exact ⟨h.started, (graceOver_iff h.started).mp hover⟩
    · intro r hr hrestarts
      exact absurd hrestarts (hrunning r hr)
  · rename_i hwithin
    refine { h with passes := ?_, ending := ?_ }
    · intro r hr
      rcases List.mem_cons.mp hr with rfl | hr
      · refine ⟨h.started, ?_⟩
        rw [← graceOver_iff h.started]
        simp [hwithin]
      · exact h.passes r hr
    · intro r hr hrestarts
      rcases List.mem_cons.mp hr with rfl | hr
      · cases hrestarts
      · exact absurd hrestarts (hrunning r hr)

/-- The check is over and the pass is recorded: it restarts exactly if some slot is
stale, by `WatchdogManager.healthy_iff`. -/
theorem Inv.judge (h : s.Inv cfg) {testedAt time : Nat} (hpc : s.pc = .checking testedAt) :
    (s.judge cfg testedAt time).Inv cfg := by
  obtain ⟨hstarted, hgrace⟩ := h.testing testedAt hpc
  have hrunning := h.running (by simp [hpc])
  have hhealthy := WatchdogManager.healthy_iff h.manager time cfg.heartbeatTimeoutMs
  refine {
    manager := h.manager.step .healthyReturn
    started := h.started
    testing := ?_
    passes := ?_
    ending := ?_
    forced := ?_ }
  · intro t ht
    simp only [WatchdogTask.judge] at ht
    split at ht <;> cases ht
  · intro r hr
    rcases List.mem_cons.mp hr with rfl | hr
    · refine ⟨hstarted, ?_⟩
      show (!s.manager.healthy time cfg.heartbeatTimeoutMs) = true ↔ _
      rw [Bool.not_eq_true', ← Bool.not_eq_true, hhealthy]
      exact ⟨fun hn => ⟨hgrace, hn⟩, fun hn => hn.2⟩
    · exact h.passes r hr
  · intro r hr hrestarts
    rcases List.mem_cons.mp hr with rfl | hr
    · left
      simp only [WatchdogTask.judge] at hrestarts ⊢
      rw [if_pos hrestarts]
    · exact absurd hrestarts (hrunning r hr)
  · intro hpc'
    simp only [WatchdogTask.judge] at hpc'
    split at hpc' <;> simp at hpc'

/-- **Every step keeps it**; the steps of the manager are those of its own module. -/
theorem Inv.step (h : s.Inv cfg) (st : WatchdogTaskStep) : (s.step cfg st).Inv cfg := by
  unfold WatchdogTask.step
  split
  · exact h
  cases st with
  | elapse ms => exact h.manager_step (.elapse ms)
  | heartbeatRead id => exact h.manager_step (.heartbeatRead id)
  | heartbeatRecord id => exact h.manager_step (.heartbeatRecord id)
  | testGrace =>
    dsimp only
    split
    · rename_i hpc
      exact h.testGrace hpc
    · exact h
  | healthyRead =>
    dsimp only
    split
    · exact h.manager_step .healthyRead
    · exact h
  | healthyReturn =>
    dsimp only
    split
    · rename_i testedAt time hpc hchecking
      exact h.judge hpc
    · exact h
  | applySafe =>
    dsimp only
    split
    · exact { h with
        testing := nofun
        ending := fun _ _ _ => .inr (.inl rfl)
        forced := fun _ => List.mem_cons_self }
    · exact h
  | restart =>
    dsimp only
    split
    · rename_i hpc
      exact { h with
        testing := nofun
        ending := fun _ _ _ => .inr (.inr rfl)
        forced := fun _ => h.forced (.inl hpc) }
    · exact h

/-- The startup instant is a constant of the task. -/
theorem startup_step (s : WatchdogTask) (st : WatchdogTaskStep) :
    (s.step cfg st).startup = s.startup := by
  unfold WatchdogTask.step
  split
  · rfl
  cases st with
  | testGrace =>
    dsimp only [WatchdogTask.testGrace]
    split
    · split <;> rfl
    · rfl
  | healthyRead => dsimp only; split <;> rfl
  | healthyReturn => dsimp only; split <;> rfl
  | applySafe => dsimp only; split <;> rfl
  | restart => dsimp only; split <;> rfl
  | _ => rfl

/-! ## Whole runs -/

theorem startup_run (s : WatchdogTask) (steps : List WatchdogTaskStep) :
    (s.run cfg steps).startup = s.startup :=
  Run.invariant (P := fun s' => s'.startup = s.startup) rfl
    (fun s' st h => (startup_step s' st).trans h) steps

/-- A block of steps, once more. -/
theorem run_replicate_succ (s : WatchdogTask) (k : Nat) (steps : List WatchdogTaskStep) :
    s.run cfg (List.replicate (k + 1) steps).flatten
      = (s.run cfg (List.replicate k steps).flatten).run cfg steps :=
  Run.after_replicate_succ _ _ _ _

/-- **When a pass acts on an overdue beat.** In every run of the supervisor,
among any beats: a pass at least the grace after the start that finds a beat
overdue goes on to restart exactly if the time since the start is past the
grace modulo 2^32; and a pass that goes on to restart is the last, with the FAULT
outputs applied before the restart. `healthy` of the monitor, whenever a slot is
overdue past the grace, returns false exactly if the same holds. -/
theorem grace_passes (cfg : WatchdogConfig) (time : Nat) (before : List WatchdogStep)
    (steps : List WatchdogTaskStep) :
    let manager := (WatchdogManager.start time).run before
    let s := (start manager).run cfg steps
    (∀ r ∈ s.passes, cfg.watchdogStartupGraceMs.toNat ≤ r.testedAt - manager.clock →
      (∃ id, r.Overdue cfg.heartbeatTimeoutMs id) →
      (r.restarts = true ↔
        cfg.watchdogStartupGraceMs.toNat ≤ (r.testedAt - manager.clock) % 2 ^ 32)) ∧
    (∀ r ∈ s.passes, r.restarts = true →
      s.pc = .failed ∨
        (s.pc = .forced ∨ s.pc = .restarted) ∧
          outputsForState SystemState.fault ∈ s.applied) ∧
    (∀ ms, s.pc = .failed →
      (s.run cfg [.restart, .elapse ms, .applySafe]).pc = .restarted ∧
        outputsForState SystemState.fault
          ∈ (s.run cfg [.restart, .elapse ms, .applySafe]).applied) ∧
    ∀ (h : HeartbeatMonitor) (startMs now : Nat) (timeoutMs graceMs : Millis), startMs ≤ now →
      graceMs.toNat ≤ now - startMs →
      (∃ slot < h.slots, h.OverdueSlot slot now timeoutMs) →
      (h.healthy (millis now) timeoutMs (millis startMs) graceMs = false ↔
        graceMs.toNat ≤ (now - startMs) % 2 ^ 32) := by
  intro manager s
  have hinv : s.Inv cfg := Run.invariant (inv_start time before) (fun _ st h => h.step st) _
  have hstartup : s.startup = manager.clock := startup_run _ steps
  refine ⟨?_, ?_, ?_, ?_⟩
  · rintro r hr - ⟨id, hoverdue⟩
    have hpass := (hinv.passes r hr).restarts_iff
    rw [hstartup] at hpass
    rw [hpass]
    exact and_iff_left (SupervisorPass.not_allWithin hoverdue)
  · intro r hr hrestarts
    rcases hinv.ending r hr hrestarts with hpc | hpc
    · exact .inl hpc
    · exact .inr ⟨hpc, hinv.forced hpc⟩
  · intro ms hpc
    have happlied : s.run cfg [.restart, .elapse ms, .applySafe]
        = { s with
            manager := s.manager.step (.elapse ms)
            applied := outputsForState SystemState.fault :: s.applied
            pc := .restarted } := by
      simp [run, step, hpc]
    rw [happlied]
    exact ⟨rfl, List.mem_cons_self⟩
  · intro h startMs now timeoutMs graceMs hstart _ hoverdue
    exact HeartbeatMonitor.healthy_of_overdue_iff hstart hoverdue

/-- No task has ever beaten when the grace ends: the pass then goes on to restart. -/
theorem grace_passes_unheard :
    ∃ r ∈ ((start ((WatchdogManager.start 0).run [])).run exampleWatchdog
        [.healthyReturn, .healthyRead, .testGrace, .elapse 10000]).passes, r.restarts = true := by
  refine ⟨_, List.mem_cons_self, ((grace_passes exampleWatchdog 0 []
    [.healthyReturn, .healthyRead, .testGrace, .elapse 10000]).1 _ List.mem_cons_self
      ?past ⟨.sensor, ?overdue⟩).mpr ?turned⟩
  case past => decide
  case overdue => exact .inl rfl
  case turned => decide

/-! ## Seven weeks later -/

/-- Every task beats once; the supervisor makes its pass. -/
def healthySecond : List WatchdogTaskStep :=
  [.healthyReturn, .healthyRead, .testGrace] ++
    ([HeartbeatId.cli, .watchdog, .network, .display, .control, .sensor].flatMap fun id =>
      [.heartbeatRecord id, .heartbeatRead id]) ++ [.elapse 1000]

/-- Only the supervisor beats, and makes its pass. -/
def silentSecond : List WatchdogTaskStep :=
  [.testGrace, .heartbeatRecord .watchdog, .heartbeatRead .watchdog, .elapse 1000]

/-- Between two passes, with no call in progress, at true time `c`. -/
structure Calm (c : Nat) (s : WatchdogTask) : Prop where
  inv : s.Inv exampleWatchdog
  clock : s.manager.clock = c
  startup : s.startup = 0
  looping : s.pc = .looping
  idle : ∀ id, s.manager.beating id = none
  unchecked : s.manager.checking = none

namespace Calm

variable {c : Nat}

/-! A calm second, step by step: the clock moves, every task beats, and the check
finds all slots fresh. -/

theorem elapse (h : Calm c s) (ms : Nat) :
    Calm (c + ms) (s.step exampleWatchdog (.elapse ms)) ∧
      (s.step exampleWatchdog (.elapse ms)).manager.stamped = s.manager.stamped := by
  have hinv := h.inv.step (.elapse ms)
  have hstep : s.step exampleWatchdog (.elapse ms)
      = { s with manager := s.manager.step (.elapse ms) } := by
    simp [WatchdogTask.step, h.looping]
  rw [hstep] at hinv ⊢
  exact ⟨⟨hinv, congrArg (· + ms) h.clock, h.startup, h.looping, h.idle, h.unchecked⟩, rfl⟩

theorem beat (h : Calm c s) (id : HeartbeatId) :
    Calm c (s.run exampleWatchdog [.heartbeatRecord id, .heartbeatRead id]) ∧
      (s.run exampleWatchdog [.heartbeatRecord id, .heartbeatRead id]).manager.stamped
        = fun id' => if id' = id then some c else s.manager.stamped id' := by
  have hinv := (h.inv.step (.heartbeatRead id)).step (.heartbeatRecord id)
  have hbeat := WatchdogManager.beat_once (h.idle id)
  have hrun : s.run exampleWatchdog [.heartbeatRecord id, .heartbeatRead id]
      = { s with manager := s.manager.record id c } := by
    rw [← h.clock, ← hbeat]
    simp [run, WatchdogTask.step, h.looping]
  have hinv : (s.run exampleWatchdog [.heartbeatRecord id, .heartbeatRead id]).Inv
      exampleWatchdog := hinv
  rw [hrun] at hinv ⊢
  refine ⟨⟨hinv, h.clock, h.startup, h.looping, ?_, h.unchecked⟩, rfl⟩
  intro id'
  show (if id' = id then none else s.manager.beating id') = none
  rw [h.idle id']
  split <;> rfl

/-- The tasks `ids` beat, one after the other. -/
theorem beats (h : Calm c s) (ids : List HeartbeatId) :
    let beaten := s.run exampleWatchdog
      (ids.flatMap fun id => [.heartbeatRecord id, .heartbeatRead id])
    Calm c beaten ∧
      beaten.manager.stamped = fun id => if id ∈ ids then some c else s.manager.stamped id := by
  induction ids with
  | nil => exact ⟨h, by simp [run]⟩
  | cons id ids ih =>
    obtain ⟨hcalm, hstamped⟩ := ih
    obtain ⟨hcalm', hstamped'⟩ := hcalm.beat id
    rw [hstamped] at hstamped'
    intro beaten
    refine ⟨hcalm', hstamped'.trans ?_⟩
    funext id'
    simp only [List.mem_cons]
    by_cases hid : id' = id
    · rw [if_pos hid, if_pos (.inl hid)]
    · simp only [hid, if_false, false_or]

/-- A pass right after every task has beaten, in or past the grace. -/
theorem pass (h : Calm c s) (hfresh : ∀ id, s.manager.stamped id = some c) :
    Calm c (s.run exampleWatchdog [.healthyReturn, .healthyRead, .testGrace]) ∧
      (s.run exampleWatchdog [.healthyReturn, .healthyRead, .testGrace]).manager.stamped
        = s.manager.stamped := by
  have hinv : (s.run exampleWatchdog [.healthyReturn, .healthyRead, .testGrace]).Inv
      exampleWatchdog := ((h.inv.step .testGrace).step .healthyRead).step .healthyReturn
  have hhealthy : s.manager.healthy c exampleWatchdog.heartbeatTimeoutMs = true := by
    rw [WatchdogManager.healthy_iff h.inv.manager]
    intro id
    refine ⟨c, hfresh id, ?_, ?_⟩
    · rw [BitVec.sub_self]
      decide
    · rw [BitVec.sub_self]
      decide
  cases hover : s.graceOver exampleWatchdog with
  | false =>
    have hrun : s.run exampleWatchdog [.healthyReturn, .healthyRead, .testGrace]
        = s.testGrace exampleWatchdog := by
      simp [run, WatchdogTask.step, WatchdogTask.testGrace, h.looping, hover]
    rw [hrun] at hinv ⊢
    unfold WatchdogTask.testGrace at hinv ⊢
    rw [hover] at hinv ⊢
    exact ⟨⟨hinv, h.clock, h.startup, h.looping, h.idle, h.unchecked⟩, rfl⟩
  | true =>
    have htested : s.step exampleWatchdog .testGrace = { s with pc := .checking c } := by
      simp [WatchdogTask.step, WatchdogTask.testGrace, h.looping, hover, h.clock]
    have hread : ({ s with pc := .checking c } : WatchdogTask).step exampleWatchdog .healthyRead
        = { s with pc := .checking c, manager := { s.manager with checking := some c } } := by
      simp [WatchdogTask.step, WatchdogManager.step, h.unchecked, h.clock]
    have hjudge : ({ s.manager with checking := some c } : WatchdogManager).healthy c
        exampleWatchdog.heartbeatTimeoutMs = true := hhealthy
    have hrun : s.run exampleWatchdog [.healthyReturn, .healthyRead, .testGrace]
        = { s with
            pc := .looping
            manager := { s.manager with checking := none }
            passes := { testedAt := c, judgedAt := c, stamped := s.manager.stamped,
                        restarts := false } :: s.passes } := by
      show ((s.step exampleWatchdog .testGrace).step exampleWatchdog .healthyRead).step
        exampleWatchdog .healthyReturn = _
      rw [htested, hread]
      simp [WatchdogTask.step, WatchdogTask.judge, WatchdogManager.step, hjudge]
    rw [hrun] at hinv ⊢
    exact ⟨⟨hinv, h.clock, h.startup, rfl, h.idle, rfl⟩, rfl⟩

theorem healthySecond (h : Calm c s) :
    Calm (c + 1000) (s.run exampleWatchdog healthySecond) ∧
      (s.run exampleWatchdog WatchdogTask.healthySecond).manager.stamped
        = fun _ => some (c + 1000) := by
  obtain ⟨helapsed, -⟩ := h.elapse 1000
  obtain ⟨hbeaten, hstamped⟩ :=
    helapsed.beats [.cli, .watchdog, .network, .display, .control, .sensor]
  have hfresh : ∀ id, ((s.step exampleWatchdog (.elapse 1000)).run exampleWatchdog
      ([HeartbeatId.cli, .watchdog, .network, .display, .control, .sensor].flatMap fun id =>
        [.heartbeatRecord id, .heartbeatRead id])).manager.stamped id = some (c + 1000) := by
    intro id
    rw [hstamped]
    cases id <;> rfl
  obtain ⟨hpassed, hkept⟩ := hbeaten.pass hfresh
  exact ⟨hpassed, hkept.trans (funext hfresh)⟩

/-- Healthy seconds go by, any number of them. -/
theorem healthySeconds (h : Calm c s) (k : Nat) :
    Calm (c + 1000 * k)
      (s.run exampleWatchdog (List.replicate k WatchdogTask.healthySecond).flatten) ∧
    (0 < k → ∀ id,
      (s.run exampleWatchdog
        (List.replicate k WatchdogTask.healthySecond).flatten).manager.stamped id
          = some (c + 1000 * k)) := by
  induction k with
  | zero => exact ⟨h, nofun⟩
  | succ k ih =>
    obtain ⟨hcalm, hstamped⟩ := ih.1.healthySecond
    rw [run_replicate_succ, hstamped, show c + 1000 * (k + 1) = c + 1000 * k + 1000 by omega]
    exact ⟨hcalm, fun _ _ => rfl⟩

/-- In the reopened grace, the pass of a silent second ends at its grace test. -/
theorem silentSecond (h : Calm c s) (hwithin : (c + 1000) % 2 ^ 32 < 10000) :
    let s' := s.run exampleWatchdog WatchdogTask.silentSecond
    Calm (c + 1000) s' ∧ s'.manager.stamped .network = s.manager.stamped .network ∧
      ∃ r ∈ s'.passes, r.testedAt = c + 1000 ∧ r.judgedAt = c + 1000 ∧
        r.stamped .network = s.manager.stamped .network ∧ r.restarts = false := by
  obtain ⟨helapsed, hkept⟩ := h.elapse 1000
  obtain ⟨hbeaten, hstamped⟩ := helapsed.beat .watchdog
  set s₁ := (s.step exampleWatchdog (.elapse 1000)).run exampleWatchdog
    [.heartbeatRecord .watchdog, .heartbeatRead .watchdog]
  have hnetwork : s₁.manager.stamped .network = s.manager.stamped .network := by
    rw [hstamped, hkept]
    rfl
  have hover : s₁.graceOver exampleWatchdog = false := by
    rw [← Bool.not_eq_true, graceOver_iff hbeaten.inv.started, hbeaten.clock, hbeaten.startup]
    exact not_le_of_gt hwithin
  have hinv := hbeaten.inv.step .testGrace
  have hstep : s₁.step exampleWatchdog .testGrace
      = { s₁ with passes :=
          { testedAt := c + 1000, judgedAt := c + 1000, stamped := s₁.manager.stamped,
            restarts := false } :: s₁.passes } := by
    simp [WatchdogTask.step, WatchdogTask.testGrace, hbeaten.looping, hover, hbeaten.clock]
  intro s'
  have hrun : s' = s₁.step exampleWatchdog .testGrace := rfl
  rw [hrun, hstep]
  rw [hstep] at hinv
  refine ⟨⟨hinv, hbeaten.clock, hbeaten.startup, hbeaten.looping, hbeaten.idle,
    hbeaten.unchecked⟩, hnetwork, _, List.mem_cons_self, rfl, rfl, hnetwork, rfl⟩

theorem silentSeconds (h : Calm c s) (n : Nat) (hn : (c % 2 ^ 32) + 1000 * n < 2 ^ 32 + 10000)
    (hpast : 2 ^ 32 ≤ c % 2 ^ 32 + 1000) :
    Calm (c + 1000 * n)
      (s.run exampleWatchdog (List.replicate n WatchdogTask.silentSecond).flatten) ∧
    (s.run exampleWatchdog
      (List.replicate n WatchdogTask.silentSecond).flatten).manager.stamped .network
        = s.manager.stamped .network := by
  induction n with
  | zero => exact ⟨h, rfl⟩
  | succ n ih =>
    obtain ⟨hcalm, hkept⟩ := ih (by omega)
    obtain ⟨hcalm', hkept', -⟩ := hcalm.silentSecond (by omega)
    rw [run_replicate_succ, show c + 1000 * (n + 1) = c + 1000 * n + 1000 by omega]
    exact ⟨hcalm', hkept'.trans hkept⟩

end Calm

/-- The supervisor starts at time 0. Every task beats every second for 4294967
seconds; then only the supervisor does. Seven seconds later, all other beats are
7 s old, more than the 6 s allowed, and the pass goes by without a restart: the
counter has just turned, and shows 6704 ms since the start. -/
theorem grace_reopens :
    let s := (start (WatchdogManager.start 0)).run exampleWatchdog
      ((List.replicate 7 silentSecond).flatten ++ (List.replicate 4294967 healthySecond).flatten)
    ∃ r ∈ s.passes, exampleWatchdog.watchdogStartupGraceMs.toNat ≤ r.testedAt ∧
      r.Overdue exampleWatchdog.heartbeatTimeoutMs .network ∧ r.restarts = false := by
  have hstart : Calm 0 (start (WatchdogManager.start 0)) :=
    { inv := inv_start 0 []
      clock := rfl
      startup := rfl
      looping := rfl
      idle := fun _ => rfl
      unchecked := rfl }
  obtain ⟨hhealthy, hstamped⟩ := hstart.healthySeconds 4294967
  have hnetwork := hstamped (by decide) .network
  obtain ⟨hsix, hkept⟩ := hhealthy.silentSeconds 6 (by decide) (by decide)
  obtain ⟨-, -, r, hr, htested, hjudged, hstamp, hgoes⟩ := hsix.silentSecond (by decide)
  intro s
  have hrun : s = (((start (WatchdogManager.start 0)).run exampleWatchdog
      (List.replicate 4294967 healthySecond).flatten).run exampleWatchdog
        (List.replicate 6 silentSecond).flatten).run exampleWatchdog silentSecond := by
    rw [show s = _ from Run.after_append _ _ _ _]
    exact run_replicate_succ _ 6 _
  rw [hkept, hnetwork] at hstamp
  rw [← hrun] at hr
  refine ⟨r, hr, ?_, ?_, hgoes⟩
  · rw [htested]
    decide
  · refine .inr ⟨_, hstamp, ?_⟩
    rw [hjudged]
    decide

end WatchdogTask

end EnergyController
