/-
EnergyController.Firmware.ProtectionTheorems — the wrapper runs the core, and
what becomes of a lock failure.

* `run_core` — the core under the wrapper is the core after `coreRun`, so
  every result about runs of the core holds under the wrapper;
* `pending_lockFailed` — the flag is set exactly while no update, tick or
  reset has got the lock since an update or tick failed to;
* `pendingFault_kept_iff` — the next such call latches a fault, unless it is
  a reset that the interlock accepts on the strength of the newest sample:
  the pending fault is then raised and cleared in the same critical section.

The last is not what the comment in `protectionReset` says ("cannot erase");
`resetErasesPendingFault` is a run of three calls that shows it.

* `lastResetResult_newest_iff` — the reset result in a snapshot is the newest
  request's, unless that request failed to take the mutex: REJECTED_BUSY is
  answered outside the core, which never learns of it.
-/
import EnergyController.Firmware.Protection
import EnergyController.Measurement.CoreTheorems
import EnergyController.Protection.Latch

namespace EnergyController

namespace Protection

variable {p : Protection}

@[simp] theorem run_nil (p : Protection) : p.run [] = p := rfl

@[simp] theorem run_cons (p : Protection) (call : ProtectionCall)
    (earlier : List ProtectionCall) :
    p.run (call :: earlier) = (p.run earlier).step call := rfl

theorem run_append (p : Protection) (later earlier : List ProtectionCall) :
    p.run (later ++ earlier) = (p.run earlier).run later :=
  Run.after_append _ _ _ _

@[simp] theorem coreRun_nil (p : Protection) : p.coreRun [] = [] := rfl

@[simp] theorem coreRun_cons (p : Protection) (call : ProtectionCall)
    (earlier : List ProtectionCall) :
    p.coreRun (call :: earlier) = (p.run earlier).coreCalls call ++ p.coreRun earlier := rfl

/-! ## The core under the wrapper -/

theorem applyPendingInternalFault_core (p : Protection) (now : Millis) :
    (p.applyPendingInternalFault now).core = ProtectionCore.run id p.core (p.pendingCall now) := by
  simp only [applyPendingInternalFault, pendingCall]
  split <;> rfl

theorem applyPendingInternalFault_pending (p : Protection) (now : Millis) :
    (p.applyPendingInternalFault now).internalFaultPending = false := by
  unfold applyPendingInternalFault
  split
  · rfl
  · rename_i h
    simpa using h

/-- A wrapper call is the core calls it makes. -/
theorem step_core (p : Protection) (call : ProtectionCall) :
    (p.step call).core = ProtectionCore.run id p.core (p.coreCalls call) := by
  have happly := applyPendingInternalFault_core p
  rcases call with ⟨m, _ | now⟩ | ⟨_ | now⟩ | ⟨_ | now⟩ | ⟨_ | now⟩ | ⟨_ | now⟩
  case update.some =>
    simp only [step, protectionUpdate, coreCalls, ProtectionCore.run_cons, ← happly]
    rfl
  case tick.some =>
    simp only [step, protectionTick, coreCalls, ProtectionCore.run_cons, ← happly]
    rfl
  case reset.some =>
    simp only [step, protectionReset, coreCalls, ProtectionCore.run_cons, ← happly]
    rfl
  all_goals rfl

/-- **A run of the wrapper is a run of the core.** -/
theorem run_core (p : Protection) (calls : List ProtectionCall) :
    (p.run calls).core = ProtectionCore.run id p.core (p.coreRun calls) := by
  induction calls with
  | nil => rfl
  | cons call earlier ih =>
    rw [run_cons, step_core, ih, coreRun_cons, ProtectionCore.run_append]

/-! ## The pending flag and the newest sample -/

/-- The flag remembers a lock failure until the fault is applied. -/
theorem pending_lockFailed (hp : p.internalFaultPending = false) (calls : List ProtectionCall) :
    (p.run calls).internalFaultPending = lockFailed calls := by
  induction calls with
  | nil => exact hp
  | cons call earlier ih =>
    rw [run_cons]
    rcases call with ⟨m, _ | now⟩ | ⟨_ | now⟩ | ⟨_ | now⟩ | ⟨_ | now⟩ | ⟨_ | now⟩
    case update.some => exact applyPendingInternalFault_pending _ now
    case tick.some => exact applyPendingInternalFault_pending _ now
    case reset.some => exact applyPendingInternalFault_pending _ now
    case update.none => rfl
    case tick.none => rfl
    all_goals exact ih

theorem newest_pendingCall (p : Protection) (now : Millis) (calls : List CoreCall) :
    ProtectionCore.newest id CoreCall.nowMs (p.pendingCall now ++ calls)
      = ProtectionCore.newest id CoreCall.nowMs calls := by
  unfold pendingCall
  split <;> rfl

theorem newest_coreRun (p : Protection) (calls : List ProtectionCall) :
    ProtectionCore.newest id CoreCall.nowMs (p.coreRun calls) = newestPassed calls := by
  induction calls with
  | nil => rfl
  | cons call earlier ih =>
    rw [coreRun_cons]
    rcases call with ⟨m, _ | now⟩ | ⟨_ | now⟩ | ⟨_ | now⟩ | ⟨_ | now⟩ | ⟨_ | now⟩
    case update.some => rfl
    case tick.some =>
      rw [coreCalls, List.cons_append, ProtectionCore.newest_other (by simp), newest_pendingCall]
      exact ih
    case reset.some =>
      rw [coreCalls, List.cons_append, ProtectionCore.newest_other (by simp), newest_pendingCall]
      exact ih
    all_goals exact ih

theorem overRun_pendingCall (k : ProtectionConfig) (p : Protection) (now : Millis)
    (calls : List CoreCall) :
    ProtectionCore.overRun id CoreCall.nowMs k (p.pendingCall now ++ calls)
      = ProtectionCore.overRun id CoreCall.nowMs k calls := by
  unfold pendingCall
  split <;> rfl

theorem overRun_coreRun (k : ProtectionConfig) (p : Protection) (calls : List ProtectionCall) :
    ProtectionCore.overRun id CoreCall.nowMs k (p.coreRun calls)
      = overPassedSince k.faultPowerW calls := by
  induction calls with
  | nil => rfl
  | cons call earlier ih =>
    rw [coreRun_cons]
    rcases call with ⟨m, _ | now⟩ | ⟨_ | now⟩ | ⟨_ | now⟩ | ⟨_ | now⟩ | ⟨_ | now⟩
    case update.some =>
      rw [coreCalls, List.cons_append,
        @ProtectionCore.overRun_update _ _ id CoreCall.nowMs (.update m now) m now rfl,
        overRun_pendingCall, ih]
      rfl
    case tick.some =>
      rw [coreCalls, List.cons_append, ProtectionCore.overRun_other (by simp),
        overRun_pendingCall]
      exact ih
    case reset.some =>
      rw [coreCalls, List.cons_append, ProtectionCore.overRun_other (by simp),
        overRun_pendingCall]
      exact ih
    all_goals exact ih

/-! ## After a lock failure -/

/-- The call leaves a fault latched, and is not an accepted reset. -/
structure FaultKept (p : Protection) (call : ProtectionCall) : Prop where
  state : (p.step call).core.state = .fault
  active : (p.step call).core.fault.active = true
  refused : ∀ lock, call = .reset lock → (p.protectionReset lock).1 ≠ .accepted

theorem applyPendingInternalFault_of_pending (h : p.internalFaultPending = true) (now : Millis) :
    p.applyPendingInternalFault now
      = { core := (p.core.raiseInternalFault now).2, internalFaultPending := false } := by
  simp [applyPendingInternalFault, h]

/-- A call on the core that is no accepted reset keeps an applied fault. -/
theorem core_step_kept (c : ProtectionCore) (now : Millis) (call : CoreCall)
    (hcall : (c.raiseInternalFault now).2.NoAcceptedReset call) :
    ((c.raiseInternalFault now).2.step call).state = .fault ∧
      ((c.raiseInternalFault now).2.step call).fault.active = true := by
  have hraised : (c.raiseInternalFault now).2.state = .fault ∧
      (c.raiseInternalFault now).2.fault.active = true := by
    simp [ProtectionCore.raiseInternalFault, ProtectionCore.raiseFault_eq]
  have hkept := ProtectionCore.latchKept_step hraised.1 hraised.2 hcall
  exact ⟨hkept.state, by rw [hkept.record]; exact hraised.2⟩

theorem faultKept_update (h : p.internalFaultPending = true) (m : Measurement) (now : Millis) :
    FaultKept p (.update m (some now)) := by
  have hkept := core_step_kept p.core now (.update m now)
    (by simp [ProtectionCore.NoAcceptedReset])
  refine ⟨?_, ?_, by simp⟩
  · simp only [step, protectionUpdate, applyPendingInternalFault_of_pending h]
    exact hkept.1
  · simp only [step, protectionUpdate, applyPendingInternalFault_of_pending h]
    exact hkept.2

theorem faultKept_tick (h : p.internalFaultPending = true) (now : Millis) :
    FaultKept p (.tick (some now)) := by
  have hkept := core_step_kept p.core now (.tick now) (by simp [ProtectionCore.NoAcceptedReset])
  refine ⟨?_, ?_, by simp⟩
  · simp only [step, protectionTick, applyPendingInternalFault_of_pending h]
    exact hkept.1
  · simp only [step, protectionTick, applyPendingInternalFault_of_pending h]
    exact hkept.2

/-- A reset keeps the pending fault unless the interlock accepts it, judging
the core with the fault applied. -/
theorem faultKept_reset_iff (h : p.internalFaultPending = true) (now : Millis) :
    FaultKept p (.reset (some now)) ↔
      ((p.core.raiseInternalFault now).2.requestReset now).1 ≠ .accepted := by
  have hreset : (p.protectionReset (some now)).1
      = ((p.core.raiseInternalFault now).2.requestReset now).1 := by
    simp only [protectionReset, applyPendingInternalFault_of_pending h]
  constructor
  · intro hkept
    rw [← hreset]
    exact hkept.refused (some now) rfl
  · intro hrej
    have hkept := core_step_kept p.core now (.requestReset now) (by
      rintro _ ⟨⟩
      exact hrej)
    refine ⟨?_, ?_, ?_⟩
    · simp only [step, protectionReset, applyPendingInternalFault_of_pending h]
      exact hkept.1
    · simp only [step, protectionReset, applyPendingInternalFault_of_pending h]
      exact hkept.2
    · rintro _ ⟨⟩
      rw [hreset]
      exact hrej

/-- **What becomes of a lock failure.** In every run from `protectionBegin`,
the next update, tick or reset that gets the lock after a failed update or
tick leaves a fault latched, if and only if it is not a reset for which the
newest sample passed to the core is valid, fresh and not over the threshold. -/
theorem pendingFault_kept_iff (c₀ : ProtectionCore) (t₀ : Millis) (calls : List ProtectionCall)
    (hfailed : lockFailed calls = true) (call : ProtectionCall) (now : Millis)
    (happlies : call.applies = some now) :
    FaultKept ((protectionBegin c₀ t₀).run calls) call ↔
      ¬ (call = .reset (some now) ∧
        ∃ m t, newestPassed calls = some (m, t) ∧ m.valid = true ∧
          now - m.timestamp ≤ c₀.config.maxMeasurementAgeMs ∧
          ¬ m.power > c₀.config.faultPowerW) := by
  have hpending : ((protectionBegin c₀ t₀).run calls).internalFaultPending = true :=
    (pending_lockFailed rfl calls).trans hfailed
  cases call with
  | acknowledge lock => cases happlies
  | getSnapshot lock => cases happlies
  | update m lock =>
    cases happlies
    exact iff_of_true (faultKept_update hpending m now) (by simp)
  | tick lock =>
    cases happlies
    exact iff_of_true (faultKept_tick hpending now) (by simp)
  | reset lock =>
    cases happlies
    -- the core with the fault applied is the core after one more call
    have hanswer := ProtectionCore.accepted_iff_newest c₀ t₀
      (.raiseInternalFault now :: (protectionBegin c₀ t₀).coreRun calls) now
    rw [ProtectionCore.run_cons, ProtectionCore.newest_other (by simp), newest_coreRun] at hanswer
    have hcore : ((protectionBegin c₀ t₀).run calls).core
        = ProtectionCore.run id (c₀.begin t₀) ((protectionBegin c₀ t₀).coreRun calls) :=
      run_core (protectionBegin c₀ t₀) calls
    rw [← hcore] at hanswer
    have hactive : (((protectionBegin c₀ t₀).run calls).core.step
        (.raiseInternalFault now)).fault.active = true := by
      simp [ProtectionCore.step, ProtectionCore.raiseInternalFault, ProtectionCore.raiseFault_eq]
    rw [faultKept_reset_iff hpending]
    refine not_congr (hanswer.trans ?_)
    simp [hactive]

/-- A good update after a failed tick latches. -/
theorem pendingFault_kept_by_update :
    FaultKept ((protectionBegin (.new exampleConfig) 0).run
        [.tick none, .update (meterSample 230.0 100.0 1000) (some 1000)])
      (.update (meterSample 230.0 100.0 2000) (some 2000)) :=
  (pendingFault_kept_iff (.new exampleConfig) 0
    [.tick none, .update (meterSample 230.0 100.0 1000) (some 1000)] (by decide)
    (.update (meterSample 230.0 100.0 2000) (some 2000)) 2000 rfl).mpr (by simp)

/-- **The pending fault is erased**: a good sample, a tick that fails to take
the mutex, and a reset 500 ms after the sample. The reset is accepted and no
fault is left. -/
theorem resetErasesPendingFault :
    let calls : List ProtectionCall :=
      [.tick none, .update (meterSample 230.0 100.0 1000) (some 1000)]
    let p := (protectionBegin (.new exampleConfig) 0).run calls
    lockFailed calls = true ∧ p.internalFaultPending = true ∧
      (p.protectionReset (some 1500)).1 = .accepted ∧
      (p.step (.reset (some 1500))).core.state = .init ∧
      ¬ FaultKept p (.reset (some 1500)) := by
  refine ⟨by decide, by decide, by decide, by decide, ?_⟩
  intro h
  exact h.refused (some 1500) rfl (by decide)

/-! ## The last reset result -/

@[simp] theorem resetResults_cons (p : Protection) (call : ProtectionCall)
    (earlier : List ProtectionCall) :
    p.resetResults (call :: earlier)
      = (p.run earlier).resetAnswers call ++ p.resetResults earlier := rfl

theorem applyPendingInternalFault_lastReset (p : Protection) (now : Millis) :
    (p.applyPendingInternalFault now).core.lastReset = p.core.lastReset := by
  unfold applyPendingInternalFault
  split
  · exact @ProtectionCore.step_lastReset p.core (.raiseInternalFault now) (by simp)
  · rfl

/-- A reset that gets the lock stores its answer in the core. -/
theorem step_lastReset_reset (p : Protection) (now : Millis) :
    (p.step (.reset (some now))).core.lastReset = (p.protectionReset (some now)).1 :=
  ProtectionCore.requestReset_lastReset (p.applyPendingInternalFault now).core now

/-- No other call touches the stored answer. -/
theorem step_lastReset_other (p : Protection) {call : ProtectionCall}
    (hcall : ∀ now, call ≠ .reset (some now)) :
    (p.step call).core.lastReset = p.core.lastReset := by
  have happly := applyPendingInternalFault_lastReset p
  rcases call with ⟨m, _ | now⟩ | ⟨_ | now⟩ | ⟨_ | now⟩ | ⟨_ | now⟩ | ⟨_ | now⟩
  case update.some =>
    rw [← happly now]
    exact @ProtectionCore.step_lastReset _ (.update m now) (by simp)
  case tick.some =>
    rw [← happly now]
    exact @ProtectionCore.step_lastReset _ (.tick now) (by simp)
  case reset.some => exact absurd rfl (hcall now)
  case acknowledge.some => exact @ProtectionCore.step_lastReset _ .acknowledge (by simp)
  all_goals rfl

/-- The core never stores REJECTED_BUSY. -/
theorem lastReset_ne_busy (c₀ : ProtectionCore) (t₀ : Millis) (calls : List ProtectionCall) :
    ((protectionBegin c₀ t₀).run calls).core.lastReset ≠ .rejectedBusy := by
  refine @Run.invariant _ _ step (fun p => p.core.lastReset ≠ .rejectedBusy) _ ?_ ?_ calls
  · simp [protectionBegin, ProtectionCore.begin]
  · intro p call h
    by_cases hcall : ∃ now, call = .reset (some now)
    · obtain ⟨now, rfl⟩ := hcall
      exact (step_lastReset_reset p now).symm ▸ ProtectionCore.requestReset_ne_busy _ now
    · rw [step_lastReset_other p (by simpa using hcall)]
      exact h

/-- A request that got the lock leaves its answer in the core until the next
request. -/
theorem lastReset_of_newestReset (c₀ : ProtectionCore) (t₀ : Millis)
    (calls : List ProtectionCall) (h : newestReset calls ≠ some none) :
    ((protectionBegin c₀ t₀).run calls).core.lastReset
      = ((protectionBegin c₀ t₀).resetResults calls).head?.getD .none := by
  induction calls with
  | nil => rfl
  | cons call earlier ih =>
    rw [run_cons, resetResults_cons]
    cases call with
    | reset lock =>
      cases lock with
      | none => exact absurd rfl h
      | some now => exact step_lastReset_reset _ now
    | _ =>
      rw [step_lastReset_other _ (by simp)]
      exact ih h

/-- A request that failed to take the mutex was answered REJECTED_BUSY. -/
theorem resetResults_of_lockFailed (p : Protection) (calls : List ProtectionCall)
    (h : newestReset calls = some none) :
    (p.resetResults calls).head? = some .rejectedBusy := by
  induction calls with
  | nil => simp [newestReset] at h
  | cons call earlier ih =>
    rw [resetResults_cons]
    cases call with
    | reset lock =>
      cases lock with
      | none => rfl
      | some now => simp [newestReset] at h
    | _ => exact ih h

/-- **The reported reset result**: a snapshot taken under the lock carries the
answer to the newest reset request since `protectionBegin` (NONE without one)
exactly if that request, if there was one, got the lock. -/
theorem lastResetResult_newest_iff (c₀ : ProtectionCore) (t₀ : Millis)
    (calls : List ProtectionCall) (now : Millis) :
    (((protectionBegin c₀ t₀).run calls).protectionGetSnapshot (some now)).lastResetResult
        = ((protectionBegin c₀ t₀).resetResults calls).head?.getD .none ↔
      newestReset calls ≠ some none := by
  change ((protectionBegin c₀ t₀).run calls).core.lastReset = _ ↔ _
  constructor
  · intro heq hfailed
    rw [resetResults_of_lockFailed _ _ hfailed] at heq
    exact lastReset_ne_busy c₀ t₀ calls heq
  · exact lastReset_of_newestReset c₀ t₀ calls

/-- **A stale ACCEPTED**: an internal fault is cleared by a reset, and a second
reset cannot take the mutex. The second was answered REJECTED_BUSY; the
snapshot still says ACCEPTED. -/
theorem busyReset_not_reported :
    let calls : List ProtectionCall :=
      [.reset none, .reset (some 1500), .update (meterSample 230.0 100.0 1000) (some 1000),
        .tick none]
    let p := (protectionBegin (.new exampleConfig) 0).run calls
    ((protectionBegin (.new exampleConfig) 0).resetResults calls).head? = some .rejectedBusy ∧
      (p.protectionGetSnapshot (some 1600)).lastResetResult = .accepted := by
  decide

end Protection

end EnergyController
