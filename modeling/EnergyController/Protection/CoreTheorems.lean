/-
EnergyController.Protection.CoreTheorems — what each operation of
`ProtectionCore` does, one lemma per case.

The cases are named by predicates on the state before the call:

* `classify` — the row of the policy table a sample falls in (`evaluate_eq`);
* `ignores`, `evaluates` — whether `update` looks at a sample at all
  (`update_of_fault`, `update_of_ignores`, `update_of_evaluates`);
* `silent` — whether `tick` finds the sample silence too long (`tick_eq`);
* `resetResult` — the answer of the reset interlock (`requestReset_of_accepted`,
  `requestReset_of_rejected`).

Later modules cite these lemmas and do not unfold the operations.
-/
import EnergyController.Protection.Core
import EnergyController.Protection.Policy

namespace EnergyController

/-- The row of the policy table that `m` falls in when it is evaluated at
`nowMs`. -/
def ProtectionConfig.classify (k : ProtectionConfig) (m : Measurement) (nowMs : Millis) :
    Verdict :=
  if k.maxMeasurementAgeMs < nowMs - m.timestamp then .stale
  else if m.valid = false then .invalid
  else if m.voltage ≤ k.minOperatingVoltageV then .noMains
  else if m.power > k.faultPowerW then .overload
  else if m.power > k.warningPowerW then .elevated
  else .normal

namespace ProtectionConfig

variable {k : ProtectionConfig} {m : Measurement} {nowMs : Millis}

/-- A sample above the stale and invalid rows is fresh and valid. -/
theorem fresh_of_classify (hs : k.classify m nowMs ≠ .stale)
    (hi : k.classify m nowMs ≠ .invalid) :
    nowMs - m.timestamp ≤ k.maxMeasurementAgeMs ∧ m.valid = true := by
  simp only [classify] at hs hi
  split at hs
  · simp at hs
  rename_i hfresh
  rw [if_neg hfresh] at hi
  refine ⟨BitVec.not_lt.mp hfresh, ?_⟩
  cases hv : m.valid with
  | true => rfl
  | false => simp [hv] at hi

/-- The rows that may keep the load on: mains present. -/
theorem mains_of_classify (hs : k.classify m nowMs ≠ .stale)
    (hi : k.classify m nowMs ≠ .invalid) :
    m.voltage ≤ k.minOperatingVoltageV ↔ k.classify m nowMs = .noMains := by
  obtain ⟨hfresh, hvalid⟩ := fresh_of_classify hs hi
  simp only [classify, BitVec.not_lt.mpr hfresh, hvalid, if_false, Bool.true_eq_false]
  split
  · simp_all
  · split
    · simp_all
    · split <;> simp_all

/-- A safe row: mains present and power not above the fault threshold. -/
theorem isSafe_classify_iff (hs : k.classify m nowMs ≠ .stale)
    (hi : k.classify m nowMs ≠ .invalid) :
    (k.classify m nowMs).isSafe = true
      ↔ ¬ m.voltage ≤ k.minOperatingVoltageV ∧ ¬ m.power > k.faultPowerW := by
  obtain ⟨hfresh, hvalid⟩ := fresh_of_classify hs hi
  simp only [classify, BitVec.not_lt.mpr hfresh, hvalid, if_false, Bool.true_eq_false]
  split
  · simp_all [Verdict.isSafe]
  · split
    · simp_all [Verdict.isSafe]
    · split <;> simp_all [Verdict.isSafe]

/-- What a sample in a safe row is. -/
theorem of_isSafe_classify (h : (k.classify m nowMs).isSafe = true) :
    nowMs - m.timestamp ≤ k.maxMeasurementAgeMs ∧ m.valid = true ∧
      ¬ m.voltage ≤ k.minOperatingVoltageV ∧ ¬ m.power > k.faultPowerW := by
  have hs : k.classify m nowMs ≠ .stale := fun hrow => by simp [hrow, Verdict.isSafe] at h
  have hi : k.classify m nowMs ≠ .invalid := fun hrow => by simp [hrow, Verdict.isSafe] at h
  obtain ⟨hfresh, hvalid⟩ := fresh_of_classify hs hi
  exact ⟨hfresh, hvalid, (isSafe_classify_iff hs hi).mp h⟩

theorem classify_overload_iff :
    k.classify m nowMs = .overload ↔
      nowMs - m.timestamp ≤ k.maxMeasurementAgeMs ∧ m.valid = true ∧
        ¬ m.voltage ≤ k.minOperatingVoltageV ∧ m.power > k.faultPowerW := by
  simp only [classify, ← BitVec.not_lt]
  split
  · simp_all
  · split
    · simp_all
    · split
      · simp_all
      · split
        · simp_all
        · split <;> simp_all

end ProtectionConfig

/-- The fault record once `fault` is raised: a latched record keeps its first
cause. -/
def FaultManager.raise (f : FaultManager) (fault : FaultCode) (nowMs : Millis) :
    FaultManager :=
  if f.active then f
  else
    { activeFault := fault, lastFault := fault, activeSince := nowMs, lastFaultTime := nowMs,
      totalFaults := f.totalFaults + 1, active := true, acknowledged := false }

theorem FaultManager.raise_of_active {f : FaultManager} (h : f.active = true)
    (fault : FaultCode) (nowMs : Millis) : f.raise fault nowMs = f := by
  simp [raise, h]

@[simp] theorem FaultManager.raise_active (f : FaultManager) (fault : FaultCode)
    (nowMs : Millis) : (f.raise fault nowMs).active = true := by
  cases h : f.active <;> simp [raise, h]

namespace ProtectionCore

variable {c : ProtectionCore} {m : Measurement} {nowMs : Millis}

/-! ## Raising a fault -/

theorem raiseFault_eq {fault : FaultCode} (hf : fault ≠ .none) :
    c.raiseFault fault nowMs
      = { c with
          fault := c.fault.raise fault nowMs
          timerActive := false
          state := .fault } := by
  cases ha : c.fault.active <;> simp [raiseFault, FaultManager.raise, hf, ha]

/-! ## Samples -/

/-- The over-threshold branch of `evaluate`. -/
def overload (c : ProtectionCore) (nowMs : Millis) : ProtectionCore :=
  if c.awaitingFirstSample then
    { c.raiseFault .overpower nowMs with awaitingFirstSample := false }
  else
    let start := if c.timerActive then c.timerStart else nowMs
    if c.config.faultConfirmMs ≤ nowMs - start then
      { c with timerStart := start }.raiseFault .overpower nowMs
    else
      { c with timerActive := true, timerStart := start, state := .warning }

/-- When the confirmation that an overload sample at `nowMs` belongs to began:
with this sample, unless the timer is running. -/
def confirmStart (c : ProtectionCore) (nowMs : Millis) : Millis :=
  if c.timerActive then c.timerStart else nowMs

theorem overload_of_awaiting (ha : c.awaitingFirstSample = true) :
    c.overload nowMs = { c.raiseFault .overpower nowMs with awaitingFirstSample := false } := by
  unfold overload
  rw [if_pos ha]

theorem overload_of_confirmed (ha : c.awaitingFirstSample = false)
    (hc : c.config.faultConfirmMs ≤ nowMs - c.confirmStart nowMs) :
    c.overload nowMs
      = { c with timerStart := c.confirmStart nowMs }.raiseFault .overpower nowMs := by
  unfold overload
  rw [if_neg (by simp [ha])]
  exact if_pos hc

theorem overload_of_running (ha : c.awaitingFirstSample = false)
    (hc : ¬ c.config.faultConfirmMs ≤ nowMs - c.confirmStart nowMs) :
    c.overload nowMs
      = { c with timerActive := true, timerStart := c.confirmStart nowMs, state := .warning } := by
  unfold overload
  rw [if_neg (by simp [ha])]
  exact if_neg hc

/-- What `evaluate` does in each row of the policy table. -/
def react (c : ProtectionCore) (v : Verdict) (nowMs : Millis) : ProtectionCore :=
  match v with
  | .stale => c.raiseFault .sensorStale nowMs
  | .invalid => c.raiseFault .sensorInvalid nowMs
  | .noMains => { c with timerActive := false, state := .init, awaitingFirstSample := true }
  | .overload => c.overload nowMs
  | .elevated => { c with timerActive := false, state := .warning, awaitingFirstSample := false }
  | .normal => { c with timerActive := false, state := .normal, awaitingFirstSample := false }

theorem evaluate_eq : c.evaluate m nowMs = c.react (c.config.classify m nowMs) nowMs := by
  by_cases hfresh : nowMs - m.timestamp ≤ c.config.maxMeasurementAgeMs
  case neg => simp [evaluate, ProtectionConfig.classify, react, hfresh, BitVec.not_le.mp hfresh]
  have hfresh' := BitVec.not_lt.mpr hfresh
  cases hvalid : m.valid
  case false => simp [evaluate, ProtectionConfig.classify, react, hfresh, hfresh', hvalid]
  by_cases hmains : m.voltage ≤ c.config.minOperatingVoltageV
  case pos => simp [evaluate, ProtectionConfig.classify, react, hfresh, hfresh', hvalid, hmains]
  by_cases hover : m.power > c.config.faultPowerW
  case neg =>
    simp only [evaluate, ProtectionConfig.classify, hfresh, hfresh', hvalid, hmains, hover,
      decide_true, Bool.not_true, Bool.false_eq_true, Bool.true_eq_false, if_false]
    split <;> rfl
  simp only [evaluate, ProtectionConfig.classify, hfresh, hfresh', hvalid, hmains, hover, react,
    overload, decide_true, Bool.not_true, Bool.false_eq_true, Bool.true_eq_false, if_false,
    if_true]
  cases ha : c.awaitingFirstSample
  case true => rfl
  -- the timer starts with this sample unless it is running
  cases ht : c.timerActive <;> simp [raiseFault_eq, ha, ht]

/-- The re-arm gate refuses samples taken before the re-arm point. -/
def ignores (c : ProtectionCore) (m : Measurement) : Bool :=
  c.awaitingFirstSample && decide ((m.timestamp - c.rearmMs).toInt < 0)

/-- Whether `update` evaluates the sample, rather than only storing it. -/
def evaluates (c : ProtectionCore) (m : Measurement) : Bool :=
  c.state != .fault && !c.ignores m

theorem update_snd (c : ProtectionCore) (m : Measurement) (nowMs : Millis) :
    (c.update m nowMs).2
      = if c.state = .fault then
          { c with last := m, haveMeasurement := true, lastSampleMs := nowMs }
        else if c.ignores m then { c with last := m, haveMeasurement := true }
        else
          { c with last := m, haveMeasurement := true, lastSampleMs := nowMs }.evaluate
            m nowMs := by
  simp only [update, apply_ite Prod.snd]
  rfl

theorem update_of_fault (h : c.state = .fault) :
    (c.update m nowMs).2
      = { c with last := m, haveMeasurement := true, lastSampleMs := nowMs } := by
  rw [update_snd, if_pos h]

theorem update_of_ignores (h : c.state ≠ .fault) (hi : c.ignores m = true) :
    (c.update m nowMs).2 = { c with last := m, haveMeasurement := true } := by
  rw [update_snd, if_neg h, if_pos hi]

theorem evaluates_iff :
    c.evaluates m = true ↔ c.state ≠ .fault ∧ c.ignores m = false := by
  simp [evaluates]

theorem update_of_evaluates (h : c.evaluates m = true) :
    (c.update m nowMs).2
      = { c with last := m, haveMeasurement := true, lastSampleMs := nowMs }.evaluate
          m nowMs := by
  obtain ⟨hstate, hi⟩ := evaluates_iff.mp h
  rw [update_snd, if_neg hstate, if_neg (by simp [hi])]

/-- The three ways of `update`. -/
theorem update_cases (c : ProtectionCore) (m : Measurement) :
    c.state = .fault ∨ (c.state ≠ .fault ∧ c.ignores m = true) ∨ c.evaluates m = true := by
  by_cases h : c.state = .fault
  · exact .inl h
  · cases hi : c.ignores m with
    | true => exact .inr (.inl ⟨h, rfl⟩)
    | false => exact .inr (.inr (evaluates_iff.mpr ⟨h, hi⟩))

/-! ## Silence -/

/-- Outside FAULT, no sample was consumed for too long. -/
def silent (c : ProtectionCore) (nowMs : Millis) : Bool :=
  c.state != .fault && decide (c.config.maxMeasurementAgeMs < nowMs - c.lastSampleMs)

theorem tick_eq :
    (c.tick nowMs).2 = if c.silent nowMs then c.raiseFault .sensorStale nowMs else c := by
  simp [tick, silent]

/-! ## The reset interlock -/

/-- The answer to a reset request. -/
def resetResult (c : ProtectionCore) (nowMs : Millis) : ResetResult :=
  if !c.fault.active then .rejectedNoActiveFault
  else if !c.haveMeasurement then .rejectedNoMeasurement
  else if nowMs - c.last.timestamp > c.config.maxMeasurementAgeMs then .rejectedStaleMeasurement
  else if !c.last.valid then .rejectedInvalidMeasurement
  else if c.last.power > c.config.faultPowerW then .rejectedUnsafeCondition
  else .accepted

/-- The state an accepted reset leaves: INIT, re-armed at the request. -/
def rearmed (c : ProtectionCore) (nowMs : Millis) : ProtectionCore :=
  { c with
    lastReset := .accepted
    fault := { c.fault with
      activeFault := .none, active := false, acknowledged := false, activeSince := 0 }
    timerActive := false
    timerStart := 0
    state := .init
    awaitingFirstSample := true
    rearmMs := nowMs
    lastSampleMs := nowMs }

theorem requestReset_eq :
    c.requestReset nowMs
      = (c.resetResult nowMs,
          if c.resetResult nowMs = .accepted then c.rearmed nowMs
          else { c with lastReset := c.resetResult nowMs }) := by
  have h : c.requestReset nowMs
      = if c.resetResult nowMs = .accepted then
          (c.resetResult nowMs, { c.rearmed nowMs with lastReset := c.resetResult nowMs })
        else (c.resetResult nowMs, { c with lastReset := c.resetResult nowMs }) := rfl
  rw [h]
  split
  · rename_i hr
    rw [hr]
    rfl
  · rfl

theorem requestReset_of_accepted (h : (c.requestReset nowMs).1 = .accepted) :
    (c.requestReset nowMs).2 = c.rearmed nowMs := by
  rw [requestReset_eq] at h ⊢
  exact if_pos h

/-- A rejected reset records its result and changes nothing else. -/
theorem requestReset_of_rejected (h : (c.requestReset nowMs).1 ≠ .accepted) :
    (c.requestReset nowMs).2 = { c with lastReset := (c.requestReset nowMs).1 } := by
  rw [requestReset_eq] at h ⊢
  exact if_neg h

/-! ## The other calls -/

/-- A result reports the state it leaves, and is never a synthesised one. -/
theorem update_result (c : ProtectionCore) (m : Measurement) (nowMs : Millis) :
    (c.update m nowMs).1.state = (c.update m nowMs).2.state ∧
      (c.update m nowMs).1.synchronizationFailed = false := by
  simp only [update]
  split
  · exact ⟨rfl, rfl⟩
  · split <;> exact ⟨rfl, rfl⟩

/-- A result compares the state it leaves with the state before the call. -/
theorem update_fst (c : ProtectionCore) (m : Measurement) (nowMs : Millis) :
    (c.update m nowMs).1 = (c.update m nowMs).2.finish c.state c.fault.activeFault := by
  simp only [update]
  split
  · rfl
  · split <;> rfl

theorem tick_fst (c : ProtectionCore) (nowMs : Millis) :
    (c.tick nowMs).1 = (c.tick nowMs).2.finish c.state c.fault.activeFault := rfl

theorem raiseInternalFault_fst (c : ProtectionCore) (nowMs : Millis) :
    (c.raiseInternalFault nowMs).1
      = (c.raiseInternalFault nowMs).2.finish c.state c.fault.activeFault := rfl

theorem tick_result (c : ProtectionCore) (nowMs : Millis) :
    (c.tick nowMs).1.state = (c.tick nowMs).2.state ∧
      (c.tick nowMs).1.synchronizationFailed = false := ⟨rfl, rfl⟩

theorem acknowledge_fst (c : ProtectionCore) : c.acknowledge.1 = c.fault.active := by
  cases h : c.fault.active <;> simp [acknowledge, h]

theorem acknowledge_of_inactive (h : c.fault.active = false) : c.acknowledge.2 = c := by
  simp [acknowledge, h]

theorem acknowledge_of_active (h : c.fault.active = true) :
    c.acknowledge.2 = { c with fault := { c.fault with acknowledged := true } } := by
  simp [acknowledge, h]

/-- What no verdict touches. -/
structure SameFrame (c c' : ProtectionCore) : Prop where
  config : c'.config = c.config
  last : c'.last = c.last
  haveMeasurement : c'.haveMeasurement = c.haveMeasurement
  lastSampleMs : c'.lastSampleMs = c.lastSampleMs
  lastReset : c'.lastReset = c.lastReset
  rearmMs : c'.rearmMs = c.rearmMs

theorem sameFrame_react (c : ProtectionCore) (v : Verdict) (nowMs : Millis) :
    c.SameFrame (c.react v nowMs) := by
  cases v with
  | overload =>
    simp only [react, overload]
    generalize (if c.timerActive = true then c.timerStart else nowMs) = start
    split
    · constructor <;> simp [raiseFault_eq]
    · split <;> constructor <;> simp [raiseFault_eq]
  | _ => constructor <;> simp [react, raiseFault_eq]

/-- Only a reset request touches the stored reset result, and no other call the
configuration. -/
theorem step_untouched (c : ProtectionCore) {call : CoreCall}
    (hcall : ∀ nowMs, call ≠ .requestReset nowMs) :
    (c.step call).config = c.config ∧ (c.step call).lastReset = c.lastReset := by
  cases call with
  | update m nowMs =>
    rcases c.update_cases m with h | ⟨h, hi⟩ | he
    · simp [step, update_of_fault h]
    · simp [step, update_of_ignores h hi]
    · rw [step, update_of_evaluates he, evaluate_eq]
      exact ⟨(sameFrame_react _ _ _).config, (sameFrame_react _ _ _).lastReset⟩
  | tick nowMs =>
    simp only [step, tick_eq]
    split <;> simp [raiseFault_eq]
  | requestReset nowMs => exact absurd rfl (hcall nowMs)
  | acknowledge =>
    cases h : c.fault.active
    · simp [step, acknowledge_of_inactive h]
    · simp [step, acknowledge_of_active h]
  | raiseInternalFault nowMs => simp [step, raiseInternalFault, raiseFault_eq]
  | snapshot nowMs => exact ⟨rfl, rfl⟩

theorem step_lastReset (c : ProtectionCore) {call : CoreCall}
    (hcall : ∀ nowMs, call ≠ .requestReset nowMs) : (c.step call).lastReset = c.lastReset :=
  (c.step_untouched hcall).2

/-- No call changes the configuration. -/
theorem step_config (c : ProtectionCore) (call : CoreCall) :
    (c.step call).config = c.config := by
  cases call with
  | requestReset nowMs =>
    by_cases h : (c.requestReset nowMs).1 = .accepted
    · simp [step, requestReset_of_accepted h, rearmed]
    · simp [step, requestReset_of_rejected h]
  | _ => exact (c.step_untouched (by simp)).1

/-- A reset request stores its answer. -/
theorem requestReset_lastReset (c : ProtectionCore) (nowMs : Millis) :
    (c.requestReset nowMs).2.lastReset = (c.requestReset nowMs).1 := by
  by_cases h : (c.requestReset nowMs).1 = .accepted
  · rw [requestReset_of_accepted h, h]
    rfl
  · rw [requestReset_of_rejected h]

/-- The interlock itself is never busy. -/
theorem requestReset_ne_busy (c : ProtectionCore) (nowMs : Millis) :
    (c.requestReset nowMs).1 ≠ .rejectedBusy := by
  rw [requestReset_eq]
  simp only [resetResult]
  split
  · simp
  · split
    · simp
    · split
      · simp
      · split
        · simp
        · split <;> simp

end ProtectionCore

end EnergyController
