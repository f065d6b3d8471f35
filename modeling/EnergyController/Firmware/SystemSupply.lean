/-
EnergyController.Firmware.SystemSupply — the supply is not interrupted without a
cause, and comes back after a reset.

The other direction of `SystemExposure`: while ControlTask gets the mutex and
polls in time, and the samples it receives are fresh and within the limits, no
fault is recorded, and the load that the first sample has switched on stays
supplied. Neither commands, typed or received, nor the network, nor the other
tasks can switch it off; only a supervisor that finds the tasks unhealthy, and a
`setup` that fails, drive the outputs OFF.

All of it is proved from a moment at which the core is re-armed, `start`: the
power-on, or an accepted reset. Samples taken before it may still be on their
way; the core ignores them.
-/
import EnergyController.Firmware.SystemResponse

namespace EnergyController

/-! ## The core -/

/-- A reading within the limits. -/
structure Measurement.Harmless (m : Measurement) (k : ProtectionConfig) : Prop where
  valid : m.valid = true
  mains : m.voltage > k.minOperatingVoltageV
  power : m.power ≤ k.faultPowerW

instance (m : Measurement) (k : ProtectionConfig) : Decidable (m.Harmless k) :=
  decidable_of_iff (m.valid = true ∧ m.voltage > k.minOperatingVoltageV ∧ m.power ≤ k.faultPowerW)
    ⟨fun ⟨hvalid, hmains, hpower⟩ => ⟨hvalid, hmains, hpower⟩,
      fun h => ⟨h.valid, h.mains, h.power⟩⟩

namespace ProtectionCore

/-- The core, re-armed at `start` with the fault record `record`, has recorded
no fault since. `lastSample` is when it last saw a sample, and `fed` whether it
has seen one since `start`. -/
structure Calm (c : ProtectionCore) (k : ProtectionConfig) (record : FaultManager)
    (start lastSample : ℕ) (fed : Bool) : Prop where
  config : c.config = k
  fault : c.fault = record
  inactive : record.active = false
  rearm : c.rearmMs = millis start
  silence : c.lastSampleMs = millis lastSample
  awaiting : c.awaitingFirstSample = !fed
  not_fault : c.state ≠ .fault
  operating : fed = true → c.state.isOperating = true

/-! A core is calm from its start, and from an accepted reset on. -/

theorem calm_begin (k : ProtectionConfig) (start : ℕ) :
    ((new k).begin (millis start)).Calm k .cleared start start false where
  config := rfl
  fault := rfl
  inactive := rfl
  rearm := rfl
  silence := rfl
  awaiting := rfl
  not_fault := by simp [begin]
  operating := by simp

theorem calm_rearmed (c : ProtectionCore) (start : ℕ) :
    (c.rearmed (millis start)).Calm c.config (c.rearmed (millis start)).fault start start
      false where
  config := rfl
  fault := rfl
  inactive := rfl
  rearm := rfl
  silence := rfl
  awaiting := rfl
  not_fault := by simp [rearmed]
  operating := by simp

variable {c : ProtectionCore} {k : ProtectionConfig} {record : FaultManager}
  {start lastSample : ℕ} {fed : Bool}

/-- A harmless reading, evaluated within the limit. -/
theorem react_harmless {m : Measurement} (hm : m.Harmless k) {nowMs : Millis}
    (hfresh : nowMs - m.timestamp ≤ k.maxMeasurementAgeMs) :
    k.classify m nowMs = .elevated ∨ k.classify m nowMs = .normal := by
  have hfresh := BitVec.not_lt.mpr hfresh
  have hmains := FloatOrder.not_le_of_lt hm.mains
  have hpower := FloatOrder.not_lt_of_le hm.power
  simp only [ProtectionConfig.classify, hfresh, hm.valid, hmains, hpower, if_false,
    Bool.true_eq_false, gt_iff_lt]
  split
  · exact .inl rfl
  · exact .inr rfl

/-- **A harmless sample keeps it calm**, and the load supplied: it is fresh, valid and
within the limits, so it passes the gate and raises nothing. -/
theorem Calm.update (h : c.Calm k record start lastSample fed) {m : Measurement} {taken t : ℕ}
    (hm : m.Harmless k) (hstamp : m.timestamp = millis taken)
    (hage : k.maxMeasurementAgeMs.toNat < 2 ^ 31) (hstart : start ≤ taken) (htaken : taken ≤ t)
    (hfresh : t - taken ≤ k.maxMeasurementAgeMs.toNat)
    (hfirst : fed = false → t - start ≤ k.maxMeasurementAgeMs.toNat) :
    (c.update m (millis t)).2.Calm k record start t true := by
  -- the re-arm gate lets the first sample in
  have hgate : c.ignores m = false := by
    rw [ignores, h.awaiting]
    cases fed with
    | true => rfl
    | false =>
      have hshort := hfirst rfl
      simp only [Bool.not_false, Bool.true_and, decide_eq_false_iff_not]
      rw [hstamp, h.rearm, millis, millis, WrappedClock.toInt_sub_reading_neg_iff hstart,
        Nat.mod_eq_of_lt (by omega)]
      omega
  have hevaluates : c.evaluates m = true := evaluates_iff.mpr ⟨h.not_fault, hgate⟩
  have hage32 : millis t - m.timestamp ≤ k.maxMeasurementAgeMs := by
    rw [hstamp]
    exact (WrappedClock.sub_reading_le_iff htaken (by omega) _).mpr hfresh
  rw [update_of_evaluates hevaluates, evaluate_eq, show c.config.classify m (millis t) = _ from
    congrArg (fun k => k.classify m (millis t)) h.config]
  rcases react_harmless hm hage32 with hrow | hrow
  · rw [hrow]
    exact ⟨h.config, h.fault, h.inactive, h.rearm, rfl, rfl, by simp [react], fun _ => rfl⟩
  · rw [hrow]
    exact ⟨h.config, h.fault, h.inactive, h.rearm, rfl, rfl, by simp [react], fun _ => rfl⟩

/-- A sample from before the core was re-armed. -/
theorem Calm.update_before (h : c.Calm k record start lastSample false) {m : Measurement}
    {taken : ℕ} (hstamp : m.timestamp = millis taken) (hbefore : taken < start)
    (hshort : start - taken ≤ 2 ^ 31) (nowMs : Millis) :
    (c.update m nowMs).2.Calm k record start lastSample false := by
  have hignored : c.ignores m = true := by
    simp only [ignores, h.awaiting, Bool.not_false, Bool.true_and, decide_eq_true_eq]
    rw [hstamp, h.rearm]
    exact WrappedClock.toInt_sub_reading_neg_of_gt hbefore (by omega)
  rw [update_of_ignores h.not_fault hignored]
  exact { h with }

/-- A tick within the freshness limit does nothing. -/
theorem Calm.tick (h : c.Calm k record start lastSample fed) {t : ℕ}
    (hage : k.maxMeasurementAgeMs.toNat < 2 ^ 31) (hle : lastSample ≤ t)
    (hshort : t - lastSample ≤ k.maxMeasurementAgeMs.toNat) : (c.tick (millis t)).2 = c := by
  have hquiet : c.silent (millis t) = false := by
    have hage32 := (WrappedClock.sub_reading_le_iff hle (by omega) _).mpr hshort
    simp only [silent, h.config, h.silence, Bool.and_eq_false_iff, decide_eq_false_iff_not]
    exact .inr (BitVec.not_lt.mpr hage32)
  rw [tick_eq, hquiet]
  rfl

/-- There is nothing to reset. -/
theorem Calm.requestReset (h : c.Calm k record start lastSample fed) (nowMs : Millis) :
    (c.requestReset nowMs).1 = .rejectedNoActiveFault ∧
      (c.requestReset nowMs).2.Calm k record start lastSample fed := by
  have hresult : (c.requestReset nowMs).1 = .rejectedNoActiveFault := by
    rw [requestReset_eq]
    simp [resetResult, h.fault, h.inactive]
  refine ⟨hresult, ?_⟩
  rw [requestReset_of_rejected (by rw [hresult]; decide)]
  exact { h with }

theorem Calm.acknowledge (h : c.Calm k record start lastSample fed) : c.acknowledge.2 = c :=
  acknowledge_of_inactive (by rw [h.fault]; exact h.inactive)

end ProtectionCore

/-! ## The wrapper -/

namespace Protection

/-- The wrapper over a calm core, with no lock failure pending. -/
structure Calm (p : Protection) (k : ProtectionConfig) (record : FaultManager)
    (start lastSample : ℕ) (fed : Bool) : Prop where
  pending : p.internalFaultPending = false
  core : p.core.Calm k record start lastSample fed

variable {p : Protection} {k : ProtectionConfig} {record : FaultManager}
  {start lastSample : ℕ} {fed : Bool}

/-- A poll with a harmless sample commands ON. -/
theorem Calm.poll_some (h : p.Calm k record start lastSample fed) {m : QueuedMeasurement}
    {taken t : ℕ} (hm : m.1.Harmless k) (hstamp : m.1.timestamp = millis taken)
    (hage : k.maxMeasurementAgeMs.toNat < 2 ^ 31) (hstart : start ≤ taken) (htaken : taken ≤ t)
    (hfresh : t - taken ≤ k.maxMeasurementAgeMs.toNat)
    (hfirst : fed = false → t - start ≤ k.maxMeasurementAgeMs.toNat) :
    (p.poll (some m) (some (millis t))).2.Calm k record start t true ∧
      (p.poll (some m) (some (millis t))).1.commandsOn = true := by
  have hcore := h.core.update hm hstamp hage hstart htaken hfresh hfirst
  have happly : p.applyPendingInternalFault (millis t) = p := if_neg (by simp [h.pending])
  have hresult := ProtectionCore.update_result p.core m.1 (millis t)
  simp only [poll, protectionUpdate, happly]
  refine ⟨⟨h.pending, hcore⟩, ?_⟩
  rw [ProtectionResult.commandsOn_eq, hresult.1, hresult.2, hcore.operating rfl]
  rfl

/-- A poll with a sample from before the core was re-armed. -/
theorem Calm.poll_before (h : p.Calm k record start lastSample false) {m : QueuedMeasurement}
    {taken : ℕ} (hstamp : m.1.timestamp = millis taken) (hbefore : taken < start)
    (hshort : start - taken ≤ 2 ^ 31) (now : Millis) :
    (p.poll (some m) (some now)).2.Calm k record start lastSample false := by
  have hcore := h.core.update_before hstamp hbefore hshort now
  have happly : p.applyPendingInternalFault now = p := if_neg (by simp [h.pending])
  simp only [poll, protectionUpdate, happly]
  exact ⟨h.pending, hcore⟩

/-- A poll without a sample is a tick; it commands what the core stands for. -/
theorem Calm.poll_none (h : p.Calm k record start lastSample fed) {t : ℕ}
    (hage : k.maxMeasurementAgeMs.toNat < 2 ^ 31) (hle : lastSample ≤ t)
    (hshort : t - lastSample ≤ k.maxMeasurementAgeMs.toNat) :
    (p.poll none (some (millis t))).2.Calm k record start lastSample fed ∧
      (fed = true → (p.poll none (some (millis t))).1.commandsOn = true) := by
  have hcore := h.core.tick hage hle hshort
  have happly : p.applyPendingInternalFault (millis t) = p := if_neg (by simp [h.pending])
  have hresult := ProtectionCore.tick_result p.core (millis t)
  simp only [poll, protectionTick, happly]
  refine ⟨⟨h.pending, hcore.symm ▸ h.core⟩, fun hfed => ?_⟩
  rw [ProtectionResult.commandsOn_eq, hresult.1, hresult.2, hcore, h.core.operating hfed]
  rfl

/-- With no fault active every reset is refused, and leaves only its result behind. -/
theorem Calm.protectionReset (h : p.Calm k record start lastSample fed) (lock : Lock) :
    (p.protectionReset lock).1 ≠ .accepted ∧
      (p.protectionReset lock).2.Calm k record start lastSample fed := by
  cases lock with
  | none => exact ⟨by simp [Protection.protectionReset], h⟩
  | some now =>
    obtain ⟨hresult, hcore⟩ := h.core.requestReset now
    have happly : p.applyPendingInternalFault now = p := if_neg (by simp [h.pending])
    simp only [Protection.protectionReset, happly]
    exact ⟨by rw [hresult]; decide, h.pending, hcore⟩

theorem Calm.protectionAcknowledge (h : p.Calm k record start lastSample fed) (lock : Lock) :
    (p.protectionAcknowledge lock).2.Calm k record start lastSample fed := by
  cases lock with
  | none => exact h
  | some now =>
    have hcore := h.core
    rw [← h.core.acknowledge] at hcore
    exact ⟨h.pending, hcore⟩

/-- What an accepted reset leaves. -/
theorem calm_of_accepted {t : ℕ} (hconfig : p.core.config = k)
    (haccepted : (p.protectionReset (some (millis t))).1 = .accepted) :
    (p.protectionReset (some (millis t))).2.Calm k
      (p.protectionReset (some (millis t))).2.core.fault t t false := by
  have hpending := applyPendingInternalFault_pending p (millis t)
  have hsame : (p.applyPendingInternalFault (millis t)).core.config = k := by
    rw [applyPendingInternalFault_core, ProtectionCore.run_config, hconfig]
  simp only [Protection.protectionReset] at haccepted ⊢
  rw [ProtectionCore.requestReset_of_accepted haccepted]
  refine ⟨hpending, ?_⟩
  rw [← hsame]
  exact ProtectionCore.calm_rearmed _ t

end Protection

/-! ## The tasks -/

namespace Firmware

/-- ControlTask does not run before it is created. -/
def Unborn (s : Firmware) : Prop :=
  (s.setup = .resources ∨ s.setup = .creating .sensor ∨ s.setup = .creating .control) →
    s.control = .notCreated

/-- ControlTask holds no result that commands OFF, and has applied none, once it
has passed on a sample. -/
structure Fed (s : Firmware) (fed : Bool) : Prop where
  unfed : s.control = .notCreated ∨ s.control = .resetting → fed = false
  holding : ∀ result, s.control = .applying result → fed = true → result.commandsOn = true
  on : ¬ s.Forced → (s.control = .receiving ∨ s.control = .draining) → fed = true →
    s.task.actuator.commandedOn = true

variable {cfg : FirmwareConfig} {s : Firmware} {fed : Bool}

theorem step_unborn (h : s.Unborn) (st : FirmwareStep) : (s.step cfg st).Unborn := by
  have hcontrol : (s.controlStep cfg st).Unborn := by
    intro hs
    rw [(controlStep_others cfg s st).1] at hs
    have hc := h hs
    unfold controlStep
    simp only [hc]
  have hsetup : (s.setupStep cfg st).Unborn := by
    unfold setupStep
    split
    · rename_i ok hs
      exact fun _ => h (.inl hs)
    · rename_i task ok hs
      cases ok with
      | false => simp [Unborn]
      | true =>
        cases task with
        | sensor => exact fun _ => h (.inr (.inl hs))
        | _ => simp [Unborn, created]
    · simp [Unborn, applyState]
    · exact h
  have hwatchdog : (s.watchdogStep cfg st).Unborn := by
    unfold watchdogStep
    split
    · split <;> exact h
    · exact h
    · exact h
    · exact h
  unfold step
  split
  · exact h
  · split <;> assumption

/-- Before the first sample, nothing is said of the outputs. -/
theorem fed_false (s : Firmware) : s.Fed false where
  unfed _ := rfl
  holding := by simp
  on := by simp

/-! Of the other tasks, `fatalStop` and the supervisor drive the outputs OFF, and are
then `Forced`; nothing else of theirs touches the relay. -/

theorem Fed.setupStep (h : s.Fed fed) (hborn : s.Unborn) (st : FirmwareStep)
    (hforced : ¬ (s.setupStep cfg st).Forced → ¬ s.Forced) : (s.setupStep cfg st).Fed fed := by
  unfold Firmware.setupStep at hforced ⊢
  split at hforced
  · exact { h with on := fun hf => h.on (hforced hf) }
  · rename_i task ok hs
    cases ok with
    | false => exact { h with on := fun hf => h.on (hforced hf) }
    | true =>
      cases task with
      | control =>
        rw [h.unfed (.inl (hborn (.inr (.inr hs))))]
        exact fed_false _
      | _ => exact { h with on := fun hf => h.on (hforced hf) }
  · exact { h with on := fun hf => absurd (.inr (.inr rfl)) hf }
  · exact h

theorem Fed.watchdogStep (h : s.Fed fed) (st : FirmwareStep)
    (hforced : ¬ (s.watchdogStep cfg st).Forced → ¬ s.Forced) :
    (s.watchdogStep cfg st).Fed fed := by
  unfold Firmware.watchdogStep at hforced ⊢
  split at hforced
  · rename_i healthy hs
    cases healthy with
    | true => exact h
    | false => exact { h with on := fun hf => h.on (hforced hf) }
  · exact { h with on := fun hf => absurd (.inl rfl) hf }
  · exact { h with on := fun hf => absurd (.inr (.inl rfl)) hf }
  · exact h

/-- The outputs that ControlTask applies. -/
theorem Fed.controlStep (h : s.Fed fed) {st : FirmwareStep} (hst : st.usesQueue = false) :
    (s.controlStep cfg st).Fed fed := by
  unfold Firmware.controlStep
  split
  · cases hst
  · rename_i result readback hc
    exact {
      unfed := by simp
      holding := by simp
      on := fun _ _ hfed => h.holding result hc hfed }
  · cases hst
  · rename_i readback hc
    rw [h.unfed (.inr hc)]
    exact fed_false _
  · cases hst
  · exact h

theorem Fed.other (h : s.Fed fed) (ho : s.Ordered) (hborn : s.Unborn) {st : FirmwareStep}
    (hst : st.usesQueue = false) : (s.step cfg st).Fed fed := by
  have hforced : ¬ (s.step cfg st).Forced → ¬ s.Forced :=
    fun hnot hf => hnot (forced_step ho hf st)
  revert hforced
  unfold Firmware.step
  split
  · exact fun _ => h
  · split <;> first
      | exact h.setupStep hborn _
      | exact h.watchdogStep _
      | exact fun _ => h.controlStep hst

/-- ControlTask goes on: it polls, executes a command, or begins anew. -/
theorem fed_control {task : ControlTask} {control : ControlPc}
    (hcontrol : control ≠ .notCreated ∧ control ≠ .resetting)
    (hholding : ∀ result, control = .applying result → fed = true → result.commandsOn = true)
    (hon : ¬ s.Forced → (control = .receiving ∨ control = .draining) → fed = true →
      task.actuator.commandedOn = true) :
    Fed { s with task := task, control := control } fed where
  unfed hc := hc.elim (fun hc => absurd hc hcontrol.1) fun hc => absurd hc hcontrol.2
  holding := hholding
  on := hon

/-- A poll in full, with what it leaves to be applied. -/
theorem step_poll (hw : s.watchdog ≠ .restarted) (hc : s.control = .receiving)
    (received : Option QueuedMeasurement) (lock : Lock) :
    s.step cfg (.controlPoll received lock)
      = { s with
          task := { s.task with protection := (s.task.protection.poll received lock).2 }
          control := .applying (s.task.protection.poll received lock).1 } := by
  simp [step, hw, controlStep, hc]

/-- No command disturbs a calm protection. -/
theorem Fed.command (h : s.Fed fed) (hw : s.watchdog ≠ .restarted) (hc : s.control = .draining)
    {k : ProtectionConfig} {record : FaultManager} {start lastSample : ℕ} {fed' : Bool}
    (hcalm : s.task.protection.Calm k record start lastSample fed') (type : CommandType)
    (lock : Lock) :
    (s.step cfg (.controlCommand type lock)).Fed fed ∧
      (s.step cfg (.controlCommand type lock)).task.protection.Calm k record start lastSample
        fed' := by
  have hstep : s.step cfg (.controlCommand type lock)
      = s.controlStep cfg (.controlCommand type lock) := if_neg hw
  rw [hstep]
  unfold Firmware.controlStep
  simp only [hc]
  have hgoes (protection : Protection) (control : ControlPc) (hcontrol : control = .draining) :
      Fed { s with task := { s.task with protection := protection }, control := control } fed :=
    fed_control (by simp [hcontrol]) (by simp [hcontrol]) fun hf _ hfed => h.on hf (.inr hc) hfed
  obtain ⟨hresult, hreset⟩ := hcalm.protectionReset lock
  have hacknowledge := hcalm.protectionAcknowledge lock
  cases type with
  | reset => exact ⟨hgoes _ _ (by simp [hresult]), hreset⟩
  | remoteReset => exact ⟨hgoes _ _ (by simp [hresult]), hreset⟩
  | ack => exact ⟨hgoes _ _ rfl, hacknowledge⟩
  | remoteAck => exact ⟨hgoes _ _ rfl, hacknowledge⟩
  | _ => exact ⟨h, hcalm⟩

theorem Fed.loop (h : s.Fed fed) : (s.step cfg .controlLoop).Fed fed := by
  have hstep : s.step cfg .controlLoop
      = if s.watchdog = .restarted then s else s.controlStep cfg .controlLoop := rfl
  rw [hstep]
  split
  · exact h
  · unfold Firmware.controlStep
    cases hc : s.control with
    | draining =>
      have hloop : Fed { s with control := .receiving } fed :=
        fed_control (by simp) (by simp) fun hf _ hfed => h.on hf (.inr hc) hfed
      exact hloop
    | _ => exact h

/-- A command that has a reset accepted. -/
theorem accepted_of_resetting (hw : s.watchdog ≠ .restarted) (hc : s.control = .draining)
    {type : CommandType} {lock : Lock}
    (hresetting : (s.step cfg (.controlCommand type lock)).control = .resetting) :
    (s.task.protection.protectionReset lock).1 = .accepted ∧
      (s.step cfg (.controlCommand type lock)).task.protection
        = (s.task.protection.protectionReset lock).2 := by
  have hstep : s.step cfg (.controlCommand type lock)
      = s.controlStep cfg (.controlCommand type lock) := if_neg hw
  rw [hstep] at hresetting ⊢
  unfold Firmware.controlStep at hresetting ⊢
  simp only [hc] at hresetting ⊢
  cases type with
  | reset =>
    refine ⟨?_, rfl⟩
    by_contra hno
    simp [hno] at hresetting
  | remoteReset =>
    refine ⟨?_, rfl⟩
    by_contra hno
    simp [hno] at hresetting
  | ack => simp at hresetting
  | remoteAck => simp at hresetting
  | _ => exact absurd (hc.symm.trans hresetting) (by simp)

end Firmware

/-! ## Scheduling -/

/-- When the core was last passed a sample from `start` on, or re-armed. -/
def lastPassed (start : ℕ) : List SystemEvent → ℕ
  | [] => start
  | .polled (some sample) t true :: earlier =>
    if start ≤ sample.takenAt then t else lastPassed start earlier
  | _ :: earlier => lastPassed start earlier

/-- The core has been passed a sample from `start` on. -/
def fed (start : ℕ) : List SystemEvent → Bool
  | [] => false
  | .polled (some sample) _ true :: earlier => start ≤ sample.takenAt || fed start earlier
  | _ :: earlier => fed start earlier

/-- A poll gets the mutex, and comes within the freshness limit of the last
sample from `start` on; what it receives is fresh, and within the limits if it
was taken from `start` on. -/
def Undisturbed (cfg : FirmwareConfig) (start : ℕ) (earlier : List SystemEvent) :
    SystemEvent → Prop
  | .polled received t locked =>
    locked = true ∧ t - lastPassed start earlier ≤ cfg.maxMeasurementAgeMs.toNat ∧
      ∀ sample ∈ received, t - sample.takenAt ≤ cfg.maxMeasurementAgeMs.toNat ∧
        (start ≤ sample.takenAt → sample.measurement.1.Harmless (makeConfig cfg))
  | _ => True

instance (cfg : FirmwareConfig) (start : ℕ) (earlier : List SystemEvent) :
    (e : SystemEvent) → Decidable (Undisturbed cfg start earlier e)
  | .polled _ _ _ => inferInstanceAs (Decidable (_ ∧ _ ∧ _))
  | .read _ | .sent _ | .lost _ | .typed _ | .enqueued _ _
  | .executed _ _ _ => inferInstanceAs (Decidable True)

theorem lastPassed_polled (start : ℕ) (received : Option Sample) (t : ℕ) (locked : Bool)
    (h : List SystemEvent) :
    lastPassed start (.polled received t locked :: h) = t ∨
      lastPassed start (.polled received t locked :: h) = lastPassed start h := by
  cases received with
  | none => exact .inr rfl
  | some sample =>
    cases locked with
    | true =>
      rw [lastPassed]
      split
      · exact .inl rfl
      · exact .inr rfl
    | false => exact .inr rfl

/-- Whoever is fed has received a sample that was taken since. -/
theorem fed_mem {start : ℕ} {h : List SystemEvent} (hfed : fed start h = true) :
    ∃ sample ∈ h.filterMap SystemEvent.received?, start ≤ sample.takenAt := by
  induction h with
  | nil => cases hfed
  | cons e earlier ih =>
    have hmore : fed start earlier = true →
        ∃ sample ∈ (e :: earlier).filterMap SystemEvent.received?, start ≤ sample.takenAt :=
      fun hfed => (ih hfed).imp fun sample hs =>
        ⟨((List.sublist_cons_self _ _).filterMap _).subset hs.1, hs.2⟩
    cases e with
    | polled received t locked =>
      cases received with
      | none => exact hmore hfed
      | some sample =>
        cases locked with
        | false => exact hmore hfed
        | true =>
          rw [fed, Bool.or_eq_true, decide_eq_true_iff] at hfed
          rcases hfed with hstart | hfed
          · exact ⟨sample, by simp [SystemEvent.received?], hstart⟩
          · exact hmore hfed
    | _ => exact hmore hfed

/-- Only polls count. -/
theorem undisturbed_quiet (cfg : FirmwareConfig) (start : ℕ) {es h : List SystemEvent}
    (hes : ∀ e ∈ es, ∀ received t locked, e ≠ .polled received t locked) :
    fed start (es ++ h) = fed start h ∧ lastPassed start (es ++ h) = lastPassed start h ∧
      (Run.Every (Undisturbed cfg start) (es ++ h) → Run.Every (Undisturbed cfg start) h) := by
  induction es with
  | nil => exact ⟨rfl, rfl, id⟩
  | cons e es ih =>
    obtain ⟨hfed, hlast, hevery⟩ := ih fun e' he' => hes e' (List.mem_cons_of_mem _ he')
    have he := hes e List.mem_cons_self
    cases e with
    | polled received t locked => exact absurd rfl (he received t locked)
    | _ => exact ⟨hfed, hlast, fun h => hevery h.tail⟩

namespace System

variable {cfg : SystemConfig} {s : System cfg} {before h : List SystemEvent} {start : ℕ}
  {record : FaultManager}

/-- What holds of every run, disturbed or not, with the history `h` since the
core was re-armed and what was `before`. -/
structure Timeline (before : List SystemEvent) (start : ℕ) (s : System cfg)
    (h : List SystemEvent) : Prop where
  samples : SamplePath s (h ++ before)
  ordered : s.firmware.Ordered
  unborn : s.firmware.Unborn
  passed_le : lastPassed start h ≤ s.clock

/-- What is kept of the supply: the protection is calm, and the relay commanded ON
between the polls once the core is fed. -/
structure SupplyKept (start : ℕ) (record : FaultManager) (s : System cfg) (h : List SystemEvent) :
    Prop where
  calm : s.firmware.task.protection.Calm (makeConfig cfg.firmware) record start
    (lastPassed start h) (fed start h)
  first : fed start h = false → lastPassed start h = start
  tasks : s.firmware.Fed (fed start h)

def SupplyInv (before : List SystemEvent) (start : ℕ) (record : FaultManager) (s : System cfg)
    (h : List SystemEvent) : Prop :=
  Timeline before start s h ∧
    (Run.Every (Undisturbed cfg.firmware start) h → SupplyKept start record s h)

/-- A core that has just been re-armed. -/
theorem supplyInv_rearmed (hsamples : SamplePath s before) (hordered : s.firmware.Ordered)
    (hunborn : s.firmware.Unborn)
    (hcalm : s.firmware.task.protection.Calm (makeConfig cfg.firmware) record s.clock s.clock
      false) :
    SupplyInv before s.clock record s [] :=
  ⟨⟨hsamples, hordered, hunborn, Nat.le_refl _⟩,
    fun _ => ⟨hcalm, fun _ => rfl, Firmware.fed_false s.firmware⟩⟩

/-- A step without a poll. -/
theorem SupplyInv.quiet (hp : SupplyInv before start record s h) {s' : System cfg}
    {es : List SystemEvent} (hsamples : SamplePath s' (es ++ h ++ before))
    (hclock : s.clock ≤ s'.clock) (hordered : s'.firmware.Ordered) (hunborn : s'.firmware.Unborn)
    (hes : ∀ e ∈ es, ∀ received t locked, e ≠ .polled received t locked)
    (hcalm : SupplyKept start record s h → s'.firmware.task.protection.Calm
      (makeConfig cfg.firmware) record start (lastPassed start h) (fed start h))
    (htasks : SupplyKept start record s h → s'.firmware.Fed (fed start h)) :
    SupplyInv before start record s' (es ++ h) := by
  obtain ⟨ht, hkept⟩ := hp
  obtain ⟨hfed, hlast, hevery⟩ := undisturbed_quiet cfg.firmware start (h := h) hes
  refine ⟨⟨hsamples, hordered, hunborn, ?_⟩, fun hundisturbed => ?_⟩
  · rw [hlast]
    exact ht.passed_le.trans hclock
  · have hk := hkept (hevery hundisturbed)
    refine ⟨?_, ?_, ?_⟩
    · rw [hfed, hlast]
      exact hcalm hk
    · rw [hfed, hlast]
      exact hk.first
    · rw [hfed]
      exact htasks hk

/-- Once a sample from `start` on has been passed, no older one comes. -/
theorem SamplePath.fed_order {sample : Sample} {t : ℕ} {locked : Bool}
    (hp : SamplePath s (.polled (some sample) t locked :: h ++ before))
    (hfed : fed start h = true) :
    start ≤ sample.takenAt := by
  obtain ⟨first, hfirst, hstart⟩ := fed_mem hfed
  have horder := hp.ordered.sublist hp.received_sublist
  exact hstart.trans ((List.pairwise_cons.mp horder).1 first
    (((List.sublist_append_left h before).filterMap _).subset hfirst))

section Polls

variable {s' : System cfg} {sample : Sample}

/-- A poll without a sample, in time. -/
theorem SupplyKept.poll_none (hk : SupplyKept start record s h)
    (hw : s.firmware.watchdog ≠ .restarted) (hc : s.firmware.control = .receiving)
    (hage : cfg.firmware.maxMeasurementAgeMs.toNat < 2 ^ 31)
    (hpassed : lastPassed start h ≤ s.clock)
    (hshort : s.clock - lastPassed start h ≤ cfg.firmware.maxMeasurementAgeMs.toNat)
    (hfirmware : s'.firmware
      = s.firmware.step cfg.firmware (.controlPoll none (some (millis s.clock)))) :
    SupplyKept start record s' (.polled none s.clock true :: h) := by
  rw [Firmware.step_poll hw hc] at hfirmware
  obtain ⟨hcalm, hon⟩ := hk.calm.poll_none hage hpassed hshort
  refine ⟨?_, hk.first, ?_⟩
  · rw [hfirmware]
    exact hcalm
  · rw [hfirmware]
    refine Firmware.fed_control (by simp) ?_ (by simp)
    rintro result ⟨⟩ hfed
    exact hon hfed

/-- A poll with a harmless sample from the start on supplies the load. -/
theorem SupplyKept.poll_some (hk : SupplyKept start record s h)
    (hw : s.firmware.watchdog ≠ .restarted) (hc : s.firmware.control = .receiving)
    (hage : cfg.firmware.maxMeasurementAgeMs.toNat < 2 ^ 31)
    (hharmless : sample.measurement.1.Harmless (makeConfig cfg.firmware))
    (hstart : start ≤ sample.takenAt) (htaken : sample.takenAt ≤ s.clock)
    (hfresh : s.clock - sample.takenAt ≤ cfg.firmware.maxMeasurementAgeMs.toNat)
    (hshort : s.clock - lastPassed start h ≤ cfg.firmware.maxMeasurementAgeMs.toNat)
    (hfirmware : s'.firmware = s.firmware.step cfg.firmware
      (.controlPoll (some sample.measurement) (some (millis s.clock)))) :
    SupplyKept start record s' (.polled (some sample) s.clock true :: h) := by
  rw [Firmware.step_poll hw hc] at hfirmware
  have hlast : lastPassed start (.polled (some sample) s.clock true :: h) = s.clock :=
    if_pos hstart
  have hfed : fed start (.polled (some sample) s.clock true :: h) = true := by
    simp [fed, hstart]
  obtain ⟨hcalm, hon⟩ := hk.calm.poll_some hharmless sample.stamped hage hstart htaken hfresh
    fun hfed => by rw [← hk.first hfed]; exact hshort
  refine ⟨?_, ?_, ?_⟩
  · rw [hlast, hfed, hfirmware]
    exact hcalm
  · rw [hfed]
    nofun
  · rw [hfed, hfirmware]
    refine Firmware.fed_control (by simp) ?_ (by simp)
    rintro result ⟨⟩ -
    exact hon

/-- A poll with a sample from before the start, which the re-arm gate stops. -/
theorem SupplyKept.poll_before (hk : SupplyKept start record s h)
    (hw : s.firmware.watchdog ≠ .restarted) (hc : s.firmware.control = .receiving)
    (hunfed : fed start h = false)
    (hbefore : sample.takenAt < start) (hrecent : start - sample.takenAt ≤ 2 ^ 31)
    (hfirmware : s'.firmware = s.firmware.step cfg.firmware
      (.controlPoll (some sample.measurement) (some (millis s.clock)))) :
    SupplyKept start record s' (.polled (some sample) s.clock true :: h) := by
  rw [Firmware.step_poll hw hc] at hfirmware
  have hstart : ¬ start ≤ sample.takenAt := Nat.not_le_of_lt hbefore
  have hlast : lastPassed start (.polled (some sample) s.clock true :: h)
      = lastPassed start h := if_neg hstart
  have hfed : fed start (.polled (some sample) s.clock true :: h) = false := by
    simp [fed, hstart, hunfed]
  have hcalm := hk.calm
  rw [hunfed] at hcalm
  refine ⟨?_, ?_, ?_⟩
  · rw [hlast, hfed, hfirmware]
    exact hcalm.poll_before sample.stamped hbefore hrecent _
  · rw [hlast]
    exact fun _ => hk.first hunfed
  · rw [hfed]
    exact Firmware.fed_false _

end Polls

/-- **A poll keeps the supply.** It gets the mutex in time, as the run is undisturbed,
and its sample, if it brings one, is harmless or was taken before the start; such a
sample is stopped by the re-arm gate, as `SamplePath` orders it before the rest. -/
theorem SupplyInv.poll (hw : s.firmware.watchdog ≠ .restarted)
    (hp : SupplyInv before start record s h)
    (hage : cfg.firmware.maxMeasurementAgeMs.toNat < 2 ^ 31) {locked : Bool}
    (hc : s.firmware.control = .receiving) {s' : System cfg}
    (hsamples : SamplePath s'
      (.polled s.measurementQueue.items.head? s.clock locked :: h ++ before))
    (hclock : s'.clock = s.clock)
    (hfirmware : s'.firmware = s.firmware.step cfg.firmware (.controlPoll
      (s.measurementQueue.items.head?.map (·.measurement)) (s.lock locked))) :
    SupplyInv before start record s'
      (.polled s.measurementQueue.items.head? s.clock locked :: h) := by
  obtain ⟨ht, hkept⟩ := hp
  refine ⟨⟨hsamples, hfirmware ▸ Firmware.step_ordered ht.ordered _,
    hfirmware ▸ Firmware.step_unborn ht.unborn _, ?_⟩, fun hundisturbed => ?_⟩
  · rw [hclock]
    rcases lastPassed_polled start s.measurementQueue.items.head? s.clock locked h with hl | hl
    · exact hl.le
    · exact hl.le.trans ht.passed_le
  · obtain ⟨rfl, hshort, hreceived⟩ := hundisturbed.head
    have hk := hkept hundisturbed.tail
    have hlock : s.lock true = some (millis s.clock) := rfl
    rw [hlock] at hfirmware
    cases hhead : s.measurementQueue.items.head? with
    | none =>
      rw [hhead, Option.map_none] at hfirmware
      exact hk.poll_none hw hc hage ht.passed_le hshort hfirmware
    | some sample =>
      rw [hhead, Option.map_some] at hfirmware
      rw [hhead] at hsamples
      obtain ⟨hfresh, hharmless⟩ := hreceived sample hhead
      have htaken : sample.takenAt ≤ s.clock :=
        hsamples.causal sample s.clock true List.mem_cons_self
      by_cases hstart : start ≤ sample.takenAt
      · exact hk.poll_some hw hc hage (hharmless hstart) hstart htaken hfresh hshort hfirmware
      · have hunfed : fed start h = false := by
          rw [← Bool.not_eq_true]
          exact fun hfed => hstart (hsamples.fed_order hfed)
        have hlate := hk.first hunfed
        have hpassed := ht.passed_le
        exact hk.poll_before hw hc hunfed (Nat.lt_of_not_le hstart) (by omega) hfirmware

/-- Every step keeps it; the poll is the one that matters. -/
theorem SupplyInv.act (hage : cfg.firmware.maxMeasurementAgeMs.toNat < 2 ^ 31)
    (hw : s.firmware.watchdog ≠ .restarted) (hp : SupplyInv before start record s h)
    (st : SystemStep) : SupplyInv before start record (s.act st).1 ((s.act st).2 ++ h) := by
  have hsamples := hp.1.samples.act st
  have hclock := clock_le_act s st
  have hordered := hp.1.ordered
  have hunborn := hp.1.unborn
  rw [← List.append_assoc] at hsamples
  revert hsamples hclock
  apply act_cases (P := fun r => SamplePath r.1 (r.2 ++ h ++ before) → s.clock ≤ r.1.clock →
    SupplyInv before start record r.1 (r.2 ++ h)) s st
  case stays => exact fun _ _ => hp
  case firmware =>
    intro st hst hsamples hclock
    refine hp.quiet hsamples hclock (Firmware.step_ordered hordered st)
      (Firmware.step_unborn hunborn st) (by simp) ?_ ?_
    · intro hk
      rw [Firmware.step_protection_other hst]
      exact hk.calm
    · exact fun hk => hk.tasks.other hordered hunborn hst
  case sensorSend =>
    intro sample hsensor hsamples hclock
    refine hp.quiet hsamples hclock hordered hunborn ?_ (fun hk => hk.calm) (fun hk => hk.tasks)
    split <;> simp
  case controlPoll =>
    intro locked hc hsamples hclock
    exact hp.poll hw hage hc hsamples rfl rfl
  case controlCommand =>
    intro locked type rest hc hq hsamples hclock
    refine hp.quiet hsamples hclock (Firmware.step_ordered hordered _)
      (Firmware.step_unborn hunborn _) (by simp) ?_ ?_
    · exact fun hk => (hk.tasks.command hw hc hk.calm type (s.lock locked)).2
    · exact fun hk => (hk.tasks.command hw hc hk.calm type (s.lock locked)).1
  case controlLoop =>
    intro hq hsamples hclock
    refine hp.quiet hsamples hclock (Firmware.step_ordered hordered _)
      (Firmware.step_unborn hunborn _) (by simp) ?_ (fun hk => hk.tasks.loop)
    intro hk
    rw [Firmware.step_protection_loop]
    exact hk.calm
  all_goals
    intros
    exact hp.quiet ‹_› ‹_› hordered hunborn (by simp) (fun hk => hk.calm) (fun hk => hk.tasks)

/-- From a re-armed core on. -/
theorem supplyInv_run (hage : cfg.firmware.maxMeasurementAgeMs.toNat < 2 ^ 31)
    (hs : SupplyInv before start record s []) (steps : List SystemStep) :
    SupplyInv before start record (s.run steps) (s.history steps) :=
  run_history hs (fun _ _ st hw hp => hp.act hage hw st) steps

/-! ## From the power-on -/

/-- **The supply is not interrupted.** The freshness limit is below half a turn of
the clock (`hage`). In every run in which each poll of ControlTask gets the mutex
within that limit of the last sample, and each sample it receives is fresh and
within the limits: no fault is ever recorded, and from the first sample on the
relay is commanded ON whenever ControlTask waits for the next, unless the
supervisor or `fatalStop` has driven the outputs OFF. What is typed or received,
and what the other tasks do, makes no difference. -/
theorem supply_uninterrupted (cfg : SystemConfig) (a : Actuator) (readback : Int)
    (memory : ℕ → UInt8) (time : ℕ) (steps : List SystemStep)
    (hage : cfg.firmware.maxMeasurementAgeMs.toNat < 2 ^ 31)
    (hundisturbed : Run.Every (Undisturbed cfg.firmware time)
      ((powerOn cfg a readback memory time).history steps)) :
    let s := (powerOn cfg a readback memory time).run steps
    s.firmware.task.protection.core.fault = .cleared ∧
      (fed time ((powerOn cfg a readback memory time).history steps) = true →
        ¬ s.firmware.Forced →
        (s.firmware.control = .receiving ∨ s.firmware.control = .draining) →
        s.firmware.task.actuator.commandedOn = true) := by
  intro s
  have hrearmed : SupplyInv [] time .cleared (powerOn cfg a readback memory time) [] :=
    supplyInv_rearmed (samplePath_powerOn cfg a readback memory time) (fun _ => rfl) (fun _ => rfl)
      ⟨rfl, ProtectionCore.calm_begin _ time⟩
  have hk := (supplyInv_run hage hrearmed steps).2 hundisturbed
  exact ⟨hk.calm.core.fault, fun hfed hforced hcontrol => hk.tasks.on hforced hcontrol hfed⟩

/-- An operator types a reset while all is well. -/
theorem supply_uninterrupted_reset :
    let steps : List SystemStep :=
      [.controlLoop, .controlCommand true, .firmware (.controlApply levelLow), .controlPoll true] ++
      (ascii "reset\r").reverse.map .cliByte ++ secondAt 100.0 ++ Firmware.startUp.map .firmware
    ((powerOn exampleSystem .new levelHigh (fun _ => 0) 0).run
      steps).firmware.task.actuator.commandedOn
      = true := by
  intro steps
  exact (supply_uninterrupted exampleSystem .new levelHigh (fun _ => 0) 0 steps (by decide)
    (by decide +kernel)).2 (by decide +kernel) (by decide +kernel) (.inl (by decide +kernel))

/-! ## From an accepted reset -/

/-- ControlTask executes a command whose reset is accepted. -/
theorem supplyInv_accepted (hsamples : SamplePath s before) (hordered : s.firmware.Ordered)
    (hunborn : s.firmware.Unborn)
    (hconfig : s.firmware.task.protection.core.config = makeConfig cfg.firmware)
    (hdraining : s.firmware.control = .draining) {locked : Bool}
    (hresetting : (s.step (.controlCommand locked)).firmware.control = .resetting) :
    (s.step (.controlCommand locked)).clock = s.clock ∧
      SupplyInv (s.events (.controlCommand locked) ++ before)
        (s.step (.controlCommand locked)).clock
        (s.step (.controlCommand locked)).firmware.task.protection.core.fault
        (s.step (.controlCommand locked)) [] := by
  have hact := hsamples.act (.controlCommand locked)
  unfold step at hresetting ⊢
  unfold events
  split at hresetting
  · exact absurd (hdraining.symm.trans hresetting) (by simp)
  rename_i hw
  rw [if_neg hw, if_neg hw]
  cases hq : s.commandQueue.items with
  | nil =>
    simp only [act, hdraining, hq] at hresetting
    cases hresetting
  | cons type rest =>
    simp only [act, hdraining, hq] at hresetting hact ⊢
    obtain ⟨haccepted, hprotection⟩ := Firmware.accepted_of_resetting hw hdraining hresetting
    refine ⟨rfl, supplyInv_rearmed hact (Firmware.step_ordered hordered _)
      (Firmware.step_unborn hunborn _) ?_⟩
    cases locked with
    | false => simp [lock, Protection.protectionReset] at haccepted
    | true =>
      have hlock : s.lock true = some (millis s.clock) := rfl
      rw [hlock] at haccepted hprotection ⊢
      show Protection.Calm (Firmware.step cfg.firmware s.firmware _).task.protection _ _ _ _ _
      rw [hprotection]
      exact Protection.calm_of_accepted hconfig haccepted

/-- The configuration never changes. -/
theorem config_run (cfg : SystemConfig) (a : Actuator) (readback : Int) (memory : ℕ → UInt8)
    (time : ℕ) (steps : List SystemStep) :
    ((powerOn cfg a readback memory time).run steps).firmware.task.protection.core.config
      = makeConfig cfg.firmware := by
  have hp := supplyPath_run cfg a readback memory time 0 steps
  rw [hp.protection, core_timedHistory, ProtectionCore.run_config]
  rfl

/-- ControlTask is created before it runs, in the order of `createTasks`. -/
theorem created_run (cfg : SystemConfig) (a : Actuator) (readback : Int) (memory : ℕ → UInt8)
    (time : ℕ) (steps : List SystemStep) :
    ((powerOn cfg a readback memory time).run steps).firmware.Ordered ∧
      ((powerOn cfg a readback memory time).run steps).firmware.Unborn := by
  refine run_history (P := fun s _ => s.firmware.Ordered ∧ s.firmware.Unborn)
    ⟨fun _ => rfl, fun _ => rfl⟩ (fun s h st _ hs => ?_) steps
  have hstep (st : FirmwareStep) :
      (s.firmware.step cfg.firmware st).Ordered ∧ (s.firmware.step cfg.firmware st).Unborn :=
    ⟨Firmware.step_ordered hs.1 st, Firmware.step_unborn hs.2 st⟩
  apply act_cases (P := fun r => r.1.firmware.Ordered ∧ r.1.firmware.Unborn) s st
  case firmware => exact fun st _ => hstep st
  case controlPoll => exact fun _ _ => hstep _
  case controlCommand => exact fun _ _ _ _ _ => hstep _
  case controlLoop => exact fun _ => hstep _
  all_goals intros; exact hs

/-- **A reset restores the supply.** The freshness limit is below half a turn of
the clock (`hage`). ControlTask executes a command, and the reset it asks for is
accepted. If from then on each poll gets the mutex within the
freshness limit of the last sample taken since, and each sample it receives is
fresh and, if taken since, within the limits: then the fault record stays as the
reset left it, with no fault active, and from the first sample taken since on the
relay is commanded ON whenever ControlTask waits for the next, unless the
supervisor or `fatalStop` has driven the outputs OFF. -/
theorem supply_restored (cfg : SystemConfig) (a : Actuator) (readback : Int)
    (memory : ℕ → UInt8) (time : ℕ) (earlier later : List SystemStep) (locked : Bool)
    (hage : cfg.firmware.maxMeasurementAgeMs.toNat < 2 ^ 31)
    (hdraining : ((powerOn cfg a readback memory time).run earlier).firmware.control = .draining)
    (hresetting : ((powerOn cfg a readback memory time).run
      (.controlCommand locked :: earlier)).firmware.control = .resetting)
    (hundisturbed : Run.Every (Undisturbed cfg.firmware
        ((powerOn cfg a readback memory time).run (.controlCommand locked :: earlier)).clock)
      (((powerOn cfg a readback memory time).run (.controlCommand locked :: earlier)).history
        later)) :
    let reset := (powerOn cfg a readback memory time).run (.controlCommand locked :: earlier)
    let s := reset.run later
    s.firmware.task.protection.core.fault = reset.firmware.task.protection.core.fault ∧
      s.firmware.task.protection.core.fault.active = false ∧
      (fed reset.clock (reset.history later) = true → ¬ s.firmware.Forced →
        (s.firmware.control = .receiving ∨ s.firmware.control = .draining) →
        s.firmware.task.actuator.commandedOn = true) := by
  intro reset s
  obtain ⟨hordered, hunborn⟩ := created_run cfg a readback memory time earlier
  have hrearmed := (supplyInv_accepted (samplePath_run cfg a readback memory time earlier) hordered
    hunborn (config_run cfg a readback memory time earlier) hdraining hresetting).2
  have hk := (supplyInv_run hage hrearmed later).2 hundisturbed
  have hrecord := hk.calm.core.fault
  exact ⟨hrecord, (congrArg FaultManager.active hrecord).trans hk.calm.core.inactive,
    fun hfed hforced hcontrol => hk.tasks.on hforced hcontrol hfed⟩

/-- The first sample shows an overload, the second does not; a reset is typed, and
a second later the load is supplied. -/
theorem supply_restored_second :
    let earlier : List SystemStep :=
      (secondAt 100.0).tail ++ (ascii "reset\r").reverse.map .cliByte ++ secondAt 600.0 ++
        Firmware.startUp.map .firmware
    let later : List SystemStep :=
      secondAt 100.0 ++ [.controlLoop, .firmware (.controlApplyReset levelHigh)]
    (((powerOn exampleSystem .new levelHigh (fun _ => 0) 0).run
      (.controlCommand true :: earlier)).run later).firmware.task.actuator.commandedOn = true := by
  intro earlier later
  exact (supply_restored exampleSystem .new levelHigh (fun _ => 0) 0 earlier later true (by decide)
    (by decide +kernel) (by decide +kernel) (by decide +kernel)).2.2 (by decide +kernel)
      (by decide +kernel) (.inl (by decide +kernel))

end System

end EnergyController
