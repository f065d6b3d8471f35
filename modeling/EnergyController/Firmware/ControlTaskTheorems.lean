/-
EnergyController.Firmware.ControlTaskTheorems — when the relay may be
commanded ON, over whole runs of the control task.

`Inv` ties the relay command to the protection: ON exactly while no lock
failure is pending and the core is in an operating state. With it,

* `closes_step` — what turns the command ON: the update of a safe sample that
  passes the re-arm gate, and nothing else;
* `energised_justified` — while ON, the newest sample justifies it, down to
  the raw meter reading;
* `relay_closes_only_on_safe_sample` — the first of these for every step of
  every run, and that an overload that never ends is never supplied;
* `fail_closed` — after a failed update or tick the command is OFF until an
  accepted reset and then the update of a safe sample.
-/
import EnergyController.Firmware.ControlTask
import EnergyController.Firmware.ProtectionTheorems

namespace EnergyController

/-- A valid measurement from the queue has a plausible raw reading behind it. -/
theorem Measurement.Built.of_valid {m : Measurement} (hm : m.Built) (hv : m.valid = true) :
    ∃ raw source timestampMs,
      m = buildMeasurement raw source timestampMs defaultMeasurementLimits ∧
        raw.Plausible defaultMeasurementLimits ∧ m.voltage = raw.voltage ∧
        m.power = raw.power ∧ m.timestamp = timestampMs := by
  obtain ⟨raw, source, t, rfl⟩ := hm
  obtain ⟨hraw, heq⟩ := buildMeasurement_of_valid hv
  exact ⟨raw, source, t, rfl, hraw, by rw [heq], by rw [heq], by rw [heq]⟩

/-- For a valid measurement from the queue, mains present is `>`. -/
theorem mains_of_built (cfg : FirmwareConfig) {m : Measurement} (hm : m.Built)
    (hv : m.valid = true) (hmains : ¬ m.voltage ≤ cfg.minOperatingVoltageV) :
    m.voltage > cfg.minOperatingVoltageV := by
  obtain ⟨raw, source, t, -, hraw, hvolt, -, -⟩ := hm.of_valid hv
  refine FloatOrder.lt_of_not_le ?_ (FloatOrder.isNaN_of_isFinite cfg.minOperating_finite) hmains
  rw [hvolt]
  exact FloatOrder.isNaN_of_isFinite hraw.voltage_finite

namespace Protection

/-! ## The wrapper's calls on an applied fault -/

theorem applyPendingInternalFault_state (p : Protection) (now : Millis) :
    (p.applyPendingInternalFault now).core.state
      = if p.internalFaultPending then .fault else p.core.state := by
  unfold applyPendingInternalFault
  split
  · rw [ProtectionCore.raiseInternalFault, ProtectionCore.raiseFault_eq (by simp)]
  · rfl

theorem applyPendingInternalFault_of_not_pending {p : Protection}
    (h : p.internalFaultPending = false) (now : Millis) : p.applyPendingInternalFault now = p := by
  simp [applyPendingInternalFault, h]

/-- A rejected reset leaves the state as the pending fault made it. -/
theorem protectionReset_rejected {p : Protection} {now : Millis}
    (h : (p.protectionReset (some now)).1 ≠ .accepted) :
    (p.protectionReset (some now)).2.core.state = (p.applyPendingInternalFault now).core.state ∧
      (p.protectionReset (some now)).2.internalFaultPending = false := by
  have hrej : ((p.applyPendingInternalFault now).core.requestReset now).1 ≠ .accepted := h
  constructor
  · simp only [protectionReset, ProtectionCore.requestReset_of_rejected hrej]
  · exact applyPendingInternalFault_pending p now

theorem protectionReset_accepted {p : Protection} {now : Millis}
    (h : (p.protectionReset (some now)).1 = .accepted) :
    (p.protectionReset (some now)).2.core.state = .init ∧
      (p.protectionReset (some now)).2.internalFaultPending = false := by
  have hacc : ((p.applyPendingInternalFault now).core.requestReset now).1 = .accepted := h
  constructor
  · simp only [protectionReset, ProtectionCore.requestReset_of_accepted hacc,
      ProtectionCore.rearmed]
  · exact applyPendingInternalFault_pending p now

theorem acknowledge_state (c : ProtectionCore) : c.acknowledge.2.state = c.state := by
  unfold ProtectionCore.acknowledge
  split <;> rfl

end Protection

namespace ControlTask

variable {cfg : FirmwareConfig} {s : ControlTask}

@[simp] theorem run_nil (cfg : FirmwareConfig) (s : ControlTask) : s.run cfg [] = s := rfl

@[simp] theorem run_cons (cfg : FirmwareConfig) (s : ControlTask) (st : ControlStep)
    (earlier : List ControlStep) :
    s.run cfg (st :: earlier) = (s.run cfg earlier).step cfg st := rfl

theorem run_append (cfg : FirmwareConfig) (s : ControlTask) (later earlier : List ControlStep) :
    s.run cfg (later ++ earlier) = (s.run cfg earlier).run cfg later :=
  Run.after_append _ _ _ _

theorem run_commands (cfg : FirmwareConfig) (s : ControlTask) (commands : List DrainedCommand) :
    s.run cfg (commands.map ControlStep.command).reverse = commands.foldl (command cfg) s := by
  induction commands generalizing s with
  | nil => rfl
  | cons c commands ih =>
    rw [List.map_cons, List.reverse_cons, run_append, List.foldl_cons, ← ih]
    rfl

/-- An iteration is its steps. -/
theorem iterate_eq_run (cfg : FirmwareConfig) (s : ControlTask) (it : Iteration) :
    s.iterate cfg it = s.run cfg it.steps := by
  rw [iterate, ← run_commands, Iteration.steps, run_append]
  rfl

theorem iterations_eq_run (cfg : FirmwareConfig) (s : ControlTask) (its : List Iteration) :
    s.iterations cfg its = s.run cfg (controlSteps its) := by
  induction its with
  | nil => rfl
  | cons it earlier ih =>
    rw [controlSteps, List.flatMap_cons, run_append, ← iterate_eq_run]
    exact congrArg (iterate cfg · it) ih

/-- A step acts on the protection by its call. -/
theorem step_protection (cfg : FirmwareConfig) (s : ControlTask) (st : ControlStep) :
    (s.step cfg st).protection = s.protection.run st.calls := by
  cases st with
  | poll received lock readback => cases received <;> rfl
  | command c =>
    obtain ⟨type, lock, readback⟩ := c
    cases type <;> rfl

/-- The protection of a run is the wrapper after the calls of its steps. -/
theorem run_protection (cfg : FirmwareConfig) (s : ControlTask) (steps : List ControlStep) :
    (s.run cfg steps).protection = s.protection.run (stepCalls steps) := by
  induction steps with
  | nil => rfl
  | cons st earlier ih =>
    rw [run_cons, step_protection, ih]
    simp only [stepCalls, List.flatMap_cons, Protection.run_append]

/-- The core of a run is the core after the calls that reach it. -/
theorem run_boot_core (cfg : FirmwareConfig) (a : Actuator) (readback : Int) (nowMs : Millis)
    (steps : List ControlStep) :
    ((boot cfg a readback nowMs).run cfg steps).protection.core
      = ProtectionCore.run id ((ProtectionCore.new (makeConfig cfg)).begin nowMs)
          ((protectionBegin (.new (makeConfig cfg)) nowMs).coreRun (stepCalls steps)) := by
  rw [run_protection, Protection.run_core]
  rfl

/-- Only measurements from the queue are passed to the core. -/
theorem newestPassed_built {steps : List ControlStep} {m : Measurement} {t : Millis}
    (h : newestPassed (stepCalls steps) = some (m, t)) : m.Built := by
  induction steps with
  | nil => cases h
  | cons st earlier ih =>
    cases st with
    | poll received lock readback =>
      cases received with
      | none => exact ih h
      | some m' =>
        cases lock with
        | none => exact ih h
        | some now =>
          cases h
          exact m'.2
    | command c =>
      obtain ⟨type, lock, readback⟩ := c
      cases type <;> exact ih h

/-! ## The relay command and the protection -/

/-- The relay is commanded ON exactly while no lock failure is pending and the
core is in an operating state. -/
structure Inv (cfg : FirmwareConfig) (s : ControlTask) : Prop where
  config : s.protection.core.config = makeConfig cfg
  core : s.protection.core.WellFormed
  relay : s.actuator.commandedOn
    = (!s.protection.internalFaultPending && s.protection.core.state.isOperating)

theorem inv_boot (cfg : FirmwareConfig) (a : Actuator) (readback : Int) (nowMs : Millis) :
    Inv cfg (boot cfg a readback nowMs) where
  config := rfl
  core := ProtectionCore.wellFormed_begin _ _
  relay := by simp [boot, protectionBegin, ProtectionCore.begin, SystemState.isOperating]

/-- Without the lock, a poll turns the relay OFF and leaves the core alone. -/
theorem poll_unlocked (cfg : FirmwareConfig) (s : ControlTask)
    (received : Option QueuedMeasurement) (readback : Int) :
    (s.poll cfg received none readback).actuator.commandedOn = false ∧
      (s.poll cfg received none readback).protection
        = { s.protection with internalFaultPending := true } := by
  cases received <;> exact ⟨by simp [poll, Protection.poll, Protection.protectionUpdate,
    Protection.protectionTick, ProtectionCore.lockFailureResult], rfl⟩

/-- With the lock, the relay follows the core and nothing is pending. -/
theorem poll_locked (cfg : FirmwareConfig) (s : ControlTask)
    (received : Option QueuedMeasurement) (now : Millis) (readback : Int) :
    (s.poll cfg received (some now) readback).actuator.commandedOn
        = (s.poll cfg received (some now) readback).protection.core.state.isOperating ∧
      (s.poll cfg received (some now) readback).protection.internalFaultPending = false := by
  have hpending := Protection.applyPendingInternalFault_pending s.protection now
  cases received with
  | none =>
    obtain ⟨hstate, hsync⟩ :=
      ProtectionCore.tick_result (s.protection.applyPendingInternalFault now).core now
    refine ⟨?_, hpending⟩
    simp only [poll, Protection.poll, Protection.protectionTick,
      Actuator.applyResult_commandedOn, hstate, hsync, Bool.not_false, Bool.true_and]
  | some m =>
    obtain ⟨hstate, hsync⟩ :=
      ProtectionCore.update_result (s.protection.applyPendingInternalFault now).core m.1 now
    refine ⟨?_, hpending⟩
    simp only [poll, Protection.poll, Protection.protectionUpdate,
      Actuator.applyResult_commandedOn, hstate, hsync, Bool.not_false, Bool.true_and]

theorem command_reset {c : DrainedCommand} (hc : c.type = .reset ∨ c.type = .remoteReset) :
    s.command cfg c
      = { protection := (s.protection.protectionReset c.lock).2
          actuator :=
            if (s.protection.protectionReset c.lock).1 = .accepted then
              s.actuator.actuatorApplyState cfg.relay .init c.readback
            else s.actuator } := by
  rcases hc with hc | hc <;> simp only [command, hc]

/-- A command that is no reset leaves the relay, the pending flag and the state
of the core as they are. -/
theorem command_other {c : DrainedCommand} (hc : ¬ (c.type = .reset ∨ c.type = .remoteReset)) :
    (s.command cfg c).actuator = s.actuator ∧
      (s.command cfg c).protection.internalFaultPending = s.protection.internalFaultPending ∧
      (s.command cfg c).protection.core.state = s.protection.core.state := by
  obtain ⟨type, lock, readback⟩ := c
  cases type
  case reset => simp at hc
  case remoteReset => simp at hc
  case ack =>
    cases lock with
    | none => exact ⟨rfl, rfl, rfl⟩
    | some now => exact ⟨rfl, rfl, Protection.acknowledge_state _⟩
  case remoteAck =>
    cases lock with
    | none => exact ⟨rfl, rfl, rfl⟩
    | some now => exact ⟨rfl, rfl, Protection.acknowledge_state _⟩
  all_goals exact ⟨rfl, rfl, rfl⟩

/-- The step is a reset that returns ACCEPTED. -/
def AcceptedReset (s : ControlTask) (st : ControlStep) : Prop :=
  ∃ c, st = .command c ∧ (c.type = .reset ∨ c.type = .remoteReset) ∧
    (s.protection.protectionReset c.lock).1 = .accepted

theorem AcceptedReset.relay_off {st : ControlStep} (h : AcceptedReset s st) :
    (s.step cfg st).actuator.commandedOn = false := by
  obtain ⟨c, rfl, hc, hacc⟩ := h
  rw [ControlTask.step, command_reset hc]
  simp only [hacc, if_true]
  simp [SystemState.isOperating]

theorem inv_reset (h : Inv cfg s) {c : DrainedCommand}
    (hc : c.type = .reset ∨ c.type = .remoteReset) :
    (s.command cfg c).actuator.commandedOn
      = (!(s.command cfg c).protection.internalFaultPending &&
          (s.command cfg c).protection.core.state.isOperating) := by
  rw [command_reset hc]
  obtain ⟨type, lock, readback⟩ := c
  cases lock with
  | none => simpa [Protection.protectionReset] using h.relay
  | some now =>
    by_cases hacc : (s.protection.protectionReset (some now)).1 = .accepted
    · obtain ⟨hstate, hpending⟩ := Protection.protectionReset_accepted hacc
      simp [hacc, hstate, hpending, SystemState.isOperating]
    · obtain ⟨hstate, hpending⟩ := Protection.protectionReset_rejected hacc
      rw [Protection.applyPendingInternalFault_state] at hstate
      have hrelay := h.relay
      simp only [hacc, if_false, hstate, hpending]
      cases hp : s.protection.internalFaultPending <;> simp [hrelay, hp, SystemState.isOperating]

theorem Inv.step (h : Inv cfg s) (st : ControlStep) : Inv cfg (s.step cfg st) := by
  have hcore : (s.step cfg st).protection.core
      = ProtectionCore.run id s.protection.core (s.protection.coreRun st.calls) := by
    rw [step_protection, Protection.run_core]
  refine ⟨?_, ?_, ?_⟩
  · rw [hcore, ProtectionCore.run_config, h.config]
  · rw [hcore]
    exact h.core.run _
  · cases st with
    | poll received lock readback =>
      cases lock with
      | none =>
        obtain ⟨hoff, hprot⟩ := poll_unlocked cfg s received readback
        simp only [ControlTask.step, hoff, hprot, Bool.not_true, Bool.false_and]
      | some now =>
        obtain ⟨hon, hpending⟩ := poll_locked cfg s received now readback
        simp only [ControlTask.step, hon, hpending, Bool.not_false, Bool.true_and]
    | command c =>
      by_cases hc : c.type = .reset ∨ c.type = .remoteReset
      · exact inv_reset h hc
      · obtain ⟨hact, hpending, hstate⟩ := @command_other cfg s c hc
        simp only [ControlTask.step, hact, hpending, hstate]
        exact h.relay

theorem Inv.run (h : Inv cfg s) (steps : List ControlStep) : Inv cfg (s.run cfg steps) :=
  Run.invariant h (fun _ st h => h.step st) steps

theorem inv_run (cfg : FirmwareConfig) (a : Actuator) (readback : Int) (nowMs : Millis)
    (steps : List ControlStep) : Inv cfg ((boot cfg a readback nowMs).run cfg steps) :=
  (inv_boot cfg a readback nowMs).run steps

/-- The re-arm point of the core is the latest begin or accepted reset. -/
theorem rearmMs_run (cfg : FirmwareConfig) (a : Actuator) (readback : Int) (nowMs : Millis)
    (steps : List ControlStep) :
    ((boot cfg a readback nowMs).run cfg steps).protection.core.rearmMs
      = rearmedAt nowMs (controlLog cfg nowMs steps) := by
  rw [run_boot_core]
  exact ProtectionCore.rearmMs_rearmedAt id CoreCall.nowMs id CoreCall.at_nowMs rfl _

/-! ## What turns the relay ON -/

/-- The step is the update of a fresh, valid sample with mains, not above the
fault threshold and not taken before the re-arm point of the core. -/
def SafeUpdate (cfg : FirmwareConfig) (s : ControlTask) (st : ControlStep) : Prop :=
  ∃ (m : QueuedMeasurement) (now : Millis) (readback : Int),
    st = .poll (some m) (some now) readback ∧ m.1.valid = true ∧
      now - m.1.timestamp ≤ cfg.maxMeasurementAgeMs ∧ m.1.voltage > cfg.minOperatingVoltageV ∧
      ¬ m.1.power > cfg.powerFaultThresholdW ∧
      ¬ (m.1.timestamp - s.protection.core.rearmMs).toInt < 0

/-- The call of a poll on the core. -/
def pollCall : Option QueuedMeasurement → Millis → CoreCall
  | some m, now => .update m.1 now
  | none, now => .tick now

/-- With the lock, a poll is its call on the core with the pending fault
applied. -/
theorem poll_core (cfg : FirmwareConfig) (s : ControlTask) (received : Option QueuedMeasurement)
    (now : Millis) (readback : Int) :
    (s.poll cfg received (some now) readback).protection.core
      = (s.protection.applyPendingInternalFault now).core.step (pollCall received now) := by
  cases received <;> rfl

/-- On a core in FAULT, an update or a tick leaves FAULT. -/
theorem poll_state_of_fault {received : Option QueuedMeasurement} {now : Millis} {readback : Int}
    (hs : (s.protection.applyPendingInternalFault now).core.state = .fault) :
    (s.poll cfg received (some now) readback).protection.core.state = .fault := by
  rw [poll_core]
  cases received with
  | none => simp [pollCall, ProtectionCore.step, ProtectionCore.tick_eq, ProtectionCore.silent, hs]
  | some m => rw [pollCall, ProtectionCore.step, ProtectionCore.update_of_fault hs, hs]

/-- **Only a safe update turns the relay ON.** -/
theorem closes_step (h : Inv cfg s) {st : ControlStep} (hoff : s.actuator.commandedOn = false)
    (hon : (s.step cfg st).actuator.commandedOn = true) : SafeUpdate cfg s st := by
  cases st with
  | command c =>
    -- a command can only turn the relay off
    by_cases hc : c.type = .reset ∨ c.type = .remoteReset
    · rw [ControlTask.step, command_reset hc] at hon
      dsimp only at hon
      split at hon
      · simp [SystemState.isOperating] at hon
      · simp [hoff] at hon
    · rw [ControlTask.step, (command_other hc).1] at hon
      simp [hoff] at hon
  | poll received lock readback =>
    cases lock with
    | none =>
      rw [ControlTask.step, (poll_unlocked cfg s received readback).1] at hon
      cases hon
    | some now =>
      rw [ControlTask.step, (poll_locked cfg s received now readback).1] at hon
      have hpending : s.protection.internalFaultPending = false := by
        rw [Bool.eq_false_iff]
        intro hp
        have hs : (s.protection.applyPendingInternalFault now).core.state = .fault := by
          rw [Protection.applyPendingInternalFault_state, if_pos hp]
        rw [poll_state_of_fault hs] at hon
        cases hon
      have hidle : s.protection.core.state.isOperating = false := by
        have hrelay := h.relay
        rw [hoff, hpending] at hrelay
        simpa using hrelay.symm
      rw [poll_core, Protection.applyPendingInternalFault_of_not_pending hpending] at hon
      obtain ⟨m, t, hcall, hsafe, hgate⟩ := ProtectionCore.energised_step h.core hidle hon
      rw [h.config] at hsafe
      obtain ⟨hfresh, hvalid, hmains, hpower⟩ := ProtectionConfig.of_isSafe_classify hsafe
      cases received with
      | none => cases hcall
      | some m =>
        cases hcall
        exact ⟨m, now, readback, rfl, hvalid, hfresh, mains_of_built cfg m.2 hvalid hmains,
          hpower, hgate⟩

/-- Commands do not turn the relay ON. -/
theorem commands_off (h : Inv cfg s) (hoff : s.actuator.commandedOn = false)
    (commands : List DrainedCommand) :
    (commands.foldl (command cfg) s).actuator.commandedOn = false := by
  induction commands generalizing s with
  | nil => exact hoff
  | cons c commands ih =>
    apply ih (h.step (.command c))
    rw [Bool.eq_false_iff]
    intro hon
    obtain ⟨m, now, readback, heq, -⟩ := closes_step h hoff hon
    cases heq

/-! ## After a lock failure -/

/-- A lock failure is pending, or the core is in FAULT. -/
def Held (s : ControlTask) : Prop :=
  s.protection.internalFaultPending = true ∨ s.protection.core.state = .fault

theorem Held.apply (h : Held s) (now : Millis) :
    (s.protection.applyPendingInternalFault now).core.state = .fault := by
  rw [Protection.applyPendingInternalFault_state]
  rcases h with h | h
  · rw [if_pos h]
  · rw [h, ite_self]

/-- Only an accepted reset releases what a lock failure holds. -/
theorem Held.step (h : Held s) {st : ControlStep} (hst : ¬ AcceptedReset s st) :
    Held (s.step cfg st) := by
  cases st with
  | poll received lock readback =>
    cases lock with
    | none =>
      left
      rw [ControlTask.step, (poll_unlocked cfg s received readback).2]
    | some now => exact .inr (poll_state_of_fault (h.apply now))
  | command c =>
    by_cases hc : c.type = .reset ∨ c.type = .remoteReset
    · rw [ControlTask.step, command_reset hc]
      obtain ⟨type, lock, readback⟩ := c
      cases lock with
      | none => exact h
      | some now =>
        have hrej : (s.protection.protectionReset (some now)).1 ≠ .accepted :=
          fun hacc => hst ⟨_, rfl, hc, hacc⟩
        exact .inr ((Protection.protectionReset_rejected hrej).1.trans (h.apply now))
    · obtain ⟨-, hpending, hstate⟩ := @command_other cfg s c hc
      rw [Held, ControlTask.step, hpending, hstate]
      exact h

theorem Held.relay_off (hinv : Inv cfg s) (h : Held s) : s.actuator.commandedOn = false := by
  rw [hinv.relay]
  rcases h with h | h
  · simp [h]
  · simp [h, SystemState.isOperating]

/-- After a lock failure the relay is only ON again if a reset was accepted and
then a safe sample was evaluated. -/
theorem released_of_on {steps : List ControlStep} (hinv : Inv cfg s) (hheld : Held s)
    (hon : (s.run cfg steps).actuator.commandedOn = true) :
    ∃ newest update between reset oldest,
      steps = newest ++ update :: between ++ reset :: oldest ∧
        AcceptedReset (s.run cfg oldest) reset ∧
        SafeUpdate cfg (s.run cfg (between ++ reset :: oldest)) update := by
  -- first the latch lasts up to an accepted reset
  have hfirst := @Run.holds_or_released _ _ (ControlTask.step cfg)
    (fun s => Inv cfg s ∧ Held s) AcceptedReset s ⟨hinv, hheld⟩
    (fun s st ⟨hi, hh⟩ hst => ⟨hi.step st, hh.step hst⟩) steps
  rcases hfirst with ⟨hi, hh⟩ | ⟨later, reset, oldest, rfl, ⟨hi, hh⟩, hacc⟩
  · have hoff : (s.run cfg steps).actuator.commandedOn = false := hh.relay_off hi
    simp [hoff] at hon
  -- then the relay stays OFF up to the update of a safe sample
  have hsecond := @Run.holds_or_released _ _ (ControlTask.step cfg)
    (fun s => Inv cfg s ∧ s.actuator.commandedOn = false) (SafeUpdate cfg)
    ((s.run cfg oldest).step cfg reset) ⟨hi.step reset, hacc.relay_off⟩
    (fun s st ⟨hi, hoff⟩ hst => ⟨hi.step st, by
      rw [Bool.eq_false_iff]
      exact fun hon => hst (closes_step hi hoff hon)⟩) later
  rw [run_append, run_cons] at hon
  rcases hsecond with ⟨-, hstill⟩ | ⟨newest, update, between, rfl, -, hsafe⟩
  · exact absurd (hstill.symm.trans hon) (by decide)
  · refine ⟨newest, update, between, reset, oldest, rfl, hacc, ?_⟩
    rw [run_append, run_cons]
    exact hsafe

/-! ## The contracts of the control task -/

/-- **Energised implies justified.** In every run from boot, whenever the relay
is commanded ON at the end of an iteration, no fault is active or pending, and
the newest sample passed to the core comes from a plausible reading, was fresh,
shows mains, and if it is over the fault threshold its sequence of such samples
is younger than the confirmation time. -/
theorem energised_justified (cfg : FirmwareConfig) (a : Actuator) (readback : Int)
    (nowMs : Millis) (its : List Iteration)
    (hon : ((boot cfg a readback nowMs).iterations cfg its).actuator.commandedOn = true) :
    let p := ((boot cfg a readback nowMs).iterations cfg its).protection
    (p.core.state = .normal ∨ p.core.state = .warning) ∧ p.core.fault.active = false ∧
      p.internalFaultPending = false ∧
      ∃ m passedMs, newestPassed (controlCalls its) = some (m, passedMs) ∧
        (∃ raw source,
          m = buildMeasurement raw source m.timestamp defaultMeasurementLimits ∧
            raw.Plausible defaultMeasurementLimits) ∧
        passedMs - m.timestamp ≤ cfg.maxMeasurementAgeMs ∧
        m.voltage > cfg.minOperatingVoltageV ∧
        (m.power > cfg.powerFaultThresholdW →
          ∃ first, overPassedSince cfg.powerFaultThresholdW (controlCalls its) = some first ∧
            passedMs - first < cfg.faultConfirmTimeMs) := by
  intro p
  have hinv : Inv cfg ((boot cfg a readback nowMs).iterations cfg its) := by
    rw [iterations_eq_run]
    exact inv_run cfg a readback nowMs _
  have hrelay := hinv.relay
  rw [hon] at hrelay
  obtain ⟨hpending, hop⟩ : p.internalFaultPending = false ∧ p.core.state.isOperating = true := by
    simpa using hrelay.symm
  have hstate : p.core.state = .normal ∨ p.core.state = .warning := by
    cases hs : p.core.state <;> simp [hs, SystemState.isOperating] at hop ⊢
  have hactive : p.core.fault.active = false := by
    obtain ⟨mode, href⟩ := hinv.core
    exact (href.unlatched (SystemState.ne_fault_of_isOperating hop)).inactive
  refine ⟨hstate, hactive, hpending, ?_⟩
  -- what the core says of its own history, read at the wrapper
  have hcore := run_boot_core cfg a readback nowMs (controlSteps its)
  rw [← iterations_eq_run] at hcore
  rw [show p.core = _ from hcore] at hop
  obtain ⟨m, passedMs, hnewest, hj⟩ :=
    ProtectionCore.justified id CoreCall.nowMs id CoreCall.at_nowMs _ nowMs _ hop
  have hover := ProtectionCore.overSince_eq_overRun id CoreCall.nowMs id CoreCall.at_nowMs _
    nowMs hop
  rw [Protection.newest_coreRun] at hnewest
  rw [Protection.overRun_coreRun] at hover
  have hbuilt := newestPassed_built hnewest
  obtain ⟨raw, source, t, hm, hraw, -, -, ht⟩ := hbuilt.of_valid hj.valid
  refine ⟨m, passedMs, hnewest, ⟨raw, source, by rw [ht]; exact hm, hraw⟩, hj.fresh,
    mains_of_built cfg hbuilt hj.valid hj.mains, ?_⟩
  intro hp
  obtain ⟨first, hfirst, hshort⟩ := hj.unconfirmed hp
  exact ⟨first, hover.symm.trans hfirst, hshort⟩

theorem energised_justified_overload :
    let its : List Iteration :=
      [.receives (queuedSample 230.0 600.0 2000) (some 2000),
        .receives (queuedSample 230.0 100.0 1000) (some 1000)]
    ((boot exampleFirmware .new levelHigh 0).iterations exampleFirmware its).actuator.commandedOn
        = true ∧
      newestPassed (controlCalls its) = some (meterSample 230.0 600.0 2000, 2000) ∧
      ∃ m passedMs, newestPassed (controlCalls its) = some (m, passedMs) ∧
        m.voltage > exampleFirmware.minOperatingVoltageV := by
  intro its
  obtain ⟨-, -, -, m, passedMs, hnewest, -, -, hvolt, -⟩ :=
    energised_justified exampleFirmware .new levelHigh 0 its (by decide)
  exact ⟨by decide, rfl, m, passedMs, hnewest, hvolt⟩

/-- **Only a safe, post-re-arm sample closes the relay.** In every run from
boot, a step that turns the relay ON is the update of a safe sample not taken
before the latest begin or accepted reset; and if every valid sample with mains
is over the fault threshold, the relay is never ON. -/
theorem relay_closes_only_on_safe_sample (cfg : FirmwareConfig) (a : Actuator) (readback : Int)
    (nowMs : Millis) (steps : List ControlStep) :
    let s := (boot cfg a readback nowMs).run cfg steps
    (∀ st, s.actuator.commandedOn = false → (s.step cfg st).actuator.commandedOn = true →
      SafeUpdate cfg s st ∧
        s.protection.core.rearmMs = rearmedAt nowMs (controlLog cfg nowMs steps)) ∧
    ((∀ m lock rb, .poll (some m) lock rb ∈ steps → m.1.valid = true →
        m.1.voltage > cfg.minOperatingVoltageV → m.1.power > cfg.powerFaultThresholdW) →
      s.actuator.commandedOn = false) := by
  intro s
  constructor
  · intro st hoff hon
    exact ⟨closes_step (inv_run cfg a readback nowMs steps) hoff hon,
      rearmMs_run cfg a readback nowMs steps⟩
  · -- a safe update would be one of the steps, with a sample under the threshold
    intro hover
    have hrun : ∀ later, (∃ rest, steps = rest ++ later) →
        ((boot cfg a readback nowMs).run cfg later).actuator.commandedOn = false := by
      intro later
      induction later with
      | nil => exact fun _ => by simp [boot, SystemState.isOperating]
      | cons st earlier ih =>
        rintro ⟨rest, hrest⟩
        have hoff := ih ⟨rest ++ [st], by simp [hrest]⟩
        rw [Bool.eq_false_iff]
        intro hon
        obtain ⟨m, now, rb, rfl, hvalid, -, hvolt, hpower, -⟩ :=
          closes_step (inv_run cfg a readback nowMs earlier) hoff hon
        exact hpower (hover m (some now) rb (by simp [hrest]) hvalid hvolt)
    exact hrun steps ⟨[], rfl⟩

/-- **Fail closed after a lock failure.** In every run from boot, an iteration
whose update or tick fails to take the mutex turns the relay OFF; it is only
ON at the end of a later iteration if since then a reset was accepted and,
after that, a safe sample was evaluated. -/
theorem fail_closed (cfg : FirmwareConfig) (a : Actuator) (readback : Int) (nowMs : Millis)
    (earlier : List Iteration) (it : Iteration) (hlock : it.lock = none)
    (later : List Iteration) :
    let s := (boot cfg a readback nowMs).iterations cfg earlier
    let failed := s.poll cfg it.received it.lock it.readback
    failed.actuator.commandedOn = false ∧
      (s.iterate cfg it).actuator.commandedOn = false ∧
      (((boot cfg a readback nowMs).iterations cfg (later ++ it :: earlier)).actuator.commandedOn
          = true →
        ∃ newest update between reset oldest,
          controlSteps later ++ (it.commands.map ControlStep.command).reverse
            = newest ++ update :: between ++ reset :: oldest ∧
          AcceptedReset (failed.run cfg oldest) reset ∧
          SafeUpdate cfg (failed.run cfg (between ++ reset :: oldest)) update) := by
  intro s failed
  have hs : Inv cfg s := by
    rw [show s = _ from iterations_eq_run cfg _ earlier]
    exact inv_run cfg a readback nowMs _
  have hfailed : Inv cfg failed := hs.step (.poll it.received it.lock it.readback)
  have hheld : Held failed := by
    left
    show (s.poll cfg it.received it.lock it.readback).protection.internalFaultPending = true
    rw [hlock, (poll_unlocked cfg s it.received it.readback).2]
  refine ⟨hheld.relay_off hfailed, commands_off hfailed (hheld.relay_off hfailed) _, ?_⟩
  intro hon
  have hwhole : (boot cfg a readback nowMs).iterations cfg (later ++ it :: earlier)
      = failed.run cfg (controlSteps later ++ (it.commands.map ControlStep.command).reverse) := by
    rw [run_append, run_commands, iterations_eq_run, controlSteps, List.flatMap_append,
      List.flatMap_cons, run_append, run_append, ← iterate_eq_run]
    congr 2
    exact (iterations_eq_run cfg _ earlier).symm
  rw [hwhole] at hon
  exact released_of_on hfailed hheld hon

theorem fail_closed_while_normal :
    let good : Lock → Iteration := .receives (queuedSample 230.0 100.0 1000)
    ((boot exampleFirmware .new levelHigh 0).iterations exampleFirmware
        [good (some 1000)]).actuator.commandedOn = true ∧
      ((boot exampleFirmware .new levelHigh 0).iterations exampleFirmware
        [good none, good (some 1000)]).actuator.commandedOn = false := by
  intro good
  exact ⟨by decide, (fail_closed exampleFirmware .new levelHigh 0 [good (some 1000)] (good none)
    rfl []).2.1⟩

end ControlTask

end EnergyController
