/-
EnergyController.Firmware.TasksTheorems — what becomes of the forced safe
output when the tasks interleave.

The comment in `watchdogTask` says "Drive the safe output before restarting".
Nothing keeps it driven: `controlTask` goes on polling, and applies each result
as it comes. `forcedOutput_overridden` is a run in which the load is supplied
when `esp_restart` runs; the example after it one in which it is supplied while
`fatalStop` loops.

`Contained` says of a step that it does not open that way; it looks at the
state before the step and at what the step receives. In a run of contained
steps the forced output stays forced, and the first step that is not contained
leaves a state from which `controlTask` turns the relay ON with its next step
(`forced_output_contained`). `iterations_alone` ties the steps of `controlTask` to
its iterations.
-/
import EnergyController.Firmware.ControlTaskTheorems
import EnergyController.Firmware.Tasks

namespace EnergyController

/-! ## Which polls command the relay ON -/

/-- An update that is not held back by a latch leaves an operating state: the
gate ignores the sample of a core that operates, or the sample is safe, or it
is over the threshold and its confirmation is running. -/
def ProtectionCore.energises (c : ProtectionCore) (m : Measurement) (nowMs : Millis) : Bool :=
  if c.ignores m then c.state.isOperating
  else
    match c.config.classify m nowMs with
    | .normal | .elevated => true
    | .overload =>
      !c.awaitingFirstSample &&
        decide (nowMs - (if c.timerActive then c.timerStart else nowMs)
          < c.config.faultConfirmMs)
    | .stale | .invalid | .noMains => false

/-- The poll gets the mutex, no lock failure is pending, the core is not
latched, and the sample, or the lack of one, leaves an operating state. -/
def Protection.energises (p : Protection) (received : Option QueuedMeasurement) : Lock → Bool
  | none => false
  | some now =>
    !p.internalFaultPending && p.core.state != .fault &&
      match received with
      | some m => p.core.energises m.1 now
      | none => p.core.state.isOperating && !p.core.silent now

/-- The result, once applied, commands the relay ON. -/
def ProtectionResult.commandsOn (result : ProtectionResult) : Bool :=
  (outputsForResult result).relayCommandedOn

theorem ProtectionResult.commandsOn_eq (result : ProtectionResult) :
    result.commandsOn = (!result.synchronizationFailed && result.state.isOperating) := by
  simp only [commandsOn, outputsForResult]
  cases result.synchronizationFailed <;> simp [outputsForState_relay, SystemState.isOperating]

namespace ProtectionCore

variable {c : ProtectionCore}

theorem update_isOperating (hs : c.state ≠ .fault) (m : Measurement) (nowMs : Millis) :
    (c.update m nowMs).2.state.isOperating = c.energises m nowMs := by
  cases hi : c.ignores m with
  | true => simp [update_of_ignores hs hi, energises, hi]
  | false =>
    rw [update_of_evaluates (evaluates_iff.mpr ⟨hs, hi⟩), evaluate_eq]
    simp only [energises, hi]
    cases hrow : c.config.classify m nowMs with
    | overload =>
      simp only [react, overload]
      cases ha : c.awaitingFirstSample with
      | true => simp [raiseFault_eq, SystemState.isOperating]
      | false =>
        generalize (if c.timerActive then c.timerStart else nowMs) = start
        by_cases hc : c.config.faultConfirmMs ≤ nowMs - start
        · simp [hc, raiseFault_eq, SystemState.isOperating, BitVec.not_lt.mpr hc]
        · simp [hc, SystemState.isOperating, BitVec.not_le.mp hc]
    | _ => simp [react, raiseFault_eq, SystemState.isOperating]

theorem tick_isOperating (c : ProtectionCore) (nowMs : Millis) :
    (c.tick nowMs).2.state.isOperating = (c.state.isOperating && !c.silent nowMs) := by
  rw [tick_eq]
  cases hq : c.silent nowMs <;> simp [raiseFault_eq, SystemState.isOperating]

end ProtectionCore

/-- **Which polls command ON.** -/
theorem Protection.poll_commandsOn (p : Protection) (received : Option QueuedMeasurement)
    (lock : Lock) : (p.poll received lock).1.commandsOn = p.energises received lock := by
  rw [ProtectionResult.commandsOn_eq]
  cases lock with
  | none => cases received <;> rfl
  | some now =>
    by_cases hs : (p.applyPendingInternalFault now).core.state = .fault
    · -- latched, or about to be: nothing is evaluated
      have hoff : p.energises received (some now) = false := by
        rw [applyPendingInternalFault_state] at hs
        cases hp : p.internalFaultPending <;> simp_all [energises]
      rw [hoff]
      cases received with
      | some m =>
        simp [poll, protectionUpdate, (ProtectionCore.update_result _ _ _).1,
          ProtectionCore.update_of_fault hs, hs, SystemState.isOperating]
      | none =>
        simp [poll, protectionTick, (ProtectionCore.tick_result _ _).1, ProtectionCore.tick_eq,
          ProtectionCore.silent, hs, SystemState.isOperating]
    · have hpending : p.internalFaultPending = false := by
        rw [applyPendingInternalFault_state] at hs
        cases hp : p.internalFaultPending <;> simp_all
      rw [applyPendingInternalFault_of_not_pending hpending] at hs
      cases received with
      | some m =>
        obtain ⟨hstate, hsync⟩ := ProtectionCore.update_result p.core m.1 now
        simp only [poll, protectionUpdate, applyPendingInternalFault_of_not_pending hpending,
          hstate, hsync, ProtectionCore.update_isOperating hs, energises]
        simp [hpending, hs]
      | none =>
        obtain ⟨hstate, hsync⟩ := ProtectionCore.tick_result p.core now
        simp only [poll, protectionTick, applyPendingInternalFault_of_not_pending hpending,
          hstate, hsync, ProtectionCore.tick_isOperating, energises]
        simp [hpending, hs]

namespace Firmware

variable {cfg : FirmwareConfig} {s : Firmware}

@[simp] theorem run_nil (cfg : FirmwareConfig) (s : Firmware) : s.run cfg [] = s := rfl

@[simp] theorem run_cons (cfg : FirmwareConfig) (s : Firmware) (st : FirmwareStep)
    (earlier : List FirmwareStep) :
    s.run cfg (st :: earlier) = (s.run cfg earlier).step cfg st := rfl

theorem run_append (cfg : FirmwareConfig) (s : Firmware) (later earlier : List FirmwareStep) :
    s.run cfg (later ++ earlier) = (s.run cfg earlier).run cfg later :=
  Run.after_append _ _ _ _

/-! ## The control task on its own -/

/-- Undisturbed, poll and apply are the first half of an iteration. -/
theorem poll_alone (hw : s.watchdog ≠ .restarted) (hc : s.control = .receiving)
    (received : Option QueuedMeasurement) (lock : Lock) (readback : Int) :
    s.run cfg [.controlApply readback, .controlPoll received lock]
      = { s with task := s.task.poll cfg received lock readback, control := .draining } := by
  simp [step, hw, controlStep, hc, ControlTask.poll]

/-- Undisturbed, a command and the INIT outputs that an accepted reset calls
for are one command of an iteration. -/
theorem command_alone (hw : s.watchdog ≠ .restarted) (hc : s.control = .draining)
    (c : DrainedCommand) :
    s.run cfg [.controlApplyReset c.readback, .controlCommand c.type c.lock]
      = { s with task := s.task.command cfg c } := by
  obtain ⟨type, lock, readback⟩ := c
  cases type
  case reset | remoteReset =>
    by_cases hres : (s.task.protection.protectionReset lock).1 = .accepted <;>
      simp_all [step, controlStep, applyState, ControlTask.command]
  all_goals cases s; simp_all [step, controlStep, ControlTask.command]

/-- The steps of an iteration, newest first. -/
def iterationSteps (it : Iteration) : List FirmwareStep :=
  [.controlLoop] ++
    (it.commands.reverse.flatMap fun c =>
      [.controlApplyReset c.readback, .controlCommand c.type c.lock]) ++
    [.controlApply it.readback, .controlPoll it.received it.lock]

theorem commands_alone (hw : s.watchdog ≠ .restarted) (hc : s.control = .draining)
    (commands : List DrainedCommand) :
    s.run cfg (commands.reverse.flatMap fun c =>
        [.controlApplyReset c.readback, .controlCommand c.type c.lock])
      = { s with task := commands.foldl (ControlTask.command cfg) s.task } := by
  induction commands generalizing s with
  | nil => rfl
  | cons c commands ih =>
    rw [List.reverse_cons, List.flatMap_append, List.flatMap_singleton, run_append,
      command_alone hw hc, List.foldl_cons]
    exact ih hw hc

theorem iteration_alone (hw : s.watchdog ≠ .restarted) (hc : s.control = .receiving)
    (it : Iteration) :
    s.run cfg (iterationSteps it) = { s with task := s.task.iterate cfg it } := by
  rw [iterationSteps, run_append, run_append, poll_alone hw hc, commands_alone (by exact hw) rfl]
  obtain ⟨task, setup, control, watchdog⟩ := s
  obtain rfl : control = .receiving := hc
  have hw : watchdog ≠ .restarted := hw
  simp [step, hw, controlStep, ControlTask.iterate]

/-- **Undisturbed, ControlTask makes its iterations**: in a run of the firmware in
which only its steps come, the task is as its own model leaves it. -/
theorem iterations_alone (cfg : FirmwareConfig) (hw : s.watchdog ≠ .restarted)
    (hc : s.control = .receiving) (its : List Iteration) :
    s.run cfg (its.flatMap iterationSteps)
      = { s with task := s.task.iterations cfg its } := by
  induction its with
  | nil => rfl
  | cons it earlier ih =>
    rw [List.flatMap_cons, run_append, ih, iteration_alone (by exact hw) (by exact hc)]
    rfl

/-! ## The forced output -/

/-- The control task holds a result that commands the relay ON. -/
def holdsOn (s : Firmware) : Bool :=
  match s.control with
  | .applying result => result.commandsOn
  | _ => false

/-- The step does not open a way out of the forced output: the FAULT outputs
are not applied while the control task holds a result that commands ON, and
once they are applied, no poll energises. -/
def Contained (s : Firmware) (st : FirmwareStep) : Prop :=
  s.watchdog = .restarted ∨
    match st with
    | .fatalApply _ => s.setup = .fatal → s.holdsOn = false
    | .watchdogApply _ => s.watchdog = .failed → s.holdsOn = false
    | .controlPoll received lock =>
      s.Forced → s.control = .receiving → s.task.protection.energises received lock = false
    | _ => True

instance (s : Firmware) (st : FirmwareStep) : Decidable (s.Contained st) :=
  match st with
  | .fatalApply _ => inferInstanceAs (Decidable (_ ∨ (_ → _)))
  | .watchdogApply _ => inferInstanceAs (Decidable (_ ∨ (_ → _)))
  | .controlPoll _ _ => inferInstanceAs (Decidable (_ ∨ (_ → _ → _)))
  | .checkResources _ | .createTask _ | .controlApply _ | .controlCommand _ _
  | .controlApplyReset _ | .controlLoop | .watchdogCheck _ | .restart =>
    inferInstanceAs (Decidable (_ ∨ True))

/-- Once forced, the relay is OFF and nothing held turns it ON. -/
def Safe (s : Firmware) : Prop :=
  s.Forced → s.task.actuator.commandedOn = false ∧ s.holdsOn = false

/-- Before the watchdog is created it does not run. -/
def Ordered (s : Firmware) : Prop :=
  (s.setup = .resources ∨ ∃ task, s.setup = .creating task ∧ task ≠ .cli) →
    s.watchdog = .notCreated

theorem setupStep_safe (h : s.Safe) {st : FirmwareStep} (hst : s.Contained st)
    (hw : s.watchdog ≠ .restarted) : (s.setupStep cfg st).Safe := by
  unfold setupStep
  split
  · -- the resources
    rename_i ok hs
    intro hf
    apply h
    cases ok <;> simpa [Forced, hs] using hf
  · -- a task
    rename_i task ok hs
    cases ok with
    | false =>
      intro hf
      apply h
      simpa [Forced, hs] using hf
    | true =>
      intro hf
      cases task <;> simp_all [created, Forced, Safe, holdsOn]
  · -- `fatalStop`
    rename_i readback hs
    intro _
    refine ⟨by simp [applyState, SystemState.isOperating], ?_⟩
    exact (hst.resolve_left hw) hs
  · exact h

/-- The control task does not force, and what it holds after a poll is what the
poll commands. -/
theorem controlStep_safe (h : s.Safe) {st : FirmwareStep} (hst : s.Contained st)
    (hw : s.watchdog ≠ .restarted) : (s.controlStep cfg st).Safe := by
  unfold controlStep
  split
  · -- the poll
    rename_i received lock hs
    intro hf
    have hquiet := (hst.resolve_left hw) hf hs
    exact ⟨(h hf).1, (Protection.poll_commandsOn s.task.protection received lock).trans hquiet⟩
  · -- the result is applied
    rename_i result readback hs
    intro hf
    have hheld := (h hf).2
    rw [holdsOn, hs] at hheld
    exact ⟨hheld, rfl⟩
  · -- a command
    rename_i type lock hs
    intro hf
    cases type
    case reset | remoteReset =>
      refine ⟨(h hf).1, ?_⟩
      simp only [holdsOn]
      split
      · rename_i hheld
        split at hheld <;> cases hheld
      · rfl
    all_goals exact h hf
  · -- the INIT outputs
    intro _
    exact ⟨by simp [applyState, SystemState.isOperating], rfl⟩
  · -- the next iteration
    intro hf
    exact ⟨(h hf).1, rfl⟩
  · exact h

theorem watchdogStep_safe (h : s.Safe) {st : FirmwareStep} (hst : s.Contained st)
    (hw : s.watchdog ≠ .restarted) : (s.watchdogStep cfg st).Safe := by
  unfold watchdogStep
  split
  · -- the health check
    rename_i healthy hs
    cases healthy with
    | true => exact h
    | false =>
      intro hf
      apply h
      simpa [Forced, hs] using hf
  · -- the FAULT outputs
    rename_i readback hs
    intro _
    refine ⟨by simp [applyState, SystemState.isOperating], ?_⟩
    exact (hst.resolve_left hw) hs
  · -- `esp_restart`
    rename_i hs
    intro _
    exact h (.inl hs)
  · exact h

theorem step_safe (h : s.Safe) {st : FirmwareStep} (hst : s.Contained st) :
    (s.step cfg st).Safe := by
  unfold step
  split
  · exact h
  rename_i hw
  split
  · exact setupStep_safe h hst hw
  · exact setupStep_safe h hst hw
  · exact setupStep_safe h hst hw
  · exact watchdogStep_safe h hst hw
  · exact watchdogStep_safe h hst hw
  · exact watchdogStep_safe h hst hw
  · exact controlStep_safe h hst hw

/-- The control task touches neither of the other parties. -/
theorem controlStep_others (cfg : FirmwareConfig) (s : Firmware) (st : FirmwareStep) :
    (s.controlStep cfg st).setup = s.setup ∧ (s.controlStep cfg st).watchdog = s.watchdog := by
  unfold controlStep
  split <;> first | exact ⟨rfl, rfl⟩ | (split <;> exact ⟨rfl, rfl⟩)

theorem step_ordered (h : s.Ordered) (st : FirmwareStep) : (s.step cfg st).Ordered := by
  have hcontrol : (s.controlStep cfg st).Ordered := by
    obtain ⟨hs, hw⟩ := controlStep_others cfg s st
    rw [Ordered, hs, hw]
    exact h
  have hsetup : (s.setupStep cfg st).Ordered := by
    unfold setupStep
    split
    · rename_i ok hs
      intro _
      exact h (.inl hs)
    · rename_i task ok hs
      cases ok with
      | false => simp [Ordered]
      | true =>
        have hbefore : task ≠ .cli → s.watchdog = .notCreated :=
          fun ht => h (.inr ⟨task, hs, ht⟩)
        cases task <;> simp_all [Ordered, created]
    · simp [Ordered]
    · exact h
  have hwatchdog : (s.watchdogStep cfg st).Ordered := by
    unfold watchdogStep
    split
    · rename_i healthy hs
      intro hpc
      have hnot : s.watchdog = .notCreated := h (by cases healthy <;> exact hpc)
      rw [hs] at hnot
      cases hnot
    · rename_i readback hs
      intro hpc
      have hnot : s.watchdog = .notCreated := h hpc
      rw [hs] at hnot
      cases hnot
    · rename_i hs
      intro hpc
      have hnot : s.watchdog = .notCreated := h hpc
      rw [hs] at hnot
      cases hnot
    · exact h
  unfold step
  split
  · exact h
  · split <;> assumption

theorem forced_step (ho : s.Ordered) (hf : s.Forced) (st : FirmwareStep) :
    (s.step cfg st).Forced := by
  have hcontrol : (s.controlStep cfg st).Forced := by
    obtain ⟨hs, hw⟩ := controlStep_others cfg s st
    rw [Forced, hs, hw]
    exact hf
  have hsetup : (s.setupStep cfg st).Forced := by
    unfold setupStep
    split
    · rename_i ok hs
      have hnot := ho (.inl hs)
      simp [Forced, hs, hnot] at hf
    · rename_i task ok hs
      have hdog : s.watchdog = .forced ∨ s.watchdog = .restarted := by
        simpa [Forced, hs] using hf
      have hcli : task = .cli := by
        by_contra ht
        have hnot := ho (.inr ⟨task, hs, ht⟩)
        simp [hnot] at hdog
      cases ok <;> simpa [hcli, created, Forced] using hdog
    · exact .inr (.inr rfl)
    · exact hf
  have hwatchdog : (s.watchdogStep cfg st).Forced := by
    unfold watchdogStep
    split
    · rename_i healthy hs
      have hstopped : s.setup = .stopped := by simpa [Forced, hs] using hf
      cases healthy <;> exact .inr (.inr hstopped)
    · exact .inl rfl
    · exact .inr (.inl rfl)
    · exact hf
  unfold step
  split
  · exact hf
  · split <;> assumption

theorem ordered_run (cfg : FirmwareConfig) (a : Actuator) (readback : Int) (nowMs : Millis)
    (steps : List FirmwareStep) : ((powerOn cfg a readback nowMs).run cfg steps).Ordered := by
  apply Run.invariant
  · exact fun _ => rfl
  · exact fun _ st h => step_ordered h st

/-- The forced output is not taken back by the party that forced it. -/
theorem forced_run (ho : s.Ordered) (hf : s.Forced) (later : List FirmwareStep) :
    (s.run cfg later).Forced := by
  have h := @Run.invariant _ _ (step cfg) (fun s => s.Ordered ∧ s.Forced) s ⟨ho, hf⟩
    (fun s st h => ⟨step_ordered h.1 st, forced_step h.1 h.2 st⟩) later
  exact h.2

/-- What the control task holds is applied by its next step. -/
theorem apply_held (hw : s.watchdog ≠ .restarted) (hon : s.holdsOn = true) (hf : s.Forced)
    (readback : Int) :
    (s.step cfg (.controlApply readback)).Forced ∧
      (s.step cfg (.controlApply readback)).task.actuator.commandedOn = true := by
  cases hc : s.control with
  | applying result =>
    rw [holdsOn, hc] at hon
    simp only [step, if_neg hw, controlStep, hc]
    exact ⟨hf, hon⟩
  | _ => simp [holdsOn, hc] at hon

/-- A step that is not contained hands the control task the relay. -/
theorem escapes {st : FirmwareStep} (hst : ¬ s.Contained st) (readback : Int) :
    ((s.step cfg st).step cfg (.controlApply readback)).Forced ∧
      ((s.step cfg st).step cfg (.controlApply readback)).task.actuator.commandedOn = true := by
  obtain ⟨hw, hst⟩ := not_or.mp hst
  cases st with
  | fatalApply rb =>
    obtain ⟨hpc, hheld⟩ := Classical.not_imp.mp hst
    have hstep : s.step cfg (.fatalApply rb)
        = { s.applyState cfg .fault rb with setup := .stopped } := by
      simp only [step, if_neg hw, setupStep, hpc]
    rw [Bool.not_eq_false] at hheld
    rw [hstep]
    apply apply_held
    · exact hw
    · exact hheld
    · exact .inr (.inr rfl)
  | watchdogApply rb =>
    obtain ⟨hpc, hheld⟩ := Classical.not_imp.mp hst
    have hstep : s.step cfg (.watchdogApply rb)
        = { s.applyState cfg .fault rb with watchdog := .forced } := by
      simp [step, watchdogStep, hpc]
    rw [Bool.not_eq_false] at hheld
    rw [hstep]
    apply apply_held
    · simp
    · exact hheld
    · exact .inl rfl
  | controlPoll received lock =>
    obtain ⟨hf, hst⟩ := Classical.not_imp.mp hst
    obtain ⟨hc, hon⟩ := Classical.not_imp.mp hst
    have hstep : s.step cfg (.controlPoll received lock)
        = { s with
            task := { s.task with protection := (s.task.protection.poll received lock).2 }
            control := .applying (s.task.protection.poll received lock).1 } := by
      simp only [step, if_neg hw, controlStep, hc]
    rw [Bool.not_eq_false, ← Protection.poll_commandsOn] at hon
    rw [hstep]
    apply apply_held
    · exact hw
    · exact hon
    · exact hf
  | _ => exact absurd trivial hst

/-- **When the forced output stays forced.** In every run from power-on whose
steps are contained, once the watchdog or `fatalStop` has applied the FAULT
outputs the relay stays OFF, up to and including the restart. From a state
reached in any run, a step that is not contained leaves the control task one
step away from supplying the load with the output forced. -/
theorem forced_output_contained (cfg : FirmwareConfig) (a : Actuator) (readback : Int)
    (nowMs : Millis) (earlier : List FirmwareStep) :
    let start := powerOn cfg a readback nowMs
    (∀ later, Run.Meets (step cfg) Contained start (later ++ earlier) →
      (start.run cfg earlier).Forced →
        (start.run cfg (later ++ earlier)).task.actuator.commandedOn = false) ∧
    (∀ st rb, ¬ (start.run cfg earlier).Contained st →
      (start.run cfg (.controlApply rb :: st :: earlier)).Forced ∧
        (start.run cfg (.controlApply rb :: st :: earlier)).task.actuator.commandedOn = true) := by
  intro start
  refine ⟨?_, fun st rb hst => escapes hst rb⟩
  intro later hmeets hforced
  have hsafe : (start.run cfg (later ++ earlier)).Safe := by
    apply Run.invariant_of_meets _ _ hmeets
    · rintro (h | h | h) <;> cases h
    · exact fun s st hst h => step_safe h hst
  have hf : (start.run cfg (later ++ earlier)).Forced := by
    rw [run_append]
    exact forced_run (ordered_run cfg a readback nowMs earlier) hforced later
  exact (hsafe hf).1

theorem forced_output_contained_pending :
    let good : FirmwareStep := .controlPoll (some (queuedSample 230.0 100.0 18000)) (some 18000)
    let earlier := [.watchdogApply levelHigh, .watchdogCheck false, .controlLoop,
      .controlApply levelHigh, .controlPoll none none] ++ startUp
    let later := [.restart, .controlApply levelHigh, good]
    ((powerOn exampleFirmware .new levelHigh 0).run exampleFirmware
      (later ++ earlier)).task.actuator.commandedOn = false := by
  intro good earlier later
  exact (forced_output_contained exampleFirmware .new levelHigh 0 earlier).1 later (by decide)
    (by decide)

/-- **The forced output is overridden**: the control task is fed one good sample
a second; the health check fails just before 18 s, the FAULT outputs are
applied, and within the 100 ms before the restart the next sample closes the
relay again. -/
theorem forcedOutput_overridden :
    let fed : List FirmwareStep := ((List.range 17).reverse.map fun i =>
      goodIteration (1000 * (BitVec.ofNat 32 i + 1))).flatten
    let earlier := [.watchdogApply levelHigh, .watchdogCheck false] ++ fed ++ startUp
    let later := .restart :: goodIteration 18000
    let start := powerOn exampleFirmware .new levelHigh 0
    (start.run exampleFirmware earlier).Forced ∧
      (start.run exampleFirmware earlier).task.actuator.commandedOn = false ∧
      (start.run exampleFirmware (later ++ earlier)).watchdog = .restarted ∧
      (start.run exampleFirmware (later ++ earlier)).task.actuator.commandedOn = true := by
  decide +kernel

/-- The same behind `fatalStop`, when the last task cannot be created. -/
example :
    let earlier := [.fatalApply levelHigh, .createTask false] ++ goodIteration 1000 ++
      List.replicate 5 (.createTask true) ++ [.checkResources true]
    let later := goodIteration 2000
    let start := powerOn exampleFirmware .new levelHigh 0
    (start.run exampleFirmware earlier).Forced ∧
      (start.run exampleFirmware (later ++ earlier)).task.actuator.commandedOn = true := by
  decide

end Firmware

end EnergyController
