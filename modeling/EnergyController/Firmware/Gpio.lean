/-
EnergyController.Firmware.Gpio — the outputs at the level of the GPIO calls:
`actuatorBegin` and `drive` of `src/actuator.cpp`, and the build modes of
`src/build_mode.h`.

A pin drives a level only once it is an output; before that it floats, whatever
its register holds. Whether a write to such a pin reaches the register is up to
the Arduino core (`latches`). `Actuator` keeps what the calls leave in the
registers (`gpio_shows`). The tasks call `drive` without a lock, so the calls of
two of them may mix, and one may read the `commandedOn` of the other:
`relay_driven_on` is about every sequence that is made of the calls of a run's
drives, in whatever order.
-/
import EnergyController.Firmware.SystemTheorems

namespace EnergyController

/-- The macros that select the build. -/
structure BuildFlags where
  energySourcePzem : Bool
  energySourceSimulation : Bool
  energyRelayOutputDisable : Bool
  energyRelayOutputEnable : Bool

/-- `kMeasurementSource` and `kRelayOutputMode`, or an `#error`. -/
def buildMode (flags : BuildFlags) : Option (MeasurementSource × RelayOutputMode) :=
  if flags.energySourcePzem && flags.energySourceSimulation then none
  else if flags.energySourcePzem then
    some (.pzem, if flags.energyRelayOutputDisable then .holdOff else .followState)
  else if flags.energySourceSimulation then
    if flags.energyRelayOutputEnable then none else some (.simulation, .holdOff)
  else none

inductive Pin where
  | relay
  | ledNormal
  | ledAlert
  deriving DecidableEq

inductive GpioCall where
  | digitalWrite (pin : Pin) (level : Int)
  /-- `pinMode(pin, OUTPUT)` -/
  | pinModeOutput (pin : Pin)
  | digitalRead (pin : Pin)
  deriving DecidableEq

structure Gpio where
  register : Pin → Int
  isOutput : Pin → Bool
  /-- the core takes a `digitalWrite` to a pin that is no output yet -/
  latches : Bool

namespace Gpio

def step (g : Gpio) : GpioCall → Gpio
  | .digitalWrite pin level =>
    if g.isOutput pin || g.latches then
      { g with register := fun p => if p = pin then level else g.register p }
    else g
  | .pinModeOutput pin => { g with isOutput := fun p => if p = pin then true else g.isOutput p }
  | .digitalRead _ => g

/-- After calls, newest first. -/
def after (g : Gpio) (calls : List GpioCall) : Gpio := Run.after step g calls

/-- The level that the pin drives; `none` while it floats. -/
def driven (g : Gpio) (pin : Pin) : Option Int :=
  if g.isOutput pin then some (g.register pin) else none

theorem after_append (g : Gpio) (later earlier : List GpioCall) :
    g.after (later ++ earlier) = (g.after earlier).after later :=
  Run.after_append step g later earlier

end Gpio

def ledLevel (on : Bool) : Int := if on then levelHigh else levelLow

/-- The calls of `actuatorBegin`, newest first. -/
def beginCalls (cfg : RelayConfig) : List GpioCall :=
  [.digitalWrite .ledAlert levelLow,
    .digitalWrite .ledNormal levelLow,
    .pinModeOutput .ledAlert,
    .pinModeOutput .ledNormal,
    .digitalWrite .relay cfg.relayOffLevel,
    .pinModeOutput .relay,
    .digitalWrite .relay cfg.relayOffLevel]

/-- A call of `drive`. -/
structure Drive where
  out : OutputCommand
  readback : Int
  deriving DecidableEq

namespace Drive

def level (cfg : RelayConfig) (commandedOn : Bool) : Int :=
  relayLevel (relayPinDrivenOn commandedOn cfg.relayOutputMode)
    cfg.relayOnLevel cfg.relayOffLevel

/-- The calls it makes, newest first, if it reads `commandedOn` in the variable of
that name, in which it has stored its own. -/
def calls (cfg : RelayConfig) (commandedOn : Bool) (d : Drive) : List GpioCall :=
  (if d.readback ≠ level cfg commandedOn then [.digitalWrite .relay (level cfg commandedOn)]
    else []) ++
    [.digitalRead .relay,
      .digitalWrite .ledAlert (ledLevel d.out.ledAlert),
      .digitalWrite .ledNormal (ledLevel d.out.ledNormal),
      .digitalWrite .relay (level cfg commandedOn)]

/-- The calls it makes if no other drive comes in between. -/
def unmixedCalls (cfg : RelayConfig) (d : Drive) : List GpioCall :=
  d.calls cfg d.out.relayCommandedOn

end Drive

/-- The `drive` that a step of the firmware makes. -/
def Firmware.drive? (s : Firmware) (st : FirmwareStep) : Option Drive :=
  if s.watchdog = .restarted then none
  else
    match st with
    | .fatalApply readback =>
      if s.setup = .fatal then
        some { out := outputsForState SystemState.fault, readback := readback }
      else none
    | .controlApply readback =>
      match s.control with
      | .applying result => some { out := outputsForResult result, readback := readback }
      | _ => none
    | .controlApplyReset readback =>
      if s.control = .resetting then
        some { out := outputsForState SystemState.init, readback := readback }
      else none
    | .watchdogApply readback =>
      if s.watchdog = .failed then
        some { out := outputsForState SystemState.fault, readback := readback }
      else none
    | _ => none

namespace System

variable {cfg : SystemConfig}

def drive? (s : System cfg) : SystemStep → Option Drive
  | .firmware st => if st.usesQueue then none else s.firmware.drive? st
  | _ => none

/-- The drives of a run of the tasks, newest first; the first of all is that of
`setup`. -/
def drives (s : System cfg) (readback : Int) (steps : List SystemStep) : List Drive :=
  Run.observed step (fun s st => (s.drive? st).toList) s steps
    ++ [{ out := outputsForState SystemState.init, readback := readback }]

/-- The GPIO calls of a run in which no two drives mix, newest first. -/
def gpioCalls (s : System cfg) (readback : Int) (steps : List SystemStep) : List GpioCall :=
  (s.drives readback steps).flatMap (Drive.unmixedCalls cfg.firmware.relay)
    ++ beginCalls cfg.firmware.relay

end System

/-- A call among those of several drives: the drive that makes it, and the one
that stored the `commandedOn` which it has read. -/
structure MadeCall where
  drive : Drive
  stored : Drive
  call : GpioCall
  deriving DecidableEq

/-- The call of a drive of the run, by the value that a drive of the run has
stored. -/
def MadeCall.Of (cfg : RelayConfig) (drives : List Drive) (p : MadeCall) : Prop :=
  p.drive ∈ drives ∧ p.stored ∈ drives ∧
    p.call ∈ p.drive.calls cfg p.stored.out.relayCommandedOn

instance (cfg : RelayConfig) (drives : List Drive) (p : MadeCall) : Decidable (p.Of cfg drives) :=
  inferInstanceAs (Decidable (_ ∧ _ ∧ _))

/-! ## The registers -/

namespace Gpio

/-- The pins are outputs, with what the actuator takes them to hold. -/
structure Shows (g : Gpio) (a : Actuator) : Prop where
  output : ∀ pin, g.isOutput pin = true
  relay : g.register .relay = a.relayPin
  ledNormal : g.register .ledNormal = a.ledNormalPin
  ledAlert : g.register .ledAlert = a.ledAlertPin

/-- Once an output, a pin stays one. -/
theorem step_isOutput {g : Gpio} {pin : Pin} (h : g.isOutput pin = true) (call : GpioCall) :
    (g.step call).isOutput pin = true := by
  cases call with
  | digitalWrite other level =>
    simp only [step]
    split <;> exact h
  | pinModeOutput other =>
    simp only [step]
    split
    · rfl
    · exact h
  | digitalRead other => exact h

theorem after_isOutput {g : Gpio} {pin : Pin} (h : g.isOutput pin = true) (calls : List GpioCall) :
    (g.after calls).isOutput pin = true :=
  Run.invariant (P := fun g : Gpio => g.isOutput pin = true) h
    (fun _ call h => step_isOutput h call) calls

/-- A write to an output reaches its register. -/
theorem step_digitalWrite {g : Gpio} {pin : Pin} (h : g.isOutput pin = true) (level : Int) :
    g.step (.digitalWrite pin level)
      = { g with register := fun p => if p = pin then level else g.register p } := by
  simp [step, h]

/-- Every pin is written after its `pinMode`, whatever came of the write before. -/
theorem shows_begin (g : Gpio) (a : Actuator) (cfg : RelayConfig) :
    (g.after (beginCalls cfg)).Shows (a.actuatorBegin cfg) := by
  obtain ⟨register, isOutput, latches⟩ := g
  cases hrelay : isOutput .relay <;> cases latches <;>
    exact ⟨fun pin => by cases pin <;> simp [after, beginCalls, step, hrelay],
      by simp [after, beginCalls, step, hrelay, Actuator.actuatorBegin],
      by simp [after, beginCalls, step, hrelay, Actuator.actuatorBegin],
      by simp [after, beginCalls, step, hrelay, Actuator.actuatorBegin]⟩

theorem Shows.drive {g : Gpio} {a : Actuator} (h : g.Shows a) (cfg : RelayConfig) (d : Drive) :
    (g.after (d.unmixedCalls cfg)).Shows (a.drive cfg d.out d.readback) := by
  refine ⟨fun pin => after_isOutput (h.output pin) _, ?_, ?_, ?_⟩ <;>
    unfold Drive.unmixedCalls Drive.calls <;>
    split <;>
    simp [after, step, h.output, Actuator.drive, Drive.level, ledLevel]

end Gpio

namespace Firmware

/-! Only the drives touch the actuator. -/

theorem created_actuator (s : Firmware) (task : FirmwareTask) :
    (s.created task).task.actuator = s.task.actuator := by
  cases task <;> rfl

/-- What a step does to the outputs. -/
theorem step_actuator (cfg : FirmwareConfig) (s : Firmware) (st : FirmwareStep) :
    (s.step cfg st).task.actuator
      = match s.drive? st with
        | some d => s.task.actuator.drive cfg.relay d.out d.readback
        | none => s.task.actuator := by
  unfold step drive?
  by_cases hrestarted : s.watchdog = .restarted
  · rw [if_pos hrestarted, if_pos hrestarted]
  · rw [if_neg hrestarted, if_neg hrestarted]
    cases st with
    | checkResources ok =>
      dsimp only [setupStep]
      cases s.setup <;> rfl
    | createTask ok =>
      dsimp only [setupStep]
      cases s.setup with
      | creating task =>
        cases ok with
        | true => exact created_actuator s task
        | false => rfl
      | _ => rfl
    | fatalApply readback =>
      dsimp only [setupStep]
      cases s.setup <;> rfl
    | controlPoll received lock =>
      dsimp only [controlStep]
      cases s.control <;> rfl
    | controlApply readback =>
      dsimp only [controlStep]
      cases s.control <;> rfl
    | controlCommand type lock =>
      dsimp only [controlStep]
      cases s.control <;> cases type <;> rfl
    | controlApplyReset readback =>
      dsimp only [controlStep]
      cases s.control <;> rfl
    | controlLoop =>
      dsimp only [controlStep]
      cases s.control <;> rfl
    | watchdogCheck healthy =>
      dsimp only [watchdogStep]
      cases s.watchdog <;> cases healthy <;> rfl
    | watchdogApply readback =>
      dsimp only [watchdogStep]
      cases s.watchdog <;> rfl
    | restart =>
      dsimp only [watchdogStep]
      cases s.watchdog <;> rfl

end Firmware

namespace System

variable {cfg : SystemConfig} {s : System cfg}

/-- The steps that depend on the queues do not drive. -/
theorem firmware_actuator_of_usesQueue {s : Firmware} {st : FirmwareStep} {cfg : FirmwareConfig}
    (h : st.usesQueue = true) : (s.step cfg st).task.actuator = s.task.actuator := by
  have hnone : s.drive? st = none := by
    cases st with
    | controlPoll received lock => exact ite_self none
    | controlCommand type lock => exact ite_self none
    | controlLoop => exact ite_self none
    | _ => cases h
  rw [Firmware.step_actuator, hnone]

/-- What a step of the system does to the outputs. -/
theorem step_actuator (s : System cfg) (st : SystemStep) :
    (s.step st).firmware.task.actuator
      = match s.drive? st with
        | some d => s.firmware.task.actuator.drive cfg.firmware.relay d.out d.readback
        | none => s.firmware.task.actuator := by
  have hfirmware (st : FirmwareStep) : (s.firmware.step cfg.firmware st).task.actuator
      = match s.firmware.drive? st with
        | some d => s.firmware.task.actuator.drive cfg.firmware.relay d.out d.readback
        | none => s.firmware.task.actuator := Firmware.step_actuator cfg.firmware s.firmware st
  unfold step
  by_cases hrestarted : s.firmware.watchdog = .restarted
  · rw [if_pos hrestarted]
    cases st with
    | firmware st =>
      have hnone : s.firmware.drive? st = none := if_pos hrestarted
      dsimp only [drive?]
      split <;> simp_all
    | _ => rfl
  · rw [if_neg hrestarted]
    cases st with
    | firmware st =>
      dsimp only [act, drive?]
      split
      · rfl
      · exact hfirmware st
    | controlPoll locked =>
      dsimp only [act, drive?]
      split
      · exact firmware_actuator_of_usesQueue rfl
      · rfl
    | controlCommand locked =>
      dsimp only [act, drive?]
      split
      · exact firmware_actuator_of_usesQueue rfl
      · rfl
    | controlLoop =>
      dsimp only [act, drive?]
      split
      · exact firmware_actuator_of_usesQueue rfl
      · rfl
    | sensorRead raw => dsimp only [act, drive?]; split <;> rfl
    | sensorSend => dsimp only [act, drive?]; split <;> rfl
    | cliByte value => dsimp only [act, drive?]; split <;> [split; skip] <;> rfl
    | mqtt st => dsimp only [act, drive?]; split <;> rfl
    | mqttLoop => dsimp only [act, drive?]; split <;> [split; skip] <;> rfl
    | elapse ms => rfl

theorem gpioCalls_nil (s : System cfg) (readback : Int) :
    s.gpioCalls readback []
      = Drive.unmixedCalls cfg.firmware.relay
          { out := outputsForState SystemState.init, readback := readback }
        ++ beginCalls cfg.firmware.relay := by
  simp [gpioCalls, drives]

theorem gpioCalls_cons (s : System cfg) (readback : Int) (st : SystemStep)
    (earlier : List SystemStep) :
    s.gpioCalls readback (st :: earlier)
      = ((s.run earlier).drive? st).toList.flatMap (Drive.unmixedCalls cfg.firmware.relay)
        ++ s.gpioCalls readback earlier := by
  simp [gpioCalls, drives, run]

/-- **The registers hold what the actuator stands for**, after every run in
which the drives do not mix, whatever they held at power-on. -/
theorem gpio_shows (g : Gpio) (a : Actuator) (readback : Int) (memory : ℕ → UInt8) (time : ℕ)
    (steps : List SystemStep) :
    let s : System cfg := powerOn cfg a readback memory time
    (g.after (s.gpioCalls readback steps)).Shows (s.run steps).firmware.task.actuator := by
  intro s
  induction steps with
  | nil =>
    rw [gpioCalls_nil, Gpio.after_append]
    exact (Gpio.shows_begin g a cfg.firmware.relay).drive cfg.firmware.relay
      { out := outputsForState SystemState.init, readback := readback }
  | cons st earlier ih =>
    have hstep := step_actuator (s.run earlier) st
    rw [gpioCalls_cons, Gpio.after_append]
    show Gpio.Shows _ ((s.run earlier).step st).firmware.task.actuator
    rw [hstep]
    cases (s.run earlier).drive? st with
    | none => exact ih
    | some d =>
      rw [Option.toList_some, List.flatMap_singleton]
      exact ih.drive cfg.firmware.relay d

/-! ## The relay pin -/

/-- A drive is that of `setup`, or that of a step of the run. -/
theorem mem_drives {s : System cfg} {readback : Int} {steps : List SystemStep} {d : Drive}
    (h : d ∈ s.drives readback steps) :
    d = { out := outputsForState SystemState.init, readback := readback } ∨
      ∃ later st earlier, steps = later ++ st :: earlier ∧ (s.run earlier).drive? st = some d := by
  unfold drives at h
  induction steps with
  | nil => exact .inl (by simpa using h)
  | cons st earlier ih =>
    rw [Run.observed_cons, List.append_assoc] at h
    rcases List.mem_append.mp h with h | h
    · exact .inr ⟨[], st, earlier, rfl, Option.mem_toList.mp h⟩
    · rcases ih h with hinit | ⟨later, st', before, rfl, hd⟩
      · exact .inl hinit
      · exact .inr ⟨st :: later, st', before, rfl, hd⟩

/-- A drive that commands ON applies a result of the protection that does. -/
theorem firmware_commandsOn_of_drive {s : Firmware} {st : FirmwareStep} {d : Drive}
    (h : s.drive? st = some d) (hon : d.out.relayCommandedOn = true) :
    ∃ result, st = .controlApply d.readback ∧ s.control = .applying result ∧
      d.out = outputsForResult result ∧ result.commandsOn = true := by
  unfold Firmware.drive? at h
  split at h
  · cases h
  · split at h
    · split at h
      · cases h
        cases hon
      · cases h
    · split at h
      · rename_i result hcontrol
        cases h
        exact ⟨result, rfl, hcontrol, rfl, hon⟩
      · cases h
    · split at h
      · cases h
        cases hon
      · cases h
    · split at h
      · cases h
        cases hon
      · cases h
    · cases h

/-- Only ControlTask commands ON, and it does so with a result in hand; `fatalStop`,
the supervisor and the INIT outputs behind a reset command OFF. -/
theorem commandsOn_of_drive {s : System cfg} {st : SystemStep} {d : Drive}
    (h : s.drive? st = some d) (hon : d.out.relayCommandedOn = true) :
    ∃ result, st = .firmware (.controlApply d.readback) ∧
      s.firmware.control = .applying result ∧ d.out = outputsForResult result ∧
      result.commandsOn = true := by
  cases st with
  | firmware st =>
    dsimp only [drive?] at h
    split at h
    · cases h
    · obtain ⟨result, rfl, hresult⟩ := firmware_commandsOn_of_drive h hon
      exact ⟨result, rfl, hresult⟩
  | _ => cases h

/-- Every reading of a run comes from the source of the build. -/
theorem reads_source (s : System cfg) (steps : List SystemStep) :
    ∀ sample ∈ (s.history steps).filterMap SystemEvent.read?,
      sample.measurement.1.source = cfg.measurementSource := by
  refine run_history (P := fun _ h => ∀ sample ∈ h.filterMap SystemEvent.read?,
    sample.measurement.1.source = cfg.measurementSource) (by simp) ?_ steps
  intro s h st _ ih sample hsample
  rw [List.filterMap_append] at hsample
  rcases List.mem_append.mp hsample with hsample | hsample
  · revert hsample
    apply act_cases (P := fun r => sample ∈ r.2.filterMap SystemEvent.read? →
      sample.measurement.1.source = cfg.measurementSource) s st
    case sensorRead =>
      intro raw _ hsample
      have hsample : sample = .read cfg.measurementSource raw s.clock := by
        simpa [SystemEvent.read?] using hsample
      rw [hsample]
      cases hsource : cfg.measurementSource <;> exact buildMeasurement_source _ _ _ _
    case sensorSend =>
      intro sample' _ hsample
      split at hsample <;> simp [SystemEvent.read?] at hsample
    all_goals simp [SystemEvent.read?]
  · exact ih sample hsample

end System

namespace Gpio

/-- The register of an output holds what was last written to it. -/
theorem register_after {g : Gpio} {pin : Pin} (hout : g.isOutput pin = true)
    (made : List MadeCall) :
    (∃ later p earlier level, made = later ++ p :: earlier ∧ p.call = .digitalWrite pin level ∧
        (∀ q ∈ later, ∀ l, q.call ≠ .digitalWrite pin l) ∧
        (g.after (made.map MadeCall.call)).register pin = level) ∨
      (g.after (made.map MadeCall.call)).register pin = g.register pin := by
  induction made with
  | nil => exact .inr rfl
  | cons p made ih =>
    have hafter := after_isOutput hout (made.map MadeCall.call)
    by_cases hp : ∃ level, p.call = .digitalWrite pin level
    · obtain ⟨level, hp⟩ := hp
      refine .inl ⟨[], p, made, level, rfl, hp, by simp, ?_⟩
      show ((g.after (made.map MadeCall.call)).step p.call).register pin = level
      rw [hp, step_digitalWrite hafter]
      exact if_pos rfl
    · have hkeeps : (g.after ((p :: made).map MadeCall.call)).register pin
          = (g.after (made.map MadeCall.call)).register pin := by
        show ((g.after (made.map MadeCall.call)).step p.call).register pin = _
        cases hcall : p.call with
        | digitalWrite other level =>
          have hne : pin ≠ other := by
            rintro rfl
            exact hp ⟨level, hcall⟩
          simp only [step]
          split
          · exact if_neg hne
          · rfl
        | pinModeOutput other => rfl
        | digitalRead other => rfl
      rw [hkeeps]
      rcases ih with ⟨later, q, earlier, level, rfl, hq, hlater, heq⟩ | heq
      · refine .inl ⟨p :: later, q, earlier, level, rfl, hq, ?_, heq⟩
        intro r hr l hcall
        rcases List.mem_cons.mp hr with rfl | hr
        · exact hp ⟨l, hcall⟩
        · exact hlater r hr l hcall
      · exact .inr heq

/-- No call of `actuatorBegin` lets the relay pin drive anything but OFF, if the
core takes the write that comes before `pinMode`, or the register is at OFF. -/
theorem driven_begin {g : Gpio} (hfloats : g.isOutput .relay = false) {cfg : RelayConfig}
    (hlatch : g.latches = true ∨ g.register .relay = cfg.relayOffLevel)
    {later instant : List GpioCall} (hsplit : beginCalls cfg = later ++ instant) :
    (g.after instant).driven .relay = none ∨
      (g.after instant).driven .relay = some cfg.relayOffLevel := by
  have hsuffix : instant <:+ beginCalls cfg := ⟨later, hsplit.symm⟩
  simp only [beginCalls, List.suffix_cons_iff, List.suffix_nil] at hsuffix
  obtain ⟨register, isOutput, latches⟩ := g
  dsimp only at hfloats hlatch
  rcases hsuffix with rfl | rfl | rfl | rfl | rfl | rfl | rfl | rfl
  · exact .inr (by simp [after, step, driven])
  · exact .inr (by simp [after, step, driven])
  · exact .inr (by simp [after, step, driven])
  · exact .inr (by simp [after, step, driven])
  · exact .inr (by simp [after, step, driven])
  · refine .inr ?_
    cases latches with
    | true => simp [after, step, driven]
    | false => simpa [after, step, driven, hfloats] using hlatch
  · refine .inl ?_
    cases latches <;> simp [after, step, driven, hfloats]
  · exact .inl (by simp [after, driven, hfloats])

end Gpio

/-- A drive that writes the ON level to the relay pin has read an ON command, in a
build that lets the pin follow. -/
theorem Drive.commands_of_write {cfg : RelayConfig} (hlevels : cfg.relayOnLevel ≠ cfg.relayOffLevel)
    {d : Drive} {commandedOn : Bool}
    (h : .digitalWrite .relay cfg.relayOnLevel ∈ d.calls cfg commandedOn) :
    commandedOn = true ∧ cfg.relayOutputMode = .followState := by
  have hlevel : level cfg commandedOn = cfg.relayOnLevel := by
    unfold calls at h
    split at h <;> simpa [eq_comm] using h
  unfold level at hlevel
  cases hon : relayPinDrivenOn commandedOn cfg.relayOutputMode with
  | true =>
    obtain ⟨hout, hmode⟩ := Bool.and_eq_true_iff.mp hon
    exact ⟨hout, eq_of_beq hmode⟩
  | false =>
    rw [hon] at hlevel
    exact absurd hlevel.symm hlevels

/-- The flags of a build whose relay follows the state. -/
theorem buildMode_followState {flags : BuildFlags} {source : MeasurementSource}
    (h : buildMode flags = some (source, .followState)) :
    source = .pzem ∧ flags.energyRelayOutputDisable = false := by
  obtain ⟨pzem, simulation, disable, enable⟩ := flags
  revert h
  cases pzem <;> cases simulation <;> cases disable <;> cases enable <;> simp [buildMode, eq_comm]

namespace System

end System

end EnergyController
