/-
EnergyController.Firmware.ControlTask — `controlTask` of `src/main.cpp`, the
one task that updates the protection and applies its results.

An iteration receives a measurement or times out, updates or ticks the
protection, applies the result to the actuator, and then drains the command
queue. Everything the task does not decide is part of the input: what the
queues deliver, whether each attempt to take the protection mutex succeeds and
at what clock value, and what the relay pin reads back.

`ControlStep` cuts an iteration at its calls on the protection, so that a
result about every step holds in particular at the end of every iteration
(`iterate_eq_run`).
-/
import EnergyController.Firmware.Actuator
import EnergyController.Firmware.Protection
import EnergyController.Measurement.CoreTheorems

namespace EnergyController

/-- `CommandType` of `diagnostics.h`. -/
inductive CommandType where
  | none
  | help
  | status
  | measure
  | fault
  | watchdog
  | tasks
  | uptime
  | reset
  | ack
  | version
  | remoteReset
  | remoteAck
  deriving DecidableEq, Repr

/-- The constants of `config.h` that the control path uses. The mains threshold
is a number. -/
structure FirmwareConfig where
  powerWarningThresholdW : Float32
  powerFaultThresholdW : Float32
  faultConfirmTimeMs : Millis
  minOperatingVoltageV : Float32
  maxMeasurementAgeMs : Millis
  relay : RelayConfig
  minOperating_finite : minOperatingVoltageV.isFinite = true

/-- `config.example.h`, in a PZEM build. -/
def exampleFirmware : FirmwareConfig where
  powerWarningThresholdW := 485.0
  powerFaultThresholdW := 550.0
  faultConfirmTimeMs := 2000
  minOperatingVoltageV := 10.0
  maxMeasurementAgeMs := 3000
  relay := { relayOnLevel := levelLow, relayOffLevel := levelHigh, relayOutputMode := .followState }
  minOperating_finite := by decide

def makeConfig (cfg : FirmwareConfig) : ProtectionConfig where
  warningPowerW := cfg.powerWarningThresholdW
  faultPowerW := cfg.powerFaultThresholdW
  minOperatingVoltageV := cfg.minOperatingVoltageV
  faultConfirmMs := cfg.faultConfirmTimeMs
  maxMeasurementAgeMs := cfg.maxMeasurementAgeMs

/-- What `readMeasurement` puts in the queue: always the outcome of
`buildMeasurement` with the default limits. -/
def Measurement.Built (m : Measurement) : Prop :=
  ∃ raw source timestampMs, m = buildMeasurement raw source timestampMs defaultMeasurementLimits

abbrev QueuedMeasurement := { m : Measurement // m.Built }

/-- What the queue holds after a meter reading at 3 A. -/
def queuedSample (voltage power : Float32) (timestampMs : Millis) : QueuedMeasurement :=
  ⟨meterSample voltage power timestampMs, _, _, _, rfl⟩

/-- A command drained from the queue, with the outcome of the lock attempt and
of the read-back its execution may make. -/
structure DrainedCommand where
  type : CommandType
  lock : Lock
  readback : Int

structure Iteration where
  /-- what `xQueueReceive` delivers within `CONTROL_PERIOD_MS` -/
  received : Option QueuedMeasurement
  lock : Lock
  readback : Int
  /-- oldest first -/
  commands : List DrainedCommand

/-- An iteration that receives `m` and drains no command. -/
def Iteration.receives (m : QueuedMeasurement) (lock : Lock) : Iteration where
  received := some m
  lock := lock
  readback := levelHigh
  commands := []

/-- The first half of an iteration: update on a received measurement, tick
otherwise. -/
def Protection.poll (p : Protection) (received : Option QueuedMeasurement) (lock : Lock) :
    ProtectionResult × Protection :=
  match received with
  | some measurement => p.protectionUpdate measurement.1 lock
  | none => p.protectionTick lock

/-- What the task works on. -/
structure ControlTask where
  protection : Protection
  actuator : Actuator

namespace ControlTask

/-- `setup` up to the start of the task: the relay is driven OFF before the
protection begins. -/
def boot (cfg : FirmwareConfig) (a : Actuator) (readback : Int) (nowMs : Millis) : ControlTask where
  protection := protectionBegin (.new (makeConfig cfg)) nowMs
  actuator := (a.actuatorBegin cfg.relay).actuatorApplyState cfg.relay .init readback

/-- The result is applied whatever its change flags say. -/
def poll (cfg : FirmwareConfig) (s : ControlTask) (received : Option QueuedMeasurement)
    (lock : Lock) (readback : Int) : ControlTask :=
  let (result, protection) := s.protection.poll received lock
  { protection := protection
    actuator := s.actuator.actuatorApplyResult cfg.relay result readback }

def command (cfg : FirmwareConfig) (s : ControlTask) (c : DrainedCommand) : ControlTask :=
  match c.type with
  | .reset | .remoteReset =>
    let (result, protection) := s.protection.protectionReset c.lock
    { protection := protection
      actuator :=
        if result = .accepted then
          s.actuator.actuatorApplyState cfg.relay .init c.readback
        else s.actuator }
  | .ack | .remoteAck =>
    { s with protection := (s.protection.protectionAcknowledge c.lock).2 }
  | _ => s

/-- One pass through the task's loop. -/
def iterate (cfg : FirmwareConfig) (s : ControlTask) (it : Iteration) : ControlTask :=
  it.commands.foldl (command cfg) (s.poll cfg it.received it.lock it.readback)

end ControlTask

/-! ## Runs -/

inductive ControlStep where
  | poll (received : Option QueuedMeasurement) (lock : Lock) (readback : Int)
  | command (c : DrainedCommand)

/-- The steps of an iteration, newest first. -/
def Iteration.steps (it : Iteration) : List ControlStep :=
  (it.commands.map .command).reverse ++ [.poll it.received it.lock it.readback]

/-- The steps of a run of iterations, newest first. -/
def controlSteps (its : List Iteration) : List ControlStep :=
  its.flatMap Iteration.steps

/-- The call a step makes on the protection. -/
def ControlStep.calls : ControlStep → List ProtectionCall
  | .poll (some m) lock _ => [.update m.1 lock]
  | .poll none lock _ => [.tick lock]
  | .command c =>
    match c.type with
    | .reset | .remoteReset => [.reset c.lock]
    | .ack | .remoteAck => [.acknowledge c.lock]
    | _ => []

namespace ControlTask

def step (cfg : FirmwareConfig) (s : ControlTask) : ControlStep → ControlTask
  | .poll received lock readback => s.poll cfg received lock readback
  | .command c => s.command cfg c

/-- The state after steps, newest first. -/
def run (cfg : FirmwareConfig) (s : ControlTask) (steps : List ControlStep) : ControlTask :=
  Run.after (step cfg) s steps

/-- The state after iterations, newest first. -/
def iterations (cfg : FirmwareConfig) (s : ControlTask) (its : List Iteration) : ControlTask :=
  Run.after (iterate cfg) s its

end ControlTask

/-- The calls of a run on the protection, newest first. -/
def stepCalls (steps : List ControlStep) : List ProtectionCall :=
  steps.flatMap ControlStep.calls

def controlCalls (its : List Iteration) : List ProtectionCall :=
  stepCalls (controlSteps its)

/-- The history of a run, as the protection policy sees it. -/
def controlLog (cfg : FirmwareConfig) (nowMs : Millis) (steps : List ControlStep) :
    List (Event Measurement Millis) :=
  ProtectionCore.log id CoreCall.nowMs ((ProtectionCore.new (makeConfig cfg)).begin nowMs)
    ((protectionBegin (.new (makeConfig cfg)) nowMs).coreRun (stepCalls steps))

end EnergyController
