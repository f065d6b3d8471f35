/-
EnergyController.Firmware.Tasks — the three writers of the outputs side by
side: `setup` with `createTasks` and `fatalStop`, `controlTask`, and
`watchdogTask` (`src/main.cpp`).

Each party is a program counter; a step of one party is everything up to and
including its next effect on the protection or the outputs, and one call of
`actuatorApplyState` or `actuatorApplyResult` is one step. Any order of the
steps is a run: the tasks sit on two cores. What the parties do not decide is
part of the input: whether a resource or a task could be created, what the
queues deliver, the lock attempts, the read-backs, and the verdict of the
health check.

A step that is not the party's next one changes nothing, and `esp_restart`
ends the run: no step of any party changes the state after it.
-/
import EnergyController.Firmware.ControlTask

namespace EnergyController

/-- The tasks, in the order in which `createTasks` creates them. -/
inductive FirmwareTask where
  | sensor
  | control
  | display
  | network
  | watchdog
  | cli
  deriving DecidableEq, Repr

inductive SetupPc where
  /-- the outputs are OFF; mutex, queues and watchdog are being created -/
  | resources
  | creating (task : FirmwareTask)
  /-- in `fatalStop`, before it applies the FAULT outputs -/
  | fatal
  /-- in the endless loop of `fatalStop` -/
  | stopped
  | complete
  deriving DecidableEq

inductive ControlPc where
  | notCreated
  | receiving
  /-- holds a result it has still to apply -/
  | applying (result : ProtectionResult)
  | draining
  /-- a reset was accepted; the INIT outputs are still to be applied -/
  | resetting
  deriving DecidableEq

inductive WatchdogPc where
  | notCreated
  | supervising
  /-- the health check failed; the FAULT outputs are still to be applied -/
  | failed
  /-- in the `delay(100)` before the restart -/
  | forced
  | restarted
  deriving DecidableEq

structure Firmware where
  task : ControlTask
  setup : SetupPc
  control : ControlPc
  watchdog : WatchdogPc

inductive FirmwareStep where
  | checkResources (ok : Bool)
  | createTask (ok : Bool)
  | fatalApply (readback : Int)
  | controlPoll (received : Option QueuedMeasurement) (lock : Lock)
  | controlApply (readback : Int)
  | controlCommand (type : CommandType) (lock : Lock)
  | controlApplyReset (readback : Int)
  /-- the command queue is empty: the next iteration begins -/
  | controlLoop
  | watchdogCheck (healthy : Bool)
  | watchdogApply (readback : Int)
  | restart

namespace Firmware

/-- `setup` has driven the outputs OFF and begun the protection. -/
def powerOn (cfg : FirmwareConfig) (a : Actuator) (readback : Int) (nowMs : Millis) :
    Firmware where
  task := .boot cfg a readback nowMs
  setup := .resources
  control := .notCreated
  watchdog := .notCreated

/-- One task of `createTasks` was created and runs from here on. -/
def created (s : Firmware) : FirmwareTask → Firmware
  | .sensor => { s with setup := .creating .control }
  | .control => { s with setup := .creating .display, control := .receiving }
  | .display => { s with setup := .creating .network }
  | .network => { s with setup := .creating .watchdog }
  | .watchdog => { s with setup := .creating .cli, watchdog := .supervising }
  | .cli => { s with setup := .complete }

/-- `actuatorApplyState`, from whichever task. -/
def applyState (cfg : FirmwareConfig) (s : Firmware) (state : SystemState)
    (readback : Int) : Firmware :=
  { s with task := { s.task with
      actuator := s.task.actuator.actuatorApplyState cfg.relay state readback } }

/-- `setup`, `createTasks` and `fatalStop`. -/
def setupStep (cfg : FirmwareConfig) (s : Firmware) (st : FirmwareStep) : Firmware :=
  match s.setup, st with
  | .resources, .checkResources ok =>
    { s with setup := if ok then .creating .sensor else .fatal }
  | .creating task, .createTask ok =>
    if ok then s.created task else { s with setup := .fatal }
  | .fatal, .fatalApply readback => { s.applyState cfg .fault readback with setup := .stopped }
  | _, _ => s

/-- `controlTask`. -/
def controlStep (cfg : FirmwareConfig) (s : Firmware) (st : FirmwareStep) : Firmware :=
  match s.control, st with
  | .receiving, .controlPoll received lock =>
    let (result, protection) := s.task.protection.poll received lock
    { s with task := { s.task with protection := protection }, control := .applying result }
  | .applying result, .controlApply readback =>
    { s with
      task := { s.task with
        actuator := s.task.actuator.actuatorApplyResult cfg.relay result readback }
      control := .draining }
  | .draining, .controlCommand type lock =>
    match type with
    | .reset | .remoteReset =>
      let (result, protection) := s.task.protection.protectionReset lock
      { s with
        task := { s.task with protection := protection }
        control := if result = .accepted then .resetting else .draining }
    | .ack | .remoteAck =>
      { s with task := { s.task with
          protection := (s.task.protection.protectionAcknowledge lock).2 } }
    | _ => s
  | .resetting, .controlApplyReset readback =>
    { s.applyState cfg .init readback with control := .draining }
  | .draining, .controlLoop => { s with control := .receiving }
  | _, _ => s

/-- `watchdogTask`, past its start-up grace period. -/
def watchdogStep (cfg : FirmwareConfig) (s : Firmware) (st : FirmwareStep) : Firmware :=
  match s.watchdog, st with
  | .supervising, .watchdogCheck healthy => if healthy then s else { s with watchdog := .failed }
  | .failed, .watchdogApply readback =>
    { s.applyState cfg .fault readback with watchdog := .forced }
  | .forced, .restart => { s with watchdog := .restarted }
  | _, _ => s

def step (cfg : FirmwareConfig) (s : Firmware) (st : FirmwareStep) : Firmware :=
  if s.watchdog = .restarted then s
  else
    match st with
    | .checkResources _ | .createTask _ | .fatalApply _ => s.setupStep cfg st
    | .watchdogCheck _ | .watchdogApply _ | .restart => s.watchdogStep cfg st
    | _ => s.controlStep cfg st

/-- The state after steps, newest first. -/
def run (cfg : FirmwareConfig) (s : Firmware) (steps : List FirmwareStep) : Firmware :=
  Run.after (step cfg) s steps

/-- The watchdog or `fatalStop` has applied the FAULT outputs. -/
def Forced (s : Firmware) : Prop :=
  s.watchdog = .forced ∨ s.watchdog = .restarted ∨ s.setup = .stopped

instance (s : Firmware) : Decidable s.Forced := inferInstanceAs (Decidable (_ ∨ _ ∨ _))

/-- All resources and all tasks are created. -/
def startUp : List FirmwareStep :=
  List.replicate 6 (.createTask true) ++ [.checkResources true]

/-- An undisturbed iteration on a reading of 230 V and 100 W at `t`. -/
def goodIteration (t : Millis) : List FirmwareStep :=
  [.controlLoop, .controlApply levelLow, .controlPoll (some (queuedSample 230.0 100.0 t)) (some t)]

end Firmware

end EnergyController
