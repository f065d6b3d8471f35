/-
EnergyController.Firmware.WatchdogTask — `watchdogTask` of `src/main.cpp`, the
supervisor of the heartbeats.

A pass of its loop reads the clock for the start-up grace, and past it asks
`watchdogManagerHealthy`, whose two steps are those of
`Firmware.WatchdogManager`. The beats of all tasks, its own included, come in
between in any order. A failed check applies the FAULT outputs and restarts.
Time is true time; `millis()` shows it modulo 2^32.

The task shares the actuator with other writers (`Firmware.Tasks`), so its own
model has no pins: `applied` is the history of the outputs it has driven. Another
history variable is `passes`, what each finished pass was faced with.
-/
import EnergyController.Firmware.Actuator
import EnergyController.Firmware.WatchdogManager

namespace EnergyController

/-- The constants of `config.h` that the supervisor uses. -/
structure WatchdogConfig where
  watchdogStartupGraceMs : Millis
  heartbeatTimeoutMs : Millis

/-- `config.example.h` -/
def exampleWatchdog : WatchdogConfig where
  watchdogStartupGraceMs := 10000
  heartbeatTimeoutMs := 6000

inductive SupervisorPc where
  /-- before the grace test of a pass: beating, or in `vTaskDelay` -/
  | looping
  /-- past the grace test, in `watchdogManagerHealthy` -/
  | checking (testedAt : Nat)
  /-- the check failed; the FAULT outputs are still to be applied -/
  | failed
  /-- in the `delay(100)` before the restart -/
  | forced
  | restarted
  deriving DecidableEq

/-- A finished pass: the time of its grace test, the time that the ages of the
beats refer to, the latest beats then, and whether it goes on to restart. -/
structure SupervisorPass where
  testedAt : Nat
  judgedAt : Nat
  stamped : HeartbeatId → Option Nat
  restarts : Bool

structure WatchdogTask where
  manager : WatchdogManager
  /-- the true time that `startup` was read at -/
  startup : Nat
  pc : SupervisorPc
  /-- the outputs driven, newest first -/
  applied : List OutputCommand
  /-- history, newest first -/
  passes : List SupervisorPass

inductive WatchdogTaskStep where
  | elapse (ms : Nat)
  | heartbeatRead (id : HeartbeatId)
  | heartbeatRecord (id : HeartbeatId)
  | testGrace
  | healthyRead
  | healthyReturn
  | applySafe
  | restart

namespace WatchdogTask

/-- The task starts, and reads `startup`; some beats may have come before. -/
def start (manager : WatchdogManager) : WatchdogTask where
  manager := { manager with checking := none }
  startup := manager.clock
  pc := .looping
  applied := []
  passes := []

/-- `millis() - startup >= WATCHDOG_STARTUP_GRACE_MS` -/
def graceOver (cfg : WatchdogConfig) (s : WatchdogTask) : Bool :=
  millis s.manager.clock - millis s.startup ≥ cfg.watchdogStartupGraceMs

/-- The grace test. Within the grace period the pass ends here. -/
def testGrace (cfg : WatchdogConfig) (s : WatchdogTask) : WatchdogTask :=
  if s.graceOver cfg then { s with pc := .checking s.manager.clock }
  else
    { s with passes :=
        { testedAt := s.manager.clock, judgedAt := s.manager.clock,
          stamped := s.manager.stamped, restarts := false } :: s.passes }

/-- The critical section of the health check, which read the clock at `time`. -/
def judge (cfg : WatchdogConfig) (s : WatchdogTask) (testedAt time : Nat) : WatchdogTask :=
  let restarts := !s.manager.healthy time cfg.heartbeatTimeoutMs
  { s with
    manager := s.manager.step .healthyReturn
    pc := if restarts then .failed else .looping
    passes :=
      { testedAt := testedAt, judgedAt := time, stamped := s.manager.stamped,
        restarts := restarts } :: s.passes }

/-- A step that is not the task's next one changes nothing, and nothing
happens after `esp_restart`. -/
def step (cfg : WatchdogConfig) (s : WatchdogTask) (st : WatchdogTaskStep) : WatchdogTask :=
  if s.pc = .restarted then s
  else
    match st with
    | .elapse ms => { s with manager := s.manager.step (.elapse ms) }
    | .heartbeatRead id => { s with manager := s.manager.step (.heartbeatRead id) }
    | .heartbeatRecord id => { s with manager := s.manager.step (.heartbeatRecord id) }
    | .testGrace => if s.pc = .looping then s.testGrace cfg else s
    | .healthyRead =>
      match s.pc with
      | .checking _ => { s with manager := s.manager.step .healthyRead }
      | _ => s
    | .healthyReturn =>
      match s.pc, s.manager.checking with
      | .checking testedAt, some time => s.judge cfg testedAt time
      | _, _ => s
    | .applySafe =>
      if s.pc = .failed then
        { s with applied := outputsForState SystemState.fault :: s.applied, pc := .forced }
      else s
    | .restart => if s.pc = .forced then { s with pc := .restarted } else s

/-- The state after steps, newest first. -/
def run (cfg : WatchdogConfig) (s : WatchdogTask) (steps : List WatchdogTaskStep) : WatchdogTask :=
  Run.after (step cfg) s steps

end WatchdogTask

end EnergyController
