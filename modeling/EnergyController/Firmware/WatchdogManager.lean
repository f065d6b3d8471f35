/-
EnergyController.Firmware.WatchdogManager — `src/watchdog_manager.cpp`: the
heartbeat table shared by all tasks.

`watchdogManagerHeartbeat` and `watchdogManagerHealthy` read the clock first
and enter the critical section afterwards, so each is two steps here, and any
order of the steps of different calls is a run. Time is true time in
milliseconds; `millis()` shows it modulo 2^32. A supervised task beats its own
slot, one call at a time.
-/
import EnergyController.Heartbeat.Monitor
import EnergyController.Lib.Runs

namespace EnergyController

/-- `HeartbeatId` of `watchdog_manager.h`. -/
inductive HeartbeatId where
  | sensor
  | control
  | display
  | network
  | watchdog
  | cli
  deriving DecidableEq, Repr

def heartbeatCount : Nat := 6

/-- The slot of a task. -/
def HeartbeatId.slot : HeartbeatId → Nat
  | .sensor => 0
  | .control => 1
  | .display => 2
  | .network => 3
  | .watchdog => 4
  | .cli => 5

/-- The table and the calls in progress. -/
structure WatchdogManager where
  clock : Nat
  monitor : HeartbeatMonitor
  /-- a heartbeat between its two steps: the time it read -/
  beating : HeartbeatId → Option Nat
  /-- a health check between its two steps: the time it read -/
  checking : Option Nat
  /-- history: the time that the latest recorded beat had read -/
  stamped : HeartbeatId → Option Nat

inductive WatchdogStep where
  | elapse (ms : Nat)
  | heartbeatRead (id : HeartbeatId)
  | heartbeatRecord (id : HeartbeatId)
  | healthyRead
  | healthyReturn

namespace WatchdogManager

def start (time : Nat) : WatchdogManager where
  clock := time
  monitor := .new heartbeatCount
  beating := fun _ => none
  checking := none
  stamped := fun _ => none

/-- The second step of `watchdogManagerHeartbeat`. -/
def record (s : WatchdogManager) (id : HeartbeatId) (time : Nat) : WatchdogManager :=
  { s with
    monitor := s.monitor.beat id.slot (millis time)
    beating := fun id' => if id' = id then none else s.beating id'
    stamped := fun id' => if id' = id then some time else s.stamped id' }

/-- The critical section of `watchdogManagerHealthy`, for a call that read the
clock at `time`. -/
def healthy (s : WatchdogManager) (time : Nat) (timeoutMs : Millis) : Bool :=
  s.monitor.firstStale (millis time) timeoutMs = sizeMax

/-- A step that is not a call's next one changes nothing. -/
def step (s : WatchdogManager) : WatchdogStep → WatchdogManager
  | .elapse ms => { s with clock := s.clock + ms }
  | .heartbeatRead id =>
    match s.beating id with
    | none =>
      { s with beating := fun id' => if id' = id then some s.clock else s.beating id' }
    | some _ => s
  | .heartbeatRecord id =>
    match s.beating id with
    | none => s
    | some time => s.record id time
  | .healthyRead =>
    match s.checking with
    | none => { s with checking := some s.clock }
    | some _ => s
  | .healthyReturn => { s with checking := none }

/-- The state after steps, newest first. -/
def run (s : WatchdogManager) (steps : List WatchdogStep) : WatchdogManager :=
  Run.after step s steps

/-- Every task beats, one after the other. -/
def oneBeatEach : List WatchdogStep :=
  [HeartbeatId.cli, .watchdog, .network, .display, .control, .sensor].flatMap fun id =>
    [.heartbeatRecord id, .heartbeatRead id]

end WatchdogManager

end EnergyController
