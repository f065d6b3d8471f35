/-
EnergyController.Firmware.Concurrency — the two mutexes of the firmware, as the
tasks really use them: `protectionMutex` of `src/protection.cpp` with the atomic
`internalFaultPending` beside it, and `measurementMutex` of `src/main.cpp`.

`Firmware.Protection` and `Firmware.LatestMeasurement` take a call as one step.
Here a call is what the source makes of it: ask for the mutex, wait until it is
taken or the wait times out, read the clock, exchange the pending flag, work on
the guarded object with other tasks running in between, give the mutex back.
Each object below is an instance of `Lib.Guarded`, read off the function bodies
between `lock()` and `unlock()`; `Firmware.ConcurrencyTheorems` shows that the
one-step calls are what the tasks see.
-/
import EnergyController.Firmware.LatestMeasurement
import EnergyController.Lib.Guarded

namespace EnergyController

/-! ## `protection.cpp` -/

/-- The functions of `protection.h` that the tasks call. -/
inductive ProtectionFunction where
  | update (m : Measurement)
  | tick
  | reset
  | acknowledge
  | getSnapshot
  deriving DecidableEq

/-- The call, once the outcome of its lock attempt is known. -/
def ProtectionFunction.call : ProtectionFunction → Lock → ProtectionCall
  | .update m, lock => .update m lock
  | .tick, lock => .tick lock
  | .reset, lock => .reset lock
  | .acknowledge, lock => .acknowledge lock
  | .getSnapshot, lock => .getSnapshot lock

/-- What a call of the wrapper returns. -/
def Protection.reply (p : Protection) : ProtectionCall → CoreReply
  | .update m lock => .result (p.protectionUpdate m lock).1
  | .tick lock => .result (p.protectionTick lock).1
  | .reset lock => .reset (p.protectionReset lock).1
  | .acknowledge lock => .acknowledged (p.protectionAcknowledge lock).1
  | .getSnapshot lock => .snapshot (p.protectionGetSnapshot lock)

/-- `applyPendingInternalFault`, behind the exchange. -/
def ProtectionCore.applyPending (core : ProtectionCore) (pending : Bool) (now : Millis) :
    ProtectionCore :=
  if pending then (core.raiseInternalFault now).2 else core

/-- `core`, guarded by `protectionMutex`, and `internalFaultPending`. -/
def protectionObject : Guarded.Object ProtectionCore Bool ProtectionFunction CoreReply where
  exchange
    | .update _, _ => false
    | .tick, _ => false
    | .reset, _ => false
    | .acknowledge, pending => pending
    | .getSnapshot, pending => pending
  act
    | .update m, now, pending, core =>
      let (result, core) := (core.applyPending pending (millis now)).update m (millis now)
      (.result result, core)
    | .tick, now, pending, core =>
      let (result, core) := (core.applyPending pending (millis now)).tick (millis now)
      (.result result, core)
    | .reset, now, pending, core =>
      let (result, core) := (core.applyPending pending (millis now)).requestReset (millis now)
      (.reset result, core)
    | .acknowledge, _, _, core =>
      let (ok, core) := core.acknowledge
      (.acknowledged ok, core)
    | .getSnapshot, now, _, core => (.snapshot (core.snapshot (millis now)), core)
  refuse
    | .update _, _ => (.result ProtectionCore.lockFailureResult, true)
    | .tick, _ => (.result ProtectionCore.lockFailureResult, true)
    | .reset, pending => (.reset .rejectedBusy, pending)
    | .acknowledge, pending => (.acknowledged false, pending)
    | .getSnapshot, pending =>
      (.snapshot
        { state := .fault
          fault := { FaultManager.cleared with activeFault := .protectionInternal, active := true }
          faultTimerActive := false
          faultTimerAgeMs := 0
          lastResetResult := .none }, pending)

/-- A statement of a function body: a call on the core. The reply stands in the
task's own memory. -/
def coreStatement (f : ProtectionCore → CoreReply × ProtectionCore)
    (s : ProtectionCore × CoreReply) : ProtectionCore × CoreReply :=
  ((f s.1).2, (f s.1).1)

def pendingStatement (pending : Bool) (now : Millis) :
    List (ProtectionCore × CoreReply → ProtectionCore × CoreReply) :=
  if pending then [fun s => ((s.1.raiseInternalFault now).2, s.2)] else []

/-- The function bodies, statement by statement. -/
def protectionStatements : Guarded.Cutting protectionObject CoreReply where
  start := .acknowledged false
  pieces
    | .update m, now, pending =>
      pendingStatement pending (millis now) ++ [coreStatement fun core =>
        (.result (core.update m (millis now)).1, (core.update m (millis now)).2)]
    | .tick, now, pending =>
      pendingStatement pending (millis now) ++ [coreStatement fun core =>
        (.result (core.tick (millis now)).1, (core.tick (millis now)).2)]
    | .reset, now, pending =>
      pendingStatement pending (millis now) ++ [coreStatement fun core =>
        (.reset (core.requestReset (millis now)).1, (core.requestReset (millis now)).2)]
    | .acknowledge, _, _ =>
      [coreStatement fun core => (.acknowledged core.acknowledge.1, core.acknowledge.2)]
    | .getSnapshot, now, _ =>
      [coreStatement fun core => (.snapshot (core.snapshot (millis now)), core)]
  answer _ reply := reply
  composes o now pending core := by cases o <;> cases pending <;> rfl

namespace ConcurrentProtection

variable {T ℓ : Type*} [DecidableEq T]

/-- The state that `protectionBegin` leaves, or any state between two calls. -/
def start (p : Protection) (clock : ℕ) :
    Guarded.State T ProtectionCore Bool ProtectionFunction CoreReply ℓ :=
  Guarded.initial p.core p.internalFaultPending clock

/-- The state after steps of the tasks, newest first. -/
def run (C : Guarded.Cutting protectionObject ℓ) (p : Protection) (clock : ℕ)
    (steps : List (Guarded.Step T ProtectionFunction)) :
    Guarded.State T ProtectionCore Bool ProtectionFunction CoreReply ℓ :=
  Run.after (Guarded.State.step C) (start p clock) steps

def history (C : Guarded.Cutting protectionObject ℓ) (p : Protection) (clock : ℕ)
    (steps : List (Guarded.Step T ProtectionFunction)) :
    List (Guarded.Event T ProtectionFunction CoreReply) :=
  Guarded.State.history C (start p clock) steps

def toCall (c : T × Guarded.Call ProtectionFunction) : T × ProtectionCall :=
  (c.1, c.2.1.call (c.2.2.map millis))

/-- The calls on the wrapper, in the order in which they took effect, each with
the task that made it. -/
def calls (h : List (Guarded.Event T ProtectionFunction CoreReply)) :
    List (T × ProtectionCall) :=
  (Guarded.effects h).map toCall

/-- What the wrapper replies to the calls when it gets them one after another. -/
def replies (p : Protection) (calls : List (T × ProtectionCall)) : List (T × CoreReply) :=
  Run.observed (fun (p : Protection) (c : T × ProtectionCall) => p.step c.2)
    (fun p c => [(c.1, p.reply c.2)]) p calls

end ConcurrentProtection

/-! ## `latestMeasurement` -/

inductive MeasurementAccess where
  /-- `latestMeasurement = measurement` in `sensorTask` -/
  | store (m : Measurement)
  /-- `copyLatestMeasurement` -/
  | copy
  deriving DecidableEq

inductive MeasurementReply where
  | stored (taken : Bool)
  | copied (m : Option Measurement)
  deriving DecidableEq

/-- `latestMeasurement`, guarded by `measurementMutex`. -/
def measurementObject : Guarded.Object Measurement Unit MeasurementAccess MeasurementReply where
  exchange _ _ := ()
  act
    | .store m, _, _, _ => (.stored true, m)
    | .copy, _, _, latest => (.copied (some latest), latest)
  refuse
    | .store _, _ => (.stored false, ())
    | .copy, _ => (.copied none, ())

/-- The assignment of a `Measurement`, member by member: from, to. -/
def assignMembers : List (Measurement → Measurement → Measurement) :=
  [fun m out => { out with voltage := m.voltage },
    fun m out => { out with current := m.current },
    fun m out => { out with power := m.power },
    fun m out => { out with energy := m.energy },
    fun m out => { out with apparentPower := m.apparentPower },
    fun m out => { out with powerFactor := m.powerFactor },
    fun m out => { out with valid := m.valid },
    fun m out => { out with status := m.status },
    fun m out => { out with source := m.source },
    fun m out => { out with timestamp := m.timestamp }]

/-- Stores and copies member by member; the task's own memory is the
`Measurement` it copies into. -/
def measurementMembers : Guarded.Cutting measurementObject Measurement where
  start := .zeroInitialised
  pieces
    | .store m, _, _ => assignMembers.map fun assign s => (assign m s.1, s.2)
    | .copy, _, _ => assignMembers.map fun assign s => (s.1, assign s.1 s.2)
  answer
    | .store _, _ => .stored true
    | .copy, out => .copied (some out)
  composes o now v latest := by cases o <;> rfl

namespace ConcurrentMeasurement

variable {T ℓ : Type*} [DecidableEq T]

/-- The state after steps of the tasks, newest first; `latestMeasurement` is
value-initialised. -/
def run (C : Guarded.Cutting measurementObject ℓ) (clock : ℕ)
    (steps : List (Guarded.Step T MeasurementAccess)) :
    Guarded.State T Measurement Unit MeasurementAccess MeasurementReply ℓ :=
  Run.after (Guarded.State.step C) (Guarded.initial .zeroInitialised () clock) steps

def history (C : Guarded.Cutting measurementObject ℓ) (clock : ℕ)
    (steps : List (Guarded.Step T MeasurementAccess)) :
    List (Guarded.Event T MeasurementAccess MeasurementReply) :=
  Guarded.State.history C (Guarded.initial .zeroInitialised () clock) steps

/-- The newest sample stored in a sequence of accesses. -/
def newestStored : List (T × Guarded.Call MeasurementAccess) → Measurement
  | [] => .zeroInitialised
  | (_, .store m, some _) :: _ => m
  | _ :: earlier => newestStored earlier

end ConcurrentMeasurement

end EnergyController
