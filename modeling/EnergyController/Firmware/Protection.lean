/-
EnergyController.Firmware.Protection — the locked wrapper of
`src/protection.cpp` around the protection core.

Each call first tries to take the protection mutex. `Lock` is the outcome:
`none` if the mutex could not be taken in time, else the value of `millis()`
read while it is held. A failed update or tick sets `internalFaultPending`
and reports a synthesised FAULT; the next call that does get the lock applies
the pending fault to the core first. `protectionBegin` is modelled from the
point where the mutex was created: without it the firmware stops there.

`coreCalls` lists the calls a wrapper call makes on the core, so that every
run of the wrapper is a run of the core (`Firmware.ProtectionTheorems`).
-/
import EnergyController.Protection.History

namespace EnergyController

/-- An attempt to take the protection mutex: the clock value read under it. -/
abbrev Lock := Option Millis

structure Protection where
  core : ProtectionCore
  /-- set when a call failed to take the mutex -/
  internalFaultPending : Bool
  deriving DecidableEq

def protectionBegin (core : ProtectionCore) (nowMs : Millis) : Protection where
  core := core.begin nowMs
  internalFaultPending := false

namespace Protection

def applyPendingInternalFault (p : Protection) (nowMs : Millis) : Protection :=
  if p.internalFaultPending then
    { core := (p.core.raiseInternalFault nowMs).2, internalFaultPending := false }
  else p

def protectionUpdate (p : Protection) (m : Measurement) (lock : Lock) :
    ProtectionResult × Protection :=
  match lock with
  | none => (ProtectionCore.lockFailureResult, { p with internalFaultPending := true })
  | some now =>
    let p := p.applyPendingInternalFault now
    let (result, core) := p.core.update m now
    (result, { p with core := core })

def protectionTick (p : Protection) (lock : Lock) : ProtectionResult × Protection :=
  match lock with
  | none => (ProtectionCore.lockFailureResult, { p with internalFaultPending := true })
  | some now =>
    let p := p.applyPendingInternalFault now
    let (result, core) := p.core.tick now
    (result, { p with core := core })

/-- A pending internal fault is applied before the request is judged. -/
def protectionReset (p : Protection) (lock : Lock) : ResetResult × Protection :=
  match lock with
  | none => (.rejectedBusy, p)
  | some now =>
    let p := p.applyPendingInternalFault now
    let (result, core) := p.core.requestReset now
    (result, { p with core := core })

def protectionAcknowledge (p : Protection) (lock : Lock) : Bool × Protection :=
  match lock with
  | none => (false, p)
  | some _ =>
    let (ok, core) := p.core.acknowledge
    (ok, { p with core := core })

/-- Without the lock, the snapshot is a synthesised PROTECTION_INTERNAL. -/
def protectionGetSnapshot (p : Protection) (lock : Lock) : ProtectionSnapshot :=
  match lock with
  | none =>
    { state := .fault
      fault := { FaultManager.cleared with activeFault := .protectionInternal, active := true }
      faultTimerActive := false
      faultTimerAgeMs := 0
      lastResetResult := .none }
  | some now => p.core.snapshot now

end Protection

/-! ## Runs -/

/-- A call on the wrapper, with the outcome of its lock attempt. -/
inductive ProtectionCall where
  | update (m : Measurement) (lock : Lock)
  | tick (lock : Lock)
  | reset (lock : Lock)
  | acknowledge (lock : Lock)
  | getSnapshot (lock : Lock)
  deriving DecidableEq

/-- The calls that apply a pending internal fault: update, tick and reset, if
they get the lock. -/
def ProtectionCall.applies : ProtectionCall → Option Millis
  | .update _ lock => lock
  | .tick lock => lock
  | .reset lock => lock
  | .acknowledge _ => none
  | .getSnapshot _ => none

/-- An update or tick failed to take the mutex, and no update, tick or reset
has taken it since. -/
def lockFailed : List ProtectionCall → Bool
  | [] => false
  | .update _ none :: _ => true
  | .tick none :: _ => true
  | .update _ (some _) :: _ => false
  | .tick (some _) :: _ => false
  | .reset (some _) :: _ => false
  | _ :: earlier => lockFailed earlier

/-- The newest sample that was passed to the core, and when. -/
def newestPassed : List ProtectionCall → Option (Measurement × Millis)
  | [] => none
  | .update m (some now) :: _ => some (m, now)
  | _ :: earlier => newestPassed earlier

/-- When the unbroken sequence of passed samples over `faultPowerW` that ends
with the newest one began. -/
def overPassedSince (faultPowerW : Float32) : List ProtectionCall → Option Millis
  | [] => none
  | .update m (some now) :: earlier =>
    if m.power > faultPowerW then some ((overPassedSince faultPowerW earlier).getD now) else none
  | _ :: earlier => overPassedSince faultPowerW earlier

/-- The lock attempt of the newest reset request. -/
def newestReset : List ProtectionCall → Option Lock
  | [] => none
  | .reset lock :: _ => some lock
  | _ :: earlier => newestReset earlier

namespace Protection

def step (p : Protection) : ProtectionCall → Protection
  | .update m lock => (p.protectionUpdate m lock).2
  | .tick lock => (p.protectionTick lock).2
  | .reset lock => (p.protectionReset lock).2
  | .acknowledge lock => (p.protectionAcknowledge lock).2
  | .getSnapshot _ => p

/-- The call that applies a pending internal fault. -/
def pendingCall (p : Protection) (now : Millis) : List CoreCall :=
  if p.internalFaultPending then [.raiseInternalFault now] else []

/-- The calls that reach the core, newest first. -/
def coreCalls (p : Protection) : ProtectionCall → List CoreCall
  | .update m (some now) => .update m now :: p.pendingCall now
  | .tick (some now) => .tick now :: p.pendingCall now
  | .reset (some now) => .requestReset now :: p.pendingCall now
  | .acknowledge (some _) => [.acknowledge]
  | .getSnapshot (some now) => [.snapshot now]
  | _ => []

/-- The state after a run. -/
def run (p : Protection) (calls : List ProtectionCall) : Protection :=
  Run.after step p calls

/-- The core calls of a whole run. -/
def coreRun (p : Protection) (calls : List ProtectionCall) : List CoreCall :=
  Run.observed step coreCalls p calls

/-- What a call answers to a reset request. -/
def resetAnswers (p : Protection) : ProtectionCall → List ResetResult
  | .reset lock => [(p.protectionReset lock).1]
  | _ => []

/-- The results that the reset requests of a run were given, newest first. -/
def resetResults (p : Protection) (calls : List ProtectionCall) : List ResetResult :=
  Run.observed step resetAnswers p calls

end Protection

end EnergyController
