/-
EnergyController.Protection.Core — `ProtectionCore`, the single-threaded
protection state machine of `protection_core.{h,cpp}`.

Each member function is a function of the object's state and its arguments
that returns the reply together with the new state; time is passed in, as in
the source. `CoreCall` and `ProtectionCore.step` make a run of the object out
of its six public operations (`begin` starts the run).
-/
import EnergyController.Measurement.Core

namespace EnergyController

inductive SystemState where
  | init
  | normal
  | warning
  | fault
  deriving DecidableEq, Repr

inductive FaultCode where
  | none
  /-- sample reported invalid (see `MeasurementStatus`) -/
  | sensorInvalid
  /-- power above the fault threshold for the confirmation time -/
  | overpower
  /-- no usable sample within the freshness limit -/
  | sensorStale
  /-- protection could not run (lock failure) -/
  | protectionInternal
  deriving DecidableEq, Repr

inductive ResetResult where
  | none
  | accepted
  | rejectedNoActiveFault
  | rejectedNoMeasurement
  | rejectedStaleMeasurement
  | rejectedInvalidMeasurement
  | rejectedUnsafeCondition
  | rejectedBusy
  deriving DecidableEq, Repr

def SystemState.byte : SystemState → UInt8
  | .init => 0
  | .normal => 1
  | .warning => 2
  | .fault => 3

instance : Coe SystemState UInt8 := ⟨SystemState.byte⟩

def FaultCode.byte : FaultCode → UInt8
  | .none => 0
  | .sensorInvalid => 1
  | .overpower => 2
  | .sensorStale => 3
  | .protectionInternal => 4

instance : Coe FaultCode UInt8 := ⟨FaultCode.byte⟩

def ResetResult.byte : ResetResult → UInt8
  | .none => 0
  | .accepted => 1
  | .rejectedNoActiveFault => 2
  | .rejectedNoMeasurement => 3
  | .rejectedStaleMeasurement => 4
  | .rejectedInvalidMeasurement => 5
  | .rejectedUnsafeCondition => 6
  | .rejectedBusy => 7

instance : Coe ResetResult UInt8 := ⟨ResetResult.byte⟩

def systemStateName (state : UInt8) : CString :=
  if state = SystemState.init then .lit "INIT"
  else if state = SystemState.normal then .lit "NORMAL"
  else if state = SystemState.warning then .lit "WARNING"
  else if state = SystemState.fault then .lit "FAULT"
  else unknownName

def faultCodeName (fault : UInt8) : CString :=
  if fault = FaultCode.none then .lit "NONE"
  else if fault = FaultCode.sensorInvalid then .lit "SENSOR_INVALID"
  else if fault = FaultCode.overpower then .lit "OVERPOWER"
  else if fault = FaultCode.sensorStale then .lit "SENSOR_STALE"
  else if fault = FaultCode.protectionInternal then .lit "PROTECTION_INTERNAL"
  else unknownName

def resetResultName (result : UInt8) : CString :=
  if result = ResetResult.none then .lit "NONE"
  else if result = ResetResult.accepted then .lit "ACCEPTED"
  else if result = ResetResult.rejectedNoActiveFault then .lit "REJECTED_NO_ACTIVE_FAULT"
  else if result = ResetResult.rejectedNoMeasurement then .lit "REJECTED_NO_MEASUREMENT"
  else if result = ResetResult.rejectedStaleMeasurement then .lit "REJECTED_STALE_MEASUREMENT"
  else if result = ResetResult.rejectedInvalidMeasurement then .lit "REJECTED_INVALID_MEASUREMENT"
  else if result = ResetResult.rejectedUnsafeCondition then .lit "REJECTED_UNSAFE_CONDITION"
  else if result = ResetResult.rejectedBusy then .lit "REJECTED_BUSY"
  else unknownName

structure ProtectionConfig where
  warningPowerW : Float32
  faultPowerW : Float32
  minOperatingVoltageV : Float32
  faultConfirmMs : Millis
  maxMeasurementAgeMs : Millis
  deriving DecidableEq

/-- The protection values of `config.example.h`, as `makeConfig` collects them. -/
def exampleConfig : ProtectionConfig where
  warningPowerW := 485.0
  faultPowerW := 550.0
  minOperatingVoltageV := 10.0
  faultConfirmMs := 2000
  maxMeasurementAgeMs := 3000

structure FaultManager where
  activeFault : FaultCode
  lastFault : FaultCode
  activeSince : Millis
  lastFaultTime : Millis
  totalFaults : BitVec 32
  active : Bool
  acknowledged : Bool
  deriving DecidableEq

structure ProtectionSnapshot where
  state : SystemState
  fault : FaultManager
  faultTimerActive : Bool
  faultTimerAgeMs : Millis
  lastResetResult : ResetResult
  deriving DecidableEq

structure ProtectionResult where
  stateChanged : Bool
  faultChanged : Bool
  previousState : SystemState
  state : SystemState
  previousFault : FaultCode
  fault : FaultCode
  /-- the protection state could not be accessed: the result is synthesised -/
  synchronizationFailed : Bool
  deriving DecidableEq

structure ProtectionCore where
  config : ProtectionConfig
  state : SystemState
  fault : FaultManager
  timerActive : Bool
  timerStart : Millis
  haveMeasurement : Bool
  last : Measurement
  /-- when the core last saw a sample -/
  lastSampleMs : Millis
  /-- boot/reset re-arm gate -/
  awaitingFirstSample : Bool
  rearmMs : Millis
  lastReset : ResetResult
  deriving DecidableEq

/-- `FaultManager{NONE, NONE, 0, 0, 0, false, false}`. -/
def FaultManager.cleared : FaultManager where
  activeFault := .none
  lastFault := .none
  activeSince := 0
  lastFaultTime := 0
  totalFaults := 0
  active := false
  acknowledged := false

namespace ProtectionCore

/-- The constructor. -/
def new (config : ProtectionConfig) : ProtectionCore where
  config := config
  state := .init
  fault := .cleared
  timerActive := false
  timerStart := 0
  haveMeasurement := false
  last := .zeroInitialised
  lastSampleMs := 0
  awaitingFirstSample := true
  rearmMs := 0
  lastReset := .none

def begin (c : ProtectionCore) (nowMs : Millis) : ProtectionCore where
  config := c.config
  state := .init
  fault := .cleared
  timerActive := false
  timerStart := 0
  haveMeasurement := false
  last := .zeroInitialised
  lastSampleMs := nowMs  -- silence is measured from start-up
  awaitingFirstSample := true
  rearmMs := nowMs
  lastReset := .none

/-- Fail-closed result for a protection state that cannot be locked. -/
def lockFailureResult : ProtectionResult where
  stateChanged := true
  faultChanged := true
  previousState := .fault
  state := .fault
  previousFault := .none
  fault := .protectionInternal
  synchronizationFailed := true

def finish (c : ProtectionCore) (prevState : SystemState) (prevFault : FaultCode) :
    ProtectionResult where
  previousState := prevState
  previousFault := prevFault
  state := c.state
  fault := c.fault.activeFault
  stateChanged := c.state != prevState
  faultChanged := c.fault.activeFault != prevFault
  synchronizationFailed := false

def raiseFault (c : ProtectionCore) (fault : FaultCode) (nowMs : Millis) : ProtectionCore :=
  if fault = .none then c
  else
    -- never overwrite a latched fault: the first cause is preserved
    let c := if !c.fault.active then
        { c with fault :=
          { activeFault := fault, lastFault := fault, activeSince := nowMs,
            lastFaultTime := nowMs, totalFaults := c.fault.totalFaults + 1,
            active := true, acknowledged := false } }
      else c
    { c with timerActive := false, state := .fault }

def evaluate (c : ProtectionCore) (m : Measurement) (nowMs : Millis) : ProtectionCore :=
  let fresh : Bool := nowMs - m.timestamp ≤ c.config.maxMeasurementAgeMs
  if !fresh then
    c.raiseFault .sensorStale nowMs
  else if !m.valid then
    c.raiseFault .sensorInvalid nowMs
  else if m.voltage ≤ c.config.minOperatingVoltageV then
    -- no mains: stay in INIT and re-arm, so that mains returning onto an
    -- overload latches at once; `rearmMs` is left as it is
    { c with timerActive := false, state := .init, awaitingFirstSample := true }
  else if m.power > c.config.faultPowerW then
    if c.awaitingFirstSample then
      { c.raiseFault .overpower nowMs with awaitingFirstSample := false }
    else
      let c := if !c.timerActive then { c with timerActive := true, timerStart := nowMs } else c
      if nowMs - c.timerStart ≥ c.config.faultConfirmMs then
        c.raiseFault .overpower nowMs
      else
        { c with state := .warning }
  else if m.power > c.config.warningPowerW then
    { c with timerActive := false, state := .warning, awaitingFirstSample := false }
  else
    { c with timerActive := false, state := .normal, awaitingFirstSample := false }

def update (c : ProtectionCore) (m : Measurement) (nowMs : Millis) :
    ProtectionResult × ProtectionCore :=
  let prevState := c.state
  let prevFault := c.fault.activeFault
  let c := { c with last := m, haveMeasurement := true }
  if c.state = .fault then
    let c := { c with lastSampleMs := nowMs }
    (c.finish prevState prevFault, c)  -- latched
  else if c.awaitingFirstSample && decide ((m.timestamp - c.rearmMs).toInt < 0) then
    -- taken before the re-arm point: ignored, `lastSampleMs` not refreshed
    (c.finish prevState prevFault, c)
  else
    let c := { c with lastSampleMs := nowMs }.evaluate m nowMs
    (c.finish prevState prevFault, c)

def tick (c : ProtectionCore) (nowMs : Millis) : ProtectionResult × ProtectionCore :=
  let prevState := c.state
  let prevFault := c.fault.activeFault
  let c :=
    if c.state ≠ .fault ∧ nowMs - c.lastSampleMs > c.config.maxMeasurementAgeMs then
      c.raiseFault .sensorStale nowMs
    else c
  (c.finish prevState prevFault, c)

def requestReset (c : ProtectionCore) (nowMs : Millis) : ResetResult × ProtectionCore :=
  let result : ResetResult :=
    if !c.fault.active then .rejectedNoActiveFault
    else if !c.haveMeasurement then .rejectedNoMeasurement
    else if nowMs - c.last.timestamp > c.config.maxMeasurementAgeMs then
      .rejectedStaleMeasurement
    else if !c.last.valid then .rejectedInvalidMeasurement
    else if c.last.power > c.config.faultPowerW then .rejectedUnsafeCondition
    else .accepted
  let c := { c with lastReset := result }
  if result = .accepted then
    (result,
      { c with
        fault := { c.fault with
          activeFault := .none, active := false, acknowledged := false, activeSince := 0 }
        timerActive := false
        timerStart := 0
        state := .init  -- relay OFF until a fresh sample
        awaitingFirstSample := true
        rearmMs := nowMs
        lastSampleMs := nowMs })
  else (result, c)

def acknowledge (c : ProtectionCore) : Bool × ProtectionCore :=
  if !c.fault.active then (false, c)
  else (true, { c with fault := { c.fault with acknowledged := true } })

def raiseInternalFault (c : ProtectionCore) (nowMs : Millis) :
    ProtectionResult × ProtectionCore :=
  let prevState := c.state
  let prevFault := c.fault.activeFault
  let c := c.raiseFault .protectionInternal nowMs
  (c.finish prevState prevFault, c)

def snapshot (c : ProtectionCore) (nowMs : Millis) : ProtectionSnapshot where
  state := c.state
  fault := c.fault
  faultTimerActive := c.timerActive
  faultTimerAgeMs := if c.timerActive then nowMs - c.timerStart else 0
  lastResetResult := c.lastReset

end ProtectionCore

/-! ## Runs -/

/-- A call on a `ProtectionCore` after `begin`. -/
inductive CoreCall where
  | update (m : Measurement) (nowMs : Millis)
  | tick (nowMs : Millis)
  | requestReset (nowMs : Millis)
  | acknowledge
  | raiseInternalFault (nowMs : Millis)
  | snapshot (nowMs : Millis)
  deriving DecidableEq

/-- The state a call leaves behind. -/
def ProtectionCore.step (c : ProtectionCore) : CoreCall → ProtectionCore
  | .update m nowMs => (c.update m nowMs).2
  | .tick nowMs => (c.tick nowMs).2
  | .requestReset nowMs => (c.requestReset nowMs).2
  | .acknowledge => c.acknowledge.2
  | .raiseInternalFault nowMs => (c.raiseInternalFault nowMs).2
  | .snapshot _ => c

/-- What a call returns. -/
inductive CoreReply where
  | result (r : ProtectionResult)
  | reset (r : ResetResult)
  | acknowledged (ok : Bool)
  | snapshot (s : ProtectionSnapshot)
  deriving DecidableEq

def ProtectionCore.reply (c : ProtectionCore) : CoreCall → CoreReply
  | .update m nowMs => .result (c.update m nowMs).1
  | .tick nowMs => .result (c.tick nowMs).1
  | .requestReset nowMs => .reset (c.requestReset nowMs).1
  | .acknowledge => .acknowledged c.acknowledge.1
  | .raiseInternalFault nowMs => .result (c.raiseInternalFault nowMs).1
  | .snapshot nowMs => .snapshot (c.snapshot nowMs)

end EnergyController
