/-
EnergyController.Firmware.Actuator — the outputs: `actuator_policy.{h,cpp}`
and `src/actuator.cpp`.

The policy is pure. `Actuator` is what the module keeps and drives: the last
commanded relay state, the levels written to the relay and LED pins, and the
count of read-back mismatches. Pin levels are `Int` as in `relayLevel`; the
level a read-back returns is an argument, since the pin is not the program's.
-/
import EnergyController.Protection.Refinement

namespace EnergyController

/-- Whether the relay pin may ever be driven to its ON level in this build. -/
inductive RelayOutputMode where
  /-- relay pin always driven to its OFF level -/
  | holdOff
  /-- relay pin follows the protection state -/
  | followState
  deriving DecidableEq, Repr

structure OutputCommand where
  relayCommandedOn : Bool
  ledNormal : Bool
  ledAlert : Bool
  deriving DecidableEq, Repr

/-- Any byte outside NORMAL and WARNING maps to relay OFF. -/
def outputsForState (state : UInt8) : OutputCommand :=
  if state = SystemState.normal then
    { relayCommandedOn := true, ledNormal := true, ledAlert := false }
  else if state = SystemState.warning then
    { relayCommandedOn := true, ledNormal := false, ledAlert := true }
  else if state = SystemState.fault then
    { relayCommandedOn := false, ledNormal := false, ledAlert := true }
  else if state = SystemState.init then
    { relayCommandedOn := false, ledNormal := false, ledAlert := false }
  else { relayCommandedOn := false, ledNormal := false, ledAlert := false }

def relayPinDrivenOn (commandedOn : Bool) (mode : RelayOutputMode) : Bool :=
  commandedOn && mode == .followState

def relayLevel (drivenOn : Bool) (onLevel offLevel : Int) : Int :=
  if drivenOn then onLevel else offLevel

/-- A result flagged `synchronizationFailed` yields the FAULT outputs. -/
def outputsForResult (result : ProtectionResult) : OutputCommand :=
  if result.synchronizationFailed then outputsForState SystemState.fault
  else outputsForState result.state

/-- `LOW` and `HIGH`. -/
def levelLow : Int := 0
def levelHigh : Int := 1

/-- The build's relay polarity (`config.h`) and output mode (`build_mode.h`). -/
structure RelayConfig where
  relayOnLevel : Int
  relayOffLevel : Int
  relayOutputMode : RelayOutputMode
  deriving DecidableEq, Repr

structure Actuator where
  commandedOn : Bool
  relayPin : Int
  ledNormalPin : Int
  ledAlertPin : Int
  readbackMismatches : BitVec 32
  deriving DecidableEq, Repr

namespace Actuator

/-- The module before `actuatorBegin`; the pins read low. -/
def new : Actuator where
  commandedOn := false
  relayPin := levelLow
  ledNormalPin := levelLow
  ledAlertPin := levelLow
  readbackMismatches := 0

/-- Writes the outputs; `readback` is what `digitalRead` returns for the
relay pin afterwards. A mismatch is counted and the level written once more. -/
def drive (a : Actuator) (cfg : RelayConfig) (out : OutputCommand) (readback : Int) : Actuator :=
  let level := relayLevel (relayPinDrivenOn out.relayCommandedOn cfg.relayOutputMode)
    cfg.relayOnLevel cfg.relayOffLevel
  { commandedOn := out.relayCommandedOn
    relayPin := level
    ledNormalPin := if out.ledNormal then levelHigh else levelLow
    ledAlertPin := if out.ledAlert then levelHigh else levelLow
    readbackMismatches :=
      if readback ≠ level then a.readbackMismatches + 1 else a.readbackMismatches }

def actuatorBegin (a : Actuator) (cfg : RelayConfig) : Actuator :=
  { a with
    commandedOn := false
    relayPin := cfg.relayOffLevel
    ledNormalPin := levelLow
    ledAlertPin := levelLow }

def actuatorApplyState (a : Actuator) (cfg : RelayConfig) (state : SystemState)
    (readback : Int) : Actuator :=
  a.drive cfg (outputsForState state) readback

def actuatorApplyResult (a : Actuator) (cfg : RelayConfig) (result : ProtectionResult)
    (readback : Int) : Actuator :=
  a.drive cfg (outputsForResult result) readback

end Actuator

/-! ## What is commanded -/

/-- Only the two operating states command the relay ON, of all bytes. -/
theorem outputsForState_relay_iff (state : UInt8) :
    (outputsForState state).relayCommandedOn = true ↔
      state = SystemState.normal ∨ state = SystemState.warning := by
  unfold outputsForState
  split_ifs <;> simp_all

theorem outputsForState_relay (state : SystemState) :
    (outputsForState state).relayCommandedOn = state.isOperating := by
  rw [Bool.eq_iff_iff, outputsForState_relay_iff]
  cases state <;> decide

@[simp] theorem Actuator.applyState_commandedOn (a : Actuator) (cfg : RelayConfig)
    (state : SystemState) (readback : Int) :
    (a.actuatorApplyState cfg state readback).commandedOn = state.isOperating :=
  outputsForState_relay state

/-- A result drives the relay ON only if it carries an operating state and was
not synthesised. -/
@[simp] theorem Actuator.applyResult_commandedOn (a : Actuator) (cfg : RelayConfig)
    (result : ProtectionResult) (readback : Int) :
    (a.actuatorApplyResult cfg result readback).commandedOn
      = (!result.synchronizationFailed && result.state.isOperating) := by
  simp only [actuatorApplyResult, drive, outputsForResult]
  cases result.synchronizationFailed <;> simp [outputsForState_relay, SystemState.isOperating]

end EnergyController
