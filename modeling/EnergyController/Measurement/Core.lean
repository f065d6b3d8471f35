/-
EnergyController.Measurement.Core — the measurement record and its
validation, from `measurement_types.h` and `measurement_core.{h,cpp}`.

`float` is `Float32`: IEEE binary32 with every operation rounded to nearest
even, comparisons false on a NaN operand. `uint32_t` times are `BitVec 32`,
so `-` wraps and `≤` is the unsigned comparison. An `enum class` over `uint8_t`
is the type of its enumerators, each of which stands for its byte; a function
with a row for the other bytes takes the byte.
-/
import EnergyController.Lib.CString
import EnergyController.Lib.WrappedClock

namespace EnergyController

/-- A `uint32_t` number of milliseconds, as `millis()` counts them. -/
abbrev Millis := BitVec 32

/-- `millis()` at true time `t`. -/
def millis (t : ℕ) : Millis := WrappedClock.reading 32 t

/-- Where a measurement came from. -/
inductive MeasurementSource where
  | pzem
  | simulation
  deriving DecidableEq, Repr

/-- Why a sample is (not) usable. Anything other than `ok` means
`valid = false`. -/
inductive MeasurementStatus where
  | notInitialized
  | ok
  | sensorError
  | outOfRange
  | inconsistent
  deriving DecidableEq, Repr

def MeasurementSource.byte : MeasurementSource → UInt8
  | .pzem => 0
  | .simulation => 1

instance : Coe MeasurementSource UInt8 := ⟨MeasurementSource.byte⟩

def MeasurementStatus.byte : MeasurementStatus → UInt8
  | .notInitialized => 0
  | .ok => 1
  | .sensorError => 2
  | .outOfRange => 3
  | .inconsistent => 4

instance : Coe MeasurementStatus UInt8 := ⟨MeasurementStatus.byte⟩

/-- The default row of every name table. -/
def unknownName : CString := .lit "UNKNOWN"

def measurementSourceName (source : UInt8) : CString :=
  if source = MeasurementSource.pzem then .lit "PZEM"
  else if source = MeasurementSource.simulation then .lit "SIMULATION"
  else unknownName

def measurementStatusName (status : UInt8) : CString :=
  if status = MeasurementStatus.ok then .lit "OK"
  else if status = MeasurementStatus.notInitialized then .lit "NOT_INITIALIZED"
  else if status = MeasurementStatus.sensorError then .lit "SENSOR_ERROR"
  else if status = MeasurementStatus.outOfRange then .lit "OUT_OF_RANGE"
  else if status = MeasurementStatus.inconsistent then .lit "INCONSISTENT"
  else unknownName

structure Measurement where
  voltage : Float32
  current : Float32
  power : Float32
  energy : Float32
  apparentPower : Float32
  powerFactor : Float32
  valid : Bool
  status : MeasurementStatus
  source : MeasurementSource
  timestamp : Millis
  deriving DecidableEq

/-- `Measurement{}`: every member value-initialised. -/
def Measurement.zeroInitialised : Measurement where
  voltage := 0.0
  current := 0.0
  power := 0.0
  energy := 0.0
  apparentPower := 0.0
  powerFactor := 0.0
  valid := false
  status := .notInitialized
  source := .pzem
  timestamp := 0

/-- Raw values as the PZEM driver returns them; any of them may be a NaN. -/
structure RawPzemReading where
  voltage : Float32
  current : Float32
  power : Float32
  energy : Float32
  powerFactor : Float32
  deriving DecidableEq

/-- Plausibility bounds of `buildMeasurement`. -/
structure MeasurementLimits where
  maxVoltage : Float32
  maxCurrent : Float32
  maxPower : Float32
  maxEnergyKwh : Float32
  powerOverApparentRatio : Float32
  powerOverApparentMarginW : Float32

def defaultMeasurementLimits : MeasurementLimits where
  maxVoltage := 300.0
  maxCurrent := 100.0
  maxPower := 25000.0
  maxEnergyKwh := 10000.0
  powerOverApparentRatio := 0.10
  powerOverApparentMarginW := 2.0

def makeInvalidMeasurement (source : MeasurementSource) (status : MeasurementStatus)
    (timestampMs : Millis) : Measurement :=
  { Measurement.zeroInitialised with
    valid := false, status := status, source := source, timestamp := timestampMs }

/-- Validates a raw reading and derives the apparent power. A refused reading
comes back with every numeric field zero. -/
def buildMeasurement (raw : RawPzemReading) (source : MeasurementSource)
    (timestampMs : Millis) (limits : MeasurementLimits) : Measurement :=
  if !raw.voltage.isFinite || !raw.current.isFinite || !raw.power.isFinite ||
      !raw.energy.isFinite || !raw.powerFactor.isFinite then
    makeInvalidMeasurement source .sensorError timestampMs
  else if raw.voltage < 0.0 || raw.voltage > limits.maxVoltage ||
      raw.current < 0.0 || raw.current > limits.maxCurrent ||
      raw.power < 0.0 || raw.power > limits.maxPower ||
      raw.energy < 0.0 || raw.energy > limits.maxEnergyKwh ||
      raw.powerFactor < 0.0 || raw.powerFactor > 1.0 then
    makeInvalidMeasurement source .outOfRange timestampMs
  else
    -- V * I is apparent power for AC; active power is the meter's own reading
    let apparent := raw.voltage * raw.current
    if raw.power > apparent * (1.0 + limits.powerOverApparentRatio) +
        limits.powerOverApparentMarginW then
      makeInvalidMeasurement source .inconsistent timestampMs
    else
      { voltage := raw.voltage, current := raw.current, power := raw.power,
        energy := raw.energy, apparentPower := apparent, powerFactor := raw.powerFactor,
        valid := true, status := .ok, source := source, timestamp := timestampMs }

/-- The three load levels of the simulated meter, five seconds each. -/
def simulationSample (nowMs : Millis) : Measurement :=
  let phase := nowMs % 15000
  let (current, power) : Float32 × Float32 :=
    if phase < 5000 then (0.20, 40.0)
    else if phase < 10000 then (2.17, 500.0)
    else (2.60, 600.0)
  let voltage : Float32 := 230.0
  let apparent := voltage * current
  let powerFactor : Float32 := if apparent > 0.0 then power / apparent else 0.0
  let powerFactor : Float32 := if powerFactor > 1.0 then 1.0 else powerFactor
  buildMeasurement
    { voltage := voltage, current := current, power := power, energy := 0.0,
      powerFactor := powerFactor }
    .simulation nowMs defaultMeasurementLimits

end EnergyController
