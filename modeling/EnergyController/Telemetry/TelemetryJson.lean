/-
EnergyController.Telemetry.TelemetryJson — `telemetry_json.{h,cpp}`: the
telemetry document and the bounded writer that builds it.

The buffer is memory behind a pointer, a byte at every index, of which the
writer may use `size`. A `const char*` that may be null is an `Option CString`;
`snprintf` writes its text cut to the size of its buffer. Lengths and sizes are
natural numbers, but the returned length is cast to a 32-bit `int`. The writer
is handed objects whose enumerations hold any byte.
-/
import EnergyController.Lib.FloatValue
import EnergyController.Protection.Core

namespace EnergyController

def telemetrySchemaVersion : Millis := 2

/-- A `Measurement` in memory. -/
structure MeasurementObject where
  voltage : Float32
  current : Float32
  power : Float32
  energy : Float32
  apparentPower : Float32
  powerFactor : Float32
  valid : Bool
  status : UInt8
  source : UInt8
  timestamp : Millis
  deriving DecidableEq

def Measurement.object (m : Measurement) : MeasurementObject where
  voltage := m.voltage
  current := m.current
  power := m.power
  energy := m.energy
  apparentPower := m.apparentPower
  powerFactor := m.powerFactor
  valid := m.valid
  status := m.status
  source := m.source
  timestamp := m.timestamp

instance : Coe Measurement MeasurementObject := ⟨Measurement.object⟩

/-- A `FaultManager` in memory. -/
structure FaultObject where
  activeFault : UInt8
  lastFault : UInt8
  activeSince : Millis
  lastFaultTime : Millis
  totalFaults : BitVec 32
  active : Bool
  acknowledged : Bool
  deriving DecidableEq

/-- A `ProtectionSnapshot` in memory. -/
structure SnapshotObject where
  state : UInt8
  fault : FaultObject
  faultTimerActive : Bool
  faultTimerAgeMs : Millis
  lastResetResult : UInt8
  deriving DecidableEq

def ProtectionSnapshot.object (s : ProtectionSnapshot) : SnapshotObject where
  state := s.state
  fault :=
    { activeFault := s.fault.activeFault, lastFault := s.fault.lastFault,
      activeSince := s.fault.activeSince, lastFaultTime := s.fault.lastFaultTime,
      totalFaults := s.fault.totalFaults, active := s.fault.active,
      acknowledged := s.fault.acknowledged }
  faultTimerActive := s.faultTimerActive
  faultTimerAgeMs := s.faultTimerAgeMs
  lastResetResult := s.lastResetResult

instance : Coe ProtectionSnapshot SnapshotObject := ⟨ProtectionSnapshot.object⟩

structure TelemetryInput where
  deviceId : Option CString
  firmwareVersion : Option CString
  measurement : MeasurementObject
  protection : SnapshotObject
  /-- `millis()` since boot -/
  uptimeMs : Millis
  measurementAgeMs : Millis
  /-- what the firmware commanded, not a contact reading -/
  relayCommandedOn : Bool
  /-- false in simulation builds -/
  relayOutputEnabled : Bool

def memcpy (dest : ℕ → UInt8) (offset : ℕ) (bytes : List UInt8) : ℕ → UInt8 :=
  fun i => if offset ≤ i ∧ i < offset + bytes.length then bytes.getD (i - offset) 0 else dest i

/-- What `snprintf` leaves in a buffer of `size` bytes. -/
def snprintf (size : ℕ) (text : List UInt8) : CString := .ofBytes (text.take (size - 1))

/-- Bounded appender: once an append does not fit, `ok` stays false. -/
structure Writer where
  buf : ℕ → UInt8
  size : ℕ
  len : ℕ
  ok : Bool

namespace Writer

def raw (w : Writer) (s : CString) : Writer :=
  let n := s.1.length
  if !w.ok || w.len + n + 1 > w.size then { w with ok := false }
  else { w with buf := memcpy w.buf w.len (s.1 ++ [0]), len := w.len + n }

def ch (w : Writer) (c : UInt8) : Writer := w.raw (.ofBytes [c])

/-- One character of a string. -/
def strCh (w : Writer) (c : UInt8) : Writer :=
  if c = '"'.toUInt8 ∨ c = '\\'.toUInt8 then (w.ch '\\'.toUInt8).ch c
  else if c < 0x20 then w.raw (snprintf 8 (ascii "\\u" ++ Decimal.hexPlaces 4 c.toNat))
  else w.ch c

/-- A null pointer is written as the empty string. -/
def str (w : Writer) (s : Option CString) : Writer :=
  ((s.getD .empty).1.foldl strCh (w.ch '"'.toUInt8)).ch '"'.toUInt8

def key (w : Writer) (k : CString) (first : Bool) : Writer :=
  let w := if first then w else w.ch ','.toUInt8
  (w.str (some k)).ch ':'.toUInt8

/-- `decimals` is the number in the format, `"%.2f"` or `"%.3f"`. -/
def num (w : Writer) (v : Float32) (decimals : ℕ) : Writer :=
  if !v.isFinite then w.raw (.lit "null")
  else w.raw (snprintf 32 (FloatValue.decimalText decimals v))

def u32 (w : Writer) (v : Millis) : Writer := w.raw (snprintf 16 (Decimal.natText v.toNat))

def boolean (w : Writer) (v : Bool) : Writer := w.raw (if v then .lit "true" else .lit "false")

/-- The document, from brace to brace. -/
def document (w : Writer) (input : TelemetryInput) : Writer :=
  let m := input.measurement
  let p := input.protection
  let w := w.ch '\x7b'.toUInt8
  let w := (w.key (.lit "schema_version") true).u32 telemetrySchemaVersion
  let w := (w.key (.lit "device_id") false).str input.deviceId
  let w := (w.key (.lit "firmware_version") false).str input.firmwareVersion
  let w := (w.key (.lit "source") false).str (measurementSourceName m.source)
  let w := (w.key (.lit "simulated") false).boolean (m.source = MeasurementSource.simulation)
  let w := (w.key (.lit "uptime_ms") false).u32 input.uptimeMs
  let w := (w.key (.lit "valid") false).boolean m.valid
  let w := (w.key (.lit "measurement_status") false).str (measurementStatusName m.status)
  let w := (w.key (.lit "measurement_age_ms") false).u32 input.measurementAgeMs
  let w := (w.key (.lit "voltage") false).num m.voltage 2
  let w := (w.key (.lit "current") false).num m.current 3
  let w := (w.key (.lit "power") false).num m.power 2
  let w := (w.key (.lit "energy") false).num m.energy 3
  let w := (w.key (.lit "apparent_power") false).num m.apparentPower 2
  let w := (w.key (.lit "power_factor") false).num m.powerFactor 3
  let w := (w.key (.lit "state") false).str (systemStateName p.state)
  let w := (w.key (.lit "fault") false).str (faultCodeName p.fault.activeFault)
  let w := (w.key (.lit "fault_active") false).boolean p.fault.active
  let w := (w.key (.lit "fault_acknowledged") false).boolean p.fault.acknowledged
  let w := (w.key (.lit "last_reset_result") false).str (resetResultName p.lastResetResult)
  let w := (w.key (.lit "relay_commanded_on") false).boolean input.relayCommandedOn
  let w := (w.key (.lit "relay_output_enabled") false).boolean input.relayOutputEnabled
  w.ch '\x7d'.toUInt8

end Writer

/-- The memory at `out` afterwards, and the length of the document or -1. -/
def buildTelemetryJson (out : Option (ℕ → UInt8)) (outSize : ℕ) (input : TelemetryInput) :
    Option (ℕ → UInt8) × Int :=
  match out with
  | none => (none, -1)
  | some buf =>
    if outSize = 0 then (some buf, -1)
    else
      let buf := memcpy buf 0 [0]
      let w : Writer := { buf := buf, size := outSize, len := 0, ok := true }
      let w := w.document input
      if !w.ok then (some (memcpy w.buf 0 [0]), -1)
      else (some w.buf, (BitVec.ofNat 32 w.len).toInt)

end EnergyController
