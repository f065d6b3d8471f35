/-
EnergyController.Mqtt.RemoteCommand — command validation
(`remote_command.{h,cpp}`) and the topic names (`energy_topics.h`).

Topics and device IDs are C strings. A payload is a pointer and a length: the
bytes behind it are `readBytes`, and it may be null. `topicSegmentValid` is
evaluated over `CString.charAt`, so a read past the terminator would show as
`none`.
-/
import EnergyController.Lib.CString
import EnergyController.Measurement.Core

namespace EnergyController

/-! ## `energy_topics.h` -/

/-- `MQTT_TOPIC_ROOT`: `"energy/" MQTT_DEVICE_ID`. -/
def mqttTopicRoot (deviceId : CString) : CString := (CString.lit "energy/").append deviceId

def mqttTopicTelemetry (deviceId : CString) : CString :=
  (mqttTopicRoot deviceId).append (.lit "/telemetry")

def mqttTopicState (deviceId : CString) : CString :=
  (mqttTopicRoot deviceId).append (.lit "/status/state")

def mqttTopicFault (deviceId : CString) : CString :=
  (mqttTopicRoot deviceId).append (.lit "/fault/code")

def mqttTopicAvailability (deviceId : CString) : CString :=
  (mqttTopicRoot deviceId).append (.lit "/status/availability")

def mqttTopicCmdReset (deviceId : CString) : CString :=
  (mqttTopicRoot deviceId).append (.lit "/cmd/reset")

def mqttTopicCmdAck (deviceId : CString) : CString :=
  (mqttTopicRoot deviceId).append (.lit "/cmd/ack")

def topicSegmentCharOk (c : UInt8) : Bool :=
  (c ≥ 'a'.toUInt8 && c ≤ 'z'.toUInt8) || (c ≥ 'A'.toUInt8 && c ≤ 'Z'.toUInt8) ||
    (c ≥ '0'.toUInt8 && c ≤ '9'.toUInt8) || c == '_'.toUInt8 || c == '-'.toUInt8

/-- `topicSegmentValid(s, i)`; `none` if it reads past the terminator. -/
def topicSegmentValidFrom (s : CString) (i : ℕ) : Option Bool := do
  let c ← s.charAt i
  if c = 0 then
    return decide (i > 0) && decide (i ≤ 32)
  if h : i < 32 then
    let c ← s.charAt i
    if topicSegmentCharOk c then topicSegmentValidFrom s (i + 1) else return false
  else
    return false
termination_by 32 - i

def topicSegmentValid (s : CString) : Option Bool := topicSegmentValidFrom s 0

/-! ## `remote_command.cpp` -/

inductive RemoteCommandType where
  | none
  | reset
  | ack
  deriving DecidableEq, Repr

inductive RemoteCommandVerdict where
  | accepted
  | rejectedTopic
  | rejectedPayload
  | rejectedLength
  /-- arrived too soon after subscribing (possible retained message) -/
  | rejectedHoldoff
  deriving DecidableEq, Repr

structure RemoteCommandResult where
  verdict : RemoteCommandVerdict
  type : RemoteCommandType
  deriving DecidableEq, Repr

/-- A payload pointer: null, or the memory behind it. -/
abbrev Payload := Option (ℕ → UInt8)

def payloadEquals (payload : Payload) (length : ℕ) (expected : CString) : Bool :=
  match payload with
  | none => false
  | some p => length == expected.1.length && readBytes p expected.1.length == expected.1

def parseRemoteCommand (topic : Option CString) (payload : Payload) (length : ℕ)
    (resetTopic ackTopic : CString) : RemoteCommandResult :=
  let r : RemoteCommandResult := { verdict := .rejectedTopic, type := .none }
  match topic with
  | none => r
  | some topic =>
    let command : Option (RemoteCommandType × CString) :=
      if topic = resetTopic then some (.reset, .lit "reset")
      else if topic = ackTopic then some (.ack, .lit "ack")
      else none
    match command with
    | none => r
    | some (type, expected) =>
      if length > 16 then { r with verdict := .rejectedLength }
      else if !payloadEquals payload length expected then { r with verdict := .rejectedPayload }
      else { verdict := .accepted, type := type }

/-- Rollover-safe, as the source puts it: an unsigned difference. -/
def commandInHoldoff (nowMs subscribedAtMs holdoffMs : Millis) : Bool :=
  nowMs - subscribedAtMs < holdoffMs

end EnergyController
