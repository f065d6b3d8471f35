/-
EnergyController.Mqtt.Publish — the publishing side of
`src/mqtt_manager.cpp`: telemetry, state, fault and availability, and what a
broker makes of it.

The MQTT client is not part of the repository. Each call of its `publish` is an
input, `ClientPublish`, and each function here returns the message it asked
the client to publish, if it did, with its own result.
-/
import EnergyController.Mqtt.RemoteCommand
import EnergyController.Telemetry.TelemetryJson

namespace EnergyController

structure Publication where
  topic : CString
  payload : CString
  retained : Bool

/-- What the client makes of a call. -/
inductive ClientPublish where
  /-- `mqttClient.connected()` is false -/
  | disconnected
  | failed
  | sent
  deriving DecidableEq

structure PublishCall where
  /-- what the client was asked to publish -/
  message : Option Publication
  /-- the result -/
  ok : Bool

/-- The common part: nothing is published without a connection. -/
def publishMessage (client : ClientPublish) (p : Publication) : PublishCall :=
  match client with
  | .disconnected => { message := none, ok := false }
  | .failed => { message := some p, ok := false }
  | .sent => { message := some p, ok := true }

def mqttManagerPublishState (deviceId : CString) (state : SystemState) (client : ClientPublish) :
    PublishCall :=
  publishMessage client
    { topic := mqttTopicState deviceId, payload := systemStateName state, retained := true }

def mqttManagerPublishFault (deviceId : CString) (p : ProtectionSnapshot)
    (client : ClientPublish) : PublishCall :=
  publishMessage client
    { topic := mqttTopicFault deviceId, payload := faultCodeName p.fault.activeFault,
      retained := true }

/-- `FIRMWARE_VERSION` of `config.example.h`. -/
def firmwareVersion : CString := .lit "1.3.0"

/-- The document that `mqttManagerPublishTelemetry` fills in at `nowMs`. -/
def telemetryInput (deviceId : CString) (m : MeasurementObject) (p : SnapshotObject)
    (relayCommandedOn relayOutputEnabled : Bool) (nowMs : Millis) : TelemetryInput where
  deviceId := deviceId
  firmwareVersion := firmwareVersion
  measurement := m
  protection := p
  uptimeMs := nowMs
  measurementAgeMs := nowMs - m.timestamp
  relayCommandedOn := relayCommandedOn
  relayOutputEnabled := relayOutputEnabled

/-- The payload buffer starts with whatever is on the stack. -/
def mqttManagerPublishTelemetry (deviceId : CString) (m : MeasurementObject) (p : SnapshotObject)
    (relayCommandedOn relayOutputEnabled : Bool) (nowMs : Millis) (stack : ℕ → UInt8)
    (client : ClientPublish) : PublishCall :=
  match client, buildTelemetryJson (some stack) 768
      (telemetryInput deviceId m p relayCommandedOn relayOutputEnabled nowMs) with
  | .disconnected, _ => { message := none, ok := false }
  | _, (none, _) => { message := none, ok := false }
  | client, (some payload, n) =>
    if n < 0 then { message := none, ok := false }
    else
      publishMessage client
        { topic := mqttTopicTelemetry deviceId, payload := .ofBytes (readBytes payload 768),
          retained := false }

/-- `mqttManagerConnect`: what it publishes, and its result. `none` if there is
no connection, otherwise what the client makes of the retained `online`. -/
def mqttManagerConnect (deviceId : CString) (connected : Option ClientPublish) :
    PublishCall × Bool :=
  match connected with
  | none => ({ message := none, ok := false }, false)
  | some client =>
    (publishMessage client
      { topic := mqttTopicAvailability deviceId, payload := .lit "online", retained := true },
      true)

/-! ## The broker -/

/-- The retained payload of every topic. -/
abbrev Broker := CString → Option CString

/-- A call that is accepted replaces the retained value of its topic. -/
def Broker.accept (b : Broker) (call : PublishCall) : Broker :=
  match call.message with
  | some p =>
    if call.ok ∧ p.retained then fun t => if t = p.topic then some p.payload else b t else b
  | none => b

end EnergyController
