/-
EnergyController.Mqtt.Fleet — several devices on one broker.

What tells devices apart is in this repository: the topics below the device ID
(`energy_topics.h`) and the client ID of `makeClientId` (`src/mqtt_manager.cpp`),
with the last will that `mqttManagerConnect` leaves with the broker. The broker
is not: it is the parameter `B`, a `PubSub`, and what holds of every broker that
keeps to the protocol is proved under `B.Lawful removes`.
-/
import EnergyController.Lib.PubSub
import EnergyController.Lib.Runs
import EnergyController.Mqtt.Publish

namespace EnergyController

/-- `snprintf` with `%s-%04X%08X`: the device ID, and the two parts of the chip
ID, cast to `uint16_t` and `uint32_t`. -/
def makeClientId (deviceId : CString) (chipId : BitVec 64) (size : ℕ) : CString :=
  snprintf size (deviceId.1 ++ ascii "-" ++
    Decimal.upperHexPlaces 4 ((chipId >>> 32).setWidth 16).toNat ++
    Decimal.upperHexPlaces 8 (chipId.setWidth 32).toNat)

/-- A device: its ID, which `static_assert` has checked, and its chip ID, which
is a MAC address. -/
structure Device where
  deviceId : CString
  chipId : BitVec 64
  valid : topicSegmentValid deviceId = some true
  mac : chipId.toNat < 2 ^ 48
  deriving DecidableEq

namespace Device

/-- In the buffer of `mqttManagerConnect`. -/
def clientId (d : Device) : CString := makeClientId d.deviceId d.chipId 64

/-- What the broker is to publish, to be retained, when the session ends. -/
def will (d : Device) : CString × CString := (mqttTopicAvailability d.deviceId, .lit "offline")

end Device

/-- A device calls a function of `mqtt_manager.cpp`, where `ClientPublish.sent`
says that the message has reached the broker; or its connection is lost. -/
inductive FleetStep where
  /-- `mqttManagerConnect` -/
  | connect (d : Device) (connected : Option ClientPublish)
  | publishState (d : Device) (state : SystemState) (client : ClientPublish)
  | publishFault (d : Device) (p : ProtectionSnapshot) (client : ClientPublish)
  | publishTelemetry (d : Device) (m : Measurement) (p : ProtectionSnapshot)
    (relayCommandedOn relayOutputEnabled : Bool) (nowMs : Millis) (stack : ℕ → UInt8)
    (client : ClientPublish)
  /-- the connection of the device ends, and the broker knows -/
  | lost (d : Device)

namespace FleetStep

def device : FleetStep → Device
  | .connect d _ => d
  | .publishState d _ _ => d
  | .publishFault d _ _ => d
  | .publishTelemetry d _ _ _ _ _ _ _ => d
  | .lost d => d

/-- The call of the client's `publish`. -/
def call : FleetStep → PublishCall
  | .connect d connected => (mqttManagerConnect d.deviceId connected).1
  | .publishState d state client => mqttManagerPublishState d.deviceId state client
  | .publishFault d p client => mqttManagerPublishFault d.deviceId p client
  | .publishTelemetry d m p on enabled nowMs stack client =>
    mqttManagerPublishTelemetry d.deviceId m p on enabled nowMs stack client
  | .lost _ => { message := none, ok := false }

end FleetStep

namespace Fleet

/-- A retained message without a payload asks the broker to retain none. -/
def removes (payload : CString) : Bool := payload.1.isEmpty

variable {β : Type*} (B : PubSub β CString CString CString)

/-- What a device publishes, under its client ID. -/
def deliver (b : β) (d : Device) (call : PublishCall) : β :=
  match call.message with
  | some p => if call.ok then B.publish b d.clientId (p.topic, p.payload) p.retained else b
  | none => b

def step (b : β) (st : FleetStep) : β :=
  match st with
  | .connect d connected =>
    if (mqttManagerConnect d.deviceId connected).2 then
      deliver B (B.connect b d.clientId d.will) d st.call
    else b
  | .lost d => B.lose b d.clientId
  | st => deliver B b st.device st.call

/-- The broker after steps of the devices, newest first. -/
def run (b : β) (steps : List FleetStep) : β := Run.after (step B) b steps

end Fleet

end EnergyController
