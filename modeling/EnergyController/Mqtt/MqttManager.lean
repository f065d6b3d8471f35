/-
EnergyController.Mqtt.MqttManager — the command path of
`src/mqtt_manager.cpp`: `mqttManagerConnect`, `mqttManagerLoop` and
`mqttCallback`.

Only NetworkTask calls these, with any time in between. A message reaches the
device at any time after the first `subscribe` call and waits in the client,
oldest first, until a call of the client's loop hands it to the callback; what
waits is lost with its connection. Time is true time in milliseconds; `millis()` shows it
modulo 2^32. What the network decides is part of the input: whether the Wi-Fi
is up, the broker accepts, the connection breaks, and what arrives when.

`stampedAt`, `subscribedAt` and `handed` are history variables.
-/
import EnergyController.Firmware.ControlTask
import EnergyController.Mqtt.RemoteCommand

namespace EnergyController

/-- The constants of `config.h` that the command path uses. -/
structure MqttConfig where
  mqttDeviceId : CString
  mqttCommandHoldoffMs : Millis

/-- `config.example.h` -/
def exampleMqtt : MqttConfig where
  mqttDeviceId := .lit "device01"
  mqttCommandHoldoffMs := 2000

/-- What the callback does with a message. -/
inductive CallbackOutcome where
  | rejected (verdict : RemoteCommandVerdict)
  /-- inside the hold-off -/
  | dropped
  | enqueued (type : CommandType)
  | queueFull
  deriving DecidableEq

/-- `sent`: there is a command queue, and it takes the command. -/
def mqttCallback (cfg : MqttConfig) (topic : Option CString) (payload : Payload) (length : ℕ)
    (nowMs subscribedAtMs : Millis) (sent : Bool) : CallbackOutcome :=
  let parsed := parseRemoteCommand topic payload length
    (mqttTopicCmdReset cfg.mqttDeviceId) (mqttTopicCmdAck cfg.mqttDeviceId)
  if parsed.verdict ≠ .accepted then .rejected parsed.verdict
  else if commandInHoldoff nowMs subscribedAtMs cfg.mqttCommandHoldoffMs then .dropped
  else
    let command : CommandType := if parsed.type = .reset then .remoteReset else .remoteAck
    if sent then .enqueued command else .queueFull

/-- A message, and the time it reached the device. -/
structure MqttMessage where
  topic : CString
  payload : Payload
  length : ℕ
  arrivedAt : ℕ

/-- A message handed to the callback: when, under which subscription, whether
the queue would take a command, and what became of it. -/
structure HandedMessage where
  message : MqttMessage
  handedAt : ℕ
  stampedAt : ℕ
  subscribedAt : ℕ
  sent : Bool
  outcome : CallbackOutcome

inductive MqttPhase where
  | disconnected
  /-- in `mqttManagerConnect`, past the stamp -/
  | subscribing
  | subscribed
  deriving DecidableEq

structure MqttManager where
  clock : ℕ
  /-- `commandQueue != nullptr` -/
  commandQueue : Bool
  timeSynchronized : Bool
  subscribedAtMs : Millis
  phase : MqttPhase
  /-- in the client, oldest first -/
  waiting : List MqttMessage
  /-- the true time of the latest stamp -/
  stampedAt : ℕ
  /-- the true time of the latest first `subscribe` call -/
  subscribedAt : ℕ
  /-- history, newest first -/
  handed : List HandedMessage

inductive MqttStep where
  | elapse (ms : ℕ)
  | setTimeSynchronized (synchronized : Bool)
  /-- `mqttManagerConnect` as far as the stamp -/
  | connect (wifiUp accepted : Bool)
  /-- the first of the two `subscribe` calls: messages come from here on -/
  | subscribe
  | arrive (topic : CString) (payload : Payload) (length : ℕ)
  | loop (sent : Bool)
  | disconnect

namespace MqttManager

/-- `mqttManagerBegin` -/
def mqttManagerBegin (time : ℕ) (commandQueue : Bool) : MqttManager where
  clock := time
  commandQueue := commandQueue
  timeSynchronized := false
  subscribedAtMs := 0
  phase := .disconnected
  waiting := []
  stampedAt := 0
  subscribedAt := 0
  handed := []

/-- The client hands the message to the callback. -/
def handOver (cfg : MqttConfig) (s : MqttManager) (m : MqttMessage) (sent : Bool) :
    HandedMessage where
  message := m
  handedAt := s.clock
  stampedAt := s.stampedAt
  subscribedAt := s.subscribedAt
  sent := s.commandQueue && sent
  outcome := mqttCallback cfg (some m.topic) m.payload m.length (millis s.clock) s.subscribedAtMs
    (s.commandQueue && sent)

/-- A step that is not possible changes nothing. -/
def step (cfg : MqttConfig) (s : MqttManager) : MqttStep → MqttManager
  | .elapse ms => { s with clock := s.clock + ms }
  | .setTimeSynchronized synchronized => { s with timeSynchronized := synchronized }
  | .connect wifiUp accepted =>
    if s.phase = .disconnected ∧ wifiUp ∧ s.timeSynchronized ∧ accepted then
      { s with
        phase := .subscribing
        subscribedAtMs := millis s.clock
        stampedAt := s.clock
        waiting := [] }
    else s
  | .subscribe =>
    if s.phase = .subscribing then { s with phase := .subscribed, subscribedAt := s.clock } else s
  | .arrive topic payload length =>
    if s.phase = .subscribed then
      { s with waiting := s.waiting ++
          [{ topic := topic, payload := payload, length := length, arrivedAt := s.clock }] }
    else s
  | .loop sent =>
    match s.phase, s.waiting with
    | .subscribed, m :: rest =>
      { s with waiting := rest, handed := s.handOver cfg m sent :: s.handed }
    | _, _ => s
  | .disconnect => { s with phase := .disconnected }

/-- The state after steps, newest first. -/
def run (cfg : MqttConfig) (s : MqttManager) (steps : List MqttStep) : MqttManager :=
  Run.after (step cfg) s steps

end MqttManager

end EnergyController
