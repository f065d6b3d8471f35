/-
EnergyController.Firmware.System — the firmware as one system: the parties of
`Firmware.Tasks`, SensorTask, CliTask and the command path of NetworkTask, with
`measurementQueue` and `commandQueue` between them and one clock for all
(`src/main.cpp`).

What was an input of the single tasks is now the state of another: what
ControlTask receives is at the head of a queue, whether a send succeeds is
whether the queue has room, and every `millis()` shows the same true time, which
stands in the model of the MQTT manager. A send that waits ends when there is
room, or when the time is up with the queue still full; a receive that waits
ends with an item, or with the queue still empty. A step is the end of the wait.

`SystemEvent`s are the history: what each step read, sent, received and
executed. A step that is not possible changes nothing and has no events.
-/
import EnergyController.Firmware.CliTask
import EnergyController.Firmware.LatestMeasurement
import EnergyController.Firmware.Tasks
import EnergyController.Lib.BoundedQueue
import EnergyController.Mqtt.MqttManager
import EnergyController.Protection.TrueTime

namespace EnergyController

structure SystemConfig where
  firmware : FirmwareConfig
  mqtt : MqttConfig
  measurementSource : MeasurementSource
  measurementQueueLength : ℕ
  commandQueueLength : ℕ
  cliBufferSize : ℕ
  /-- `char` is signed on this compiler -/
  charSigned : Bool

/-- `config.example.h` -/
def exampleSystem : SystemConfig where
  firmware := exampleFirmware
  mqtt := exampleMqtt
  measurementSource := .pzem
  measurementQueueLength := 5
  commandQueueLength := 8
  cliBufferSize := 40
  charSigned := false

theorem buildMeasurement_timestamp (raw : RawPzemReading) (source : MeasurementSource) (t : Millis)
    (limits : MeasurementLimits) : (buildMeasurement raw source t limits).timestamp = t := by
  unfold buildMeasurement
  dsimp only
  split <;> (try rfl)
  split <;> (try rfl)
  split <;> rfl

/-- A measurement on its way, with the true time at which it was read. -/
structure Sample where
  measurement : QueuedMeasurement
  takenAt : ℕ
  stamped : measurement.1.timestamp = millis takenAt

/-- `readMeasurement` at a true time. -/
def Sample.read (kMeasurementSource : MeasurementSource) (raw : RawPzemReading) (time : ℕ) :
    Sample where
  measurement := ⟨readMeasurement kMeasurementSource raw (millis time), by
    cases kMeasurementSource with
    | pzem => exact ⟨raw, .pzem, millis time, rfl⟩
    | simulation => exact ⟨_, .simulation, millis time, rfl⟩⟩
  takenAt := time
  stamped := by cases kMeasurementSource <;> exact buildMeasurement_timestamp _ _ _ _

inductive SensorPc where
  | reading
  /-- in `xQueueSend` -/
  | sending (sample : Sample)

/-- Where a command comes from. -/
inductive CommandOrigin where
  | typed
  | received (message : MqttMessage)

inductive SystemEvent where
  | read (sample : Sample)
  | sent (sample : Sample)
  /-- the queue was full -/
  | lost (sample : Sample)
  /-- ControlTask received, or timed out, and called the protection -/
  | polled (received : Option Sample) (at_ : ℕ) (locked : Bool)
  /-- CliTask read a byte -/
  | typed (value : UInt8)
  | enqueued (origin : CommandOrigin) (type : CommandType)
  | executed (type : CommandType) (at_ : ℕ) (locked : Bool)

namespace SystemEvent

def read? : SystemEvent → Option Sample
  | .read sample => some sample
  | _ => none

def sent? : SystemEvent → Option Sample
  | .sent sample => some sample
  | _ => none

/-- A sample that SensorTask was done with. -/
def settled? : SystemEvent → Option Sample
  | .sent sample => some sample
  | .lost sample => some sample
  | _ => none

def received? : SystemEvent → Option Sample
  | .polled received _ _ => received
  | _ => none

def typed? : SystemEvent → Option UInt8
  | .typed value => some value
  | _ => none

def enqueued? : SystemEvent → Option CommandType
  | .enqueued _ type => some type
  | _ => none

def executed? : SystemEvent → Option CommandType
  | .executed type _ _ => some type
  | _ => none

/-- A command that was typed. -/
def enqueuedTyped? : SystemEvent → Option CommandType
  | .enqueued .typed type => some type
  | _ => none

/-- A command that was received, with its message. -/
def enqueuedReceived? : SystemEvent → Option (MqttMessage × CommandType)
  | .enqueued (.received message) type => some (message, type)
  | _ => none

end SystemEvent

structure System (cfg : SystemConfig) where
  firmware : Firmware
  /-- the tasks that `createTasks` has created -/
  running : FirmwareTask → Bool
  sensor : SensorPc
  measurementQueue : BoundedQueue Sample cfg.measurementQueueLength
  commandQueue : BoundedQueue CommandType cfg.commandQueueLength
  cli : CliTask
  mqtt : MqttManager

inductive SystemStep where
  | elapse (ms : ℕ)
  /-- of `setup`, of WatchdogTask, or an output of ControlTask -/
  | firmware (st : FirmwareStep)
  | sensorRead (raw : RawPzemReading)
  | sensorSend
  | controlPoll (locked : Bool)
  | controlCommand (locked : Bool)
  | controlLoop
  | cliByte (value : UInt8)
  /-- of NetworkTask in the MQTT manager, or of the network -/
  | mqtt (st : MqttStep)
  | mqttLoop

/-- The steps of `Firmware` that depend on the queues. -/
def FirmwareStep.usesQueue : FirmwareStep → Bool
  | .controlPoll _ _ => true
  | .controlCommand _ _ => true
  | .controlLoop => true
  | _ => false

/-- The steps of the MQTT manager that depend on the clock or the queue. -/
def MqttStep.usesSystem : MqttStep → Bool
  | .elapse _ => true
  | .loop _ => true
  | _ => false

def CliEvent.enqueued? : CliEvent → Option CommandType
  | .request type true => some type
  | _ => none

/-- The command that a call of the client's loop is going to enqueue. -/
def MqttManager.enqueues (cfg : MqttConfig) (s : MqttManager) (sent : Bool) :
    Option (MqttMessage × CommandType) :=
  match s.phase, s.waiting with
  | .subscribed, m :: _ =>
    match (s.handOver cfg m sent).outcome with
    | .enqueued type => some (m, type)
    | _ => none
  | _, _ => none

namespace System

variable {cfg : SystemConfig}

/-- True time. -/
def clock (s : System cfg) : ℕ := s.mqtt.clock

/-- The outcome of a lock attempt made now. -/
def lock (s : System cfg) (locked : Bool) : Lock := if locked then some (millis s.clock) else none

/-- `setup` has created the queues and begun the managers. -/
def powerOn (cfg : SystemConfig) (a : Actuator) (readback : Int) (memory : ℕ → UInt8)
    (time : ℕ) : System cfg where
  firmware := .powerOn cfg.firmware a readback (millis time)
  running := fun _ => false
  sensor := .reading
  measurementQueue := .empty
  commandQueue := .empty
  cli := .start cfg.cliBufferSize memory
  mqtt := .mqttManagerBegin time true

/-- The tasks that run after a step of `setup`. -/
def started (s : System cfg) (st : FirmwareStep) : FirmwareTask → Bool :=
  match s.firmware.setup, st with
  | .creating task, .createTask true => fun t => if t = task then true else s.running t
  | _, _ => s.running

def act (s : System cfg) (st : SystemStep) : System cfg × List SystemEvent :=
  match st with
  | .elapse ms => ({ s with mqtt := s.mqtt.step cfg.mqtt (.elapse ms) }, [])
  | .firmware st =>
    if st.usesQueue then (s, [])
    else ({ s with firmware := s.firmware.step cfg.firmware st, running := s.started st }, [])
  | .sensorRead raw =>
    match s.running .sensor, s.sensor with
    | true, .reading =>
      let sample := Sample.read cfg.measurementSource raw s.clock
      ({ s with sensor := .sending sample }, [.read sample])
    | _, _ => (s, [])
  | .sensorSend =>
    match s.sensor with
    | .sending sample =>
      ({ s with sensor := .reading, measurementQueue := s.measurementQueue.send sample },
        [if s.measurementQueue.hasRoom then .sent sample else .lost sample])
    | .reading => (s, [])
  | .controlPoll locked =>
    match s.firmware.control with
    | .receiving =>
      let received := s.measurementQueue.items.head?
      ({ s with
          firmware := s.firmware.step cfg.firmware
            (.controlPoll (received.map (·.measurement)) (s.lock locked))
          measurementQueue := s.measurementQueue.receive },
        [.polled received s.clock locked])
    | _ => (s, [])
  | .controlCommand locked =>
    match s.firmware.control, s.commandQueue.items with
    | .draining, type :: _ =>
      ({ s with
          firmware := s.firmware.step cfg.firmware (.controlCommand type (s.lock locked))
          commandQueue := s.commandQueue.receive },
        [.executed type s.clock locked])
    | _, _ => (s, [])
  | .controlLoop =>
    match s.commandQueue.items with
    | [] => ({ s with firmware := s.firmware.step cfg.firmware .controlLoop }, [])
    | _ => (s, [])
  | .cliByte value =>
    match s.running .cli with
    | true =>
      let (cli, events) := s.cli.readByte cfg.charSigned cfg.cliBufferSize
        { value := value, room := s.commandQueue.hasRoom }
      let s' := { s with cli := cli }
      match events.findSome? CliEvent.enqueued? with
      | some type =>
        ({ s' with commandQueue := s.commandQueue.send type },
          [.enqueued .typed type, .typed value])
      | none => (s', [.typed value])
    | false => (s, [])
  | .mqtt st =>
    if s.running .network && !st.usesSystem then
      ({ s with mqtt := s.mqtt.step cfg.mqtt st }, [])
    else (s, [])
  | .mqttLoop =>
    match s.running .network with
    | true =>
      let sent := s.commandQueue.hasRoom
      let s' := { s with mqtt := s.mqtt.step cfg.mqtt (.loop sent) }
      match s.mqtt.enqueues cfg.mqtt sent with
      | some (message, type) =>
        ({ s' with commandQueue := s.commandQueue.send type },
          [.enqueued (.received message) type])
      | none => (s', [])
    | false => (s, [])

/-- `esp_restart` ends the run. -/
def step (s : System cfg) (st : SystemStep) : System cfg :=
  if s.firmware.watchdog = .restarted then s else (s.act st).1

def events (s : System cfg) (st : SystemStep) : List SystemEvent :=
  if s.firmware.watchdog = .restarted then [] else (s.act st).2

/-- The state after steps, newest first. -/
def run (s : System cfg) (steps : List SystemStep) : System cfg := Run.after step s steps

/-- What happened, newest first. -/
def history (s : System cfg) (steps : List SystemStep) : List SystemEvent :=
  Run.observed step events s steps

end System

end EnergyController
