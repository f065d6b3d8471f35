/-
EnergyController.Firmware.NetworkTask — `networkTask` of `src/main.cpp`.

One iteration of the loop is a function of the task's variables and of what the
iteration meets: the clock, the Wi-Fi, NTP, Blynk, the MQTT client, the
protection snapshot and the outcome of `copyLatestMeasurement`. It returns
the calls that it makes, in order, and the variables it leaves behind. The
sections of the loop body are definitions of their own.

`records` is the history of a run: what every iteration met, and did.
-/
import EnergyController.Mqtt.MqttManager
import EnergyController.Mqtt.Publish

namespace EnergyController

/-- The constants of `config.h` that the task uses. -/
structure NetworkConfig where
  mqttDeviceId : CString
  wifiReconnectIntervalMs : Millis
  ntpCheckIntervalMs : Millis
  blynkReconnectIntervalMs : Millis
  mqttReconnectIntervalMs : Millis
  telemetryPeriodMs : Millis

/-- `config.example.h` -/
def exampleNetwork : NetworkConfig where
  mqttDeviceId := exampleMqtt.mqttDeviceId
  wifiReconnectIntervalMs := 10000
  ntpCheckIntervalMs := 1000
  blynkReconnectIntervalMs := 5000
  mqttReconnectIntervalMs := 5000
  telemetryPeriodMs := 2000

structure NetworkTask where
  wifiConnected : Bool
  blynkConnected : Bool
  timeSynchronized : Bool
  lastWiFiAttempt : Millis
  lastBlynkAttempt : Millis
  lastMqttAttempt : Millis
  lastTelemetry : Millis
  lastNtpCheck : Millis
  mqttWasConnected : Bool
  publishedState : SystemState
  publishedFault : FaultCode

/-- What one iteration meets. Outcomes of calls that it does not make are
not used. -/
structure NetworkIteration where
  now : Millis
  /-- `WiFi.status() == WL_CONNECTED` -/
  wifiUp : Bool
  ntpTimeValid : Bool
  blynkUp : Bool
  blynkConnects : Bool
  /-- MQTT is connected at the connect-or-loop branch -/
  mqttUp : Bool
  mqttConnect : Option ClientPublish
  protection : ProtectionSnapshot
  /-- MQTT is connected at the publication check -/
  mqttNowConnected : Bool
  stateOnConnect : ClientPublish
  faultOnConnect : ClientPublish
  stateOnChange : ClientPublish
  faultOnChange : ClientPublish
  /-- what `copyLatestMeasurement` copied -/
  copied : Option Measurement
  /-- MQTT is connected when the telemetry is due -/
  mqttUpAtTelemetry : Bool
  relayCommandedOn : Bool
  relayOutputEnabled : Bool
  telemetryMs : Millis
  stack : ℕ → UInt8
  telemetry : ClientPublish

/-- The calls that reach beyond the task. -/
inductive NetworkAction where
  | wifiBegin
  | configTime
  | setTimeSynchronized (synchronized : Bool)
  | blynkConnect
  | blynkRun
  | blynkWrite (m : Measurement)
  | mqttConnect (call : PublishCall)
  | mqttLoop
  | publishState (state : SystemState) (call : PublishCall)
  | publishFault (fault : FaultCode) (call : PublishCall)
  | publishTelemetry (m : Measurement) (call : PublishCall)

namespace NetworkAction

def stateCall : NetworkAction → Option (SystemState × Bool)
  | .publishState state call => some (state, call.ok)
  | _ => none

def faultCall : NetworkAction → Option (FaultCode × Bool)
  | .publishFault fault call => some (fault, call.ok)
  | _ => none

/-- The call of a publishing function. -/
def publishCall : NetworkAction → Option PublishCall
  | .mqttConnect call => some call
  | .publishState _ call => some call
  | .publishFault _ call => some call
  | .publishTelemetry _ call => some call
  | _ => none

end NetworkAction

namespace NetworkTask

/-- The variables as `setup` leaves them, which reads the clock three times. -/
def start (cfg : NetworkConfig) (wifiMs blynkMs mqttMs : Millis) : NetworkTask where
  wifiConnected := false
  blynkConnected := false
  timeSynchronized := false
  lastWiFiAttempt := wifiMs - cfg.wifiReconnectIntervalMs
  lastBlynkAttempt := blynkMs - cfg.blynkReconnectIntervalMs
  lastMqttAttempt := mqttMs - cfg.mqttReconnectIntervalMs
  lastTelemetry := 0
  lastNtpCheck := 0
  mqttWasConnected := false
  publishedState := .init
  publishedFault := .none

variable (cfg : NetworkConfig) (i : NetworkIteration)

/-- Without Wi-Fi, the connections are marked as lost once, and Wi-Fi is tried
again from time to time. -/
def wifiDown (s : NetworkTask) : List NetworkAction × NetworkTask :=
  let (lost, s) : List NetworkAction × NetworkTask :=
    if s.wifiConnected then
      ([.setTimeSynchronized false],
        { s with
          wifiConnected := false
          blynkConnected := false
          timeSynchronized := false
          mqttWasConnected := false })
    else ([], s)
  if i.now - s.lastWiFiAttempt ≥ cfg.wifiReconnectIntervalMs then
    (lost ++ [.wifiBegin], { s with lastWiFiAttempt := i.now })
  else (lost, s)

def wifiFound (s : NetworkTask) : List NetworkAction × NetworkTask :=
  if !s.wifiConnected then
    ([.configTime], { s with wifiConnected := true, timeSynchronized := false })
  else ([], s)

def ntp (s : NetworkTask) : List NetworkAction × NetworkTask :=
  let s :=
    if !s.timeSynchronized && i.now - s.lastNtpCheck ≥ cfg.ntpCheckIntervalMs then
      { s with lastNtpCheck := i.now, timeSynchronized := i.ntpTimeValid }
    else s
  ([.setTimeSynchronized s.timeSynchronized], s)

def blynk (s : NetworkTask) : List NetworkAction × NetworkTask :=
  if !i.blynkUp then
    let s := { s with blynkConnected := false }
    if i.now - s.lastBlynkAttempt ≥ cfg.blynkReconnectIntervalMs then
      ([.blynkConnect],
        { s with lastBlynkAttempt := i.now, blynkConnected := i.blynkConnects })
    else ([], s)
  else ([.blynkRun], { s with blynkConnected := true })

def mqtt (s : NetworkTask) : List NetworkAction × NetworkTask :=
  if !i.mqttUp then
    if s.timeSynchronized && i.now - s.lastMqttAttempt ≥ cfg.mqttReconnectIntervalMs then
      ([.mqttConnect (mqttManagerConnect cfg.mqttDeviceId i.mqttConnect).1],
        { s with lastMqttAttempt := i.now })
    else ([], s)
  else ([.mqttLoop], s)

def onConnect (s : NetworkTask) : List NetworkAction × NetworkTask :=
  if i.mqttNowConnected && !s.mqttWasConnected then
    ([.publishState i.protection.state
        (mqttManagerPublishState cfg.mqttDeviceId i.protection.state i.stateOnConnect),
      .publishFault i.protection.fault.activeFault
        (mqttManagerPublishFault cfg.mqttDeviceId i.protection i.faultOnConnect)],
      { s with
        publishedState := i.protection.state
        publishedFault := i.protection.fault.activeFault })
  else ([], s)

def stateChange (s : NetworkTask) : List NetworkAction × NetworkTask :=
  if i.protection.state ≠ s.publishedState then
    let call := mqttManagerPublishState cfg.mqttDeviceId i.protection.state i.stateOnChange
    ([.publishState i.protection.state call],
      if call.ok then { s with publishedState := i.protection.state } else s)
  else ([], s)

def faultChange (s : NetworkTask) : List NetworkAction × NetworkTask :=
  if i.protection.fault.activeFault ≠ s.publishedFault then
    let call := mqttManagerPublishFault cfg.mqttDeviceId i.protection i.faultOnChange
    ([.publishFault i.protection.fault.activeFault call],
      if call.ok then { s with publishedFault := i.protection.fault.activeFault } else s)
  else ([], s)

def onChange (s : NetworkTask) : List NetworkAction × NetworkTask :=
  if i.mqttNowConnected then
    let (state, s) := s.stateChange cfg i
    let (fault, s) := s.faultChange cfg i
    (state ++ fault, s)
  else ([], s)

/-- The measurement that is published: a failed copy leaves it as initialised. -/
def measurement : Measurement := i.copied.getD .zeroInitialised

def telemetry (s : NetworkTask) : List NetworkAction × NetworkTask :=
  if i.now - s.lastTelemetry ≥ cfg.telemetryPeriodMs then
    let m := measurement i
    ((if s.blynkConnected && m.valid then [.blynkWrite m] else []) ++
      (if i.mqttUpAtTelemetry then
        [.publishTelemetry m (mqttManagerPublishTelemetry cfg.mqttDeviceId m i.protection
          i.relayCommandedOn i.relayOutputEnabled i.telemetryMs i.stack i.telemetry)]
      else []),
      { s with lastTelemetry := i.now })
  else ([], s)

/-- One iteration: the calls it makes, and the variables afterwards. -/
def iterate (s : NetworkTask) : List NetworkAction × NetworkTask :=
  if !i.wifiUp then s.wifiDown cfg i
  else
    let (wifi, s) := s.wifiFound
    let (ntp, s) := s.ntp cfg i
    let (blynk, s) := s.blynk cfg i
    let (mqtt, s) := s.mqtt cfg i
    let (connect, s) := s.onConnect cfg i
    let (change, s) := s.onChange cfg i
    let (telemetry, s) := s.telemetry cfg i
    (wifi ++ ntp ++ blynk ++ mqtt ++ connect ++ change ++ telemetry, s)

/-- The state after iterations, newest first. -/
def run (s : NetworkTask) (iterations : List NetworkIteration) : NetworkTask :=
  Run.after (fun s i => (iterate cfg i s).2) s iterations

end NetworkTask

/-! ## History -/

structure NetworkRecord where
  iteration : NetworkIteration
  actions : List NetworkAction

/-- The history of a run, newest first. -/
def NetworkTask.records (cfg : NetworkConfig) (s : NetworkTask) :
    List NetworkIteration → List NetworkRecord
  | [] => []
  | i :: earlier =>
    { iteration := i, actions := ((s.run cfg earlier).iterate cfg i).1 } :: s.records cfg earlier

namespace NetworkRecord

/-- The iteration got to the publication check, and found MQTT connected. -/
def connected (r : NetworkRecord) : Bool := r.iteration.wifiUp && r.iteration.mqttNowConnected

/-- Among the iterations before: no publication check yet, MQTT was not
connected at the last one, or Wi-Fi was seen down since. -/
def fresh : List NetworkRecord → Bool
  | [] => true
  | r :: _ => !r.connected

/-- The calls that publish the state: what, and with which result. -/
def stateCalls (r : NetworkRecord) : List (SystemState × Bool) :=
  r.actions.filterMap NetworkAction.stateCall

def faultCalls (r : NetworkRecord) : List (FaultCode × Bool) :=
  r.actions.filterMap NetworkAction.faultCall

/-- What was last accepted on the connection that the latest record is part
of, of the values that `calls` finds in a record. -/
def lastAccepted {α : Type} (calls : NetworkRecord → List (α × Bool)) :
    List NetworkRecord → Option α
  | [] => none
  | r :: earlier =>
    if r.connected then
      match ((calls r).filter (·.2)).getLast? with
      | some (value, _) => some value
      | none => if fresh earlier then none else lastAccepted calls earlier
    else none

end NetworkRecord

/-- The broker after the calls of one iteration. -/
def Broker.afterActions (b : Broker) (actions : List NetworkAction) : Broker :=
  (actions.filterMap NetworkAction.publishCall).foldl accept b

/-- The broker after a run. -/
def Broker.afterRecords (b : Broker) : List NetworkRecord → Broker
  | [] => b
  | r :: earlier => (b.afterRecords earlier).afterActions r.actions

end EnergyController
