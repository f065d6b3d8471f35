/-
EnergyController.Firmware.LatestMeasurement — `latestMeasurement` of
`src/main.cpp` between `sensorTask`, which stores a sample in it once a second,
and `networkTask`, which copies it for the telemetry; `readMeasurement` of
`src/measurement.cpp` and the build mode of `src/build_mode.h`.

Each iteration of either task takes `measurementMutex` at most once, and does
everything else without the variable. A step is therefore one iteration, at the
moment it has the mutex or has waited for it in vain; any order of steps is a
run.

`stored` and `published` are history variables.
-/
import EnergyController.Firmware.NetworkTask

namespace EnergyController

/-- `readMeasurement`, in a build with the source `kMeasurementSource`. `raw` is
what the meter answers. -/
def readMeasurement (kMeasurementSource : MeasurementSource) (raw : RawPzemReading)
    (nowMs : Millis) : Measurement :=
  match kMeasurementSource with
  | .pzem => buildMeasurement raw .pzem nowMs defaultMeasurementLimits
  | .simulation => simulationSample nowMs

/-- The measurement copied, if the mutex was taken. -/
def copyLatestMeasurement (latestMeasurement : Measurement) (taken : Bool) : Option Measurement :=
  if taken then some latestMeasurement else none

/-- A telemetry message that the client was asked to publish: its text, whether
the copy took the mutex, and whether a sample had been stored before. -/
structure TelemetryMessage where
  payload : CString
  copied : Bool
  stored : Bool

structure Sampling where
  latestMeasurement : Measurement
  network : NetworkTask
  stored : Bool
  /-- newest first -/
  published : List TelemetryMessage

inductive SamplingStep where
  /-- an iteration of SensorTask: the answer of the meter and its time, and
  whether the mutex was taken -/
  | sensor (raw : RawPzemReading) (nowMs : Millis) (taken : Bool)
  | network (i : NetworkIteration) (taken : Bool)

/-- The text of a telemetry message among the calls of an iteration. -/
def NetworkAction.telemetryPayload : NetworkAction → Option CString
  | .publishTelemetry _ call => call.message.map (·.payload)
  | _ => none

namespace Sampling

def start (cfg : NetworkConfig) (wifiMs blynkMs mqttMs : Millis) : Sampling where
  latestMeasurement := .zeroInitialised
  network := .start cfg wifiMs blynkMs mqttMs
  stored := false
  published := []

def step (cfg : NetworkConfig) (kMeasurementSource : MeasurementSource) (s : Sampling) :
    SamplingStep → Sampling
  | .sensor raw nowMs taken =>
    if taken then
      { s with
        latestMeasurement := readMeasurement kMeasurementSource raw nowMs
        stored := true }
    else s
  | .network i taken =>
    let (actions, network) := s.network.iterate cfg
      { i with copied := copyLatestMeasurement s.latestMeasurement taken }
    { s with
      network := network
      published := (actions.filterMap NetworkAction.telemetryPayload).map
        (fun payload => { payload := payload, copied := taken, stored := s.stored }) ++
          s.published }

/-- The state after steps, newest first. -/
def run (cfg : NetworkConfig) (kMeasurementSource : MeasurementSource) (s : Sampling)
    (steps : List SamplingStep) : Sampling :=
  Run.after (step cfg kMeasurementSource) s steps

end Sampling

end EnergyController
