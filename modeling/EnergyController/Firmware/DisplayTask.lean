/-
EnergyController.Firmware.DisplayTask — `displayTask` of `src/main.cpp`.

Each iteration clears the display, marks a simulation build in the last column,
and prints the latest measurement and the state. The LCD library is not part of
the repository: an iteration is the calls that it makes of it.
-/
import EnergyController.Firmware.LatestMeasurement
import EnergyController.Lib.FloatBounds

namespace EnergyController

/-- `LCD_COLUMNS` and `LCD_ROWS` of `config.example.h`. -/
def lcdColumns : ℕ := 16
def lcdRows : ℕ := 2

/-- The calls of the LCD library. A `print` writes its text from the cursor on;
`printf` is the `print` of the formatted text. -/
inductive LcdCall where
  | clear
  | setCursor (column row : ℕ)
  | print (text : List UInt8)

/-- `"V:%5.1f I:%4.2f"` -/
def voltageRow (m : Measurement) : List UInt8 :=
  ascii "V:" ++ FloatValue.padLeft 5 (FloatValue.printfText 1 m.voltage) ++
    ascii " I:" ++ FloatValue.padLeft 4 (FloatValue.printfText 2 m.current)

/-- `"P:%5.0f %s"` -/
def powerRow (m : Measurement) (state : SystemState) : List UInt8 :=
  ascii "P:" ++ FloatValue.padLeft 5 (FloatValue.printfText 0 m.power) ++
    ascii " " ++ (systemStateName state).1

/-- One iteration, on the copied measurement and the snapshot: its calls in order. -/
def displayIteration (kMeasurementSource : MeasurementSource) (measurement : Measurement)
    (protection : ProtectionSnapshot) : List LcdCall :=
  [.clear] ++
  -- column 15 marks simulated data
  (if kMeasurementSource = .simulation then [.setCursor 15 0, .print (ascii "S")] else []) ++
  (if !measurement.valid then
    [.setCursor 0 0, .print (ascii "Sensor Error"), .setCursor 0 1, .print (ascii "Check PZEM")]
  else
    [.setCursor 0 0, .print (voltageRow measurement), .setCursor 0 1,
      .print (powerRow measurement protection.state)])

/-- `latestMeasurement`, and the calls of the last iteration of DisplayTask. -/
structure Display where
  latestMeasurement : Measurement
  calls : List LcdCall

inductive DisplayStep where
  /-- an iteration of SensorTask, as in `SamplingStep` -/
  | sensor (raw : RawPzemReading) (nowMs : Millis) (taken : Bool)
  /-- an iteration of DisplayTask: whether the copy took the mutex, and the
  protection snapshot -/
  | display (taken : Bool) (protection : ProtectionSnapshot)

namespace Display

def start : Display where
  latestMeasurement := .zeroInitialised
  calls := []

/-- The measurement that an iteration shows: a failed copy leaves it as
initialised. -/
def measurement (s : Display) (taken : Bool) : Measurement :=
  (copyLatestMeasurement s.latestMeasurement taken).getD .zeroInitialised

def step (kMeasurementSource : MeasurementSource) (s : Display) : DisplayStep → Display
  | .sensor raw nowMs taken =>
    if taken then
      { s with latestMeasurement := readMeasurement kMeasurementSource raw nowMs }
    else s
  | .display taken protection =>
    { s with calls := displayIteration kMeasurementSource (s.measurement taken) protection }

/-- The state after steps, newest first. -/
def run (kMeasurementSource : MeasurementSource) (s : Display) (steps : List DisplayStep) :
    Display :=
  Run.after (step kMeasurementSource) s steps

end Display

end EnergyController
