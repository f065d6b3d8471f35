/-
EnergyController.Firmware.CliTask — `cliTask` of `src/main.cpp`, the task that
reads commands from the serial line, with `requestCommand` and
`diagnosticsParseCommand` (`diagnostics.cpp`).

An iteration of the task reads the bytes that have arrived, one at a time
(`readByte`), and beats. What it does is a list of `CliEvent`s. The reports that
the diagnostics commands print are one event each. `buffer` is the memory from
the array on, so that a write past the array would show; `char` is signed on
one compiler and unsigned on another, and is a parameter (`charValue`).
-/
import EnergyController.Firmware.ControlTask
import EnergyController.Lib.CString
import EnergyController.Lib.Transducer
import Mathlib.Logic.Function.Basic

namespace EnergyController

/-- Each word is compared with the whole command. -/
def diagnosticsParseCommand (command : CString) : CommandType :=
  if command.1 = ascii "help" then .help
  else if command.1 = ascii "status" then .status
  else if command.1 = ascii "measure" then .measure
  else if command.1 = ascii "fault" then .fault
  else if command.1 = ascii "watchdog" then .watchdog
  else if command.1 = ascii "tasks" then .tasks
  else if command.1 = ascii "uptime" then .uptime
  else if command.1 = ascii "reset" then .reset
  else if command.1 = ascii "ack" then .ack
  else if command.1 = ascii "version" then .version
  else .none

inductive CliEvent where
  /-- `Serial.print` -/
  | print (text : List UInt8)
  /-- the call `diagnosticsParseCommand(buffer)` -/
  | parse (line : CString)
  /-- the `diagnosticsPrint...` function of the command -/
  | report (type : CommandType)
  /-- the call `requestCommand(type)`, and whether the queue took the command -/
  | request (type : CommandType) (sent : Bool)
  /-- `watchdogManagerHeartbeat(HEARTBEAT_CLI)` and `esp_task_wdt_reset()` -/
  | heartbeat

namespace CliEvent

def println (text : List UInt8) : CliEvent := .print (text ++ ascii "\r\n")

def parsed? : CliEvent → Option (List UInt8)
  | .parse line => some line.1
  | _ => none

def requested? : CliEvent → Option CommandType
  | .request type _ => some type
  | _ => none

end CliEvent

/-- `requestCommand`; `room` is whether `xQueueSend` finds room in the queue in
its 50 ms. -/
def requestCommand (type : CommandType) (room : Bool) : List CliEvent :=
  .request type room :: if room then [] else [.println (ascii "[CLI] Command queue full")]

/-- A byte on the serial line, with what the command queue would answer at the
time it is read. -/
structure SerialByte where
  value : UInt8
  room : Bool

/-- The value of `c` in comparisons. -/
def charValue (charSigned : Bool) (c : UInt8) : ℤ :=
  if charSigned then c.toInt8.toInt else c.toNat

structure CliTask where
  buffer : ℕ → UInt8
  index : ℕ
  overflow : Bool

namespace CliTask

/-- The array is zeroed; `memory` is what lies around it. -/
def start (size : ℕ) (memory : ℕ → UInt8) : CliTask where
  buffer := fun i => if i < size then 0 else memory i
  index := 0
  overflow := false

/-- The `switch` on the parsed command. -/
def execute (line : CString) (room : Bool) : List CliEvent :=
  let command := diagnosticsParseCommand line
  match command with
  | .help | .status | .measure | .fault | .watchdog | .tasks | .uptime | .version =>
    [.report command]
  | .reset | .ack => requestCommand command room
  | .none | .remoteReset | .remoteAck =>
    [.print (ascii "[CLI] Unknown command: " ++ line.1 ++ ascii "\n")]

/-- What a CR or LF does with a line that is not skipped. -/
def endLine (size : ℕ) (t : CliTask) (room : Bool) : CliTask × List CliEvent :=
  let (buffer, events) :=
    if t.overflow then (t.buffer, [.println (ascii "[CLI] ERROR: command too long")])
    else
      let buffer := Function.update t.buffer t.index 0
      let line := CString.ofBytes (readBytes buffer size)
      (buffer, .parse line :: execute line room)
  ({ buffer := buffer, index := 0, overflow := false },
    .println [] :: events ++ [.print (ascii "\r\ndiag> ")])

/-- The body of the loop over the bytes that have arrived. -/
def readByte (charSigned : Bool) (size : ℕ) (t : CliTask) (b : SerialByte) :
    CliTask × List CliEvent :=
  let c := charValue charSigned b.value
  if c = 13 ∨ c = 10 then
    if t.index = 0 ∧ t.overflow = false then (t, [])
    else t.endLine size b.room
  else if c = 8 ∨ c = 127 then
    if t.index > 0 then ({ t with index := t.index - 1 }, [.print [8, 32, 8]])
    else (t, [])
  else if c < 32 ∨ c > 126 then (t, [])
  else if t.index < size - 1 then
    ({ t with buffer := Function.update t.buffer t.index b.value, index := t.index + 1 },
      [.print [b.value]])
  else ({ t with overflow := true }, [])

/-- One wake-up of the task. -/
def iterate (charSigned : Bool) (size : ℕ) (t : CliTask) (arrived : List SerialByte) :
    CliTask × List CliEvent :=
  let (t, events) := Transducer.run (readByte charSigned size) t arrived
  (t, events ++ [.heartbeat])

/-- `cliTask` from its first wake-up on. -/
def run (charSigned : Bool) (size : ℕ) (memory : ℕ → UInt8) (wakeUps : List (List SerialByte)) :
    CliTask × List CliEvent :=
  Transducer.run (iterate charSigned size) (start size memory) wakeUps

end CliTask

end EnergyController
