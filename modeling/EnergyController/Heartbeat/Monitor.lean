/-
EnergyController.Heartbeat.Monitor — the table of last beats
(`heartbeat_monitor.{h,cpp}`).

A `size_t` is a `Nat` here: the table has at most 8 slots, so the only value
of the type that matters beyond them is `sizeMax`, which `firstStale` returns
when no slot is stale. The two arrays keep their fixed length, and that the
slot count never exceeds it is part of the structure.
-/
import EnergyController.Lib.Runs
import EnergyController.Measurement.Core

namespace EnergyController

/-- `UINT32_MAX`: the age of a slot that never reported. -/
def heartbeatNever : Millis := 0xFFFFFFFF

def heartbeatMaxSlots : Nat := 8

/-- `static_cast<size_t>(-1)` on the target. -/
def sizeMax : Nat := 0xFFFFFFFF

structure HeartbeatMonitor where
  slots : Nat
  last : Vector Millis heartbeatMaxSlots
  /-- an explicit flag: `millis() == 0` is a legal timestamp -/
  seen : Vector Bool heartbeatMaxSlots
  slots_le : slots ≤ heartbeatMaxSlots
  deriving DecidableEq

namespace HeartbeatMonitor

/-- The constructor; a larger slot count is cut to the table's. -/
def new (slots : Nat) : HeartbeatMonitor where
  slots := if slots > heartbeatMaxSlots then heartbeatMaxSlots else slots
  last := Vector.replicate heartbeatMaxSlots 0
  seen := Vector.replicate heartbeatMaxSlots false
  slots_le := by split <;> omega

def beat (h : HeartbeatMonitor) (slot : Nat) (nowMs : Millis) : HeartbeatMonitor :=
  if hs : slot < h.slots then
    have hlt : slot < heartbeatMaxSlots := Nat.lt_of_lt_of_le hs h.slots_le
    { h with last := h.last.set slot nowMs, seen := h.seen.set slot true }
  else h

/-- The timestamp of the latest beat of a slot. -/
def lastBeat (h : HeartbeatMonitor) (slot : Nat) : Option Millis :=
  if hs : slot < h.slots then
    have hlt : slot < heartbeatMaxSlots := Nat.lt_of_lt_of_le hs h.slots_le
    if !h.seen[slot] then none else some h.last[slot]
  else none

def ageMs (h : HeartbeatMonitor) (slot : Nat) (nowMs : Millis) : Millis :=
  if hs : slot < h.slots then
    have hlt : slot < heartbeatMaxSlots := Nat.lt_of_lt_of_le hs h.slots_le
    if !h.seen[slot] then heartbeatNever else nowMs - h.last[slot]
  else heartbeatNever

/-- The test in the loop of `firstStale`. -/
def stale (h : HeartbeatMonitor) (nowMs timeoutMs : Millis) (slot : Nat) : Bool :=
  let age := h.ageMs slot nowMs
  age = heartbeatNever || age > timeoutMs

/-- The first stale slot in ascending order. -/
def firstStale (h : HeartbeatMonitor) (nowMs timeoutMs : Millis) : Nat :=
  ((List.range h.slots).find? (h.stale nowMs timeoutMs)).getD sizeMax

def healthy (h : HeartbeatMonitor) (nowMs timeoutMs startMs graceMs : Millis) : Bool :=
  if nowMs - startMs < graceMs then true
  else h.firstStale nowMs timeoutMs = sizeMax

end HeartbeatMonitor

/-! ## Histories -/

/-- A call of `beat`, with the true time it is made at. -/
structure Beat where
  slot : Nat
  time : Nat
  deriving DecidableEq

/-- The time of the newest beat of a slot, in a history NEWEST FIRST. -/
def latestBeat (slot : Nat) : List Beat → Option Nat
  | [] => none
  | beat :: earlier => if beat.slot = slot then some beat.time else latestBeat slot earlier

/-- The table after a history. The monitor sees true times as `millis`. -/
def HeartbeatMonitor.after (slots : Nat) (beats : List Beat) : HeartbeatMonitor :=
  Run.after (fun h beat => h.beat beat.slot (millis beat.time)) (.new slots) beats

end EnergyController
