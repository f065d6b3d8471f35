/-
EnergyController.Heartbeat.MonitorTheorems — the table as a map from slots to
last beats.

`lastBeat` reads a slot as an option; every other function of the table is a
function of it (`ageMs_eq`, `firstStale_eq_sizeMax_iff`), and a beat updates it
at its own slot only (`lastBeat_beat`). After a whole history it is the newest
beat of the slot (`lastBeat_after`), which makes the ages and the search of the
table those of the history (`table_history`).
-/
import EnergyController.Heartbeat.Monitor

namespace EnergyController

namespace HeartbeatMonitor

theorem lastBeat_new (slots slot : Nat) : (new slots).lastBeat slot = none := by
  simp [lastBeat, new]

@[simp] theorem slots_beat (h : HeartbeatMonitor) (slot : Nat) (nowMs : Millis) :
    (h.beat slot nowMs).slots = h.slots := by
  unfold beat
  split <;> rfl

/-- A beat in range sets its own slot; one out of range is ignored. -/
theorem lastBeat_beat (h : HeartbeatMonitor) (slot : Nat) (nowMs : Millis) (slot' : Nat) :
    (h.beat slot nowMs).lastBeat slot'
      = if slot' = slot ∧ slot < h.slots then some nowMs else h.lastBeat slot' := by
  by_cases hs : slot < h.slots
  case neg => simp [beat, hs]
  by_cases hslot : slot' = slot
  · subst hslot
    simp [beat, lastBeat, hs]
  · have hne : slot ≠ slot' := fun h => hslot h.symm
    simp [beat, lastBeat, hs, hslot, hne]

theorem ageMs_eq (h : HeartbeatMonitor) (slot : Nat) (nowMs : Millis) :
    h.ageMs slot nowMs
      = match h.lastBeat slot with
        | some t => nowMs - t
        | none => heartbeatNever := by
  simp only [ageMs, lastBeat]
  split
  · rename_i hs
    have hlt : slot < heartbeatMaxSlots := Nat.lt_of_lt_of_le hs h.slots_le
    cases hseen : h.seen[slot] <;> simp
  · rfl

/-- No slot is stale. -/
theorem firstStale_eq_sizeMax_iff (h : HeartbeatMonitor) (nowMs timeoutMs : Millis) :
    h.firstStale nowMs timeoutMs = sizeMax ↔
      ∀ slot < h.slots, h.stale nowMs timeoutMs slot = false := by
  have hsmall := h.slots_le
  unfold firstStale
  cases hfind : (List.range h.slots).find? (h.stale nowMs timeoutMs) with
  | none =>
    rw [List.find?_eq_none] at hfind
    simpa using hfind
  | some slot =>
    -- the stale slot is a counterexample, and far below `sizeMax`
    have hlt : slot < h.slots := List.mem_range.mp (List.mem_of_find?_eq_some hfind)
    have hstale := List.find?_some hfind
    have hne : slot ≠ sizeMax := by
      simp only [sizeMax, heartbeatMaxSlots] at hsmall ⊢
      omega
    simp only [Option.getD_some, hne, false_iff, Classical.not_forall]
    exact ⟨slot, hlt, by simp [hstale]⟩

/-- A slot is not stale exactly if it has beaten and the age is within the
timeout and not `heartbeatNever`. -/
theorem stale_eq_false_iff (h : HeartbeatMonitor) (nowMs timeoutMs : Millis) (slot : Nat) :
    h.stale nowMs timeoutMs slot = false ↔
      ∃ t, h.lastBeat slot = some t ∧ nowMs - t ≠ heartbeatNever ∧ nowMs - t ≤ timeoutMs := by
  rw [stale, ageMs_eq]
  cases h.lastBeat slot <;> simp [BitVec.not_lt]

/-! ## Overdue slots in true time -/

/-- The slot has never beaten, or its latest beat is older than the timeout and
less than a turn of the counter old. -/
def OverdueSlot (h : HeartbeatMonitor) (slot now : Nat) (timeoutMs : Millis) : Prop :=
  h.lastBeat slot = none ∨
    ∃ t, h.lastBeat slot = some (millis t) ∧ t ≤ now ∧ timeoutMs.toNat < now - t ∧
      now - t < 2 ^ 32

theorem stale_of_overdue {h : HeartbeatMonitor} {slot now : Nat} {timeoutMs : Millis}
    (hover : h.OverdueSlot slot now timeoutMs) : h.stale (millis now) timeoutMs slot = true := by
  rw [← Bool.not_eq_false, stale_eq_false_iff]
  rintro ⟨t, hlast, -, hage⟩
  rcases hover with hnone | ⟨t', hlast', hle, hlate, hturn⟩
  · rw [hlast] at hnone
    cases hnone
  · rw [hlast] at hlast'
    cases hlast'
    rw [millis, millis, WrappedClock.sub_reading_le_iff hle hturn] at hage
    omega

/-- With a slot overdue, only the grace window makes `healthy` true; in true
time the window opens again with every turn of the counter. -/
theorem healthy_of_overdue_iff {h : HeartbeatMonitor} {startMs now : Nat}
    {timeoutMs graceMs : Millis} (hstart : startMs ≤ now)
    (hover : ∃ slot < h.slots, h.OverdueSlot slot now timeoutMs) :
    h.healthy (millis now) timeoutMs (millis startMs) graceMs = false ↔
      graceMs.toNat ≤ (now - startMs) % 2 ^ 32 := by
  have hstale : h.firstStale (millis now) timeoutMs ≠ sizeMax := by
    intro hnone
    obtain ⟨slot, hslot, hlate⟩ := hover
    have hfalse := (firstStale_eq_sizeMax_iff h _ _).mp hnone slot hslot
    rw [stale_of_overdue hlate] at hfalse
    cases hfalse
  unfold healthy
  have hgrace : millis now - millis startMs < graceMs ↔
      (now - startMs) % 2 ^ 32 < graceMs.toNat := by
    rw [BitVec.lt_def, millis, millis, WrappedClock.toNat_sub_reading hstart]
  simp only [hgrace, hstale, decide_false]
  split
  · rename_i hin
    simp only [Bool.true_eq_false, false_iff]
    omega
  · rename_i hout
    simp only [true_iff]
    omega

/-! ## The table and its history -/

section History

variable {slots now : Nat} {beats : List Beat} {timeoutMs : Millis}

@[simp] theorem slots_after (slots : Nat) (beats : List Beat) :
    (after slots beats).slots = min slots heartbeatMaxSlots := by
  induction beats with
  | nil =>
    show (new slots).slots = _
    simp only [new]
    split <;> omega
  | cons beat earlier ih => exact (slots_beat _ _ _).trans ih

/-- **The table holds the newest beat** of each slot in range. -/
theorem lastBeat_after (slots : Nat) (beats : List Beat) (slot : Nat) :
    (after slots beats).lastBeat slot
      = if slot < min slots heartbeatMaxSlots then (latestBeat slot beats).map millis
        else none := by
  induction beats with
  | nil => simp [after, lastBeat_new, latestBeat]
  | cons beat earlier ih =>
    show ((after slots earlier).beat beat.slot (millis beat.time)).lastBeat slot = _
    rw [lastBeat_beat, slots_after, ih, latestBeat]
    by_cases hslot : beat.slot = slot
    · subst hslot
      by_cases hin : beat.slot < min slots heartbeatMaxSlots
      · simp only [hin, if_true, and_self, Option.map_some]
      · simp only [hin, and_false, if_false]
    · have hne : slot ≠ beat.slot := fun h => hslot h.symm
      simp [hslot, hne]

/-- A slot in range that has never beaten, or whose newest beat is more than
the timeout old in true time. -/
def Overdue (slots : Nat) (beats : List Beat) (now : Nat) (timeoutMs : Millis) (slot : Nat) :
    Prop :=
  slot < min slots heartbeatMaxSlots ∧
    ∀ t, latestBeat slot beats = some t → timeoutMs.toNat < now - t

theorem latestBeat_mem {slot t : Nat} (h : latestBeat slot beats = some t) :
    ⟨slot, t⟩ ∈ beats := by
  induction beats with
  | nil => simp [latestBeat] at h
  | cons beat earlier ih =>
    rw [latestBeat] at h
    split at h
    · rename_i hslot
      cases h
      subst hslot
      exact List.mem_cons_self
    · exact List.mem_cons_of_mem _ (ih h)

/-- The age of a beaten slot is the true one, and not the sentinel. -/
theorem ageMs_after {slot t : Nat} (hslot : slot < min slots heartbeatMaxSlots)
    (hlatest : latestBeat slot beats = some t) (hle : t ≤ now) (hturn : now - t < 2 ^ 32 - 1) :
    ((after slots beats).ageMs slot (millis now)).toNat = now - t := by
  rw [ageMs_eq, lastBeat_after, if_pos hslot, hlatest]
  exact WrappedClock.toNat_sub_reading_of_lt hle (by omega)

theorem ageMs_after_never {slot : Nat} (nowMs : Millis)
    (h : min slots heartbeatMaxSlots ≤ slot ∨ latestBeat slot beats = none) :
    (after slots beats).ageMs slot nowMs = heartbeatNever := by
  rw [ageMs_eq, lastBeat_after]
  rcases h with hslot | hnone
  · simp [Nat.not_lt.mpr hslot]
  · simp [hnone]

/-- In the search, a slot in range is stale exactly if it is overdue. -/
theorem stale_after_iff {slot : Nat} (hslot : slot < min slots heartbeatMaxSlots)
    (hnow : ∀ beat ∈ beats, beat.time ≤ now)
    (hturn : ∀ t, latestBeat slot beats = some t → now - t < 2 ^ 32 - 1) :
    (after slots beats).stale (millis now) timeoutMs slot = true ↔
      Overdue slots beats now timeoutMs slot := by
  simp only [stale, Overdue, hslot, true_and, Bool.or_eq_true, decide_eq_true_eq]
  cases hlatest : latestBeat slot beats with
  | none => simp [ageMs_after_never (millis now) (.inr hlatest)]
  | some t =>
    have hage := ageMs_after hslot hlatest (hnow _ (latestBeat_mem hlatest)) (hturn t hlatest)
    have hnever : (after slots beats).ageMs slot (millis now) ≠ heartbeatNever := by
      intro heq
      have hsmall := hturn t hlatest
      rw [heq] at hage
      simp only [heartbeatNever] at hage
      have htop : (0xFFFFFFFF : Millis).toNat = 2 ^ 32 - 1 := rfl
      omega
    simp [hnever, BitVec.lt_def, hage]

theorem firstStale_eq_of_least (h : HeartbeatMonitor) {nowMs timeoutMs : Millis} {slot : Nat}
    (hslot : slot < h.slots) (hstale : h.stale nowMs timeoutMs slot = true)
    (hleast : ∀ earlier < slot, h.stale nowMs timeoutMs earlier = false) :
    h.firstStale nowMs timeoutMs = slot := by
  have hfind : (List.range h.slots).find? (h.stale nowMs timeoutMs) = some slot := by
    rw [List.find?_range_eq_some]
    exact ⟨hstale, List.mem_range.mpr hslot, fun j hj => by simp [hleast j hj]⟩
  simp [firstStale, hfind]

/-- **The table is its history**: ages, the first stale slot, and what a beat
can change. -/
theorem table_history (slots : Nat) (beats : List Beat) (now : Nat) (timeoutMs : Millis)
    (hnow : ∀ beat ∈ beats, beat.time ≤ now)
    (hturn : ∀ slot t, latestBeat slot beats = some t → now - t < 2 ^ 32 - 1) :
    let h := after slots beats
    let overdue := Overdue slots beats now timeoutMs
    (∀ slot t, slot < min slots heartbeatMaxSlots → latestBeat slot beats = some t →
      (h.ageMs slot (millis now)).toNat = now - t) ∧
    (∀ slot, min slots heartbeatMaxSlots ≤ slot ∨ latestBeat slot beats = none →
      h.ageMs slot (millis now) = heartbeatNever) ∧
    (∀ slot, overdue slot → (∀ earlier < slot, ¬ overdue earlier) →
      h.firstStale (millis now) timeoutMs = slot) ∧
    (h.firstStale (millis now) timeoutMs = sizeMax ↔ ∀ slot, ¬ overdue slot) ∧
    (∀ slot nowMs, min slots heartbeatMaxSlots ≤ slot → h.beat slot nowMs = h) ∧
    (∀ slot beatMs other nowMs, other ≠ slot →
      (h.beat slot beatMs).ageMs other nowMs = h.ageMs other nowMs) := by
  intro h overdue
  have hslots : h.slots = min slots heartbeatMaxSlots := slots_after slots beats
  have hstale : ∀ slot < min slots heartbeatMaxSlots,
      (h.stale (millis now) timeoutMs slot = true ↔ overdue slot) :=
    fun slot hslot => stale_after_iff hslot hnow (hturn slot)
  refine ⟨?_, ?_, ?_, ?_, ?_, ?_⟩
  · intro slot t hslot hlatest
    exact ageMs_after hslot hlatest (hnow _ (latestBeat_mem hlatest)) (hturn slot t hlatest)
  · exact fun slot => ageMs_after_never (millis now)
  · intro slot hover hleast
    apply firstStale_eq_of_least
    · rw [hslots]
      exact hover.1
    · exact (hstale slot hover.1).mpr hover
    · intro earlier hearlier
      rw [Bool.eq_false_iff, Ne, hstale earlier (Nat.lt_trans hearlier hover.1)]
      exact hleast earlier hearlier
  · rw [firstStale_eq_sizeMax_iff, hslots]
    constructor
    · intro hnone slot hover
      have hfalse := hnone slot hover.1
      rw [(hstale slot hover.1).mpr hover] at hfalse
      cases hfalse
    · intro hnone slot hslot
      rw [Bool.eq_false_iff, Ne, hstale slot hslot]
      exact hnone slot
  · intro slot nowMs hslot
    rw [← hslots] at hslot
    simp [beat, Nat.not_lt.mpr hslot]
  · intro slot beatMs other nowMs hne
    simp [ageMs_eq, lastBeat_beat, hne]

/-- Slot 0 beat at time 0, slot 1 twice around the wrap of the counter, slot 9
does not exist, and slot 2 never beat. -/
theorem table_history_wrap :
    let beats : List Beat := [⟨9, 4294967300⟩, ⟨1, 4294967299⟩, ⟨0, 4294967200⟩, ⟨1, 7⟩, ⟨0, 0⟩]
    ((after 3 beats).ageMs 1 (millis 4294967301)).toNat = 2 ∧
      (after 3 beats).firstStale (millis 4294967301) 50 = 0 ∧
      (after 3 beats).firstStale (millis 4294967301) 200 = 2 := by
  intro beats
  have hnow : ∀ beat ∈ beats, beat.time ≤ 4294967301 := by decide
  have hturn : ∀ slot t, latestBeat slot beats = some t → 4294967301 - t < 2 ^ 32 - 1 := by
    intro slot t h
    simp only [beats, latestBeat] at h
    split at h
    · cases h
      decide
    · split at h
      · cases h
        decide
      · split at h
        · cases h
          decide
        · cases h
  obtain ⟨hage, -, hfirst, -⟩ := table_history 3 beats 4294967301 50 hnow hturn
  obtain ⟨-, -, hfirst', -⟩ := table_history 3 beats 4294967301 200 hnow hturn
  refine ⟨hage 1 4294967299 (by decide) rfl, hfirst 0 ⟨by decide, ?_⟩ (by simp), ?_⟩
  · rintro _ ⟨⟩
    decide
  · refine hfirst' 2 ⟨by decide, by simp [beats, latestBeat]⟩ ?_
    rintro earlier hlt ⟨-, hlate⟩
    obtain rfl | rfl : earlier = 0 ∨ earlier = 1 := by omega
    · exact absurd (hlate 4294967200 rfl) (by decide)
    · exact absurd (hlate 4294967299 rfl) (by decide)

end History

end HeartbeatMonitor

end EnergyController
