/-
EnergyController.Protection.Persistence — an overload that persists trips.

The confirmation runs on the times at which samples are PASSED to the core
(`docs/fault-management.md` §1: the fault confirms at `now - timerStart`). Over
a sequence of overload samples with no other sample and no accepted reset in
between, the core is in FAULT once the last sample is passed the confirmation
time after the first, whatever the delays between taking and passing are
(`persisted_overload`). The times at which the samples were TAKEN do not
decide: `delayed_sample_does_not_trip`.

The induction carries `Confirming`: outside FAULT the timer runs, and its age
at the newest sample is at least the true time since the first one. That age
is a 32-bit difference, so the next sample must come before it can wrap.
-/
import EnergyController.Protection.Latch
import EnergyController.Protection.Overpower
import EnergyController.Protection.TrueTime

namespace EnergyController

/-- The true time of the latest update. -/
def lastUpdate : List TimedCall → Option ℕ
  | [] => none
  | .update _ _ t :: _ => some t
  | _ :: earlier => lastUpdate earlier

/-- The true time of the first update. -/
def firstUpdate : List TimedCall → Option ℕ
  | [] => none
  | .update _ _ t :: earlier => some ((firstUpdate earlier).getD t)
  | _ :: earlier => firstUpdate earlier

/-- Until the core has latched, samples are passed in order of true time and at
most `gap` apart. -/
def SamplesWithin (gap : ℕ) (latched : List TimedCall → Prop) (earlier : List TimedCall)
    (i : TimedCall) : Prop :=
  ∀ m taken t, i = .update m taken t → ¬ latched earlier →
    ∀ p, lastUpdate earlier = some p → p ≤ t ∧ t - p ≤ gap

theorem firstUpdate_eq_none {inputs : List TimedCall} (h : lastUpdate inputs = none) :
    firstUpdate inputs = none := by
  induction inputs with
  | nil => rfl
  | cons i earlier ih =>
    cases i with
    | update m taken t => simp [lastUpdate] at h
    | _ => exact ih h

theorem firstUpdate_eq_some {inputs : List TimedCall} {p : ℕ} (h : lastUpdate inputs = some p) :
    ∃ first, firstUpdate inputs = some first := by
  induction inputs with
  | nil => simp [lastUpdate] at h
  | cons i earlier ih =>
    cases i with
    | update m taken t => exact ⟨_, rfl⟩
    | _ => exact ih h

namespace ProtectionCore

/-- The call does not interrupt an overload: a sample is fresh, valid, with
mains and over the threshold, and not refused by the re-arm gate; a reset
request is rejected. -/
def Overloads (c : ProtectionCore) : TimedCall → Prop
  | .update m taken t =>
    c.config.OverThreshold (m.stamped taken) (millis t) ∧
      (c.state ≠ .fault → c.ignores (m.stamped taken) = false)
  | .requestReset t => (c.requestReset (millis t)).1 ≠ .accepted
  | .tick _ => True
  | .acknowledge _ => True
  | .raiseInternalFault _ => True
  | .snapshot _ => True

/-- Outside FAULT the timer runs, and has run since the first sample at least. -/
structure Confirming (c : ProtectionCore) (first newest : ℕ) : Prop where
  not_awaiting : c.awaitingFirstSample = false
  timer : c.timerActive = true
  in_order : first ≤ newest
  since_first : newest - first ≤ (millis newest - c.timerStart).toNat
  unconfirmed : (millis newest - c.timerStart).toNat < c.config.faultConfirmMs.toNat

/-! ## One call -/

section

variable {c : ProtectionCore}

theorem noAcceptedReset_of_overloads {i : TimedCall} (h : c.Overloads i) :
    c.NoAcceptedReset i.call := by
  intro nowMs hcall
  cases i with
  | requestReset t =>
    cases hcall
    exact h
  | _ => simp [TimedCall.call] at hcall

/-- An overload sample trips, or the confirmation it belongs to goes on. -/
theorem overload_sample {m : Measurement} {nowMs : Millis} (hs : c.state ≠ .fault)
    (hover : c.config.OverThreshold m nowMs) (hgate : c.ignores m = false) :
    (c.step (.update m nowMs)).state = .fault ∨
      ((c.step (.update m nowMs)).awaitingFirstSample = false ∧
        (c.step (.update m nowMs)).timerActive = true ∧
        (c.step (.update m nowMs)).timerStart = c.confirmStart nowMs ∧
        nowMs - c.confirmStart nowMs < c.config.faultConfirmMs) := by
  obtain ⟨hfresh, hvalid, hmains, hpower⟩ := hover
  have hrow : c.config.classify m nowMs = .overload :=
    ProtectionConfig.classify_overload_iff.mpr
      ⟨hfresh, hvalid, FloatOrder.not_le_of_lt hmains, hpower⟩
  have he : c.evaluates m = true := evaluates_iff.mpr ⟨hs, hgate⟩
  simp only [step, update_of_evaluates he, evaluate_eq, hrow, react]
  generalize hc' : ({ c with last := m, haveMeasurement := true, lastSampleMs := nowMs }
    : ProtectionCore) = c'
  have hstart : c'.confirmStart nowMs = c.confirmStart nowMs := by rw [← hc']; rfl
  have hconfig : c'.config = c.config := by rw [← hc']
  have hgate' : c'.awaitingFirstSample = c.awaitingFirstSample := by rw [← hc']
  cases ha : c.awaitingFirstSample with
  | true =>
    rw [overload_of_awaiting (hgate'.trans ha)]
    exact .inl (by simp [raiseFault_eq])
  | false =>
    by_cases hconf : c'.config.faultConfirmMs ≤ nowMs - c'.confirmStart nowMs
    · rw [overload_of_confirmed (hgate'.trans ha) hconf]
      exact .inl (by simp [raiseFault_eq])
    · rw [overload_of_running (hgate'.trans ha) hconf]
      rw [hconfig, hstart] at hconf
      exact .inr ⟨hgate'.trans ha, rfl, hstart, BitVec.not_le.mp hconf⟩

/-- A call without a sample and without an accepted reset trips or leaves the
confirmation alone. -/
theorem quiet_call {call : CoreCall} (hcall : ∀ m nowMs, call ≠ .update m nowMs)
    (hreset : c.NoAcceptedReset call) :
    (c.step call).state = .fault ∨
      ((c.step call).awaitingFirstSample = c.awaitingFirstSample ∧
        (c.step call).timerActive = c.timerActive ∧ (c.step call).timerStart = c.timerStart) := by
  cases call with
  | update m nowMs => exact absurd rfl (hcall m nowMs)
  | tick nowMs =>
    simp only [step, tick_eq]
    split
    · exact .inl (by simp [raiseFault_eq])
    · exact .inr ⟨rfl, rfl, rfl⟩
  | requestReset nowMs =>
    simp only [step, requestReset_of_rejected (hreset nowMs rfl)]
    simp
  | acknowledge =>
    cases ha : c.fault.active with
    | false => simp [step, acknowledge_of_inactive ha]
    | true => simp [step, acknowledge_of_active ha]
  | raiseInternalFault nowMs => exact .inl (by simp [step, raiseInternalFault, raiseFault_eq])
  | snapshot nowMs => exact .inr ⟨rfl, rfl, rfl⟩

/-- The first sample of the sequence: it opens the confirmation, or finds one
running. -/
theorem confirming_first {m : Measurement} {taken t : ℕ} (hs : c.state ≠ .fault)
    (hover : c.Overloads (.update m taken t)) :
    (c.step (TimedCall.call (.update m taken t))).state = .fault ∨
      (c.step (TimedCall.call (.update m taken t))).Confirming t t := by
  rcases overload_sample hs hover.1 (hover.2 hs) with htrip | ⟨ha, ht, hstart, hage⟩
  · exact .inl htrip
  · refine .inr ⟨ha, ht, le_refl t, by simp, ?_⟩
    rw [step_config, TimedCall.call, hstart]
    exact hage

/-- The next sample comes before the age of the confirmation can wrap. -/
theorem Confirming.next {first p : ℕ} (h : c.Confirming first p) {m : Measurement}
    {taken t : ℕ} (hs : c.state ≠ .fault) (hover : c.Overloads (.update m taken t))
    (hpt : p ≤ t) (hgap : t - p ≤ 2 ^ 32 - c.config.faultConfirmMs.toNat) :
    (c.step (TimedCall.call (.update m taken t))).state = .fault ∨
      (c.step (TimedCall.call (.update m taken t))).Confirming first t := by
  rcases overload_sample hs hover.1 (hover.2 hs) with htrip | ⟨ha, ht, hstart, hage⟩
  · exact .inl htrip
  have hsame : c.confirmStart (millis t) = c.timerStart := by simp [confirmStart, h.timer]
  rw [hsame] at hstart hage
  have hrange : c.config.faultConfirmMs.toNat < 2 ^ 32 := c.config.faultConfirmMs.isLt
  have hshort := h.unconfirmed
  have hgrown : (millis t - c.timerStart).toNat = (millis p - c.timerStart).toNat + (t - p) :=
    WrappedClock.toNat_sub_of_later hpt (by
      change (millis p - c.timerStart).toNat + (t - p) < 2 ^ 32
      omega)
  refine .inr ⟨ha, ht, h.in_order.trans hpt, ?_, ?_⟩
  · rw [TimedCall.call, hstart, hgrown]
    have hsince := h.since_first
    have hle := h.in_order
    omega
  · rw [step_config, TimedCall.call, hstart]
    exact hage

end

/-! ## The sequence -/

section

variable {c : ProtectionCore} {later : List TimedCall}

/-- The core is confirming since the first sample of the sequence, if it has one. -/
def ConfirmingSince (c : ProtectionCore) (later : List TimedCall) : Prop :=
  ∀ first newest, firstUpdate later = some first → lastUpdate later = some newest →
    c.Confirming first newest

theorem ConfirmingSince.sample (h : c.ConfirmingSince later) {m : Measurement} {taken t : ℕ}
    (hs : c.state ≠ .fault) (hover : c.Overloads (.update m taken t))
    (hwithin : ∀ p, lastUpdate later = some p →
      p ≤ t ∧ t - p ≤ 2 ^ 32 - c.config.faultConfirmMs.toNat) :
    (c.step (TimedCall.call (.update m taken t))).state = .fault ∨
      (c.step (TimedCall.call (.update m taken t))).ConfirmingSince
        (.update m taken t :: later) := by
  cases hlast : lastUpdate later with
  | none =>
    refine (confirming_first hs hover).imp_right ?_
    intro h first newest hfirst hnewest
    simp only [firstUpdate, firstUpdate_eq_none hlast, Option.getD_none] at hfirst
    cases hfirst
    cases hnewest
    exact h
  | some p =>
    obtain ⟨hpt, hgap⟩ := hwithin p hlast
    obtain ⟨first, hfirst⟩ := firstUpdate_eq_some hlast
    refine ((h first p hfirst hlast).next hs hover hpt hgap).imp_right ?_
    intro h first' newest hfirst' hnewest
    simp only [firstUpdate, hfirst, Option.getD_some] at hfirst'
    cases hfirst'
    cases hnewest
    exact h

/-- A call that leaves the confirmation alone. -/
theorem ConfirmingSince.kept {c' : ProtectionCore} (h : c.ConfirmingSince later)
    (hawaiting : c'.awaitingFirstSample = c.awaitingFirstSample)
    (htimer : c'.timerActive = c.timerActive) (hstart : c'.timerStart = c.timerStart)
    (hconfig : c'.config = c.config) : c'.ConfirmingSince later := by
  intro first newest hfirst hnewest
  have h := h first newest hfirst hnewest
  refine ⟨hawaiting.trans h.not_awaiting, htimer.trans h.timer, h.in_order, ?_, ?_⟩
  · rw [hstart]
    exact h.since_first
  · rw [hstart, hconfig]
    exact h.unconfirmed

/-- While the overload goes on, the core is in FAULT or still confirming. -/
theorem confirming_run (hc : c.WellFormed)
    (hover : Run.Meets (fun c i => c.step (TimedCall.call i)) Overloads c later)
    (hwithin : Run.Every (SamplesWithin (2 ^ 32 - c.config.faultConfirmMs.toNat)
      fun earlier => (run TimedCall.call c earlier).state = .fault) later) :
    (run TimedCall.call c later).WellFormed ∧
      ((run TimedCall.call c later).state = .fault ∨
        (run TimedCall.call c later).ConfirmingSince later) := by
  induction later with
  | nil => exact ⟨hc, .inr (by simp [ConfirmingSince, firstUpdate])⟩
  | cons i earlier ih =>
    obtain ⟨hi, hover⟩ := hover
    obtain ⟨hwell, hih⟩ := ih hover hwithin.tail
    refine ⟨hwell.step _, ?_⟩
    rw [run_cons]
    change (run TimedCall.call c earlier).Overloads i at hi
    have hreset := noAcceptedReset_of_overloads hi
    by_cases hs : (run TimedCall.call c earlier).state = .fault
    · obtain ⟨mode, href⟩ := hwell
      exact .inl (latchKept_step hs (href.active_iff.mpr hs) hreset).state
    have hconf := hih.resolve_left hs
    cases i with
    | update m taken t =>
      have hnext := hwithin.head m taken t rfl hs
      rw [← run_config TimedCall.call c earlier] at hnext
      exact hconf.sample hs hi hnext
    | _ =>
      refine (quiet_call (by simp [TimedCall.call]) hreset).imp_right ?_
      rintro ⟨hawaiting, htimer, hstart⟩
      exact hconf.kept hawaiting htimer hstart (step_config _ _)

/-- **A persisted overload trips.** After any run from `begin`, a sequence of
overload samples, with any other calls in between but no accepted reset,
leaves the core in FAULT if its first and newest sample are passed at least
the confirmation time apart. The samples come in time until the core has
latched; of those after that nothing is asked. -/
theorem persisted_overload (c₀ : ProtectionCore) (t₀ : Millis) (before : List CoreCall)
    (later : List TimedCall)
    (hover : Run.Meets (fun c i => c.step (TimedCall.call i)) Overloads
      (run id (c₀.begin t₀) before) later)
    (hwithin : Run.Every (SamplesWithin (2 ^ 32 - c₀.config.faultConfirmMs.toNat) fun earlier =>
      (run TimedCall.call (run id (c₀.begin t₀) before) earlier).state = .fault) later)
    (first newest : ℕ) (hfirst : firstUpdate later = some first)
    (hnewest : lastUpdate later = some newest)
    (hlong : c₀.config.faultConfirmMs.toNat ≤ newest - first) :
    (run TimedCall.call (run id (c₀.begin t₀) before) later).state = .fault := by
  have hconfig : (run id (c₀.begin t₀) before).config = c₀.config :=
    run_config id (c₀.begin t₀) before
  rw [← hconfig] at hwithin hlong
  rcases (confirming_run (wellFormed_run id c₀ t₀ before) hover hwithin).2 with hs | hconf
  · exact hs
  · have h := hconf first newest hfirst hnewest
    have hshort := h.unconfirmed
    have hsince := h.since_first
    rw [run_config] at hshort
    omega

/-- Samples passed 1000 ms apart trip with the third, taken 300 ms before. -/
theorem persisted_overload_third_sample :
    (run TimedCall.call
      (run id ((new exampleConfig).begin 0) [.update (meterSample 230.0 100.0 500) 500])
      [.update (meterSample 230.0 600.0 0) 2700 3000, .tick 2500,
        .update (meterSample 230.0 600.0 0) 2000 2000,
        .update (meterSample 230.0 600.0 0) 1000 1000]).state = .fault := by
  refine persisted_overload (new exampleConfig) 0 [.update (meterSample 230.0 100.0 500) 500] _
    ?_ ?_ 1000 3000 rfl rfl (by decide)
  · exact ⟨⟨⟨by decide, by decide, by decide, by decide⟩, by decide⟩, trivial,
      ⟨⟨by decide, by decide, by decide, by decide⟩, by decide⟩,
      ⟨⟨by decide, by decide, by decide, by decide⟩, by decide⟩, trivial⟩
  · refine ⟨?_, ?_, ?_, ?_, trivial⟩
    · rintro m taken t ⟨⟩ - p ⟨⟩
      decide
    · rintro m taken t ⟨⟩
    · rintro m taken t ⟨⟩ - p ⟨⟩
      decide
    · rintro m taken t ⟨⟩ - p ⟨⟩

/-- **The times of taking do not decide.** Overload samples taken at 1000, 2000
and 3000 ms, the first of them passed 500 ms late: the confirmation began at
1500 ms, and the third sample leaves WARNING. With a second sample a whole
turn of the counter after the first, neither clock decides. -/
theorem delayed_sample_does_not_trip :
    let before : List CoreCall := [.update (meterSample 230.0 100.0 500) 500]
    let c := run id ((new exampleConfig).begin 0) before
    let late : List TimedCall :=
      [.update (meterSample 230.0 600.0 0) 3000 3000, .update (meterSample 230.0 600.0 0) 2000 2000,
        .update (meterSample 230.0 600.0 0) 1000 1500]
    let turned : List TimedCall :=
      [.update (meterSample 230.0 600.0 0) 4294968796 4294968796,
        .update (meterSample 230.0 600.0 0) 1000 1000]
    (Run.Meets (fun c i => c.step (TimedCall.call i)) Overloads c late ∧
      exampleConfig.faultConfirmMs.toNat ≤ 3000 - 1000 ∧
      (run TimedCall.call c late).state = .warning) ∧
    (Run.Meets (fun c i => c.step (TimedCall.call i)) Overloads c turned ∧
      exampleConfig.faultConfirmMs.toNat ≤ 4294968796 - 1000 ∧
      (run TimedCall.call c turned).state = .warning) := by
  refine ⟨⟨?_, by decide, by decide⟩, ?_, by decide, by decide⟩
  · exact ⟨⟨⟨by decide, by decide, by decide, by decide⟩, by decide⟩,
      ⟨⟨by decide, by decide, by decide, by decide⟩, by decide⟩,
      ⟨⟨by decide, by decide, by decide, by decide⟩, by decide⟩, trivial⟩
  · exact ⟨⟨⟨by decide, by decide, by decide, by decide⟩, by decide⟩,
      ⟨⟨by decide, by decide, by decide, by decide⟩, by decide⟩, trivial⟩

end

end ProtectionCore

end EnergyController
