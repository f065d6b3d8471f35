/-
EnergyController.Protection.HeavierLoad — a heavier load never keeps the relay
on longer.

Two runs get the same calls at the same true times; the samples agree in all
but the power, which in the second run is never the smaller one. As long as
the heavier run has not tripped, the two cores move in step (`Outweighs`): same
gate, same silence clock, and a confirmation running in the lighter run also
runs in the heavier one, where it began no later. `outweighs_step` is one pair of
calls, `heavier_load` the pair of runs.

The order of the two starts says something about the two 32-bit ages only
while neither has made a whole turn. The calls being close to each other does
not ensure that: calls other than updates may fill a gap between two samples
that is longer than the counter's range (`heavier_load_of_close_calls_fails`).
What it takes is that an overload sample of the heavier run which finds its
confirmation running comes within a turn of where that began (`Prompt`). Nothing
is asked of the other samples, or of the samples while no confirmation runs.
-/
import EnergyController.Firmware.Actuator
import EnergyController.Protection.Latch
import EnergyController.Protection.TrueTime

namespace EnergyController

namespace TimedCall

/-- The same call but for a power that is at least as large. Both powers are
numbers, or the comparison would be false. -/
def Heavier : TimedCall → TimedCall → Prop
  | .update m taken t, .update m' taken' t' =>
    m' = { m with power := m'.power } ∧ m.power ≤ m'.power ∧ taken' = taken ∧ t' = t
  | .requestReset _, _ => False
  | i, j => j = i

theorem heavier_update {m m' : Measurement} (hm : m' = { m with power := m'.power })
    (hle : m.power ≤ m'.power) (taken t : ℕ) :
    (TimedCall.update m taken t).Heavier (.update m' taken t) :=
  ⟨hm, hle, rfl, rfl⟩

end TimedCall

/-! ## Rows of a heavier sample -/

/-- How the row of a sample compares with the row of the same sample at a
higher power. -/
inductive Verdict.AtMost : Verdict → Verdict → Prop
  | same (v : Verdict) : AtMost v v
  | safe {v w : Verdict} (hv : v.isSafe = true) (hw : w.isSafe = true) : AtMost v w
  | overload {v : Verdict} (hv : v.isSafe = true) : AtMost v .overload

theorem ProtectionConfig.classify_atMost (k : ProtectionConfig) {m : Measurement} {p : Float32}
    (hle : m.power ≤ p) (nowMs : Millis) :
    (k.classify m nowMs).AtMost (k.classify { m with power := p } nowMs) := by
  unfold ProtectionConfig.classify
  dsimp only
  -- the rows before the power thresholds do not look at the power
  split
  · exact .same _
  split
  · exact .same _
  split
  · exact .same _
  by_cases hover : m.power > k.faultPowerW
  · have hover' : p > k.faultPowerW := FloatOrder.lt_of_lt_of_le hover hle
    rw [if_pos hover, if_pos hover']
    exact .same _
  · rw [if_neg hover]
    have hlight : (if m.power > k.warningPowerW then Verdict.elevated else .normal).isSafe
        = true := by
      split <;> rfl
    by_cases hover' : p > k.faultPowerW
    · rw [if_pos hover']
      exact .overload hlight
    · rw [if_neg hover']
      apply Verdict.AtMost.safe hlight
      split <;> rfl

namespace ProtectionCore

/-- When the confirmation began that runs after a call at true time `t`, if that
of the state before began at `since`. -/
def sinceAfter (since : Option ℕ) (before after : ProtectionCore) (t : ℕ) : Option ℕ :=
  if after.timerActive then (if before.timerActive then since else some t) else none

/-- The true time of the sample with which the running confirmation began. -/
def confirmingSince (c₀ : ProtectionCore) (start : ℕ) : List TimedCall → Option ℕ
  | [] => none
  | i :: earlier =>
    sinceAfter (confirmingSince c₀ start earlier) (timedRun c₀ start earlier)
      (timedRun c₀ start (i :: earlier)) i.at_

/-- Calls in order of true time; an overload sample that finds the confirmation
running comes within a turn of the counter of its beginning. -/
structure Prompt (c₀ : ProtectionCore) (start : ℕ) (earlier : List TimedCall) (i : TimedCall) :
    Prop where
  in_order : lastAt start earlier ≤ i.at_
  prompt : ∀ m taken t, i = .update m taken t →
    c₀.config.classify (m.stamped taken) (millis t) = .overload →
    ∀ first, confirmingSince c₀ start earlier = some first → t - first < 2 ^ 32

/-- Neither run is latched, and the lighter one (`a`) has no less reason to
trip than the heavier one (`b`): a confirmation of `b` began at `since`, before
any of `a`. The latest call was at true time `now`. -/
structure Outweighs (now : ℕ) (since : Option ℕ) (a b : ProtectionCore) : Prop where
  config : b.config = a.config
  unlatched : a.state ≠ .fault
  operating : a.state.isOperating = b.state.isOperating
  awaiting : a.awaitingFirstSample = b.awaitingFirstSample
  rearmMs : a.rearmMs = b.rearmMs
  lastSampleMs : a.lastSampleMs = b.lastSampleMs
  gate : b.awaitingFirstSample = true → b.timerActive = false
  timers : a.timerActive = true → b.timerActive = true
  confirming : b.timerActive = true → ∃ first, since = some first ∧
    b.timerStart = millis first ∧ first ≤ now ∧
    (a.timerActive = true → ∃ second, a.timerStart = millis second ∧ first ≤ second ∧ second ≤ now)

/-- A safe sample stops the confirmation and supplies the load. -/
theorem react_of_isSafe (c : ProtectionCore) {v : Verdict} (hv : v.isSafe = true)
    (nowMs : Millis) :
    ∃ s : SystemState, s.isOperating = true ∧ c.react v nowMs
      = { c with timerActive := false, state := s, awaitingFirstSample := false } := by
  cases v with
  | elevated => exact ⟨.warning, rfl, rfl⟩
  | normal => exact ⟨.normal, rfl, rfl⟩
  | _ => simp [Verdict.isSafe] at hv

variable {now : ℕ} {since : Option ℕ} {a b : ProtectionCore}

theorem outweighs_begin (c₀ : ProtectionCore) (start : ℕ) :
    Outweighs start none (c₀.begin (millis start)) (c₀.begin (millis start)) where
  config := rfl
  unlatched := by simp [begin]
  operating := rfl
  awaiting := rfl
  rearmMs := rfl
  lastSampleMs := rfl
  gate := fun _ => rfl
  timers := nofun
  confirming := nofun

namespace Outweighs

/-- When the two confirmations began that an overload sample at `t` belongs
to. -/
theorem starts (h : Outweighs now since a b) {t : ℕ} (hnow : now ≤ t)
    (hprompt : ∀ first, since = some first → t - first < 2 ^ 32) :
    ∃ first second, (if b.timerActive then since else some t) = some first ∧
      b.confirmStart (millis t) = millis first ∧ a.confirmStart (millis t) = millis second ∧
      first ≤ second ∧ second ≤ t ∧ t - first < 2 ^ 32 := by
  unfold confirmStart
  cases hb : b.timerActive with
  | false =>
    have ha : a.timerActive = false :=
      Bool.eq_false_iff.mpr fun ha => Bool.eq_false_iff.mp hb (h.timers ha)
    rw [ha]
    exact ⟨t, t, rfl, rfl, rfl, le_refl _, le_refl _, by omega⟩
  | true =>
    obtain ⟨first, hsince, hstart, hfirst, hsecond⟩ := h.confirming hb
    have hturn := hprompt first hsince
    cases ha : a.timerActive with
    | false => exact ⟨first, t, hsince, hstart, rfl, by omega, le_refl _, hturn⟩
    | true =>
      obtain ⟨second, hstart', hle, hsn⟩ := hsecond ha
      exact ⟨first, second, hsince, hstart, hstart', hle, by omega, hturn⟩

/-- Time passes, and neither confirmation stops or starts. -/
theorem later (h : Outweighs now since a b) {t : ℕ} (hnow : now ≤ t) :
    Outweighs t (sinceAfter since b b t) a b :=
  { h with
    confirming := by
      intro hb
      obtain ⟨first, hsince, hstart, hfirst, hsecond⟩ := h.confirming hb
      refine ⟨first, by simp [sinceAfter, hb, hsince], hstart, by omega, fun ha => ?_⟩
      obtain ⟨second, hstart', hle, hsn⟩ := hsecond ha
      exact ⟨second, hstart', hle, by omega⟩ }

/-! ## One pair of samples -/

/-- A safe sample stops both confirmations. -/
theorem react_safe (h : Outweighs now since a b) {v w : Verdict} (hv : v.isSafe = true)
    (hw : w.isSafe = true) (t : ℕ) (since' : Option ℕ) :
    Outweighs t since' (a.react v (millis t)) (b.react w (millis t)) := by
  obtain ⟨s, hs, ha⟩ := a.react_of_isSafe hv (millis t)
  obtain ⟨s', hs', hb⟩ := b.react_of_isSafe hw (millis t)
  rw [ha, hb]
  exact { h with
    unlatched := SystemState.ne_fault_of_isOperating hs
    operating := hs.trans hs'.symm
    awaiting := rfl
    gate := fun _ => rfl
    timers := nofun
    confirming := nofun }

/-- An overload sample of the heavier run trips it, or its confirmation runs
on. Then the lighter one's does too, if its sample is an overload at all. -/
theorem react_overload (h : Outweighs now since a b) {v : Verdict} (hv : v.AtMost .overload)
    {t : ℕ} (hnow : now ≤ t) (hprompt : ∀ first, since = some first → t - first < 2 ^ 32) :
    (b.overload (millis t)).state = .fault ∨
      Outweighs t (sinceAfter since b (b.overload (millis t)) t) (a.react v (millis t))
        (b.overload (millis t)) := by
  cases hawait : b.awaitingFirstSample with
  | true =>
    rw [overload_of_awaiting hawait, raiseFault_eq (by simp)]
    exact .inl rfl
  | false =>
    have hawait' : a.awaitingFirstSample = false := h.awaiting.trans hawait
    obtain ⟨first, second, hsince, hb, ha, hle, hsecond, hturn⟩ := h.starts hnow hprompt
    by_cases hconf : b.config.faultConfirmMs ≤ millis t - b.confirmStart (millis t)
    · rw [overload_of_confirmed hawait hconf, raiseFault_eq (by simp)]
      exact .inl rfl
    right
    rw [overload_of_running hawait hconf]
    have hshort : t - first < b.config.faultConfirmMs.toNat := by
      rw [hb, millis, millis, WrappedClock.le_sub_reading_iff (by omega) hturn] at hconf
      omega
    rcases hv with _ | _ | hsafe
    · -- the lighter confirmation began no earlier, so it has not run longer
      have hconf' : ¬ a.config.faultConfirmMs ≤ millis t - a.confirmStart (millis t) := by
        rw [ha, millis, millis, WrappedClock.le_sub_reading_iff hsecond (by omega), ← h.config]
        omega
      show Outweighs t _ (a.overload (millis t)) _
      rw [overload_of_running hawait' hconf']
      exact { h with
        unlatched := by simp
        operating := rfl
        gate := fun hg => by rw [hawait] at hg; cases hg
        timers := fun _ => rfl
        confirming := fun _ =>
          ⟨first, hsince, hb, by omega, fun _ => ⟨second, ha, hle, hsecond⟩⟩ }
    · rename_i hw
      cases hw
    · obtain ⟨s, hs, hreact⟩ := a.react_of_isSafe hsafe (millis t)
      rw [hreact]
      exact { h with
        unlatched := SystemState.ne_fault_of_isOperating hs
        operating := hs
        awaiting := hawait.symm
        gate := fun hg => by rw [hawait] at hg; cases hg
        timers := nofun
        confirming := fun _ => ⟨first, hsince, hb, by omega, nofun⟩ }

/-- A sample that both runs evaluate. -/
theorem react (h : Outweighs now since a b) {v w : Verdict} (hvw : v.AtMost w) {t : ℕ}
    (hnow : now ≤ t)
    (hprompt : w = .overload → ∀ first, since = some first → t - first < 2 ^ 32) :
    (b.react w (millis t)).state = .fault ∨
      Outweighs t (sinceAfter since b (b.react w (millis t)) t) (a.react v (millis t))
        (b.react w (millis t)) := by
  cases w with
  | stale =>
    left
    show (b.raiseFault .sensorStale (millis t)).state = .fault
    rw [raiseFault_eq (by simp)]
  | invalid =>
    left
    show (b.raiseFault .sensorInvalid (millis t)).state = .fault
    rw [raiseFault_eq (by simp)]
  | noMains =>
    right
    rcases hvw with _ | ⟨_, hw⟩ | _
    · exact { h with
        unlatched := by simp [ProtectionCore.react]
        operating := rfl
        awaiting := rfl
        gate := fun _ => rfl
        timers := nofun
        confirming := nofun }
    · cases hw
  | overload => exact h.react_overload hvw hnow (hprompt rfl)
  | elevated =>
    right
    rcases hvw with _ | ⟨hv, hw⟩ | _
    · exact h.react_safe rfl rfl t _
    · exact h.react_safe hv hw t _
  | normal =>
    right
    rcases hvw with _ | ⟨hv, hw⟩ | _
    · exact h.react_safe rfl rfl t _
    · exact h.react_safe hv hw t _

/-! ## One pair of calls -/

/-- Both runs ignore the sample, or both evaluate it. -/
theorem update (h : Outweighs now since a b) (hb : b.state ≠ .fault) {m : Measurement}
    {p : Float32} (hle : m.power ≤ p) {t : ℕ} (hnow : now ≤ t)
    (hprompt : b.config.classify { m with power := p } (millis t) = .overload →
      ∀ first, since = some first → t - first < 2 ^ 32) :
    (b.update { m with power := p } (millis t)).2.state = .fault ∨
      Outweighs t (sinceAfter since b (b.update { m with power := p } (millis t)).2 t)
        (a.update m (millis t)).2 (b.update { m with power := p } (millis t)).2 := by
  have hignores : b.ignores { m with power := p } = a.ignores m := by
    unfold ignores
    rw [h.awaiting, h.rearmMs]
  cases hi : a.ignores m with
  | true =>
    right
    rw [update_of_ignores h.unlatched hi, update_of_ignores hb (hignores.trans hi)]
    exact { h.later hnow with }
  | false =>
    have ha : a.evaluates m = true := evaluates_iff.mpr ⟨h.unlatched, hi⟩
    have hb : b.evaluates { m with power := p } = true :=
      evaluates_iff.mpr ⟨hb, hignores.trans hi⟩
    rw [update_of_evaluates ha, update_of_evaluates hb, evaluate_eq, evaluate_eq]
    have hrows : (a.config.classify m (millis t)).AtMost
        (b.config.classify { m with power := p } (millis t)) := by
      rw [show b.config = a.config from h.config]
      exact a.config.classify_atMost hle (millis t)
    have hseen : Outweighs now since
        { a with last := m, haveMeasurement := true, lastSampleMs := millis t }
        { b with last := { m with power := p }, haveMeasurement := true,
                 lastSampleMs := millis t } := { h with lastSampleMs := rfl }
    exact hseen.react hrows hnow hprompt

theorem step (h : Outweighs now since a b) (hb : b.state ≠ .fault) {i j : TimedCall}
    (hij : i.Heavier j) (hnow : now ≤ j.at_)
    (hprompt : ∀ m taken t, j = .update m taken t →
      b.config.classify (m.stamped taken) (millis t) = .overload →
      ∀ first, since = some first → t - first < 2 ^ 32) :
    (b.step j.call).state = .fault ∨
      Outweighs j.at_ (sinceAfter since b (b.step j.call) j.at_) (a.step i.call)
        (b.step j.call) := by
  cases i with
  | update m taken t =>
    cases j with
    | update m' taken' t' =>
      obtain ⟨hm, hle, rfl, rfl⟩ := hij
      have hprompt := hprompt m' taken' t' rfl
      rw [hm] at hprompt ⊢
      exact h.update (m := m.stamped taken') hb hle hnow hprompt
    | _ => exact absurd hij (by simp [TimedCall.Heavier])
  | tick t =>
    obtain rfl : j = .tick t := hij
    have hsilent : b.silent (millis t) = a.silent (millis t) := by
      unfold silent
      rw [h.config, h.lastSampleMs, bne_iff_ne.mpr h.unlatched, bne_iff_ne.mpr hb]
    simp only [ProtectionCore.step, TimedCall.call, tick_eq, hsilent]
    split
    · left
      rw [raiseFault_eq (by simp)]
    · exact .inr (h.later hnow)
  | requestReset t => exact absurd hij id
  | acknowledge t =>
    obtain rfl : j = .acknowledge t := hij
    right
    have hack : ∀ c : ProtectionCore,
        c.acknowledge.2 = { c with fault := c.acknowledge.2.fault } := by
      intro c
      cases hactive : c.fault.active with
      | false => rw [acknowledge_of_inactive hactive]
      | true => rw [acknowledge_of_active hactive]
    show Outweighs t (sinceAfter since b b.acknowledge.2 t) a.acknowledge.2 b.acknowledge.2
    rw [hack a, hack b]
    exact { h.later hnow with }
  | raiseInternalFault t =>
    obtain rfl : j = .raiseInternalFault t := hij
    left
    show (b.raiseFault .protectionInternal (millis t)).state = .fault
    rw [raiseFault_eq (by simp)]
  | snapshot t =>
    obtain rfl : j = .snapshot t := hij
    exact .inr (h.later hnow)

end Outweighs

/-! ## Whole runs -/

section Runs

variable {c₀ : ProtectionCore} {start : ℕ}

/-- Without a reset, a latched run stays latched. -/
theorem latched_step {earlier : List TimedCall} (hs : (timedRun c₀ start earlier).state = .fault)
    {j : TimedCall} (hj : ∀ t, j ≠ .requestReset t) :
    (timedRun c₀ start (j :: earlier)).state = .fault := by
  have hactive := (timed_refines c₀ start earlier).active_iff.mpr hs
  have hkept : (timedRun c₀ start earlier).NoAcceptedReset j.call := by
    intro nowMs hcall
    cases j with
    | requestReset t => exact absurd rfl (hj t)
    | _ => cases hcall
  exact (latchKept_step hs hactive hkept).state

theorem not_reset_of_heavier {i j : TimedCall} (h : i.Heavier j) (t : ℕ) :
    j ≠ .requestReset t := by
  rintro rfl
  cases i <;> simp [TimedCall.Heavier] at h

theorem outweighs_run {inputs inputs' : List TimedCall}
    (hpair : List.Forall₂ TimedCall.Heavier inputs inputs')
    (hprompt : Run.Every (c₀.Prompt start) inputs') :
    (timedRun c₀ start inputs').state = .fault ∨
      Outweighs (lastAt start inputs') (confirmingSince c₀ start inputs')
        (timedRun c₀ start inputs) (timedRun c₀ start inputs') := by
  induction hpair with
  | nil => exact .inr (outweighs_begin c₀ start)
  | @cons i j earlier earlier' hij hearlier ih =>
    by_cases hs : (timedRun c₀ start earlier').state = .fault
    · exact .inl (latched_step hs (not_reset_of_heavier hij))
    have h := (ih hprompt.tail).resolve_left hs
    refine h.step hs hij hprompt.head.in_order fun m taken t hj hover => ?_
    rw [timedRun, run_config] at hover
    exact hprompt.head.prompt m taken t hj hover

/-- **A heavier load never keeps the relay on longer.** Two runs from the same
`begin`, without resets, with the same calls at the same true times, whose
samples differ in that the powers of the second run are no smaller: if the
first is in FAULT, so is the second, and if the second commands the relay ON,
so does the first. An overload sample of the second run which finds its
confirmation running comes within a turn of the counter of its beginning. -/
theorem heavier_load (c₀ : ProtectionCore) (start : ℕ) {inputs inputs' : List TimedCall}
    (hpair : List.Forall₂ TimedCall.Heavier inputs inputs')
    (hprompt : Run.Every (c₀.Prompt start) inputs') :
    ((timedRun c₀ start inputs).state = .fault → (timedRun c₀ start inputs').state = .fault) ∧
      ((outputsForState (timedRun c₀ start inputs').state).relayCommandedOn = true →
        (outputsForState (timedRun c₀ start inputs).state).relayCommandedOn = true) := by
  simp only [outputsForState_relay]
  rcases outweighs_run hpair hprompt with hs | h
  · rw [hs]
    exact ⟨fun _ => rfl, nofun⟩
  · rw [h.operating]
    exact ⟨fun hs => absurd hs h.unlatched, id⟩

end Runs

/-- 600 W for two seconds trips the lighter run, so the heavier one has tripped. -/
theorem heavier_load_trips :
    (timedRun (new exampleConfig) 0
      [.update (meterSample 230.0 650.0 0) 4000 4000, .update (meterSample 230.0 600.0 0) 2000 2000,
        .update (meterSample 230.0 100.0 0) 1000 1000]).state = .fault := by
  have htripped : (timedRun (new exampleConfig) 0
      [.update (meterSample 230.0 600.0 0) 4000 4000, .update (meterSample 230.0 600.0 0) 2000 2000,
        .update (meterSample 230.0 100.0 0) 1000 1000]).state = .fault := by
    decide
  refine (heavier_load (new exampleConfig) 0 ?_ ?_).1 htripped
  · exact .cons (TimedCall.heavier_update (by decide) (by decide) _ _)
      (.cons (TimedCall.heavier_update (by decide) (by decide) _ _)
        (.cons (TimedCall.heavier_update (by decide) (by decide) _ _) .nil))
  · refine ⟨⟨by decide, ?_⟩, ⟨by decide, ?_⟩, ⟨by decide, ?_⟩, trivial⟩
    · rintro m taken t ⟨⟩ - first ⟨⟩
      decide
    · rintro m taken t ⟨⟩ - first ⟨⟩
    · rintro m taken t ⟨⟩ - first ⟨⟩

/-! ## Close calls are not enough -/

/-- Every call comes less than `gap` after the one before it. -/
def Close (gap start : ℕ) (earlier : List TimedCall) (i : TimedCall) : Prop :=
  lastAt start earlier ≤ i.at_ ∧ i.at_ - lastAt start earlier < gap

instance (gap start : ℕ) (earlier : List TimedCall) (i : TimedCall) :
    Decidable (Close gap start earlier i) :=
  inferInstanceAs (Decidable (_ ∧ _))

/-- The documented thresholds, with samples of any age trusted. -/
def patientConfig : ProtectionConfig := { exampleConfig with maxMeasurementAgeMs := 0xFFFFFFFF }

/-- Two overload samples `gap` ms of true time apart, with a tick in between:
before the gap, `power` at 1000 ms and an overload at 2000 ms. -/
def patientCalls (power : Float32) : List TimedCall :=
  [.update (meterSample 230.0 600.0 0) 4294968796 4294968796,
    .tick 2147485647,
    .update (meterSample 230.0 600.0 0) 2000 2000,
    .update (meterSample 230.0 power 0) 1000 1000,
    .update (meterSample 230.0 100.0 0) 500 500]

/-- The heavier confirmation began at 1000 ms and is 2^32 + 500 ms old at the
end, which the counter shows as 500 ms; the lighter one began at 2000 ms and
shows as 2^32 - 500 ms. The lighter run trips and the heavier one does not,
though no two calls are 2^31 ms apart. -/
theorem heavier_load_of_close_calls_fails :
    patientConfig.faultConfirmMs.toNat < 2 ^ 31 ∧
      patientConfig.warningPowerW ≤ patientConfig.faultPowerW ∧
      List.Forall₂ TimedCall.Heavier (patientCalls 500.0) (patientCalls 600.0) ∧
      Run.Every (Close (2 ^ 31) 0) (patientCalls 600.0) ∧
      (timedRun (new patientConfig) 0 (patientCalls 500.0)).state = .fault ∧
      (timedRun (new patientConfig) 0 (patientCalls 600.0)).state = .warning ∧
      (outputsForState (timedRun (new patientConfig) 0 (patientCalls 600.0)).state).relayCommandedOn
        = true ∧
      (outputsForState (timedRun (new patientConfig) 0 (patientCalls 500.0)).state).relayCommandedOn
        = false := by
  refine ⟨by decide, by decide, ?_, ?_, by decide, by decide, by decide, by decide⟩
  · have sample (power : Float32) (t : ℕ)
        (h : (meterSample 230.0 power 0).power ≤ (meterSample 230.0 power 0).power) :
        TimedCall.Heavier (.update (meterSample 230.0 power 0) t t)
          (.update (meterSample 230.0 power 0) t t) := TimedCall.heavier_update rfl h t t
    exact .cons (sample _ _ (by decide)) (.cons rfl (.cons (sample _ _ (by decide))
      (.cons (TimedCall.heavier_update (by decide) (by decide) _ _)
        (.cons (sample _ _ (by decide)) .nil))))
  · exact ⟨by decide, by decide, by decide, by decide, by decide, trivial⟩

end ProtectionCore

end EnergyController
