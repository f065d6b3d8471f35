/-
EnergyController.Protection.Overpower — exactly when OVERPOWER is latched.

`overpower_exact` states the overpower rule of `docs/fault-management.md` §1
and §4 over the whole history of calls: outside FAULT, an update latches
OVERPOWER iff its sample is evaluated, is over the threshold, and either no
safe sample has been evaluated since the load was last (re-)armed, or the
sequence of over-threshold samples it belongs to has lasted the confirmation
time. The proof is `Mode.overload_step`, read through the refinement.
-/
import EnergyController.Measurement.CoreTheorems
import EnergyController.Protection.History

namespace EnergyController

/-- The thresholds are numbers. -/
structure ProtectionConfig.Finite (k : ProtectionConfig) : Prop where
  warning : k.warningPowerW.isFinite = true
  fault : k.faultPowerW.isFinite = true
  minOperating : k.minOperatingVoltageV.isFinite = true

theorem exampleConfig_finite : exampleConfig.Finite :=
  ⟨by decide, by decide, by decide⟩

namespace ProtectionConfig

def NoMains (k : ProtectionConfig) (m : Measurement) : Prop :=
  m.voltage ≤ k.minOperatingVoltageV

/-- Mains present, and not above the fault threshold. -/
def Safe (k : ProtectionConfig) (m : Measurement) : Prop :=
  m.voltage > k.minOperatingVoltageV ∧ m.power ≤ k.faultPowerW

/-- A fresh, valid sample with mains, above the fault threshold. -/
def OverThreshold (k : ProtectionConfig) (m : Measurement) (nowMs : Millis) : Prop :=
  nowMs - m.timestamp ≤ k.maxMeasurementAgeMs ∧ m.valid = true ∧
    m.voltage > k.minOperatingVoltageV ∧ m.power > k.faultPowerW

variable {k : ProtectionConfig} {m : Measurement} {nowMs : Millis}

theorem Finite.mains_iff (hk : k.Finite) (hm : m.Finite) :
    m.voltage > k.minOperatingVoltageV ↔ ¬ m.voltage ≤ k.minOperatingVoltageV :=
  FloatOrder.lt_iff_not_le (FloatOrder.isNaN_of_isFinite hm.voltage)
    (FloatOrder.isNaN_of_isFinite hk.minOperating)

theorem Finite.safe_iff (hk : k.Finite) (hm : m.Finite) :
    k.Safe m ↔ ¬ m.voltage ≤ k.minOperatingVoltageV ∧ ¬ m.power > k.faultPowerW := by
  rw [Safe, hk.mains_iff hm]
  rw [FloatOrder.le_iff_not_lt (FloatOrder.isNaN_of_isFinite hm.power)
    (FloatOrder.isNaN_of_isFinite hk.fault)]

theorem Finite.overThreshold_iff (hk : k.Finite) (hm : m.Finite) :
    k.OverThreshold m nowMs ↔ k.classify m nowMs = .overload := by
  rw [OverThreshold, hk.mains_iff hm, classify_overload_iff]

end ProtectionConfig

/-- The sample that a call passes, if any, has finite fields. -/
def CoreCall.FiniteSample : CoreCall → Prop
  | .update m _ => m.Finite
  | _ => True

instance : DecidablePred CoreCall.FiniteSample
  | .update m _ => inferInstanceAs (Decidable m.Finite)
  | .tick _ => .isTrue trivial
  | .requestReset _ => .isTrue trivial
  | .acknowledge => .isTrue trivial
  | .raiseInternalFault _ => .isTrue trivial
  | .snapshot _ => .isTrue trivial

namespace ProtectionCore

/-- A call enters FAULT with the cause OVERPOWER. -/
def LatchesOverpower (before after : ProtectionCore) : Prop :=
  before.state ≠ .fault ∧ after.state = .fault ∧ after.fault.active = true ∧
    after.fault.activeFault = .overpower

section

variable {τ : Type*} {clock : τ → Millis} {c c' : ProtectionCore} {mode mode' : Mode τ}

/-- Entering the latch with OVERPOWER, seen in the modes. -/
theorem latchesOverpower_iff (h : c.Refines clock mode) (h' : c'.Refines clock mode') :
    LatchesOverpower c c' ↔ mode.isLatched = false ∧ mode' = .latched .overpower := by
  rw [LatchesOverpower, ← h'.isLatched_iff, Ne, ← h.isLatched_iff, Bool.not_eq_true]
  refine and_congr_right fun _ => ?_
  cases mode' with
  | waiting => simp
  | supplying load => simp
  | latched cause =>
    obtain ⟨-, hactive, hcause, -, -⟩ := h'
    simp [hactive, hcause]

/-- Only an over-threshold sample trips OVERPOWER. -/
theorem react_latched_overpower {confirmed : τ → τ → Bool} {v : Verdict} {t : τ}
    (hl : mode.isLatched = false) (h : mode.react confirmed v t = .latched .overpower) :
    v = .overload := by
  cases v with
  | overload => rfl
  | _ => rcases mode with _ | (_ | _ | _) | _ <;> simp [Mode.react] at h hl

/-- A sample that is not evaluated latches nothing. -/
theorem not_latches_of_ignored {m : Measurement} {nowMs : Millis} (he : c.evaluates m = false) :
    ¬ LatchesOverpower c (c.step (.update m nowMs)) := by
  rintro ⟨hs, hs', -⟩
  rcases c.update_cases m with hf | ⟨-, hi⟩ | he'
  · exact hs hf
  · rw [step, update_of_ignores hs hi] at hs'
    exact hs hs'
  · rw [he] at he'
    cases he'

/-- A sample in another row does not latch OVERPOWER. -/
theorem not_latches_of_ne_overload {m : Measurement} {t : τ} (h : c.Refines clock mode)
    (he : c.evaluates m = true) (hrow : c.config.classify m (clock t) ≠ .overload) :
    ¬ LatchesOverpower c (c.step (.update m (clock t))) := by
  have hlatch := latchesOverpower_iff h (refines_evaluated (t := t) h he)
  intro hover
  obtain ⟨hl, hmode⟩ := hlatch.mp hover
  exact hrow (react_latched_overpower hl hmode)

/-- An evaluated over-threshold sample: what the policy says of its log. -/
theorem overload_latches_iff {entries : List (Event Measurement τ)}
    {noMains safe : Measurement → Prop} (hlab : Mode.Labelled noMains safe entries)
    (h : c.Refines clock (Mode.after (c.config.confirmed clock) entries)) {m : Measurement}
    {t : τ} (he : c.evaluates m = true) (hrow : c.config.classify m (clock t) = .overload) :
    (LatchesOverpower c (c.step (.update m (clock t))) ↔
      ¬ SafeSeen noMains safe entries ∨
        c.config.faultConfirmMs ≤ clock t - clock ((overSince entries).getD t)) ∧
    (¬ LatchesOverpower c (c.step (.update m (clock t))) →
      (c.step (.update m (clock t))).state = .warning) := by
  have hl : (Mode.after (c.config.confirmed clock) entries).isLatched = false := by
    rw [Bool.eq_false_iff, Ne, h.isLatched_iff]
    exact (evaluates_iff.mp he).1
  have h' := refines_evaluated (t := t) h he
  have hlatch := latchesOverpower_iff h h'
  obtain ⟨htrip, hrun⟩ := Mode.overload_step entries hlab hl m t
  rw [hrow] at h' hlatch
  rw [Mode.after_cons, Mode.step] at htrip hrun
  rw [step, hlatch]
  by_cases hcond : ¬ SafeSeen noMains safe entries ∨
      c.config.faultConfirmMs ≤ clock t - clock ((overSince entries).getD t)
  · have hmode := htrip (hcond.imp_right decide_eq_true)
    exact ⟨by simp [hl, hmode, hcond], by simp [hl, hmode]⟩
  · obtain ⟨hseen, hshort⟩ := not_or.mp hcond
    have hmode := hrun (Classical.not_not.mp hseen) (decide_eq_false hshort)
    rw [hmode] at h' ⊢
    exact ⟨by simp [hcond], fun _ => h'.1.state_eq⟩

end

/-- No call but `update` sets the cause OVERPOWER. -/
theorem step_activeFault_overpower {c : ProtectionCore} {call : CoreCall}
    (hcall : ∀ m nowMs, call ≠ .update m nowMs)
    (h : (c.step call).fault.activeFault = .overpower) : c.fault.activeFault = .overpower := by
  have hraise : ∀ {fault : FaultCode} {nowMs : Millis}, fault ≠ .none → fault ≠ .overpower →
      (c.raiseFault fault nowMs).fault.activeFault = .overpower →
      c.fault.activeFault = .overpower := by
    intro fault nowMs hf ho hr
    rw [raiseFault_eq hf] at hr
    simp only [FaultManager.raise] at hr
    split at hr
    · exact hr
    · exact absurd hr ho
  cases call with
  | update m nowMs => exact absurd rfl (hcall m nowMs)
  | tick nowMs =>
    simp only [step, tick_eq] at h
    split at h
    · exact hraise (by simp) (by simp) h
    · exact h
  | requestReset nowMs =>
    simp only [step, requestReset_eq] at h
    split at h
    · simp [rearmed] at h
    · exact h
  | acknowledge =>
    simp only [step, acknowledge] at h
    split at h <;> exact h
  | raiseInternalFault nowMs => exact hraise (by simp) (by simp) h
  | snapshot nowMs => exact h

/-- With finite thresholds and samples, the log's rows are those of `NoMains`
and `Safe`. -/
theorem labelled_finite {τ ι : Type*} (call : ι → CoreCall) (at_ : ι → τ) (clock : τ → Millis)
    (hnow : ∀ i, (call i).At (clock (at_ i))) (c₀ : ProtectionCore) (hk : c₀.config.Finite)
    (t₀ : Millis) (inputs : List ι) (hfin : ∀ i ∈ inputs, (call i).FiniteSample) :
    Mode.Labelled c₀.config.NoMains c₀.config.Safe (log call at_ (c₀.begin t₀) inputs) := by
  intro m v t hmem hs hi
  obtain ⟨-, i, hmemi, nowMs, hcall⟩ := sample_mem_log call at_ c₀ t₀ clock hnow hmem
  have hm := hfin i hmemi
  rw [hcall] at hm
  rw [hk.safe_iff hm]
  exact labelled_log call at_ c₀ t₀ clock hnow inputs m v t hmem hs hi

/-- **Exact OVERPOWER latching.** For every run from `begin` with finite
thresholds and samples: outside FAULT, the update of `m` at `nowMs` latches
OVERPOWER exactly under the documented rule; an evaluated over-threshold
sample that does not latch leaves WARNING; no other call latches it. -/
theorem overpower_exact (c₀ : ProtectionCore) (hk : c₀.config.Finite) (t₀ : Millis)
    (calls : List CoreCall) (hfin : ∀ call ∈ calls, call.FiniteSample) :
    let k := c₀.config
    let c := run id (c₀.begin t₀) calls
    let entries := log id CoreCall.nowMs (c₀.begin t₀) calls
    (∀ m nowMs, m.Finite → c.state ≠ .fault →
      (LatchesOverpower c (c.step (.update m nowMs)) ↔
        c.evaluates m = true ∧ k.OverThreshold m nowMs ∧
          (¬ SafeSeen k.NoMains k.Safe entries ∨
            ∃ first, overSince (c.events (.update m nowMs) nowMs ++ entries) = some first ∧
              k.faultConfirmMs ≤ nowMs - first)) ∧
      (c.evaluates m = true → k.OverThreshold m nowMs →
        ¬ LatchesOverpower c (c.step (.update m nowMs)) →
        (c.step (.update m nowMs)).state = .warning)) ∧
    ∀ call, (∀ m nowMs, call ≠ .update m nowMs) →
      (c.step call).fault.activeFault = .overpower → c.fault.activeFault = .overpower := by
  intro k c entries
  refine ⟨?_, fun call hcall => step_activeFault_overpower hcall⟩
  intro m nowMs hm hout
  have hconfig : c.config = k := run_config id (c₀.begin t₀) calls
  have href : c.Refines id (Mode.after (c.config.confirmed id) entries) := by
    rw [hconfig]
    exact refines_after id CoreCall.nowMs id CoreCall.at_nowMs c₀ t₀ calls
  have hlab := labelled_finite id CoreCall.nowMs id CoreCall.at_nowMs c₀ hk t₀ calls hfin
  rw [hk.overThreshold_iff hm, show c₀.config = c.config from hconfig.symm]
  cases he : c.evaluates m with
  | false => exact ⟨iff_of_false (not_latches_of_ignored he) (by simp), by simp⟩
  | true =>
    by_cases hrow : c.config.classify m nowMs = .overload
    case neg =>
      have hnot := @not_latches_of_ne_overload _ id _ _ _ nowMs href he hrow
      exact ⟨iff_of_false hnot fun h => hrow h.2.1, fun _ h => absurd h hrow⟩
    obtain ⟨hlatch, hwarning⟩ := @overload_latches_iff _ id _ _ _ _ hlab href _ nowMs he hrow
    have hevents : c.events (.update m nowMs) nowMs = [.sample m .overload nowMs] := by
      simp [events, he, hrow]
    have hsince : overSince ([.sample m .overload nowMs] ++ entries)
        = some ((overSince entries).getD nowMs) := rfl
    refine ⟨?_, fun _ _ => hwarning⟩
    rw [hconfig] at hlatch
    rw [hevents, hsince]
    simp only [hrow, true_and, Option.some.injEq, exists_eq_left']
    exact hlatch

theorem overpower_exact_third_sample :
    LatchesOverpower
      (run id ((new exampleConfig).begin 0)
        [.update (meterSample 230.0 600.0 3000) 3000, .update (meterSample 230.0 100.0 1000) 1000])
      (run id ((new exampleConfig).begin 0)
        [.update (meterSample 230.0 600.0 5000) 5000, .update (meterSample 230.0 600.0 3000) 3000,
          .update (meterSample 230.0 100.0 1000) 1000]) :=
  (((overpower_exact (new exampleConfig) exampleConfig_finite 0
        [.update (meterSample 230.0 600.0 3000) 3000, .update (meterSample 230.0 100.0 1000) 1000]
        (by decide)).1 (meterSample 230.0 600.0 5000) 5000 (by decide) (by decide)).1).mpr
    ⟨by decide, ⟨by decide, by decide, by decide, by decide⟩, .inr ⟨3000, by decide, by decide⟩⟩

end ProtectionCore

end EnergyController
