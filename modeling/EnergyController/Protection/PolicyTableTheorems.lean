/-
EnergyController.Protection.PolicyTableTheorems — when the core follows the
policy table, and a run in which it does not.

`InStep` is what a timely run keeps: the core's own log is the policy's, the
gate was opened by a sample taken since the re-arm point, and the silence
clock is not behind any such sample. `InStep.cons` keeps it over one call,
`policyStep_of_inStep` reads the outcome of the next call off it, and
`policyTable_of_timely` lifts both to runs of any length.

`mainsLoss_not_followsPolicy` is a run of mains loss from the start: 2^31 ms
in, the first good sample is ignored. `ignored_noMains_not_followsPolicy` is why
`Timely` asks the same of a sample without mains.
-/
import EnergyController.Protection.PolicyTable

namespace EnergyController

namespace ProtectionConfig

variable {k : ProtectionConfig} {m : Measurement} {taken t : ℕ}

/-- Within one turn of the clock, and with finite numbers, the core's row is
the documented one. -/
theorem classify_eq_row (hk : k.Finite) (hw : k.warningPowerW ≤ k.faultPowerW) (hm : m.Finite)
    (hle : taken ≤ t) (hlt : t - taken < 2 ^ 32) :
    k.classify (m.stamped taken) (millis t) = k.row m (t - taken) := by
  have hage : k.maxMeasurementAgeMs < millis t - millis taken
      ↔ k.maxMeasurementAgeMs.toNat < t - taken := by
    rw [← BitVec.not_le, ← Nat.not_le]
    exact not_congr (WrappedClock.sub_reading_le_iff hle hlt _)
  have hwarn : m.power ≤ k.warningPowerW ↔ ¬ m.power > k.warningPowerW :=
    FloatOrder.le_iff_not_lt (FloatOrder.isNaN_of_isFinite hm.power)
      (FloatOrder.isNaN_of_isFinite hk.warning)
  have hfault : m.power ≤ k.faultPowerW ↔ ¬ m.power > k.faultPowerW :=
    FloatOrder.le_iff_not_lt (FloatOrder.isNaN_of_isFinite hm.power)
      (FloatOrder.isNaN_of_isFinite hk.fault)
  have himp : m.power ≤ k.warningPowerW → ¬ m.power > k.faultPowerW := fun h =>
    hfault.mp (FloatOrder.le_trans h hw)
  refine if_congr hage rfl (if_congr Iff.rfl rfl (if_congr Iff.rfl rfl ?_))
  show (if m.power > k.faultPowerW then Verdict.overload
    else if m.power > k.warningPowerW then .elevated else .normal) = _
  by_cases h : m.power ≤ k.warningPowerW
  · rw [if_neg (himp h), if_neg (hwarn.mp h), if_pos h]
  · rw [if_neg h]
    rw [hwarn, Classical.not_not] at h
    by_cases h' : m.power ≤ k.faultPowerW
    · rw [if_neg (hfault.mp h'), if_pos h, if_pos h']
    · rw [if_neg h']
      rw [hfault, Classical.not_not] at h'
      rw [if_pos h']

end ProtectionConfig

namespace ProtectionCore

section

variable (c₀ : ProtectionCore) (start : ℕ)

/-! ## What a timely run keeps -/

/-- The core's own log is the policy's, its gate is open only after a sample
taken since the re-arm point, and its silence clock is not behind any such
sample. -/
structure InStep (inputs : List TimedCall) : Prop where
  log_eq : timedLog c₀ start inputs = policyLog c₀ start inputs
  rearm_le : rearmedAt start (policyLog c₀ start inputs) ≤ lastAt start inputs
  over_le : ∀ first, overSince (policyLog c₀ start inputs) = some first →
    first ≤ lastAt start inputs
  opened : (timedRun c₀ start inputs).state.isOperating = true →
    ∃ m taken t, newestSample inputs = some (m, taken, t) ∧
      rearmedAt start (policyLog c₀ start inputs) ≤ taken
  silence : ∃ consumed, (timedRun c₀ start inputs).lastSampleMs = millis consumed ∧
    consumed ≤ lastAt start inputs ∧
    ∀ m taken t, .update m taken t ∈ inputs →
      rearmedAt start (policyLog c₀ start inputs) ≤ taken → t ≤ consumed

end

section

variable {c₀ : ProtectionCore} {start : ℕ} {earlier : List TimedCall} {i : TimedCall}

/-- Every call was made by the time of the newest one. -/
theorem at_le_lastAt {k : ProtectionConfig} {inputs : List TimedCall}
    (h : Run.Every (Delivered k start) inputs) (hi : i ∈ inputs) :
    i.at_ ≤ lastAt start inputs := by
  induction inputs with
  | nil => cases hi
  | cons j earlier ih =>
    rcases List.mem_cons.mp hi with rfl | hi
    · exact le_refl _
    · exact (ih h.tail hi).trans h.head.in_order

/-- The re-arm point of the core is that of the policy. -/
theorem InStep.rearmMs (h : InStep c₀ start earlier) :
    (timedRun c₀ start earlier).rearmMs
      = millis (rearmedAt start (policyLog c₀ start earlier)) := by
  rw [← h.log_eq]
  exact rearmMs_rearmedAt TimedCall.call TimedCall.at_ millis TimedCall.call_at rfl earlier

/-- A timely update is evaluated exactly if its sample was taken at or after
the re-arm point. -/
theorem InStep.evaluates_iff {m : Measurement} {taken t : ℕ} (h : InStep c₀ start earlier)
    (hdel : Delivered c₀.config start earlier (.update m taken t))
    (htime : Timely c₀ start earlier (.update m taken t))
    (hs : (timedRun c₀ start earlier).state ≠ .fault) :
    (timedRun c₀ start earlier).evaluates (m.stamped taken) = true
      ↔ rearmedAt start (policyLog c₀ start earlier) ≤ taken := by
  have href := timed_refines c₀ start earlier
  obtain ⟨-, hdelay⟩ := hdel.taken m taken t rfl
  have hle : rearmedAt start (policyLog c₀ start earlier) ≤ t := h.rearm_le.trans hdel.in_order
  have hrearm := h.rearmMs
  cases ha : (timedRun c₀ start earlier).awaitingFirstSample with
  | true =>
    have hgate := (htime hs).1 ha
    simp only [evaluates, ignores, ha, hrearm, Measurement.stamped, Bool.true_and,
      Bool.and_eq_true, bne_iff_ne, ne_eq, hs, not_false_eq_true, true_and, Bool.not_eq_true',
      decide_eq_false_iff_not, millis]
    by_cases hafter : rearmedAt start (policyLog c₀ start earlier) ≤ taken
    · rw [WrappedClock.toInt_sub_reading_neg_iff hafter]
      have hfirst := hgate hafter
      exact iff_of_true (by omega) hafter
    · have hneg := @WrappedClock.toInt_sub_reading_neg_of_gt 32 _ _ (Nat.lt_of_not_le hafter)
        (by omega)
      exact iff_of_false (fun hnot => hnot hneg) hafter
  | false =>
    -- the gate was opened by an earlier sample taken since the re-arm point
    obtain ⟨m', taken', t', hnewest, hsince⟩ := h.opened ((href.isOperating_iff hs).mpr ha)
    have horder := hdel.stamp_order m taken t rfl m' taken' t' hnewest
    exact iff_of_true (by simp [evaluates, ignores, ha, hs]) (hsince.trans horder)

end

/-- Only an accepted reset moves the re-arm point of a log. -/
theorem rearmedAt_events {τ : Type*} (c : ProtectionCore) (call : CoreCall) (t start : τ)
    (entries : List (Event Measurement τ)) :
    (∃ nowMs, call = .requestReset nowMs ∧ c.resetResult nowMs = .accepted ∧
      rearmedAt start (c.events call t ++ entries) = t) ∨
    ((∀ nowMs, call = .requestReset nowMs → c.resetResult nowMs ≠ .accepted) ∧
      rearmedAt start (c.events call t ++ entries) = rearmedAt start entries) := by
  cases call with
  | update m nowMs =>
    refine .inr ⟨by simp, ?_⟩
    simp only [events]
    split <;> rfl
  | tick nowMs =>
    refine .inr ⟨by simp, ?_⟩
    simp only [events]
    split <;> rfl
  | requestReset nowMs =>
    by_cases h : c.resetResult nowMs = .accepted
    · exact .inl ⟨nowMs, rfl, h, by simp [events, h, rearmedAt]⟩
    · refine .inr ⟨?_, by simp [events, h]⟩
      rintro _ ⟨⟩
      exact h
  | acknowledge => exact .inr ⟨by simp, rfl⟩
  | raiseInternalFault nowMs => exact .inr ⟨by simp, rfl⟩
  | snapshot nowMs => exact .inr ⟨by simp, rfl⟩

/-- A confirmation began with this call or was running before it. -/
theorem overSince_events {τ : Type*} {c : ProtectionCore} {call : CoreCall} {t first : τ}
    {entries : List (Event Measurement τ)}
    (h : overSince (c.events call t ++ entries) = some first) :
    first = t ∨ overSince entries = some first := by
  cases call with
  | update m nowMs =>
    simp only [events] at h
    split at h
    · simp only [List.cons_append, List.nil_append, overSince] at h
      split at h
      · cases hprev : overSince entries with
        | none =>
          rw [hprev] at h
          cases h
          exact .inl rfl
        | some since =>
          rw [hprev] at h
          exact .inr h
      · cases h
    · exact .inr h
  | tick nowMs =>
    simp only [events] at h
    split at h <;> exact .inr h
  | requestReset nowMs =>
    simp only [events] at h
    split at h
    · cases h
    · exact .inr h
  | acknowledge => exact .inr h
  | raiseInternalFault nowMs => exact .inr h
  | snapshot nowMs => exact .inr h

/-- The silence clock moves only with a sample or an accepted reset. -/
theorem step_lastSampleMs {c : ProtectionCore} {call : CoreCall}
    (hcall : ∀ m nowMs, call ≠ .update m nowMs)
    (hreset : ∀ nowMs, call = .requestReset nowMs → c.resetResult nowMs ≠ .accepted) :
    (c.step call).lastSampleMs = c.lastSampleMs := by
  cases call with
  | update m nowMs => exact absurd rfl (hcall m nowMs)
  | tick nowMs =>
    simp only [step, tick_eq]
    split <;> simp [raiseFault_eq]
  | requestReset nowMs => simp [step, requestReset_eq, hreset nowMs rfl]
  | acknowledge =>
    simp only [step, acknowledge]
    split <;> rfl
  | raiseInternalFault nowMs => simp [step, raiseInternalFault, raiseFault_eq]
  | snapshot nowMs => rfl

section

variable {c₀ : ProtectionCore} {start : ℕ} {earlier : List TimedCall} {i : TimedCall}
  (hk : c₀.config.Finite) (hw : c₀.config.warningPowerW ≤ c₀.config.faultPowerW)
  (h : InStep c₀ start earlier) (hdel : Run.Every (Delivered c₀.config start) (i :: earlier))
  (htime : Timely c₀ start earlier i)
include hk hw h hdel htime

/-- A timely call looks the same to the core and to the policy table. -/
theorem InStep.policyEvents_eq :
    (timedRun c₀ start earlier).policyEvents (rearmedAt start (policyLog c₀ start earlier)) i
      = (timedRun c₀ start earlier).events i.call i.at_ := by
  cases i with
  | update m taken t =>
    obtain ⟨hle, hdelay⟩ := hdel.head.taken m taken t rfl
    have hrow := ProtectionConfig.classify_eq_row hk hw (hdel.head.finite m taken t rfl) hle
      (by omega)
    simp only [policyEvents, TimedCall.call, events, TimedCall.at_, run_config, begin]
    by_cases hs : (timedRun c₀ start earlier).state = .fault
    · simp [hs, evaluates]
    · rw [hrow]
      exact if_congr (by simp [hs, h.evaluates_iff hdel.head htime hs]) rfl rfl
  | _ => rfl

/-- So the policy's log grows by what the core sees of the call. -/
theorem InStep.policyLog_cons :
    policyLog c₀ start (i :: earlier)
      = (timedRun c₀ start earlier).events i.call i.at_ ++ policyLog c₀ start earlier := by
  rw [policyLog, InStep.policyEvents_eq hk hw h hdel htime]

/-- The gate is opened by a sample taken since the re-arm point. -/
theorem InStep.opened_cons (hop : (timedRun c₀ start (i :: earlier)).state.isOperating = true) :
    ∃ m taken t, newestSample (i :: earlier) = some (m, taken, t) ∧
      rearmedAt start (policyLog c₀ start (i :: earlier)) ≤ taken := by
  have hpolicy := InStep.policyLog_cons hk hw h hdel htime
  rcases @update_or_other _ TimedCall.call i with ⟨m', nowMs, hi⟩ | hi
  · cases i with
    | update m taken t =>
      have href := timed_refines c₀ start earlier
      have he := evaluates_of_operating href hop
      have hs := (ProtectionCore.evaluates_iff.mp he).1
      refine ⟨m, taken, t, rfl, ?_⟩
      rcases rearmedAt_events (timedRun c₀ start earlier) (TimedCall.update m taken t).call t start
        (policyLog c₀ start earlier) with ⟨_, hreset, -⟩ | ⟨-, heq⟩
      · cases hreset
      · rw [hpolicy]
        exact heq.le.trans ((h.evaluates_iff hdel.head htime hs).mp he)
    | _ => cases hi
  · have hevents : (timedRun c₀ start earlier).events i.call i.at_ = [] :=
      events_of_operating hi hop
    obtain ⟨m, taken, t, hnewest, hle⟩ := h.opened (step_operating _ hi hop).1
    rw [hpolicy, hevents]
    refine ⟨m, taken, t, ?_, hle⟩
    cases i with
    | update m taken t => exact absurd rfl (hi _ _)
    | _ => exact hnewest

/-- The silence clock is not behind any sample taken since the re-arm point. -/
theorem InStep.silence_cons :
    ∃ consumed, (timedRun c₀ start (i :: earlier)).lastSampleMs = millis consumed ∧
      consumed ≤ lastAt start (i :: earlier) ∧
      ∀ m taken t, .update m taken t ∈ i :: earlier →
        rearmedAt start (policyLog c₀ start (i :: earlier)) ≤ taken → t ≤ consumed := by
  have hpolicy := InStep.policyLog_cons hk hw h hdel htime
  have horder := hdel.head.in_order
  have hpassed : ∀ m taken t, .update m taken t ∈ i :: earlier → t ≤ i.at_ :=
    fun m taken t hmem => at_le_lastAt hdel hmem
  obtain ⟨consumed, hlast, hle, hall⟩ := h.silence
  rw [hpolicy]
  rcases rearmedAt_events (timedRun c₀ start earlier) i.call i.at_ start
    (policyLog c₀ start earlier) with ⟨nowMs, hcall, hacc, -⟩ | ⟨hreset, heq⟩
  · -- an accepted reset restarts the silence clock
    refine ⟨i.at_, ?_, le_refl _, fun m taken t hmem _ => hpassed m taken t hmem⟩
    have hnow := i.call_at
    rw [hcall] at hnow
    rw [timedRun, run_cons, hcall]
    simp only [step, requestReset_eq, hacc, if_true, rearmed]
    exact hnow
  rw [heq]
  rcases @update_or_other _ TimedCall.call i with ⟨m', nowMs, hi⟩ | hi
  · cases i with
    | update m taken t =>
      rcases (timedRun c₀ start earlier).update_cases (m.stamped taken) with hs | ⟨hs, hig⟩ | he
      · exact ⟨t, update_lastSampleMs (.inl hs), le_refl _,
          fun m taken t hmem _ => hpassed m taken t hmem⟩
      · -- an ignored sample was taken before the re-arm point
        refine ⟨consumed, ?_, hle.trans horder, fun m' taken' t' hmem hafter => ?_⟩
        · rw [← hlast, timedRun, run_cons]
          simp only [TimedCall.call, step]
          rw [update_of_ignores hs hig]
        · rcases List.mem_cons.mp hmem with heq | hmem
          · cases heq
            have he := (h.evaluates_iff hdel.head htime hs).mpr hafter
            simp [evaluates, hig] at he
          · exact hall m' taken' t' hmem hafter
      · exact ⟨t, update_lastSampleMs (.inr he), le_refl _,
          fun m taken t hmem _ => hpassed m taken t hmem⟩
    | _ => cases hi
  · refine ⟨consumed, ?_, hle.trans horder, fun m taken t hmem hafter => ?_⟩
    · rw [timedRun, run_cons, step_lastSampleMs hi hreset, hlast]
    · rcases List.mem_cons.mp hmem with rfl | hmem
      · exact absurd rfl (hi _ _)
      · exact hall m taken t hmem hafter

/-- **A timely call keeps the core in step.** The log and the silence clock were
the hard parts; the re-arm point and the start of a confirmation are instants of
calls that were made. -/
theorem InStep.cons : InStep c₀ start (i :: earlier) := by
  have hpolicy := InStep.policyLog_cons hk hw h hdel htime
  have horder := hdel.head.in_order
  constructor
  · rw [timedLog, log_cons, hpolicy, ← h.log_eq]
  · rw [hpolicy]
    rcases rearmedAt_events (timedRun c₀ start earlier) i.call i.at_ start
      (policyLog c₀ start earlier) with ⟨-, -, -, heq⟩ | ⟨-, heq⟩
    · exact heq.le
    · exact heq.le.trans (h.rearm_le.trans horder)
  · intro first hfirst
    rw [hpolicy] at hfirst
    rcases overSince_events hfirst with rfl | hprev
    · exact le_refl _
    · exact (h.over_le first hprev).trans horder
  · exact InStep.opened_cons hk hw h hdel htime
  · exact InStep.silence_cons hk hw h hdel htime

end

/-- Before the first call both logs are empty, and the clock was set by `begin`. -/
theorem inStep_nil (c₀ : ProtectionCore) (start : ℕ) : InStep c₀ start [] where
  log_eq := rfl
  rearm_le := le_refl _
  over_le := by simp [policyLog, overSince]
  opened := by simp [timedRun, begin, SystemState.isOperating]
  silence := ⟨start, rfl, le_refl _, by simp⟩

/-! ## Every timely run follows the table -/

/-- A confirmation read off the 32-bit clock is the true one, unless it went
unobserved for a turn of the clock and just wrapped. -/
theorem confirmed_iff {k : ProtectionConfig} {first t : ℕ} (hle : first ≤ t)
    (hwrap : 2 ^ 32 ≤ t - first → k.faultConfirmMs.toNat ≤ (t - first) % 2 ^ 32) :
    k.confirmed millis first t = true ↔ k.faultConfirmMs.toNat ≤ t - first := by
  rw [ProtectionConfig.confirmed, decide_eq_true_eq, BitVec.le_def, millis, millis,
    WrappedClock.toNat_sub_reading hle]
  have hmod := Nat.mod_le (t - first) (2 ^ 32)
  by_cases hturn : 2 ^ 32 ≤ t - first
  · have := hwrap hturn
    omega
  · rw [Nat.mod_eq_of_lt (by omega)]

/-- The row of a sample, carried out by the core, is the documented outcome. -/
theorem outcome_of_refines {k : ProtectionConfig} {c' : ProtectionCore} {mode : Mode ℕ}
    {v : Verdict} (hv : v ≠ .overload) (hmode : mode = Mode.settled v)
    (h : c'.Refines millis mode) (seen : Prop) (overFor : ℕ) :
    k.Outcome v seen overFor c'.state c'.fault.activeFault := by
  subst hmode
  cases v with
  | overload => exact absurd rfl hv
  | stale => exact ⟨h.1, h.2.2.1⟩
  | invalid => exact ⟨h.1, h.2.2.1⟩
  | noMains => exact ⟨h.2.1, h.1.no_cause⟩
  | elevated => exact ⟨h.1.state_eq, h.1.unlatched.no_cause⟩
  | normal => exact ⟨h.1.state_eq, h.1.unlatched.no_cause⟩

section

variable {c₀ : ProtectionCore} {start : ℕ} {earlier : List TimedCall} {i : TimedCall}
  (hk : c₀.config.Finite) (hw : c₀.config.warningPowerW ≤ c₀.config.faultPowerW)

/-- What `Delivered` says of each sample, said of the calls. -/
theorem finiteSample_of_delivered {k : ProtectionConfig} {inputs : List TimedCall}
    (hdel : Run.Every (Delivered k start) inputs) :
    ∀ i ∈ inputs, i.call.FiniteSample := by
  induction inputs with
  | nil => simp
  | cons j earlier ih =>
    intro i hi
    rcases List.mem_cons.mp hi with rfl | hi
    · cases i with
      | update m taken t =>
        obtain ⟨h1, h2, h3, h4, h5, h6⟩ := hdel.head.finite m taken t rfl
        exact ⟨h1, h2, h3, h4, h5, h6⟩
      | _ => trivial
    · exact ih hdel.tail i hi

/-- A tick trips only after a silence in true time. -/
theorem policyStep_tick {t : ℕ} (h : InStep c₀ start earlier)
    (hdel : Run.Every (Delivered c₀.config start) (.tick t :: earlier)) :
    PolicyStep c₀ start earlier (.tick t) := by
  -- the tick measured at least the wrapped silence, which is at most the true one
  intro hs hfault m taken d hmem hafter
  obtain ⟨consumed, hlast, hle, hall⟩ := h.silence
  have hd := hall m taken d hmem hafter
  have horder : consumed ≤ t := hle.trans hdel.head.in_order
  cases hq : (timedRun c₀ start earlier).silent (millis t) with
  | false =>
    simp only [TimedCall.call, step, tick_eq, hq, Bool.false_eq_true, if_false] at hfault
    exact absurd hfault hs
  | true =>
    simp only [silent, hlast, run_config, begin, Bool.and_eq_true, decide_eq_true_eq] at hq
    have hlong := hq.2
    rw [BitVec.lt_def, millis, millis, WrappedClock.toNat_sub_reading horder] at hlong
    have := Nat.mod_le (t - consumed) (2 ^ 32)
    omega

include hk hw

/-- The outcome of an update is the one of its row in true time. -/
theorem policyStep_update {m : Measurement} {taken t : ℕ} (h : InStep c₀ start earlier)
    (hdel : Run.Every (Delivered c₀.config start) (.update m taken t :: earlier))
    (htime : Timely c₀ start earlier (.update m taken t)) :
    PolicyStep c₀ start earlier (.update m taken t) := by
  intro hs hafter
  have href := timed_refines c₀ start earlier
  have he := (h.evaluates_iff hdel.head htime hs).mpr hafter
  have hl : (Mode.after (c₀.config.confirmed millis)
      (timedLog c₀ start earlier)).isLatched = false := by
    rw [Bool.eq_false_iff, Ne, href.isLatched_iff]
    exact hs
  obtain ⟨hle, hdelay⟩ := hdel.head.taken m taken t rfl
  have hrow := ProtectionConfig.classify_eq_row hk hw (hdel.head.finite m taken t rfl) hle
    (by omega)
  have href' := refines_evaluated (t := t) href he
  rw [run_config] at href'
  change Refines millis _ (Mode.react (c₀.config.confirmed millis) _
    (c₀.config.classify (m.stamped taken) (millis t)) t) at href'
  rw [hrow] at href'
  by_cases hv : c₀.config.row m (t - taken) = .overload
  case neg => exact outcome_of_refines hv (Mode.react_settled hl hv t) href' _ _
  rw [hv] at href' ⊢
  have hlab := labelled_finite TimedCall.call TimedCall.at_ millis TimedCall.call_at c₀ hk
    (millis start) earlier (finiteSample_of_delivered hdel.tail)
  obtain ⟨htrip, hrun⟩ := Mode.overload_step (timedLog c₀ start earlier) hlab hl
    (m.stamped taken) t
  rw [Mode.after_cons, Mode.step] at htrip hrun
  -- the confirmation, in true time
  have hfirst : (overSince (timedLog c₀ start earlier)).getD t ≤ t := by
    rw [h.log_eq]
    cases hsince : overSince (policyLog c₀ start earlier) with
    | none => exact le_refl _
    | some first => exact (h.over_le first hsince).trans hdel.head.in_order
  have hconf := confirmed_iff (k := c₀.config) hfirst (by
    rw [h.log_eq]
    cases hsince : overSince (policyLog c₀ start earlier) with
    | none => simp
    | some first => exact (htime hs).2 first hsince hv)
  rw [h.log_eq] at htrip hrun hconf href'
  constructor
  · intro hcond
    rw [htrip (hcond.imp_right hconf.mpr)] at href'
    exact ⟨href'.1, href'.2.2.1⟩
  · intro hseen hshort
    rw [hrun hseen (Bool.eq_false_iff.mpr fun hc => Nat.not_le.mpr hshort (hconf.mp hc))]
      at href'
    exact ⟨href'.1.state_eq, href'.1.unlatched.no_cause⟩

/-- The table speaks of ticks and updates only; other calls meet it for free. -/
theorem policyStep_of_inStep (h : InStep c₀ start earlier)
    (hdel : Run.Every (Delivered c₀.config start) (i :: earlier))
    (htime : Timely c₀ start earlier i) : PolicyStep c₀ start earlier i := by
  cases i with
  | tick t => exact policyStep_tick h hdel
  | update m taken t => exact policyStep_update hk hw h hdel htime
  | _ => trivial

/-- By induction over the run, whose every step is timely. -/
theorem inStep_of_timely {inputs : List TimedCall}
    (hdel : Run.Every (Delivered c₀.config start) inputs)
    (htime : Run.Every (Timely c₀ start) inputs) : InStep c₀ start inputs := by
  induction inputs with
  | nil => exact inStep_nil c₀ start
  | cons i earlier ih => exact InStep.cons hk hw (ih hdel.tail htime.tail) hdel htime.head

end

/-! The same, with what a run of given numbers has to show. -/

theorem delivered_update {k : ProtectionConfig} {start : ℕ} {earlier : List TimedCall}
    {m : Measurement} {taken t : ℕ} (horder : lastAt start earlier ≤ t)
    (hapart : ∀ p ∈ lastPoll earlier, t - p ≤ k.maxMeasurementAgeMs.toNat) (hm : m.Finite)
    (htaken : taken ≤ t ∧ t - taken ≤ 2 ^ 31)
    (hstamp : ∀ newest ∈ newestSample earlier, newest.2.1 ≤ taken) :
    Delivered k start earlier (.update m taken t) where
  in_order := horder
  apart _ p hp := hapart p hp
  finite := by
    rintro m taken t ⟨⟩
    exact hm
  taken := by
    rintro m taken t ⟨⟩
    exact htaken
  stamp_order := by
    rintro m taken t ⟨⟩ m' taken' t' h
    exact hstamp _ h

theorem timely_update {c₀ : ProtectionCore} {start : ℕ} {earlier : List TimedCall}
    {m : Measurement} {taken t : ℕ}
    (hgate : rearmedAt start (policyLog c₀ start earlier) ≤ taken →
      (taken - rearmedAt start (policyLog c₀ start earlier)) % 2 ^ 32 < 2 ^ 31)
    (hwrap : ∀ first ∈ overSince (policyLog c₀ start earlier),
      c₀.config.row m (t - taken) = .overload → 2 ^ 32 ≤ t - first →
        c₀.config.faultConfirmMs.toNat ≤ (t - first) % 2 ^ 32) :
    Timely c₀ start earlier (.update m taken t) := fun _ => ⟨fun _ => hgate, hwrap⟩

/-- **The policy table at any uptime**, for every run of any length over true
time whose steps are timely. -/
theorem policyTable_of_timely (c₀ : ProtectionCore) (hk : c₀.config.Finite)
    (hw : c₀.config.warningPowerW ≤ c₀.config.faultPowerW) (start : ℕ) (inputs : List TimedCall)
    (hdel : Run.Every (Delivered c₀.config start) inputs)
    (htime : Run.Every (Timely c₀ start) inputs) : FollowsPolicy c₀ start inputs := by
  induction inputs with
  | nil => trivial
  | cons i earlier ih =>
    exact ⟨policyStep_of_inStep hk hw (inStep_of_timely hk hw hdel.tail htime.tail) hdel
      htime.head, ih hdel.tail htime.tail⟩

/-- Supplied, over the threshold, without mains, and supplied again after the
clock has wrapped. -/
def interruptedRun : List TimedCall :=
  [.update (meterSample 230.0 500.0 0) 4294969400 4294969500,
    .update (meterSample 0.0 0.0 0) 4294966900 4294967000,
    .update (meterSample 230.0 600.0 0) 4294964400 4294964500,
    .update (meterSample 230.0 100.0 0) 4294961900 4294962000]

/-- What the run comes to at each of its last three samples. -/
theorem policyTable_mains_loss :
    (timedRun (new exampleConfig) 4294961000 interruptedRun).state = .warning ∧
      (timedRun (new exampleConfig) 4294961000 interruptedRun.tail).state = .init ∧
      (timedRun (new exampleConfig) 4294961000 interruptedRun.tail.tail).state = .warning := by
  have hdel : Run.Every (Delivered exampleConfig 4294961000) interruptedRun := by
    refine ⟨?_, ?_, ?_, ?_, trivial⟩
    all_goals
      exact delivered_update (by decide) (by decide) (by decide) (by decide) (by decide)
  have htime : Run.Every (Timely (new exampleConfig) 4294961000) interruptedRun := by
    refine ⟨?_, ?_, ?_, ?_, trivial⟩
    all_goals
      exact timely_update (by decide +kernel) (by decide +kernel)
  have h := policyTable_of_timely (new exampleConfig) exampleConfig_finite (by decide) 4294961000
    interruptedRun hdel htime
  have hlast := h.head (by decide +kernel) (by decide +kernel)
  have hmainsLoss := h.tail.head (by decide +kernel) (by decide +kernel)
  have hover := h.tail.tail.head (by decide +kernel) (by decide +kernel)
  have hseen : SafeSeen exampleConfig.NoMains exampleConfig.Safe
      (policyLog (new exampleConfig) 4294961000 interruptedRun.tail.tail.tail) :=
    ⟨by unfold ProtectionConfig.NoMains; decide, .inl (by unfold ProtectionConfig.Safe; decide)⟩
  exact ⟨hlast.1, hmainsLoss.1, (hover.2 hseen (by decide +kernel)).1⟩

/-! ## A mains loss half a turn of the clock after the start -/

/-- A sample without mains every 3 s, from the start. -/
def darkRun : ℕ → List TimedCall
  | 0 => []
  | n + 1 => .update (meterSample 0.0 0.0 0) (3000 * (n + 1)) (3000 * (n + 1)) :: darkRun n

/-- The mains return with the sample taken and passed at `t`. -/
def mainsLossRun (n t : ℕ) : List TimedCall :=
  .update (meterSample 230.0 100.0 0) t t :: darkRun n

/-! What `Delivered` needs of the run: each of its calls is an update, 3 s after
the one before, with a sample taken at that instant. -/

theorem lastAt_darkRun (n : ℕ) : lastAt 0 (darkRun n) = 3000 * n := by
  cases n <;> rfl

theorem lastPoll_darkRun {n p : ℕ} (h : lastPoll (darkRun n) = some p) : p = 3000 * n := by
  cases n with
  | zero => cases h
  | succ n =>
    cases h
    rfl

theorem newestSample_darkRun {n : ℕ} {m : Measurement} {taken t : ℕ}
    (h : newestSample (darkRun n) = some (m, taken, t)) : taken = 3000 * n := by
  cases n with
  | zero => cases h
  | succ n =>
    cases h
    rfl

theorem delivered_darkRun {n : ℕ} {m : Measurement} (hm : m.Finite) :
    Delivered exampleConfig 0 (darkRun n) (.update m (3000 * (n + 1)) (3000 * (n + 1))) := by
  refine delivered_update ?_ ?_ hm (by omega) ?_
  · rw [lastAt_darkRun]
    omega
  · intro p hp
    rw [lastPoll_darkRun hp]
    have hlimit : exampleConfig.maxMeasurementAgeMs.toNat = 3000 := rfl
    rw [hlimit]
    omega
  · rintro ⟨m', taken', t'⟩ hnewest
    have htaken := newestSample_darkRun hnewest
    dsimp only
    omega

theorem every_delivered_darkRun (n : ℕ) :
    Run.Every (Delivered exampleConfig 0) (darkRun n) := by
  induction n with
  | zero => trivial
  | succ n ih => exact ⟨delivered_darkRun (by decide), ih⟩

/-- A waiting core waits on with a no-mains sample, evaluated or ignored. -/
theorem update_noMains {c : ProtectionCore} {m : Measurement} {nowMs : Millis}
    (hs : c.state = .init) (ha : c.awaitingFirstSample = true)
    (hrow : c.config.classify m nowMs = .noMains) :
    (c.update m nowMs).2.state = .init ∧ (c.update m nowMs).2.awaitingFirstSample = true ∧
      (c.update m nowMs).2.rearmMs = c.rearmMs := by
  rcases c.update_cases m with hf | ⟨hs', hi⟩ | he
  · rw [hs] at hf
    cases hf
  · rw [update_of_ignores hs' hi]
    exact ⟨hs, ha, rfl⟩
  · rw [update_of_evaluates he, evaluate_eq]
    dsimp only
    rw [hrow]
    exact ⟨rfl, rfl, rfl⟩

/-- Without mains the core waits in INIT with its gate armed, and the re-arm point
stays where `begin` put it. -/
theorem waits_darkRun (n : ℕ) :
    (timedRun (new exampleConfig) 0 (darkRun n)).state = .init ∧
      (timedRun (new exampleConfig) 0 (darkRun n)).awaitingFirstSample = true ∧
      (timedRun (new exampleConfig) 0 (darkRun n)).rearmMs = millis 0 := by
  induction n with
  | zero => exact ⟨rfl, rfl, rfl⟩
  | succ n ih =>
    obtain ⟨hs, ha, hr⟩ := ih
    have hrow : (timedRun (new exampleConfig) 0 (darkRun n)).config.classify
        ((meterSample 0.0 0.0 0).stamped (3000 * (n + 1))) (millis (3000 * (n + 1)))
          = .noMains := by
      rw [run_config]
      show exampleConfig.classify _ _ = _
      rw [ProtectionConfig.classify_eq_row exampleConfig_finite (by decide) (by decide) (le_refl _)
        (by simp), Nat.sub_self]
      decide
    obtain ⟨hs', ha', hr'⟩ := update_noMains hs ha hrow
    exact ⟨hs', ha', hr'.trans hr⟩

/-- Nothing re-arms in the policy's log either. -/
theorem rearmedAt_darkRun (n : ℕ) :
    rearmedAt 0 (policyLog (new exampleConfig) 0 (darkRun n)) = 0 := by
  induction n with
  | zero => rfl
  | succ n ih =>
    simp only [darkRun, policyLog, policyEvents]
    split <;> exact ih

/-- Half a turn of the clock after the start, the good sample is ignored. -/
theorem mainsLossRun_init {n t : ℕ} (hlow : 2 ^ 31 ≤ t) (hhigh : t < 2 ^ 32) :
    (timedRun (new exampleConfig) 0 (mainsLossRun n t)).state = .init := by
  obtain ⟨hs, ha, hr⟩ := waits_darkRun n
  rw [mainsLossRun, timedRun, run_cons]
  simp only [TimedCall.call, step]
  rw [update_of_ignores (by rw [hs]; simp)]
  · exact hs
  · have hneg := (@WrappedClock.toInt_sub_reading_neg_iff 32 0 t (Nat.zero_le _)).mpr
      (by rw [Nat.sub_zero, Nat.mod_eq_of_lt hhigh]; omega)
    rw [ignores, ha, hr, Bool.true_and, decide_eq_true_eq]
    exact hneg

/-- What following the table says of the newest update. -/
theorem FollowsPolicy.outcome {c₀ : ProtectionCore} {start : ℕ} {earlier : List TimedCall}
    {m : Measurement} {taken t : ℕ} (h : FollowsPolicy c₀ start (.update m taken t :: earlier))
    (hs : (timedRun c₀ start earlier).state ≠ .fault)
    (hafter : rearmedAt start (policyLog c₀ start earlier) ≤ taken) :
    c₀.config.Outcome (c₀.config.row m (t - taken))
      (SafeSeen c₀.config.NoMains c₀.config.Safe (policyLog c₀ start earlier))
      (t - (overSince (policyLog c₀ start earlier)).getD t)
      (timedRun c₀ start (.update m taken t :: earlier)).state
      (timedRun c₀ start (.update m taken t :: earlier)).fault.activeFault :=
  h.head hs hafter

/-- The core stays in INIT, where the table has NORMAL: no such run follows it, at
whatever instant of the second half turn the mains return. -/
theorem not_followsPolicy_of_half_turn {n t : ℕ} (hlow : 2 ^ 31 ≤ t) (hhigh : t < 2 ^ 32) :
    ¬ FollowsPolicy (new exampleConfig) 0 (mainsLossRun n t) := by
  intro h
  have hrow : exampleConfig.row (meterSample 230.0 100.0 0) 0 = .normal := by decide
  have hstate : (timedRun (new exampleConfig) 0 (darkRun n)).state ≠ .fault := by
    rw [(waits_darkRun n).1]
    simp
  have hrearm : rearmedAt 0 (policyLog (new exampleConfig) 0 (darkRun n)) ≤ t := by
    rw [rearmedAt_darkRun n]
    exact Nat.zero_le _
  have hinit := @mainsLossRun_init n t hlow hhigh
  rw [mainsLossRun] at h hinit
  have hstep := h.outcome hstate hrearm
  rw [Nat.sub_self, hinit, show (new exampleConfig).config = exampleConfig from rfl, hrow] at hstep
  cases hstep.1

/-- **The table fails**: with the documented values, after 24.9 days without
mains the first good sample leaves INIT where the table has NORMAL. -/
theorem mainsLoss_not_followsPolicy :
    exampleConfig.Finite ∧ exampleConfig.warningPowerW ≤ exampleConfig.faultPowerW ∧
      Run.Every (Delivered exampleConfig 0) (mainsLossRun 715828 2147487000) ∧
      ¬ FollowsPolicy (new exampleConfig) 0 (mainsLossRun 715828 2147487000) :=
  ⟨exampleConfig_finite, by decide,
    ⟨@delivered_darkRun 715828 (meterSample 230.0 100.0 0) (by decide),
      every_delivered_darkRun _⟩,
    not_followsPolicy_of_half_turn (by omega) (by omega)⟩

/-- While the stamps are in the first half turn, each sample without mains is
evaluated, and moves the silence clock. -/
theorem lastSampleMs_darkRun {n : ℕ} (hn : 3000 * n < 2 ^ 31) :
    (timedRun (new exampleConfig) 0 (darkRun n)).lastSampleMs = millis (3000 * n) := by
  cases n with
  | zero => rfl
  | succ n =>
    obtain ⟨hs, ha, hr⟩ := waits_darkRun n
    have hfirst : ¬ ((millis (3000 * (n + 1)) - millis 0).toInt < 0) :=
      mt (WrappedClock.toInt_sub_reading_neg_iff (Nat.zero_le _)).mp (by
        rw [Nat.sub_zero, Nat.mod_eq_of_lt (by omega)]
        omega)
    have he : (timedRun (new exampleConfig) 0 (darkRun n)).evaluates
        ((meterSample 0.0 0.0 0).stamped (3000 * (n + 1))) = true := by
      simp only [evaluates, ignores, ha, hr, hs, Measurement.stamped, Bool.true_and]
      rw [decide_eq_false hfirst]
      rfl
    exact update_lastSampleMs (.inr he)

/-- With stamps in the second half turn, a sample without mains that is ignored
comes out as the table has it, but it does not move the silence clock: a tick
1 ms later takes it for missing. -/
theorem ignored_noMains_not_followsPolicy {n : ℕ} (hlast : 3000 * n < 2 ^ 31)
    (hnext : 2 ^ 31 ≤ 3000 * (n + 1)) :
    Run.Every (Delivered exampleConfig 0) (.tick (3000 * (n + 1) + 1) :: darkRun (n + 1)) ∧
      ¬ FollowsPolicy (new exampleConfig) 0 (.tick (3000 * (n + 1) + 1) :: darkRun (n + 1)) := by
  have hlimit : exampleConfig.maxMeasurementAgeMs = millis 3000 := rfl
  constructor
  · refine ⟨⟨?_, fun _ p hp => ?_, nofun, nofun, nofun⟩, every_delivered_darkRun _⟩
    · rw [lastAt_darkRun]
      exact Nat.le_succ _
    · rw [lastPoll_darkRun hp]
      simp only [TimedCall.at_, hlimit]
      show 3000 * (n + 1) + 1 - 3000 * (n + 1) ≤ 3000
      omega
  · intro h
    obtain ⟨hs, ha, hr⟩ := waits_darkRun n
    have hclock : (timedRun (new exampleConfig) 0 (darkRun (n + 1))).lastSampleMs
        = millis (3000 * n) := by
      have hneg : (millis (3000 * (n + 1)) - millis 0).toInt < 0 :=
        (WrappedClock.toInt_sub_reading_neg_iff (Nat.zero_le _)).mpr (by
          rw [Nat.sub_zero, Nat.mod_eq_of_lt (by omega)]
          omega)
      have hi : (timedRun (new exampleConfig) 0 (darkRun n)).ignores
          ((meterSample 0.0 0.0 0).stamped (3000 * (n + 1))) = true := by
        simp only [ignores, ha, hr, Measurement.stamped, Bool.true_and]
        exact decide_eq_true hneg
      rw [darkRun, timedRun, run_cons]
      simp only [TimedCall.call, step]
      rw [update_of_ignores (by rw [hs]; simp) hi]
      exact lastSampleMs_darkRun hlast
    have hstate : (timedRun (new exampleConfig) 0 (darkRun (n + 1))).state = .init :=
      (waits_darkRun (n + 1)).1
    have hsilent : (timedRun (new exampleConfig) 0 (darkRun (n + 1))).silent
        (millis (3000 * (n + 1) + 1)) = true := by
      have hlong : exampleConfig.maxMeasurementAgeMs
          < millis (3000 * (n + 1) + 1) - millis (3000 * n) := by
        rw [hlimit]
        simp only [BitVec.lt_def, millis]
        rw [WrappedClock.toNat_sub_reading (by omega),
          show 3000 * (n + 1) + 1 - 3000 * n = 3001 by omega]
        decide
      rw [silent, hclock, hstate, run_config, Bool.and_eq_true]
      exact ⟨rfl, decide_eq_true hlong⟩
    have hfault : (timedRun (new exampleConfig) 0
        (.tick (3000 * (n + 1) + 1) :: darkRun (n + 1))).state = .fault := by
      rw [timedRun, run_cons]
      simp only [TimedCall.call, step, tick_eq]
      rw [if_pos hsilent, raiseFault_eq (by simp)]
    have hquiet := h.head (by rw [hstate]; simp) hfault (meterSample 0.0 0.0 0) (3000 * (n + 1))
      (3000 * (n + 1)) List.mem_cons_self (by rw [rearmedAt_darkRun]; exact Nat.zero_le _)
    have : 3000 < 3000 * (n + 1) + 1 - 3000 * (n + 1) := hquiet
    omega

end ProtectionCore

end EnergyController
