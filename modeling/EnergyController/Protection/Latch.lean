/-
EnergyController.Protection.Latch — the fault latch and the reset interlock
(`docs/fault-management.md` §2 to §4), over whole runs.

`LatchKept` is what a latched core owes to the moment it latched: the state,
and the record of the first cause up to its acknowledgement. Every call keeps
it except an accepted reset (`latchKept_step`, lifted by the invariant rule
for runs whose steps meet a condition). `resetAnswer` is the interlock's table
as a function of the history; `latch_and_interlock` puts the parts together.
-/
import EnergyController.Protection.History

namespace EnergyController

/-- The interlock's answer, from whether a fault is active and the newest
sample passed since start-up. -/
def ProtectionConfig.resetAnswer (k : ProtectionConfig) (active : Bool)
    (newest : Option Measurement) (nowMs : Millis) : ResetResult :=
  if active = false then .rejectedNoActiveFault
  else
    match newest with
    | none => .rejectedNoMeasurement
    | some m =>
      if k.maxMeasurementAgeMs < nowMs - m.timestamp then .rejectedStaleMeasurement
      else if m.valid = false then .rejectedInvalidMeasurement
      else if m.power > k.faultPowerW then .rejectedUnsafeCondition
      else .accepted

namespace ProtectionCore

/-- The call is not a reset request that `c` accepts. -/
def NoAcceptedReset (c : ProtectionCore) (call : CoreCall) : Prop :=
  ∀ nowMs, call = .requestReset nowMs → (c.requestReset nowMs).1 ≠ .accepted

/-- `c'` is still in the latch that `c` was in: nothing of the record changed
but the acknowledgement, and that at most from false to true. -/
structure LatchKept (c c' : ProtectionCore) : Prop where
  state : c'.state = .fault
  record : c'.fault = { c.fault with acknowledged := c'.fault.acknowledged }
  acknowledged : c.fault.acknowledged = true → c'.fault.acknowledged = true

theorem LatchKept.refl {c : ProtectionCore} (h : c.state = .fault) : LatchKept c c :=
  ⟨h, rfl, id⟩

theorem LatchKept.trans {c c' c'' : ProtectionCore} (h : LatchKept c c')
    (h' : LatchKept c' c'') : LatchKept c c'' :=
  ⟨h'.state, by rw [h'.record, h.record], fun ha => h'.acknowledged (h.acknowledged ha)⟩

/-- Raising a fault on a latched core changes nothing of the record. -/
theorem latchKept_raiseFault {c : ProtectionCore} (ha : c.fault.active = true)
    {fault : FaultCode} (hf : fault ≠ .none) (nowMs : Millis) :
    LatchKept c (c.raiseFault fault nowMs) := by
  rw [raiseFault_eq hf, FaultManager.raise_of_active ha]
  exact ⟨rfl, rfl, id⟩

theorem latchKept_step {c : ProtectionCore} (hs : c.state = .fault)
    (ha : c.fault.active = true) {call : CoreCall} (hcall : c.NoAcceptedReset call) :
    LatchKept c (c.step call) := by
  cases call with
  | update m nowMs =>
    simp only [step, update_of_fault hs]
    exact ⟨hs, rfl, id⟩
  | tick nowMs =>
    simp only [step, tick_eq]
    split
    · exact latchKept_raiseFault ha (by simp) nowMs
    · exact .refl hs
  | requestReset nowMs =>
    simp only [step, requestReset_of_rejected (hcall nowMs rfl)]
    exact ⟨hs, rfl, id⟩
  | acknowledge =>
    simp only [step, acknowledge_of_active ha]
    exact ⟨hs, rfl, fun _ => rfl⟩
  | raiseInternalFault nowMs =>
    show LatchKept c (c.raiseFault .protectionInternal nowMs)
    exact latchKept_raiseFault ha (by simp) nowMs
  | snapshot nowMs => exact .refl hs

/-- The latch lasts as long as no reset is accepted. -/
theorem latchKept_run {c : ProtectionCore} (hs : c.state = .fault) (ha : c.fault.active = true)
    {later : List CoreCall}
    (hlater : Run.Meets (fun c call => c.step call) NoAcceptedReset c later) :
    LatchKept c (run id c later) := by
  refine Run.invariant_of_meets (LatchKept.refl hs) (fun c' call hcall hkept => ?_) hlater
  have ha' : c'.fault.active = true := by rw [hkept.record]; exact ha
  exact hkept.trans (latchKept_step hkept.state ha' hcall)

/-! ## The interlock and the history -/

section

variable (c₀ : ProtectionCore) (t₀ : Millis) (calls : List CoreCall)

/-- The interlock answers from the history. -/
theorem requestReset_fst (nowMs : Millis) :
    ((run id (c₀.begin t₀) calls).requestReset nowMs).1
      = c₀.config.resetAnswer (run id (c₀.begin t₀) calls).fault.active
          ((newest id CoreCall.nowMs calls).map Prod.fst) nowMs := by
  have hhave := haveMeasurement_newest id CoreCall.nowMs c₀ t₀ calls
  have hlast := @last_newest _ _ id CoreCall.nowMs c₀ t₀ calls
  have hconfig := run_config id (c₀.begin t₀) calls
  rw [requestReset_eq]
  simp only [resetResult, ProtectionConfig.resetAnswer, hhave, hconfig, Bool.not_eq_true']
  cases hnew : newest id CoreCall.nowMs calls with
  | none => rfl
  | some mt =>
    obtain ⟨m, t⟩ := mt
    rw [hlast hnew]
    rfl

theorem resetAnswer_accepted_iff (k : ProtectionConfig) (active : Bool)
    (newest : Option Measurement) (nowMs : Millis) :
    k.resetAnswer active newest nowMs = .accepted ↔
      active = true ∧ ∃ m, newest = some m ∧ m.valid = true ∧
        nowMs - m.timestamp ≤ k.maxMeasurementAgeMs ∧ ¬ m.power > k.faultPowerW := by
  cases active with
  | false => simp [ProtectionConfig.resetAnswer]
  | true =>
    cases newest with
    | none => simp [ProtectionConfig.resetAnswer]
    | some m =>
      simp only [ProtectionConfig.resetAnswer, Bool.true_eq_false, if_false]
      split
      · rename_i hstale
        simp [BitVec.not_le.mpr hstale]
      · rename_i hfresh
        rw [BitVec.not_lt] at hfresh
        split
        · simp_all
        · split <;> simp_all

end

/-! ## After an accepted reset -/

/-- Until a sample is passed, a re-armed core does not supply the load. -/
theorem not_operating_run {c : ProtectionCore} (h : c.state.isOperating = false)
    {later : List CoreCall} (hlater : ∀ m nowMs, .update m nowMs ∉ later) :
    (run id c later).state.isOperating = false := by
  induction later with
  | nil => exact h
  | cons call earlier ih =>
    rw [Bool.eq_false_iff]
    intro hon
    have hcall : ∀ m nowMs, id call ≠ .update m nowMs := by
      rintro m nowMs rfl
      exact hlater m nowMs List.mem_cons_self
    have hoff := ih fun m nowMs hm => hlater m nowMs (List.mem_cons_of_mem _ hm)
    rw [run_cons] at hon
    simp [(step_operating _ hcall hon).1] at hoff

theorem not_operating_iff {s : SystemState} :
    s.isOperating = false ↔ s = .init ∨ s = .fault := by
  cases s <;> simp [SystemState.isOperating]

/-- Only an accepted reset leaves the latch. -/
theorem accepted_of_leaves {c : ProtectionCore} (hs : c.state = .fault)
    (ha : c.fault.active = true) {call : CoreCall} (hleft : (c.step call).state ≠ .fault) :
    ∃ nowMs, call = .requestReset nowMs ∧ (c.requestReset nowMs).1 = .accepted := by
  by_cases hcall : c.NoAcceptedReset call
  · exact absurd (latchKept_step hs ha hcall).state hleft
  · obtain ⟨nowMs, hcall⟩ := Classical.not_forall.mp hcall
    obtain ⟨rfl, hacc⟩ := Classical.not_imp.mp hcall
    exact ⟨nowMs, rfl, Classical.not_not.mp hacc⟩

/-- When the interlock accepts, in terms of the history. -/
theorem accepted_iff_newest (c₀ : ProtectionCore) (t₀ : Millis) (calls : List CoreCall)
    (nowMs : Millis) :
    ((run id (c₀.begin t₀) calls).requestReset nowMs).1 = .accepted ↔
      (run id (c₀.begin t₀) calls).fault.active = true ∧
        ∃ m t, newest id CoreCall.nowMs calls = some (m, t) ∧ m.valid = true ∧
          nowMs - m.timestamp ≤ c₀.config.maxMeasurementAgeMs ∧
          ¬ m.power > c₀.config.faultPowerW := by
  rw [requestReset_fst, resetAnswer_accepted_iff]
  refine and_congr_right fun _ => ?_
  constructor
  · rintro ⟨m, hm, hgood⟩
    obtain ⟨⟨m', t⟩, hnew, rfl⟩ := Option.map_eq_some_iff.mp hm
    exact ⟨m', t, hnew, hgood⟩
  · rintro ⟨m, t, hnew, hgood⟩
    exact ⟨m, by simp [hnew], hgood⟩

/-- The first update after an accepted reset at `nowMs` keeps the load off,
unless its sample passes the gate and is not over the threshold. -/
theorem update_after_reset {c : ProtectionCore} (hc : c.WellFormed) {nowMs : Millis}
    (hacc : (c.requestReset nowMs).1 = .accepted) (between : List CoreCall)
    (hbetween : ∀ m t, .update m t ∉ between) (m : Measurement) (t : Millis) :
    let c' := run id (c.step (.requestReset nowMs)) between
    ((c'.update m t).2.state = .init ∨ (c'.update m t).2.state = .fault) ∨
      (¬ (m.timestamp - rearmedAt nowMs
          (log id CoreCall.nowMs (c.step (.requestReset nowMs)) between)).toInt < 0 ∧
        ¬ m.power > c.config.faultPowerW) := by
  intro c'
  have hrearmed : c.step (.requestReset nowMs) = c.rearmed nowMs :=
    requestReset_of_accepted hacc
  have hoff : (c.step (.requestReset nowMs)).state.isOperating = false := by
    rw [hrearmed]
    rfl
  have hgate : c'.rearmMs = rearmedAt nowMs _ :=
    rearmMs_rearmedAt id CoreCall.nowMs id CoreCall.at_nowMs (by rw [hrearmed]; rfl) between
  rcases hon : (c'.step (.update m t)).state.isOperating with _ | _
  · exact .inl (not_operating_iff.mp hon)
  · have hwell : c'.WellFormed := (hc.step _).run between
    obtain ⟨m', t', heq, hsafe, hpass⟩ :=
      energised_step hwell (not_operating_run hoff hbetween) hon
    cases heq
    rw [hgate] at hpass
    have hconfig : c'.config = c.config := (run_config id _ between).trans (step_config c _)
    rw [hconfig] at hsafe
    exact .inr ⟨hpass, (ProtectionConfig.of_isSafe_classify hsafe).2.2.2⟩

/-- **Latch, first cause and reset interlock**, for every run from `begin`. -/
theorem latch_and_interlock (c₀ : ProtectionCore) (t₀ : Millis) (calls : List CoreCall) :
    let k := c₀.config
    let c := run id (c₀.begin t₀) calls
    -- the latch holds, with its first cause
    (c.state = .fault → ∀ later,
      Run.Meets (fun c call => c.step call) NoAcceptedReset c later →
      LatchKept c (run id c later)) ∧
    -- it is left only by an accepted reset
    (∀ call, c.state = .fault → (c.step call).state ≠ .fault →
      ∃ nowMs, call = .requestReset nowMs ∧ (c.requestReset nowMs).1 = .accepted) ∧
    -- which needs an active fault and a good newest sample
    (∀ nowMs, (c.requestReset nowMs).1 = .accepted ↔
      c.fault.active = true ∧ ∃ m t, newest id CoreCall.nowMs calls = some (m, t) ∧
        m.valid = true ∧ nowMs - m.timestamp ≤ k.maxMeasurementAgeMs ∧
        ¬ m.power > k.faultPowerW) ∧
    -- after it the state is INIT, and the next update keeps the relay off
    -- unless its sample passes the gate and is not over the threshold
    (∀ nowMs, (c.requestReset nowMs).1 = .accepted →
      (c.step (.requestReset nowMs)).state = .init ∧
      ∀ between m t, (∀ m' t', .update m' t' ∉ between) →
        let c' := run id (c.step (.requestReset nowMs)) between
        ((c'.update m t).2.state = .init ∨ (c'.update m t).2.state = .fault) ∨
          (¬ (m.timestamp - rearmedAt nowMs
              (log id CoreCall.nowMs (c.step (.requestReset nowMs)) between)).toInt < 0 ∧
            ¬ m.power > k.faultPowerW)) ∧
    -- a rejected reset has its documented reason and only records it
    (∀ nowMs, (c.requestReset nowMs).1
        = k.resetAnswer c.fault.active ((newest id CoreCall.nowMs calls).map Prod.fst) nowMs ∧
      ((c.requestReset nowMs).1 ≠ .accepted →
        (c.requestReset nowMs).2 = { c with lastReset := (c.requestReset nowMs).1 })) := by
  intro k c
  have hwell : c.WellFormed := wellFormed_run id c₀ t₀ calls
  have hconfig : c.config = k := run_config id (c₀.begin t₀) calls
  obtain ⟨mode, href⟩ := id hwell
  refine ⟨?_, ?_, ?_, ?_, ?_⟩
  · intro hs later hlater
    exact latchKept_run hs (href.active_iff.mpr hs) hlater
  · intro call hs hleft
    exact accepted_of_leaves hs (href.active_iff.mpr hs) hleft
  · intro nowMs
    exact accepted_iff_newest c₀ t₀ calls nowMs
  · intro nowMs hacc
    refine ⟨by simp only [step, requestReset_of_accepted hacc, rearmed], ?_⟩
    intro between m t hbetween
    rw [← hconfig]
    exact update_after_reset hwell hacc between hbetween m t
  · intro nowMs
    exact ⟨requestReset_fst c₀ t₀ calls nowMs, requestReset_of_rejected⟩

end ProtectionCore

end EnergyController
