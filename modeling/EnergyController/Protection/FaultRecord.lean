/-
EnergyController.Protection.FaultRecord — the fault record as a function of
the history.

A transition into FAULT is a call that finds the core outside FAULT and leaves
it in FAULT (`latches`); `transitions` lists those of a run with their cause
and call time. `step_fault` says once what a call does to the record: a
transition writes all seven fields, an accepted reset clears the active part,
an acknowledgement marks an active fault, and no other call touches it.
`Records` is what the record owes to the history; each of the three writes
keeps it, and so does every run from `begin` (`records_run`).
-/
import EnergyController.Protection.Latch

namespace EnergyController

/-- The fault that the policy table assigns to a row. -/
def Verdict.cause : Verdict → FaultCode
  | .stale => .sensorStale
  | .invalid => .sensorInvalid
  | .overload => .overpower
  | .noMains => .none
  | .elevated => .none
  | .normal => .none

/-- A transition into FAULT. -/
structure Transition where
  cause : FaultCode
  time : Millis
  deriving DecidableEq

/-- The record once the active fault is cleared. -/
def FaultManager.clearActive (f : FaultManager) : FaultManager :=
  { f with activeFault := .none, active := false, acknowledged := false, activeSince := 0 }

namespace ProtectionCore

/-- The fault that a call would raise. -/
def cause (c : ProtectionCore) : CoreCall → FaultCode
  | .update m nowMs => (c.config.classify m nowMs).cause
  | .tick _ => .sensorStale
  | .raiseInternalFault _ => .protectionInternal
  | .requestReset _ => .none
  | .acknowledge => .none
  | .snapshot _ => .none

/-- The call is a transition into FAULT. -/
def latches (c : ProtectionCore) (call : CoreCall) : Bool :=
  c.state != .fault && (c.step call).state == .fault

/-- The transitions into FAULT of a run, newest first. -/
def transitions (c : ProtectionCore) (calls : List CoreCall) : List Transition :=
  Run.observed (fun c call => c.step call)
    (fun c call => if c.latches call then [⟨c.cause call, call.nowMs⟩] else []) c calls

/-- The calls made since the newest transition into FAULT, newest first. -/
def sinceLatched (c : ProtectionCore) : List CoreCall → List CoreCall
  | [] => []
  | call :: earlier =>
    if (run id c earlier).latches call then [] else call :: sinceLatched c earlier

/-! ## What a call does to the record -/

section

variable {c : ProtectionCore} {call : CoreCall}

/-- The record after a call that is no transition. -/
def keptRecord (c : ProtectionCore) : CoreCall → FaultManager
  | .requestReset nowMs =>
    if (c.requestReset nowMs).1 = .accepted then c.fault.clearActive else c.fault
  | .acknowledge => if c.fault.active then { c.fault with acknowledged := true } else c.fault
  | .update _ _ => c.fault
  | .tick _ => c.fault
  | .raiseInternalFault _ => c.fault
  | .snapshot _ => c.fault

theorem latches_eq_false_iff :
    c.latches call = false ↔ c.state = .fault ∨ (c.step call).state ≠ .fault := by
  simp [latches, or_iff_not_imp_left]

/-- In FAULT the record changes by a reset or an acknowledgement only. -/
theorem step_fault_of_latched (hs : c.state = .fault) (ha : c.fault.active = true) :
    (c.step call).fault = c.keptRecord call := by
  cases call with
  | update m nowMs => simp only [step, update_of_fault hs, keptRecord]
  | tick nowMs => simp [step, tick_eq, silent, hs, keptRecord]
  | requestReset nowMs =>
    by_cases hacc : (c.requestReset nowMs).1 = .accepted
    · simp only [step, requestReset_of_accepted hacc, keptRecord, if_pos hacc]
      rfl
    · simp only [step, requestReset_of_rejected hacc, keptRecord, if_neg hacc]
  | acknowledge => simp [step, acknowledge_of_active ha, keptRecord, ha]
  | raiseInternalFault nowMs =>
    simp [step, raiseInternalFault, raiseFault_eq, FaultManager.raise_of_active ha, keptRecord]
  | snapshot nowMs => rfl

/-- A row either raises its fault or leaves the record and FAULT alone. -/
theorem react_fault (c : ProtectionCore) (v : Verdict) (nowMs : Millis) :
    ((c.react v nowMs).state = .fault ∧
        (c.react v nowMs).fault = c.fault.raise v.cause nowMs) ∨
      ((c.react v nowMs).state ≠ .fault ∧ (c.react v nowMs).fault = c.fault) := by
  cases v with
  | stale => simp [react, raiseFault_eq, Verdict.cause]
  | invalid => simp [react, raiseFault_eq, Verdict.cause]
  | noMains => simp [react]
  | elevated => simp [react]
  | normal => simp [react]
  | overload =>
    cases ha : c.awaitingFirstSample with
    | true => simp [react, overload_of_awaiting ha, raiseFault_eq, Verdict.cause]
    | false =>
      by_cases hc : c.config.faultConfirmMs ≤ nowMs - c.confirmStart nowMs
      · simp [react, overload_of_confirmed ha hc, raiseFault_eq, Verdict.cause]
      · simp [react, overload_of_running ha hc]

/-- Outside FAULT a call either raises its fault or keeps the record. -/
theorem step_fault_of_unlatched (hs : c.state ≠ .fault) (ha : c.fault.active = false) :
    ((c.step call).state = .fault ∧
        (c.step call).fault = c.fault.raise (c.cause call) call.nowMs) ∨
      ((c.step call).state ≠ .fault ∧ (c.step call).fault = c.fault) := by
  cases call with
  | update m nowMs =>
    rcases c.update_cases m with hf | ⟨-, hi⟩ | he
    · exact absurd hf hs
    · exact .inr (by simpa [step, update_of_ignores hs hi] using hs)
    · simp only [step, update_of_evaluates he, evaluate_eq]
      exact react_fault { c with last := m, haveMeasurement := true, lastSampleMs := nowMs } _ nowMs
  | tick nowMs =>
    simp only [step, tick_eq]
    split
    · exact .inl (by simp [raiseFault_eq, cause, CoreCall.nowMs])
    · exact .inr ⟨hs, rfl⟩
  | requestReset nowMs =>
    have hrej : (c.requestReset nowMs).1 ≠ .accepted := by simp [requestReset_eq, resetResult, ha]
    exact .inr (by simpa [step, requestReset_of_rejected hrej] using hs)
  | acknowledge => exact .inr (by simpa [step, acknowledge_of_inactive ha] using hs)
  | raiseInternalFault nowMs =>
    exact .inl (by simp [step, raiseInternalFault, raiseFault_eq, cause, CoreCall.nowMs])
  | snapshot nowMs => exact .inr ⟨hs, rfl⟩

/-- **What a call does to the record.** -/
theorem step_fault (hactive : c.fault.active = true ↔ c.state = .fault) (call : CoreCall) :
    (c.step call).fault
      = if c.latches call then
          { activeFault := c.cause call, lastFault := c.cause call, activeSince := call.nowMs,
            lastFaultTime := call.nowMs, totalFaults := c.fault.totalFaults + 1,
            active := true, acknowledged := false }
        else c.keptRecord call := by
  by_cases hs : c.state = .fault
  · rw [latches_eq_false_iff.mpr (.inl hs)]
    exact step_fault_of_latched hs (hactive.mpr hs)
  · have ha : c.fault.active = false := by
      rw [Bool.eq_false_iff, Ne, hactive]
      exact hs
    rcases @step_fault_of_unlatched c call hs ha with ⟨hs', hf⟩ | ⟨hs', hf⟩
    · have hl : c.latches call = true := by simp [latches, hs, hs']
      simp [hl, hf, FaultManager.raise, ha]
    · rw [latches_eq_false_iff.mpr (.inr hs'), hf]
      -- no fault is active, so neither a reset nor an acknowledgement writes
      cases call with
      | requestReset nowMs => simp [keptRecord, requestReset_eq, resetResult, ha]
      | acknowledge => simp [keptRecord, ha]
      | _ => rfl

end

/-! ## The record and the history -/

/-- What the record owes to the transitions so far and to the calls since the
newest one. -/
structure Records (f : FaultManager) (past : List Transition) (since : List CoreCall) :
    Prop where
  total : f.totalFaults = BitVec.ofNat 32 past.length
  newest : ∀ tr, past.head? = some tr → f.lastFault = tr.cause ∧ f.lastFaultTime = tr.time
  active : f.active = true → f.activeFault = f.lastFault ∧ f.activeSince = f.lastFaultTime
  inactive : f.active = false → f.activeFault = .none ∧ f.activeSince = 0
  acknowledged : f.acknowledged = true ↔ f.active = true ∧ .acknowledge ∈ since

section

variable {f : FaultManager} {past : List Transition} {since : List CoreCall}

theorem records_begin : Records .cleared [] [] := by
  refine ⟨rfl, ?_, ?_, ?_, ?_⟩ <;> simp [FaultManager.cleared]

/-- A transition writes the record anew. -/
theorem Records.transition (h : Records f past since) (tr : Transition) :
    Records
      { activeFault := tr.cause, lastFault := tr.cause, activeSince := tr.time,
        lastFaultTime := tr.time, totalFaults := f.totalFaults + 1, active := true,
        acknowledged := false }
      (tr :: past) [] := by
  refine ⟨?_, ?_, ?_, ?_, ?_⟩
  · rw [List.length_cons, BitVec.ofNat_add, h.total]
    rfl
  · rintro _ ⟨⟩
    exact ⟨rfl, rfl⟩
  · exact fun _ => ⟨rfl, rfl⟩
  · simp
  · simp

/-- An accepted reset keeps the last fault and its time. -/
theorem Records.cleared (h : Records f past since) (since' : List CoreCall) :
    Records f.clearActive past since' := by
  refine ⟨h.total, h.newest, ?_, ?_, ?_⟩ <;> simp [FaultManager.clearActive]

theorem Records.acknowledge (h : Records f past since) (ha : f.active = true) :
    Records { f with acknowledged := true } past (.acknowledge :: since) :=
  ⟨h.total, h.newest, h.active, h.inactive, by simp [ha]⟩

/-- A call that does not write the record, and is no acknowledgement of an
active fault. -/
theorem Records.kept (h : Records f past since) {call : CoreCall}
    (hcall : f.active = true → call ≠ .acknowledge) : Records f past (call :: since) := by
  refine ⟨h.total, h.newest, h.active, h.inactive, h.acknowledged.trans ?_⟩
  refine and_congr_right fun ha => ?_
  simp [(hcall ha).symm]

theorem Records.keptRecord {c : ProtectionCore} (h : Records c.fault past since)
    (call : CoreCall) : Records (c.keptRecord call) past (call :: since) := by
  cases call with
  | requestReset nowMs =>
    simp only [ProtectionCore.keptRecord]
    split
    · exact h.cleared _
    · exact h.kept (by simp)
  | acknowledge =>
    simp only [ProtectionCore.keptRecord]
    split
    · rename_i ha
      exact h.acknowledge ha
    · rename_i ha
      exact h.kept (by simp [ha])
  | _ => exact h.kept (by simp)

end

/-- Every run from `begin` keeps the record true to its history. -/
theorem records_run (c₀ : ProtectionCore) (t₀ : Millis) (calls : List CoreCall) :
    Records (run id (c₀.begin t₀) calls).fault (transitions (c₀.begin t₀) calls)
      (sinceLatched (c₀.begin t₀) calls) := by
  induction calls with
  | nil => exact records_begin
  | cons call earlier ih =>
    obtain ⟨mode, href⟩ := wellFormed_run id c₀ t₀ earlier
    rw [run_cons, transitions, Run.observed_cons, sinceLatched]
    simp only [id, step_fault href.active_iff]
    change Records _ ((if (run id (c₀.begin t₀) earlier).latches call then _ else _) ++ _) _
    split
    · exact ih.transition ⟨_, _⟩
    · exact ih.keptRecord call

/-- **The fault record is the history's**: the counter, the last fault, the
active fault and the acknowledgement, for every run from `begin`. -/
theorem faultRecord_history (c₀ : ProtectionCore) (t₀ : Millis) (calls : List CoreCall) :
    let c := run id (c₀.begin t₀) calls
    let past := transitions (c₀.begin t₀) calls
    c.fault.totalFaults = BitVec.ofNat 32 past.length ∧
    -- the newest transition, however many resets were accepted since
    (∀ newest, past.head? = some newest →
      c.fault.lastFault = newest.cause ∧ c.fault.lastFaultTime = newest.time) ∧
    (c.fault.active = true →
      c.fault.activeFault = c.fault.lastFault ∧ c.fault.activeSince = c.fault.lastFaultTime) ∧
    (c.fault.active = false →
      c.fault.activeFault = .none ∧ c.fault.activeSince = 0 ∧ c.fault.acknowledged = false) ∧
    (∀ nowMs, (c.requestReset nowMs).1 = .accepted →
      let f := (c.requestReset nowMs).2.fault
      f.activeFault = .none ∧ f.activeSince = 0 ∧ f.acknowledged = false ∧
        f.lastFault = c.fault.lastFault ∧ f.lastFaultTime = c.fault.lastFaultTime ∧
        f.totalFaults = c.fault.totalFaults) ∧
    (c.fault.acknowledged = true ↔
      c.fault.active = true ∧ .acknowledge ∈ sinceLatched (c₀.begin t₀) calls) := by
  intro c past
  have h := records_run c₀ t₀ calls
  refine ⟨h.total, h.newest, h.active, ?_, ?_, h.acknowledged⟩
  · intro ha
    obtain ⟨hcause, hsince⟩ := h.inactive ha
    refine ⟨hcause, hsince, ?_⟩
    rw [Bool.eq_false_iff]
    intro hack
    have hactive := (h.acknowledged.mp hack).1
    exact absurd hactive (Bool.eq_false_iff.mp ha)
  · intro nowMs hacc
    simp [requestReset_of_accepted hacc, rearmed]

end ProtectionCore

end EnergyController
