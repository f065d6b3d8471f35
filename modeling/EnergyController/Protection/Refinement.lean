/-
EnergyController.Protection.Refinement — `ProtectionCore` follows the policy.

Each call on the core is seen by the abstract machine of `Protection.Policy`
as at most one event (`events`): an evaluated sample with its row, a trip, or
an accepted reset. `Refines` relates a core to a mode; `refines_step` shows
that one call keeps it, and `refines_after` carries it over every run from
`begin`. The relation also says what the core stores about the newest sample
while the load is supplied, so that a state NORMAL or WARNING can be traced
back to the sample that justifies it.

Instants are of any type `τ` with a 32-bit `clock`: `Millis` itself when the
statements are about the wrapped clock, unbounded true time otherwise.
-/
import EnergyController.Protection.CoreTheorems

namespace EnergyController

/-- The state is one of the permitted operating states. -/
def SystemState.isOperating : SystemState → Bool
  | .normal => true
  | .warning => true
  | .init => false
  | .fault => false

theorem SystemState.ne_fault_of_isOperating {s : SystemState} (h : s.isOperating = true) :
    s ≠ .fault := by
  rintro rfl
  cases h

/-- An overload seen since `s` is confirmed at `t`. -/
def ProtectionConfig.confirmed {τ : Type*} (k : ProtectionConfig) (clock : τ → Millis)
    (s t : τ) : Bool :=
  decide (k.faultConfirmMs ≤ clock t - clock s)

/-- No fault is latched. -/
structure FaultManager.Clear (f : FaultManager) : Prop where
  inactive : f.active = false
  no_cause : f.activeFault = .none

/-- The clock value a call is made at, for the calls that take one. -/
def CoreCall.At (r : Millis) : CoreCall → Prop
  | .update _ nowMs => nowMs = r
  | .tick nowMs => nowMs = r
  | .requestReset nowMs => nowMs = r
  | .acknowledge => True
  | .raiseInternalFault nowMs => nowMs = r
  | .snapshot nowMs => nowMs = r

/-- The clock value of a call. An acknowledgement takes none. -/
def CoreCall.nowMs : CoreCall → Millis
  | .update _ nowMs => nowMs
  | .tick nowMs => nowMs
  | .requestReset nowMs => nowMs
  | .acknowledge => 0
  | .raiseInternalFault nowMs => nowMs
  | .snapshot nowMs => nowMs

theorem CoreCall.at_nowMs (call : CoreCall) : (id call).At (id call.nowMs) := by
  cases call <;> first | rfl | trivial

namespace ProtectionCore

variable {τ : Type*}

/-- What the policy sees of a call made at instant `t`. -/
def events (c : ProtectionCore) (call : CoreCall) (t : τ) : List (Event Measurement τ) :=
  match call with
  | .update m nowMs =>
    if c.evaluates m then [.sample m (c.config.classify m nowMs) t] else []
  | .tick nowMs => if c.silent nowMs then [.trip .sensorStale] else []
  | .requestReset nowMs => if c.resetResult nowMs = .accepted then [.rearm t] else []
  | .raiseInternalFault _ => [.trip .protectionInternal]
  | .acknowledge => []
  | .snapshot _ => []

/-- The load is supplied because of the stored sample, which was in row `v`
when it was passed. -/
structure Supplies (c : ProtectionCore) (state : SystemState) (v : Verdict) : Prop where
  unlatched : c.fault.Clear
  state_eq : c.state = state
  not_awaiting : c.awaitingFirstSample = false
  have_measurement : c.haveMeasurement = true
  row : c.config.classify c.last c.lastSampleMs = v

/-- The core is in the given mode. -/
def Refines (clock : τ → Millis) (c : ProtectionCore) : Mode τ → Prop
  | .waiting =>
    c.fault.Clear ∧ c.state = .init ∧ c.awaitingFirstSample = true ∧ c.timerActive = false
  | .supplying .normal => c.Supplies .normal .normal ∧ c.timerActive = false
  | .supplying .elevated => c.Supplies .warning .elevated ∧ c.timerActive = false
  | .supplying (.overload since) =>
    c.Supplies .warning .overload ∧ c.timerActive = true ∧ c.timerStart = clock since ∧
      c.lastSampleMs - clock since < c.config.faultConfirmMs
  | .latched cause =>
    c.state = .fault ∧ c.fault.active = true ∧ c.fault.activeFault = cause ∧
      cause ≠ .none ∧ c.timerActive = false

variable {clock : τ → Millis} {c : ProtectionCore} {mode : Mode τ}

/-! ## Reading a mode off the core -/

theorem Refines.unlatched (h : c.Refines clock mode) (hs : c.state ≠ .fault) :
    c.fault.Clear := by
  rcases mode with _ | (_ | _ | _) | _
  · exact h.1
  · exact h.1.unlatched
  · exact h.1.unlatched
  · exact h.1.unlatched
  · exact absurd h.1 hs

theorem Refines.isLatched_iff (h : c.Refines clock mode) :
    mode.isLatched = true ↔ c.state = .fault := by
  rcases mode with _ | (_ | _ | _) | _
  · simp [h.2.1]
  · simp [h.1.state_eq]
  · simp [h.1.state_eq]
  · simp [h.1.state_eq]
  · simp [h.1]

theorem Refines.isSupplying_iff (h : c.Refines clock mode) :
    mode.isSupplying = true ↔ c.state.isOperating = true := by
  rcases mode with _ | (_ | _ | _) | _
  · simp [h.2.1, Mode.isSupplying, SystemState.isOperating]
  · simp [h.1.state_eq, Mode.isSupplying, SystemState.isOperating]
  · simp [h.1.state_eq, Mode.isSupplying, SystemState.isOperating]
  · simp [h.1.state_eq, Mode.isSupplying, SystemState.isOperating]
  · simp [h.1, Mode.isSupplying, SystemState.isOperating]

/-- The re-arm gate is armed, outside FAULT, exactly while the load waits. -/
theorem Refines.awaiting_iff (h : c.Refines clock mode) (hs : c.state ≠ .fault) :
    c.awaitingFirstSample = true ↔ mode = .waiting := by
  rcases mode with _ | (_ | _ | _) | _
  · simp [h.2.2.1]
  · simp [h.1.not_awaiting]
  · simp [h.1.not_awaiting]
  · simp [h.1.not_awaiting]
  · exact absurd h.1 hs

/-- Outside FAULT, the core operates exactly while the gate is open. -/
theorem Refines.isOperating_iff (h : c.Refines clock mode) (hs : c.state ≠ .fault) :
    c.state.isOperating = true ↔ c.awaitingFirstSample = false := by
  rcases mode with _ | (_ | _ | _) | _
  · simp [h.2.1, h.2.2.1, SystemState.isOperating]
  · simp [h.1.state_eq, h.1.not_awaiting, SystemState.isOperating]
  · simp [h.1.state_eq, h.1.not_awaiting, SystemState.isOperating]
  · simp [h.1.state_eq, h.1.not_awaiting, SystemState.isOperating]
  · exact absurd h.1 hs

theorem Refines.active_iff (h : c.Refines clock mode) :
    c.fault.active = true ↔ c.state = .fault := by
  by_cases hs : c.state = .fault
  · have hl := h.isLatched_iff.mpr hs
    cases mode with
    | waiting => simp at hl
    | supplying load => simp at hl
    | latched cause => simp [hs, h.2.1]
  · simp [hs, (h.unlatched hs).inactive]

/-! ## One call -/

/-- Raising the first fault latches it. -/
theorem refines_raiseFault {fault : FaultCode} (hf : fault ≠ .none) (hu : c.fault.Clear)
    (nowMs : Millis) : (c.raiseFault fault nowMs).Refines clock (.latched fault) := by
  simp [Refines, raiseFault_eq hf, FaultManager.raise, hu.inactive, hf]

/-- A later fault changes nothing of the latch. -/
theorem refines_raiseFault_latched {fault cause : FaultCode} (hf : fault ≠ .none)
    (h : c.Refines clock (.latched cause)) (nowMs : Millis) :
    (c.raiseFault fault nowMs).Refines clock (.latched cause) := by
  obtain ⟨-, hactive, hcause, hne, -⟩ := h
  simp [Refines, raiseFault_eq hf, FaultManager.raise_of_active hactive, hactive, hcause, hne]

theorem refines_trip {fault : FaultCode} (hf : fault ≠ .none) (h : c.Refines clock mode)
    (confirmed : τ → τ → Bool) (nowMs : Millis) :
    (c.raiseFault fault nowMs).Refines clock
      (mode.step confirmed (.trip fault : Event Measurement τ)) := by
  cases mode with
  | waiting => exact refines_raiseFault hf h.1 nowMs
  | supplying load => exact refines_raiseFault hf (h.unlatched (by
      rw [Ne, ← h.isLatched_iff]; simp)) nowMs
  | latched cause => exact refines_raiseFault_latched hf h nowMs

/-- With the gate armed, an over-threshold sample trips at once. -/
theorem refines_overload_awaiting (hu : c.fault.Clear) (ha : c.awaitingFirstSample = true)
    (nowMs : Millis) : (c.overload nowMs).Refines clock (.latched .overpower) := by
  simp [overload, ha, Refines, raiseFault_eq, FaultManager.raise, hu.inactive]

/-- Otherwise the confirmation decides; it runs since `since`. -/
theorem refines_overload_confirm {since t : τ} (hu : c.fault.Clear)
    (ha : c.awaitingFirstSample = false) (hhave : c.haveMeasurement = true)
    (hlast : c.lastSampleMs = clock t) (hrow : c.config.classify c.last (clock t) = .overload)
    (hstart : (if c.timerActive then c.timerStart else clock t) = clock since) :
    (c.overload (clock t)).Refines clock (Mode.confirm (c.config.confirmed clock) since t) := by
  simp only [overload, ha, hstart, Mode.confirm, ProtectionConfig.confirmed, Bool.false_eq_true,
    if_false, decide_eq_true_eq]
  split
  · apply refines_raiseFault
    · simp
    · exact hu
  · rename_i hc
    rw [← hlast] at hrow hc
    exact ⟨⟨hu, rfl, rfl, hhave, hrow⟩, rfl, rfl, BitVec.not_le.mp hc⟩

/-- An evaluated sample. -/
theorem refines_evaluated {t : τ} {m : Measurement} (h : c.Refines clock mode)
    (he : c.evaluates m = true) :
    ((c.update m (clock t)).2).Refines clock
      (mode.react (c.config.confirmed clock) (c.config.classify m (clock t)) t) := by
  obtain ⟨hs, -⟩ := evaluates_iff.mp he
  have hu := h.unlatched hs
  have hmode : mode.isLatched = false := by
    rw [Bool.eq_false_iff, Ne, h.isLatched_iff]
    exact hs
  rw [update_of_evaluates he, evaluate_eq]
  dsimp only
  cases hrow : c.config.classify m (clock t) with
  | overload =>
    rcases mode with _ | (_ | _ | since) | cause
    · apply refines_overload_awaiting
      · exact hu
      · exact h.2.2.1
    · exact refines_overload_confirm hu h.1.not_awaiting rfl rfl hrow (by simp [h.2])
    · exact refines_overload_confirm hu h.1.not_awaiting rfl rfl hrow (by simp [h.2])
    · exact refines_overload_confirm hu h.1.not_awaiting rfl rfl hrow (by simp [h.2])
    · exact absurd h.1 hs
  | stale =>
    rw [Mode.react_settled hmode (by simp)]
    apply refines_raiseFault
    · simp
    · exact hu
  | invalid =>
    rw [Mode.react_settled hmode (by simp)]
    apply refines_raiseFault
    · simp
    · exact hu
  | noMains =>
    rw [Mode.react_settled hmode (by simp)]
    exact ⟨hu, rfl, rfl, rfl⟩
  | elevated =>
    rw [Mode.react_settled hmode (by simp)]
    exact ⟨⟨hu, rfl, rfl, rfl, hrow⟩, rfl⟩
  | normal =>
    rw [Mode.react_settled hmode (by simp)]
    exact ⟨⟨hu, rfl, rfl, rfl, hrow⟩, rfl⟩

theorem Supplies.of_record {state : SystemState} {v : Verdict} (h : c.Supplies state v)
    (acknowledged : Bool) (lastReset : ResetResult) :
    { c with
      fault := { c.fault with acknowledged := acknowledged }
      lastReset := lastReset }.Supplies state v :=
  ⟨⟨h.unlatched.inactive, h.unlatched.no_cause⟩, h.state_eq, h.not_awaiting, h.have_measurement,
    h.row⟩

/-- `Refines` looks at the acknowledgement and the last reset result of no
core. -/
theorem refines_of_eq {c' : ProtectionCore} (h : c.Refines clock mode)
    (hc : c' = { c with
      fault := { c.fault with acknowledged := c'.fault.acknowledged }
      lastReset := c'.lastReset }) : c'.Refines clock mode := by
  rw [hc]
  rcases mode with _ | (_ | _ | _) | _
  · obtain ⟨hu, h⟩ := h
    exact ⟨⟨hu.inactive, hu.no_cause⟩, h⟩
  · exact ⟨h.1.of_record _ _, h.2⟩
  · exact ⟨h.1.of_record _ _, h.2⟩
  · exact ⟨h.1.of_record _ _, h.2⟩
  · exact h

/-- **One call is one step of the policy.** -/
theorem refines_step {call : CoreCall} {t : τ} (h : c.Refines clock mode)
    (hnow : call.At (clock t)) :
    (c.step call).Refines clock
      (Run.after (Mode.step (c.config.confirmed clock)) mode (c.events call t)) := by
  cases call with
  | update m nowMs =>
    obtain rfl : nowMs = clock t := hnow
    rcases c.update_cases m with hs | ⟨hs, hi⟩ | he
    · have he : c.evaluates m = false := by simp [evaluates, hs]
      have hl := h.isLatched_iff.mpr hs
      cases mode with
      | waiting => simp at hl
      | supplying load => simp at hl
      | latched cause =>
        simp only [step, events, he, update_of_fault hs]
        exact h
    · have he : c.evaluates m = false := by simp [evaluates, hi]
      have ha : c.awaitingFirstSample = true := by
        simp only [ignores, Bool.and_eq_true] at hi
        exact hi.1
      obtain rfl := (h.awaiting_iff hs).mp ha
      simp only [step, events, he, update_of_ignores hs hi]
      exact h
    · simp only [step, events, he, if_true]
      exact refines_evaluated h he
  | tick nowMs =>
    simp only [step, events, tick_eq]
    split
    · exact refines_trip (by simp) h _ nowMs
    · exact h
  | requestReset nowMs =>
    obtain rfl : nowMs = clock t := hnow
    simp only [step, events, requestReset_eq]
    split
    · simp [rearmed, Refines, Mode.step]
      exact ⟨rfl, rfl⟩
    · exact refines_of_eq h rfl
  | acknowledge =>
    simp only [step, events]
    cases ha : c.fault.active
    · rw [acknowledge_of_inactive ha]
      exact h
    · rw [acknowledge_of_active ha]
      exact refines_of_eq h rfl
  | raiseInternalFault nowMs => exact refines_trip (by simp) h _ nowMs
  | snapshot nowMs => exact h

theorem refines_begin (c₀ : ProtectionCore) (t₀ : Millis) :
    (c₀.begin t₀).Refines clock (.waiting : Mode τ) :=
  ⟨⟨rfl, rfl⟩, rfl, rfl, rfl⟩

/-- The core is in some mode: what every reachable core satisfies. -/
def WellFormed (c : ProtectionCore) : Prop :=
  ∃ mode : Mode Millis, c.Refines id mode

theorem wellFormed_begin (c₀ : ProtectionCore) (t₀ : Millis) : (c₀.begin t₀).WellFormed :=
  ⟨.waiting, refines_begin c₀ t₀⟩

theorem WellFormed.step (h : c.WellFormed) (call : CoreCall) : (c.step call).WellFormed := by
  obtain ⟨mode, h⟩ := h
  exact ⟨_, refines_step h call.at_nowMs⟩

/-! ## Whole runs -/

section Runs

variable {ι : Type*} (call : ι → CoreCall) (at_ : ι → τ)

/-- The core after calls that an environment describes by `ι`. -/
def run (c : ProtectionCore) (inputs : List ι) : ProtectionCore :=
  Run.after (fun c i => c.step (call i)) c inputs

/-- The log of a run. -/
def log (c : ProtectionCore) (inputs : List ι) : List (Event Measurement τ) :=
  Run.observed (fun c i => c.step (call i)) (fun c i => c.events (call i) (at_ i)) c inputs

@[simp] theorem run_nil (c : ProtectionCore) : run call c [] = c := rfl

@[simp] theorem run_cons (c : ProtectionCore) (i : ι) (earlier : List ι) :
    run call c (i :: earlier) = (run call c earlier).step (call i) := rfl

@[simp] theorem log_nil (c : ProtectionCore) : log call at_ c [] = [] := rfl

@[simp] theorem log_cons (c : ProtectionCore) (i : ι) (earlier : List ι) :
    log call at_ c (i :: earlier)
      = (run call c earlier).events (call i) (at_ i) ++ log call at_ c earlier := rfl

theorem run_append (c : ProtectionCore) (later earlier : List ι) :
    run call c (later ++ earlier) = run call (run call c earlier) later :=
  Run.after_append _ c later earlier

theorem run_config (c : ProtectionCore) (inputs : List ι) :
    (run call c inputs).config = c.config := by
  induction inputs with
  | nil => rfl
  | cons i earlier ih => rw [run_cons, step_config, ih]

/-- **The core follows the policy** in every run from `begin`. -/
theorem refines_after (clock : τ → Millis) (hnow : ∀ i, (call i).At (clock (at_ i)))
    (c₀ : ProtectionCore) (t₀ : Millis) (inputs : List ι) :
    (run call (c₀.begin t₀) inputs).Refines clock
      (Mode.after (c₀.config.confirmed clock) (log call at_ (c₀.begin t₀) inputs)) := by
  have h := @Run.simulation _ _ (fun c i => c.step (call i)) _ _
    (Mode.step (c₀.config.confirmed clock))
    (fun c mode => c.config = c₀.config ∧ c.Refines clock mode)
    (fun c i => c.events (call i) (at_ i)) (c₀.begin t₀) .waiting
    ⟨rfl, refines_begin c₀ t₀⟩
    (fun c mode i ⟨hconfig, h⟩ => ⟨by rw [step_config, hconfig], by
      rw [← hconfig]
      exact refines_step h (hnow i)⟩) inputs
  exact h.2

theorem wellFormed_run (c₀ : ProtectionCore) (t₀ : Millis) (inputs : List ι) :
    (run call (c₀.begin t₀) inputs).WellFormed :=
  ⟨_, refines_after call (fun i => (call i).nowMs) id (fun i => (call i).at_nowMs) c₀ t₀ inputs⟩

end Runs

theorem WellFormed.run {c : ProtectionCore} (h : c.WellFormed) (calls : List CoreCall) :
    (run id c calls).WellFormed := by
  induction calls with
  | nil => exact h
  | cons call earlier ih => exact ih.step call

end ProtectionCore

end EnergyController
