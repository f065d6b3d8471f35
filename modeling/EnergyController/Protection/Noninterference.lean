/-
EnergyController.Protection.Noninterference — acknowledgements and refused
resets are invisible to the protection (`docs/fault-management.md` §3).

Anyone who may publish commands can inject `acknowledge` and `requestReset`
at any moment. The core writes down that it was asked: `fault.acknowledged`
and `lastReset`. `noted` is a core with these two notes set to given values,
and the one fact behind everything here is that a step of a noted core is the
step of the core, noted (`step_noted`): nothing reads the notes back.

`commands_invisible` is the statement about runs: leave any acknowledgements
and any refused resets out, and every call that remains returns the same, in
the same state and with the same outputs.
-/
import EnergyController.Firmware.Actuator
import EnergyController.Measurement.CoreTheorems

namespace EnergyController

/-- A snapshot without the two notes. -/
def ProtectionSnapshot.unnoted (s : ProtectionSnapshot) : ProtectionSnapshot :=
  { s with fault := { s.fault with acknowledged := false }, lastResetResult := .none }

/-- A reply without the two notes: only a snapshot carries them. -/
def CoreReply.unnoted : CoreReply → CoreReply
  | .snapshot s => .snapshot s.unnoted
  | reply => reply

/-- What a call shows of the protection: the reply, the state it leaves and
the outputs that belong to this state. -/
structure Shown where
  reply : CoreReply
  state : SystemState
  outputs : OutputCommand
  deriving DecidableEq

namespace ProtectionCore

def shown (c : ProtectionCore) (call : CoreCall) : Shown where
  reply := (c.reply call).unnoted
  state := (c.step call).state
  outputs := outputsForState (c.step call).state

/-- An acknowledgement, or a reset request that is refused. -/
def Harmless (c : ProtectionCore) : CoreCall → Prop
  | .acknowledge => True
  | .requestReset nowMs => (c.requestReset nowMs).1 ≠ .accepted
  | _ => False

instance (c : ProtectionCore) (call : CoreCall) : Decidable (c.Harmless call) := by
  cases call <;> unfold Harmless <;> infer_instance

/-- The core with the two notes set. -/
def noted (c : ProtectionCore) (acknowledged : Bool) (lastReset : ResetResult) : ProtectionCore :=
  { c with fault := { c.fault with acknowledged := acknowledged }, lastReset := lastReset }

/-- The cores differ at most in the two notes. -/
def SameProtection (c c' : ProtectionCore) : Prop :=
  c' = c.noted c'.fault.acknowledged c'.lastReset

variable {c c' : ProtectionCore} {a : Bool} {r : ResetResult}

theorem sameProtection_noted : c.SameProtection (c.noted a r) := rfl

theorem SameProtection.refl (c : ProtectionCore) : c.SameProtection c := rfl

/-! ## One call on a noted core -/

/-- A fault that latches clears the acknowledgement. -/
theorem raiseFault_noted (fault : FaultCode) (nowMs : Millis) :
    ∃ a', (c.noted a r).raiseFault fault nowMs = (c.raiseFault fault nowMs).noted a' r := by
  by_cases hf : fault = .none
  · subst hf
    exact ⟨a, rfl⟩
  · rw [raiseFault_eq hf, raiseFault_eq hf]
    cases hactive : c.fault.active with
    | true => exact ⟨a, by simp [noted, FaultManager.raise, hactive]⟩
    | false => exact ⟨false, by simp [noted, FaultManager.raise, hactive]⟩

theorem overload_noted (nowMs : Millis) :
    ∃ a' r', (c.noted a r).overload nowMs = (c.overload nowMs).noted a' r' := by
  cases ha : c.awaitingFirstSample with
  | true =>
    have ha' : (c.noted a r).awaitingFirstSample = true := ha
    rw [overload_of_awaiting ha, overload_of_awaiting ha']
    obtain ⟨a', h⟩ := raiseFault_noted (c := c) (a := a) (r := r) .overpower nowMs
    rw [h]
    exact ⟨a', r, rfl⟩
  | false =>
    have ha' : (c.noted a r).awaitingFirstSample = false := ha
    by_cases hc : c.config.faultConfirmMs ≤ nowMs - c.confirmStart nowMs
    · rw [overload_of_confirmed ha hc, overload_of_confirmed ha' hc]
      obtain ⟨a', h⟩ := raiseFault_noted (a := a) (r := r)
        (c := { c with timerStart := c.confirmStart nowMs }) .overpower nowMs
      exact ⟨a', r, h⟩
    · rw [overload_of_running ha hc, overload_of_running ha' hc]
      exact ⟨a, r, rfl⟩

theorem react_noted (v : Verdict) (nowMs : Millis) :
    ∃ a' r', (c.noted a r).react v nowMs = (c.react v nowMs).noted a' r' := by
  cases v with
  | stale =>
    obtain ⟨a', h⟩ := raiseFault_noted (c := c) (a := a) (r := r) .sensorStale nowMs
    exact ⟨a', r, h⟩
  | invalid =>
    obtain ⟨a', h⟩ := raiseFault_noted (c := c) (a := a) (r := r) .sensorInvalid nowMs
    exact ⟨a', r, h⟩
  | overload => exact overload_noted nowMs
  | noMains => exact ⟨a, r, rfl⟩
  | elevated => exact ⟨a, r, rfl⟩
  | normal => exact ⟨a, r, rfl⟩

theorem update_noted (m : Measurement) (nowMs : Millis) :
    ∃ a' r', ((c.noted a r).update m nowMs).2 = (c.update m nowMs).2.noted a' r' := by
  rcases c.update_cases m with h | ⟨h, hi⟩ | he
  · have h' : (c.noted a r).state = .fault := h
    rw [update_of_fault h, update_of_fault h']
    exact ⟨a, r, rfl⟩
  · have h' : (c.noted a r).state ≠ .fault := h
    have hi' : (c.noted a r).ignores m = true := hi
    rw [update_of_ignores h hi, update_of_ignores h' hi']
    exact ⟨a, r, rfl⟩
  · have he' : (c.noted a r).evaluates m = true := he
    rw [update_of_evaluates he, update_of_evaluates he', evaluate_eq, evaluate_eq]
    exact react_noted (c := { c with last := m, haveMeasurement := true, lastSampleMs := nowMs })
      _ nowMs

/-- **Nothing reads the notes**: a step of a noted core is the step of the
core, noted. -/
theorem step_noted (call : CoreCall) :
    ∃ a' r', (c.noted a r).step call = (c.step call).noted a' r' := by
  cases call with
  | update m nowMs => exact update_noted m nowMs
  | tick nowMs =>
    simp only [step, tick_eq]
    show ∃ a' r', (if c.silent nowMs = true then _ else _) = _
    split
    · obtain ⟨a', h⟩ := raiseFault_noted (c := c) (a := a) (r := r) .sensorStale nowMs
      exact ⟨a', r, h⟩
    · exact ⟨a, r, rfl⟩
  | requestReset nowMs =>
    simp only [step, requestReset_eq]
    show ∃ a' r', (if c.resetResult nowMs = .accepted then _ else _) = _
    split
    · exact ⟨false, .accepted, rfl⟩
    · exact ⟨a, c.resetResult nowMs, rfl⟩
  | acknowledge =>
    cases h : c.fault.active with
    | false =>
      have h' : (c.noted a r).fault.active = false := h
      refine ⟨a, r, ?_⟩
      show (c.noted a r).acknowledge.2 = c.acknowledge.2.noted a r
      rw [acknowledge_of_inactive h, acknowledge_of_inactive h']
    | true =>
      have h' : (c.noted a r).fault.active = true := h
      refine ⟨true, r, ?_⟩
      show (c.noted a r).acknowledge.2 = c.acknowledge.2.noted true r
      rw [acknowledge_of_active h, acknowledge_of_active h']
      rfl
  | raiseInternalFault nowMs =>
    obtain ⟨a', h⟩ := raiseFault_noted (c := c) (a := a) (r := r) .protectionInternal nowMs
    exact ⟨a', r, h⟩
  | snapshot nowMs => exact ⟨a, r, rfl⟩

theorem SameProtection.step (h : c.SameProtection c') (call : CoreCall) :
    (c.step call).SameProtection (c'.step call) := by
  obtain ⟨a', r', hstep⟩ :=
    step_noted (c := c) (a := c'.fault.acknowledged) (r := c'.lastReset) call
  rw [h, hstep]
  exact sameProtection_noted

/-- A harmless call is only noted. -/
theorem SameProtection.step_harmless (h : c.SameProtection c') {call : CoreCall}
    (hcall : c.Harmless call) : (c.step call).SameProtection c' := by
  cases call with
  | requestReset nowMs =>
    show SameProtection (c.requestReset nowMs).2 c'
    rw [requestReset_of_rejected hcall, h]
    rfl
  | acknowledge =>
    show SameProtection c.acknowledge.2 c'
    cases hactive : c.fault.active with
    | false =>
      rw [acknowledge_of_inactive hactive]
      exact h
    | true =>
      rw [acknowledge_of_active hactive, h]
      rfl
  | update m nowMs => exact absurd hcall id
  | tick nowMs => exact absurd hcall id
  | raiseInternalFault nowMs => exact absurd hcall id
  | snapshot nowMs => exact absurd hcall id

/-! ## What a call shows -/

theorem SameProtection.state_eq (h : c.SameProtection c') : c'.state = c.state := by
  rw [h]
  rfl

/-- The result of a call is read off the states before and after it. -/
theorem SameProtection.finish (h : c.SameProtection c') (s : SystemState) (f : FaultCode) :
    c'.finish s f = c.finish s f := by
  rw [h]
  rfl

theorem SameProtection.reply (h : c.SameProtection c') (call : CoreCall) :
    (c'.reply call).unnoted = (c.reply call).unnoted := by
  have hf : c'.fault.activeFault = c.fault.activeFault := by
    rw [h]
    rfl
  cases call with
  | update m nowMs =>
    have hstep : (c.update m nowMs).2.SameProtection (c'.update m nowMs).2 :=
      h.step (.update m nowMs)
    simp only [ProtectionCore.reply, update_fst, h.state_eq, hf, hstep.finish]
  | tick nowMs =>
    have hstep : (c.tick nowMs).2.SameProtection (c'.tick nowMs).2 := h.step (.tick nowMs)
    simp only [ProtectionCore.reply, tick_fst, h.state_eq, hf, hstep.finish]
  | requestReset nowMs =>
    simp only [ProtectionCore.reply, requestReset_eq, CoreReply.unnoted]
    rw [h]
    rfl
  | acknowledge =>
    have hactive : c'.fault.active = c.fault.active := by
      rw [h]
      rfl
    simp only [ProtectionCore.reply, acknowledge_fst, hactive]
  | raiseInternalFault nowMs =>
    have hstep : (c.raiseInternalFault nowMs).2.SameProtection (c'.raiseInternalFault nowMs).2 :=
      h.step (.raiseInternalFault nowMs)
    simp only [ProtectionCore.reply, raiseInternalFault_fst, h.state_eq, hf, hstep.finish]
  | snapshot nowMs =>
    rw [h]
    rfl

theorem SameProtection.shown (h : c.SameProtection c') (call : CoreCall) :
    c.shown call = c'.shown call := by
  simp only [ProtectionCore.shown, h.reply call, (h.step call).state_eq]

/-! ## Whole runs -/

/-- A run with some of its calls marked as left out. -/
abbrev MarkedCalls := List (CoreCall × Bool)

/-- Only acknowledgements and refused resets are marked. -/
def HarmlessMarks (c : ProtectionCore) (calls : MarkedCalls) : Prop :=
  Run.Meets (fun c i => c.step i.1) (fun c i => i.2 = true → c.Harmless i.1) c calls

instance (c : ProtectionCore) (calls : MarkedCalls) : Decidable (c.HarmlessMarks calls) :=
  inferInstanceAs (Decidable (Run.Meets _ _ c calls))

/-- What the calls that are not marked show in the whole run, newest first. -/
def shownKept (c : ProtectionCore) (calls : MarkedCalls) : List Shown :=
  Run.observed (fun c i => c.step i.1) (fun c i => if i.2 then [] else [c.shown i.1]) c calls

/-- What every call of a run shows, newest first. -/
def shownRun (c : ProtectionCore) (calls : List CoreCall) : List Shown :=
  Run.observed step (fun c call => [c.shown call]) c calls

/-- **Acknowledgements and refused resets are invisible to the protection.**
Leave any of them out of a run from `begin`: every call that remains shows the
same reply, state and outputs, and the cores differ at most in the two notes,
after this run and so after every part of it. -/
theorem commands_invisible (c₀ : ProtectionCore) (t₀ : Millis) (calls : MarkedCalls)
    (hmarks : (c₀.begin t₀).HarmlessMarks calls) :
    (c₀.begin t₀).shownKept calls = (c₀.begin t₀).shownRun (Run.kept calls) ∧
      (run Prod.fst (c₀.begin t₀) calls).SameProtection
        (run id (c₀.begin t₀) (Run.kept calls)) := by
  have hview : ∀ (c c' : ProtectionCore) (call : CoreCall), c.SameProtection c' →
      [c.shown call] = [c'.shown call] := by
    intro c c' call h
    rw [h.shown call]
  constructor
  · exact Run.thinned_observed (SameProtection.refl _) (fun _ _ call h => h.step call)
      (fun _ _ _ h hcall => h.step_harmless hcall) hview hmarks
  · exact Run.thinned (SameProtection.refl _) (fun _ _ call h => h.step call)
      (fun _ _ _ h hcall => h.step_harmless hcall) hmarks

/-- An overload latched at start-up, acknowledged and asked to reset in vain. -/
def overloadCalls : MarkedCalls :=
  [(.snapshot 4000, false), (.requestReset 3500, true), (.acknowledge, true),
    (.tick 2500, false), (.update (meterSample 230.0 600.0 1000) 1000, false)]

theorem commands_invisible_overload :
    ((new exampleConfig).begin 0).shownKept overloadCalls
        = ((new exampleConfig).begin 0).shownRun
          [.snapshot 4000, .tick 2500, .update (meterSample 230.0 600.0 1000) 1000] :=
  (commands_invisible (new exampleConfig) 0 overloadCalls (by decide)).1

end ProtectionCore

end EnergyController
