/-
EnergyController.Protection.TimeOrigin — the core does not care where its
clock started.

Every decision of the core is a difference of two times, so adding the same
32-bit offset to every time it is given changes nothing it decides; only the
two stored instants it reports (`lastFaultTime`, `activeSince`) move along.
Some stored times are reset to the literal 0, though, and a 0 does not move.
`Shifted` is the relation between a run and its shifted copy. It says what is
shifted only where the core reads it: `timerStart` while the timer is active,
the stored sample once there is one, `activeSince` while a fault is active.
`Shifted.step` shows that one call keeps it, and `Shifted.reply` that the
replies then agree up to the offset; `time_origin` is the run.
-/
import EnergyController.Protection.CoreTheorems

namespace EnergyController

/-! ## Shifting times -/

def Measurement.shift (m : Measurement) (d : Millis) : Measurement :=
  { m with timestamp := m.timestamp + d }

/-- The same call, `d` later on a clock that started `d` earlier. -/
def CoreCall.shift (d : Millis) : CoreCall → CoreCall
  | .update m nowMs => .update (m.shift d) (nowMs + d)
  | .tick nowMs => .tick (nowMs + d)
  | .requestReset nowMs => .requestReset (nowMs + d)
  | .acknowledge => .acknowledge
  | .raiseInternalFault nowMs => .raiseInternalFault (nowMs + d)
  | .snapshot nowMs => .snapshot (nowMs + d)

/-- The two instants of a fault record, where they are instants: the time of
the last fault once one was recorded, the start of the active one. -/
def FaultManager.shift (f : FaultManager) (d : Millis) : FaultManager :=
  { f with
    lastFaultTime := if f.lastFault = .none then f.lastFaultTime else f.lastFaultTime + d
    activeSince := if f.active then f.activeSince + d else f.activeSince }

def ProtectionSnapshot.shift (s : ProtectionSnapshot) (d : Millis) : ProtectionSnapshot :=
  { s with fault := s.fault.shift d }

/-- Only a snapshot carries instants. -/
def CoreReply.shift (d : Millis) : CoreReply → CoreReply
  | .snapshot s => .snapshot (s.shift d)
  | reply => reply

variable {d : Millis}

/-- A difference of two times does not move. -/
theorem shift_sub (s t d : Millis) : (t + d) - (s + d) = t - s :=
  add_sub_add_right_eq_sub t s d

theorem ProtectionConfig.classify_shift (k : ProtectionConfig) (m : Measurement)
    (nowMs : Millis) : k.classify (m.shift d) (nowMs + d) = k.classify m nowMs := by
  unfold ProtectionConfig.classify
  rw [show (m.shift d).timestamp = m.timestamp + d from rfl, shift_sub]
  rfl

theorem FaultManager.raise_shift (f : FaultManager) {fault : FaultCode} (hf : fault ≠ .none)
    (nowMs : Millis) : (f.shift d).raise fault (nowMs + d) = (f.raise fault nowMs).shift d := by
  cases hactive : f.active with
  | true =>
    have hactive' : (f.shift d).active = true := hactive
    rw [FaultManager.raise_of_active hactive, FaultManager.raise_of_active hactive']
  | false => simp [FaultManager.raise, FaultManager.shift, hactive, hf]

namespace ProtectionCore

/-- `c'` is `c` on a clock that is `d` ahead. -/
structure Shifted (d : Millis) (c c' : ProtectionCore) : Prop where
  config : c'.config = c.config
  state : c'.state = c.state
  fault : c'.fault = c.fault.shift d
  timerActive : c'.timerActive = c.timerActive
  timerStart : c.timerActive = true → c'.timerStart = c.timerStart + d
  haveMeasurement : c'.haveMeasurement = c.haveMeasurement
  last : c.haveMeasurement = true → c'.last = c.last.shift d
  lastSampleMs : c'.lastSampleMs = c.lastSampleMs + d
  awaiting : c'.awaitingFirstSample = c.awaitingFirstSample
  rearmMs : c'.rearmMs = c.rearmMs + d
  lastReset : c'.lastReset = c.lastReset

variable {c c' : ProtectionCore}

theorem shifted_begin (c₀ : ProtectionCore) (t₀ : Millis) :
    Shifted d (c₀.begin t₀) (c₀.begin (t₀ + d)) where
  config := rfl
  state := rfl
  fault := rfl
  timerActive := rfl
  timerStart := nofun
  haveMeasurement := rfl
  last := nofun
  lastSampleMs := rfl
  awaiting := rfl
  rearmMs := rfl
  lastReset := rfl

namespace Shifted

theorem active (h : Shifted d c c') : c'.fault.active = c.fault.active := by
  rw [h.fault]
  rfl

theorem activeFault (h : Shifted d c c') : c'.fault.activeFault = c.fault.activeFault := by
  rw [h.fault]
  rfl

/-! ## One call -/

theorem raiseFault (h : Shifted d c c') {fault : FaultCode} (hf : fault ≠ .none)
    (nowMs : Millis) : Shifted d (c.raiseFault fault nowMs) (c'.raiseFault fault (nowMs + d)) := by
  rw [raiseFault_eq hf, raiseFault_eq hf]
  refine { h with state := rfl, fault := ?_, timerActive := rfl, timerStart := nofun }
  show c'.fault.raise fault (nowMs + d) = _
  rw [h.fault, FaultManager.raise_shift _ hf]

/-- The confirmation began at corresponding times, and has run equally long. -/
theorem confirmStart (h : Shifted d c c') (nowMs : Millis) :
    c'.confirmStart (nowMs + d) = c.confirmStart nowMs + d := by
  unfold ProtectionCore.confirmStart
  rw [h.timerActive]
  cases ht : c.timerActive with
  | true => exact h.timerStart ht
  | false => rfl

theorem overload (h : Shifted d c c') (nowMs : Millis) :
    Shifted d (c.overload nowMs) (c'.overload (nowMs + d)) := by
  have hstart := h.confirmStart nowMs
  cases ha : c.awaitingFirstSample with
  | true =>
    have ha' : c'.awaitingFirstSample = true := h.awaiting.trans ha
    rw [overload_of_awaiting ha, overload_of_awaiting ha']
    exact { h.raiseFault (by simp) nowMs with awaiting := rfl }
  | false =>
    have ha' : c'.awaitingFirstSample = false := h.awaiting.trans ha
    have hdiff : nowMs + d - c'.confirmStart (nowMs + d) = nowMs - c.confirmStart nowMs := by
      rw [hstart, shift_sub]
    by_cases hc : c.config.faultConfirmMs ≤ nowMs - c.confirmStart nowMs
    · have hc' : c'.config.faultConfirmMs ≤ nowMs + d - c'.confirmStart (nowMs + d) := by
        rw [hdiff, h.config]
        exact hc
      rw [overload_of_confirmed ha hc, overload_of_confirmed ha' hc']
      apply raiseFault
      · exact { h with timerStart := fun _ => hstart }
      · simp
    · have hc' : ¬ c'.config.faultConfirmMs ≤ nowMs + d - c'.confirmStart (nowMs + d) := by
        rw [hdiff, h.config]
        exact hc
      rw [overload_of_running ha hc, overload_of_running ha' hc']
      exact { h with state := rfl, timerActive := rfl, timerStart := fun _ => hstart }

theorem react (h : Shifted d c c') (v : Verdict) (nowMs : Millis) :
    Shifted d (c.react v nowMs) (c'.react v (nowMs + d)) := by
  cases v with
  | stale => exact h.raiseFault (by simp) nowMs
  | invalid => exact h.raiseFault (by simp) nowMs
  | overload => exact h.overload nowMs
  | noMains =>
    exact { h with state := rfl, timerActive := rfl, timerStart := nofun, awaiting := rfl }
  | elevated =>
    exact { h with state := rfl, timerActive := rfl, timerStart := nofun, awaiting := rfl }
  | normal =>
    exact { h with state := rfl, timerActive := rfl, timerStart := nofun, awaiting := rfl }

/-- The re-arm gate compares two stamps as a signed difference: it does not
move either. -/
theorem ignores (h : Shifted d c c') (m : Measurement) : c'.ignores (m.shift d) = c.ignores m := by
  unfold ProtectionCore.ignores
  rw [h.awaiting, h.rearmMs, show (m.shift d).timestamp = m.timestamp + d from rfl, shift_sub]

theorem update (h : Shifted d c c') (m : Measurement) (nowMs : Millis) :
    Shifted d (c.update m nowMs).2 (c'.update (m.shift d) (nowMs + d)).2 := by
  rcases c.update_cases m with hs | ⟨hs, hi⟩ | he
  · have hs' : c'.state = .fault := h.state.trans hs
    rw [update_of_fault hs, update_of_fault hs']
    exact { h with haveMeasurement := rfl, last := fun _ => rfl, lastSampleMs := rfl }
  · have hs' : c'.state ≠ .fault := by
      rw [h.state]
      exact hs
    have hi' : c'.ignores (m.shift d) = true := (h.ignores m).trans hi
    rw [update_of_ignores hs hi, update_of_ignores hs' hi']
    exact { h with haveMeasurement := rfl, last := fun _ => rfl }
  · have he' : c'.evaluates (m.shift d) = true := by
      unfold evaluates at he ⊢
      rw [h.state, h.ignores m]
      exact he
    rw [update_of_evaluates he, update_of_evaluates he', evaluate_eq, evaluate_eq]
    have hrow : c'.config.classify (m.shift d) (nowMs + d) = c.config.classify m nowMs := by
      rw [h.config, ProtectionConfig.classify_shift]
    show Shifted d (ProtectionCore.react _ (c.config.classify m nowMs) nowMs)
      (ProtectionCore.react _ (c'.config.classify (m.shift d) (nowMs + d)) _)
    rw [hrow]
    apply react
    exact { h with haveMeasurement := rfl, last := fun _ => rfl, lastSampleMs := rfl }

theorem silent (h : Shifted d c c') (nowMs : Millis) : c'.silent (nowMs + d) = c.silent nowMs := by
  unfold ProtectionCore.silent
  rw [h.state, h.config, h.lastSampleMs, shift_sub]

/-- The interlock reads the stored sample only if there is one. -/
theorem resetResult (h : Shifted d c c') (nowMs : Millis) :
    c'.resetResult (nowMs + d) = c.resetResult nowMs := by
  unfold ProtectionCore.resetResult
  rw [h.active, h.haveMeasurement, h.config]
  cases hm : c.haveMeasurement with
  | false => rfl
  | true =>
    rw [h.last hm, show (c.last.shift d).timestamp = c.last.timestamp + d from rfl, shift_sub]
    rfl

theorem step (h : Shifted d c c') (call : CoreCall) :
    Shifted d (c.step call) (c'.step (call.shift d)) := by
  cases call with
  | update m nowMs => exact h.update m nowMs
  | tick nowMs =>
    simp only [ProtectionCore.step, CoreCall.shift, tick_eq, h.silent]
    split
    · exact h.raiseFault (by simp) nowMs
    · exact h
  | requestReset nowMs =>
    simp only [ProtectionCore.step, CoreCall.shift, requestReset_eq, h.resetResult]
    split
    · refine { h with
        state := rfl, fault := ?_, timerActive := rfl,
        timerStart := fun hactive => absurd hactive Bool.false_ne_true,
        lastSampleMs := rfl, awaiting := rfl, rearmMs := rfl, lastReset := rfl }
      simp only [rearmed, h.fault]
      rfl
    · exact { h with lastReset := rfl }
  | acknowledge =>
    show Shifted d c.acknowledge.2 c'.acknowledge.2
    cases ha : c.fault.active with
    | false =>
      have ha' : c'.fault.active = false := h.active.trans ha
      rw [acknowledge_of_inactive ha, acknowledge_of_inactive ha']
      exact h
    | true =>
      have ha' : c'.fault.active = true := h.active.trans ha
      rw [acknowledge_of_active ha, acknowledge_of_active ha']
      refine { h with fault := ?_ }
      rw [h.fault]
      rfl
  | raiseInternalFault nowMs =>
    show Shifted d (c.raiseFault .protectionInternal nowMs) (c'.raiseFault .protectionInternal _)
    exact h.raiseFault (by simp) nowMs
  | snapshot nowMs => exact h

/-! ## What a call returns -/

/-- Results carry no times. -/
theorem finish (h : Shifted d c c') (s : SystemState) (f : FaultCode) :
    c'.finish s f = c.finish s f := by
  unfold ProtectionCore.finish
  rw [h.state, h.activeFault]

theorem snapshot (h : Shifted d c c') (nowMs : Millis) :
    c'.snapshot (nowMs + d) = (c.snapshot nowMs).shift d := by
  unfold ProtectionCore.snapshot ProtectionSnapshot.shift
  rw [h.state, h.fault, h.timerActive, h.lastReset]
  cases ht : c.timerActive with
  | false => rfl
  | true => rw [h.timerStart ht, shift_sub]

theorem reply (h : Shifted d c c') (call : CoreCall) :
    c'.reply (call.shift d) = (c.reply call).shift d := by
  cases call with
  | update m nowMs =>
    simp only [ProtectionCore.reply, CoreCall.shift, CoreReply.shift, update_fst, h.state,
      h.activeFault, (h.update m nowMs).finish]
  | tick nowMs =>
    have hstep : Shifted d (c.tick nowMs).2 (c'.tick (nowMs + d)).2 := h.step (.tick nowMs)
    simp only [ProtectionCore.reply, CoreCall.shift, CoreReply.shift, tick_fst, h.state,
      h.activeFault, hstep.finish]
  | requestReset nowMs =>
    simp only [ProtectionCore.reply, CoreCall.shift, CoreReply.shift, requestReset_eq,
      h.resetResult]
  | acknowledge =>
    simp only [ProtectionCore.reply, CoreCall.shift, CoreReply.shift, acknowledge_fst, h.active]
  | raiseInternalFault nowMs =>
    have hstep : Shifted d (c.raiseInternalFault nowMs).2 (c'.raiseInternalFault (nowMs + d)).2 :=
      h.step (.raiseInternalFault nowMs)
    simp only [ProtectionCore.reply, CoreCall.shift, CoreReply.shift, raiseInternalFault_fst,
      h.state, h.activeFault, hstep.finish]
  | snapshot nowMs =>
    simp only [ProtectionCore.reply, CoreCall.shift, CoreReply.shift, h.snapshot]

end Shifted

/-! ## Whole runs -/

/-- What the calls of a run return, newest first. -/
def replies (c : ProtectionCore) (calls : List CoreCall) : List CoreReply :=
  Run.observed ProtectionCore.step (fun c call => [c.reply call]) c calls

/-- **Time-origin independence.** Add any 32-bit offset to every time a run
from `begin` is given: every call returns the same up to the offset in the two
instants of a fault record, and so does a snapshot taken after the run or
after any part of it. -/
theorem time_origin (d : Millis) (c₀ : ProtectionCore) (t₀ : Millis) (calls : List CoreCall) :
    (c₀.begin (t₀ + d)).replies (calls.map (CoreCall.shift d))
        = ((c₀.begin t₀).replies calls).map (CoreReply.shift d) ∧
      ∀ nowMs,
        (Run.after ProtectionCore.step (c₀.begin (t₀ + d)) (calls.map (CoreCall.shift d))).snapshot
            (nowMs + d)
          = ((Run.after ProtectionCore.step (c₀.begin t₀) calls).snapshot nowMs).shift d := by
  have hview : ∀ (c c' : ProtectionCore) (call : CoreCall), Shifted d c c' →
      [c'.reply (call.shift d)] = [c.reply call].map (CoreReply.shift d) := by
    intro c c' call h
    rw [h.reply call]
    rfl
  constructor
  · exact Run.lockstep_observed (shifted_begin c₀ t₀) (fun _ _ call h => h.step call) hview calls
  · intro nowMs
    have h := Run.lockstep (shifted_begin c₀ t₀) (fun _ _ call h => Shifted.step (d := d) h call)
      calls
    exact h.snapshot nowMs

end ProtectionCore

end EnergyController
