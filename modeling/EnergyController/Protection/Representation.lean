/-
EnergyController.Protection.Representation — what the fields of a
`ProtectionCore` say about each other.

The core keeps its state in fields that its operations set one at a time.
`Representation` lists what holds between them in every state a run from
`begin` reaches. Its facts are read off the mode the core is in (`Refines`);
that an acknowledgement needs an active fault comes from the fault record's
history (`records_run`).
-/
import EnergyController.Protection.FaultRecord

namespace EnergyController

namespace ProtectionCore

/-- The facts between the fields. -/
structure Representation (c : ProtectionCore) : Prop where
  fault_iff_active : c.state = .fault ↔ c.fault.active = true
  active_iff_cause : c.fault.active = true ↔ c.fault.activeFault ≠ .none
  init_awaits : c.state = .init → c.awaitingFirstSample = true
  operating_not_awaiting : c.state = .normal ∨ c.state = .warning →
    c.awaitingFirstSample = false ∧ c.haveMeasurement = true
  timer_overload : c.timerActive = true →
    c.state = .warning ∧ c.awaitingFirstSample = false ∧ c.last.valid = true ∧
      c.last.power > c.config.faultPowerW
  awaiting_no_timer : c.state ≠ .fault → c.awaitingFirstSample = true → c.timerActive = false
  normal_within_limits : c.state = .normal →
    c.last.valid = true ∧ ¬ c.last.power > c.config.warningPowerW ∧
      ¬ c.last.power > c.config.faultPowerW
  acknowledged_active : c.fault.acknowledged = true → c.fault.active = true

/-! ## Read off the mode -/

section

variable {τ : Type*} {clock : τ → Millis} {c : ProtectionCore} {mode : Mode τ}

theorem Refines.active_iff_cause (h : c.Refines clock mode) :
    c.fault.active = true ↔ c.fault.activeFault ≠ .none := by
  rcases mode with _ | (_ | _ | _) | _
  · simp [h.1.inactive, h.1.no_cause]
  · simp [h.1.unlatched.inactive, h.1.unlatched.no_cause]
  · simp [h.1.unlatched.inactive, h.1.unlatched.no_cause]
  · simp [h.1.unlatched.inactive, h.1.unlatched.no_cause]
  · simp [h.2.1, h.2.2.1, h.2.2.2.1]

theorem Refines.init_awaits (h : c.Refines clock mode) (hs : c.state = .init) :
    c.awaitingFirstSample = true := by
  rcases mode with _ | (_ | _ | _) | _
  · exact h.2.2.1
  · simp [h.1.state_eq] at hs
  · simp [h.1.state_eq] at hs
  · simp [h.1.state_eq] at hs
  · simp [h.1] at hs

theorem Refines.haveMeasurement (h : c.Refines clock mode)
    (hs : c.state = .normal ∨ c.state = .warning) : c.haveMeasurement = true := by
  rcases mode with _ | (_ | _ | _) | _
  · simp [h.2.1] at hs
  · exact h.1.have_measurement
  · exact h.1.have_measurement
  · exact h.1.have_measurement
  · simp [h.1] at hs

/-- The timer runs only on an overload that is being confirmed. -/
theorem Refines.timer_overload (h : c.Refines clock mode) (ht : c.timerActive = true) :
    c.Supplies .warning .overload := by
  rcases mode with _ | (_ | _ | _) | _
  · simp [h.2.2.2] at ht
  · simp [h.2] at ht
  · simp [h.2] at ht
  · exact h.1
  · simp [h.2.2.2.2] at ht

theorem Refines.normal_supplies (h : c.Refines clock mode) (hs : c.state = .normal) :
    c.Supplies .normal .normal := by
  rcases mode with _ | (_ | _ | _) | _
  · simp [h.2.1] at hs
  · exact h.1
  · simp [h.1.state_eq] at hs
  · simp [h.1.state_eq] at hs
  · simp [h.1] at hs

end

/-- The normal row is the one within both limits. -/
theorem not_elevated_of_classify {k : ProtectionConfig} {m : Measurement} {nowMs : Millis}
    (h : k.classify m nowMs = .normal) : ¬ m.power > k.warningPowerW := by
  intro hp
  have hsafe := @ProtectionConfig.of_isSafe_classify k m nowMs (by simp [h, Verdict.isSafe])
  obtain ⟨hfresh, hvalid, hmains, hover⟩ := hsafe
  simp [ProtectionConfig.classify, BitVec.not_lt.mpr hfresh, hvalid, hmains, hover, hp] at h

/-! ## Every reachable state -/

theorem WellFormed.representation {c : ProtectionCore} (h : c.WellFormed)
    (hack : c.fault.acknowledged = true → c.fault.active = true) : c.Representation := by
  obtain ⟨mode, href⟩ := h
  refine ⟨href.active_iff.symm, href.active_iff_cause, href.init_awaits, ?_, ?_, ?_, ?_, hack⟩
  · intro hs
    have hne : c.state ≠ .fault := by rcases hs with hs | hs <;> simp [hs]
    have hon : c.state.isOperating = true := by
      rcases hs with hs | hs <;> simp [hs, SystemState.isOperating]
    exact ⟨(href.isOperating_iff hne).mp hon, href.haveMeasurement hs⟩
  · intro ht
    have hsupplies := href.timer_overload ht
    obtain ⟨-, hvalid, -, hover⟩ := ProtectionConfig.classify_overload_iff.mp hsupplies.row
    exact ⟨hsupplies.state_eq, hsupplies.not_awaiting, hvalid, hover⟩
  · intro hs ha
    obtain rfl := (href.awaiting_iff hs).mp ha
    exact href.2.2.2
  · intro hs
    have hrow := (href.normal_supplies hs).row
    have hsafe := @ProtectionConfig.of_isSafe_classify c.config c.last c.lastSampleMs
      (by simp [hrow, Verdict.isSafe])
    exact ⟨hsafe.2.1, not_elevated_of_classify hrow, hsafe.2.2.2⟩

/-- **The representation invariant** holds in every state that calls with any
arguments reach from `begin`. -/
theorem representation_run (c₀ : ProtectionCore) (t₀ : Millis) (calls : List CoreCall) :
    (run id (c₀.begin t₀) calls).Representation := by
  apply WellFormed.representation
  · exact wellFormed_run id c₀ t₀ calls
  · intro hack
    exact ((records_run c₀ t₀ calls).acknowledged.mp hack).1

end ProtectionCore

end EnergyController
