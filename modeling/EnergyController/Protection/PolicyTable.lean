/-
EnergyController.Protection.PolicyTable — the documented policy table at any
uptime.

`row` and `Outcome` are the table of `docs/fault-management.md` §1 with ages
in true time, and `policyLog` is the history as the table sees it: every
sample taken at or after the latest re-arm point, whatever a 32-bit comparison
makes of its stamp. `FollowsPolicy` says of a run that every step comes out as
the table has it.

The core does not follow it in every run. Its gate compares a stamp with the
re-arm point as a SIGNED 32-bit difference, while a no-mains sample arms the
gate again and leaves the re-arm point where it was: from 2^31 ms after the
latest start or reset, a mains loss makes the core ignore every later sample.
`Timely` excludes that, and a confirmation that goes unobserved for a turn of
the clock.
-/
import EnergyController.Protection.Overpower
import EnergyController.Protection.TrueTime

namespace EnergyController

namespace ProtectionConfig

/-- The row of the policy table for a sample of the given age. -/
def row (k : ProtectionConfig) (m : Measurement) (age : ℕ) : Verdict :=
  if k.maxMeasurementAgeMs.toNat < age then .stale
  else if m.valid = false then .invalid
  else if m.voltage ≤ k.minOperatingVoltageV then .noMains
  else if m.power ≤ k.warningPowerW then .normal
  else if m.power ≤ k.faultPowerW then .elevated
  else .overload

/-- The state and the active fault that a row leads to. `seen`: a safe sample
came since the load was (re-)armed; `overFor`: how long the current sequence
of overload samples has lasted. -/
def Outcome (k : ProtectionConfig) (v : Verdict) (seen : Prop) (overFor : ℕ)
    (state : SystemState) (cause : FaultCode) : Prop :=
  match v with
  | .stale => state = .fault ∧ cause = .sensorStale
  | .invalid => state = .fault ∧ cause = .sensorInvalid
  | .noMains => state = .init ∧ cause = .none
  | .normal => state = .normal ∧ cause = .none
  | .elevated => state = .warning ∧ cause = .none
  | .overload =>
    (¬ seen ∨ k.faultConfirmMs.toNat ≤ overFor → state = .fault ∧ cause = .overpower) ∧
      (seen → overFor < k.faultConfirmMs.toNat → state = .warning ∧ cause = .none)

end ProtectionConfig

/-- Calls in order of true time, updates and ticks at most the limit apart;
samples with finite fields, in the order of their stamps, stamped not after
they are passed nor more than `2 ^ 31` ms before. -/
structure Delivered (k : ProtectionConfig) (start : ℕ) (earlier : List TimedCall)
    (i : TimedCall) : Prop where
  in_order : lastAt start earlier ≤ i.at_
  apart : i.isPoll = true → ∀ p, lastPoll earlier = some p →
    i.at_ - p ≤ k.maxMeasurementAgeMs.toNat
  finite : ∀ m taken t, i = .update m taken t → m.Finite
  taken : ∀ m taken t, i = .update m taken t → taken ≤ t ∧ t - taken ≤ 2 ^ 31
  stamp_order : ∀ m taken t, i = .update m taken t →
    ∀ m' taken' t', newestSample earlier = some (m', taken', t') → taken' ≤ taken

namespace ProtectionCore

/-- What the policy table sees of a call on `c`, re-armed last at `rearm`. -/
def policyEvents (c : ProtectionCore) (rearm : ℕ) : TimedCall → List (Event Measurement ℕ)
  | .update m taken t =>
    if c.state ≠ .fault ∧ rearm ≤ taken then
      [.sample (m.stamped taken) (c.config.row m (t - taken)) t]
    else []
  | i => c.events i.call i.at_

section

variable (c₀ : ProtectionCore) (start : ℕ)

/-- The history as the policy table sees it. -/
def policyLog : List TimedCall → List (Event Measurement ℕ)
  | [] => []
  | i :: earlier =>
    (timedRun c₀ start earlier).policyEvents (rearmedAt start (policyLog earlier)) i
      ++ policyLog earlier

/-- One step comes out as the policy table has it. -/
def PolicyStep (earlier : List TimedCall) (i : TimedCall) : Prop :=
  let c := timedRun c₀ start earlier
  let rearm := rearmedAt start (policyLog c₀ start earlier)
  match i with
  | .update m taken t =>
    c.state ≠ .fault → rearm ≤ taken →
      c₀.config.Outcome (c₀.config.row m (t - taken))
        (SafeSeen c₀.config.NoMains c₀.config.Safe (policyLog c₀ start earlier))
        (t - (overSince (policyLog c₀ start earlier)).getD t)
        (c.step i.call).state (c.step i.call).fault.activeFault
  | .tick t =>
    c.state ≠ .fault → (c.step i.call).state = .fault →
      ∀ m taken d, .update m taken d ∈ earlier → rearm ≤ taken →
        c₀.config.maxMeasurementAgeMs.toNat < t - d
  | _ => True

/-- Every step of the run comes out as the policy table has it. -/
def FollowsPolicy (inputs : List TimedCall) : Prop :=
  Run.Every (PolicyStep c₀ start) inputs

/-- What a step must meet for the core to follow the table: with the gate
armed, a sample taken after the re-arm point was taken in the first half turn
of the clock after it; and an overload that has lasted a turn of the clock or
more has not just wrapped below the confirmation time. The former is asked of
samples without mains as well: ignoring one leaves the state as the table has
it, but the silence clock is left behind, and the next tick may trip on it. -/
def Timely (earlier : List TimedCall) (i : TimedCall) : Prop :=
  let c := timedRun c₀ start earlier
  match i with
  | .update m taken t =>
    c.state ≠ .fault →
      (c.awaitingFirstSample = true →
        rearmedAt start (policyLog c₀ start earlier) ≤ taken →
        (taken - rearmedAt start (policyLog c₀ start earlier)) % 2 ^ 32 < 2 ^ 31) ∧
      (∀ first, overSince (policyLog c₀ start earlier) = some first →
        c₀.config.row m (t - taken) = .overload → 2 ^ 32 ≤ t - first →
        c₀.config.faultConfirmMs.toNat ≤ (t - first) % 2 ^ 32)
  | _ => True

end

end ProtectionCore

end EnergyController
