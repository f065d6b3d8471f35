/-
EnergyController.Protection.TrueTime — the core against unbounded true time.

A `TimedCall` is a call with the true time it is made at and, for an update,
the true time its sample was taken; the core sees both through the 32-bit
`millis()`. `bounded_exposure` is the freshness contract of
`docs/fault-management.md` §1 in true time: as long as calls keep coming, the
load is never supplied on data older than twice the limit, nor on an overload
longer than the confirmation time plus the limit.

The induction (`exposure`) keeps the true distances small enough that none of
the three wrapped differences (sample age, silence, confirmation) can alias:
each is below `2 ^ 32` because the distances already established and the next
gap add up to less.
-/
import EnergyController.Lib.WrappedClock
import EnergyController.Measurement.CoreTheorems
import EnergyController.Protection.History

namespace EnergyController

/-- A call on the core at a true time. -/
inductive TimedCall where
  | update (m : Measurement) (taken at_ : ℕ)
  | tick (at_ : ℕ)
  | requestReset (at_ : ℕ)
  | acknowledge (at_ : ℕ)
  | raiseInternalFault (at_ : ℕ)
  | snapshot (at_ : ℕ)

/-- `m` as stamped when it is taken. -/
def Measurement.stamped (m : Measurement) (taken : ℕ) : Measurement :=
  { m with timestamp := millis taken }

namespace TimedCall

def at_ : TimedCall → ℕ
  | .update _ _ t => t
  | .tick t => t
  | .requestReset t => t
  | .acknowledge t => t
  | .raiseInternalFault t => t
  | .snapshot t => t

/-- The calls ControlTask makes in every iteration: updates and ticks. -/
def isPoll : TimedCall → Bool
  | .update .. => true
  | .tick _ => true
  | _ => false

/-- What the core sees. -/
def call : TimedCall → CoreCall
  | .update m taken t => .update (m.stamped taken) (millis t)
  | .tick t => .tick (millis t)
  | .requestReset t => .requestReset (millis t)
  | .acknowledge _ => .acknowledge
  | .raiseInternalFault t => .raiseInternalFault (millis t)
  | .snapshot t => .snapshot (millis t)

theorem call_at (i : TimedCall) : i.call.At (millis i.at_) := by
  cases i <;> first | rfl | trivial

end TimedCall

/-- The true time of the latest call, or of the start. -/
def lastAt (start : ℕ) : List TimedCall → ℕ
  | [] => start
  | i :: _ => i.at_

/-- The true time of the latest update or tick. -/
def lastPoll : List TimedCall → Option ℕ
  | [] => none
  | i :: earlier => if i.isPoll then some i.at_ else lastPoll earlier

/-- The sample passed last, when it was taken and when it was passed. -/
def newestSample : List TimedCall → Option (Measurement × ℕ × ℕ)
  | [] => none
  | .update m taken t :: _ => some (m, taken, t)
  | _ :: earlier => newestSample earlier

theorem newest_call (inputs : List TimedCall) :
    ProtectionCore.newest TimedCall.call TimedCall.at_ inputs
      = (newestSample inputs).map fun s => (s.1.stamped s.2.1, s.2.2) := by
  induction inputs with
  | nil => rfl
  | cons i earlier ih =>
    cases i with
    | update m taken t => rfl
    | _ => exact ih

/-- Calls in order of true time, updates and ticks less than `gap` apart,
samples taken not after and less than `2 ^ 32` ms before they are passed. -/
structure Spaced (gap start : ℕ) (earlier : List TimedCall) (i : TimedCall) : Prop where
  in_order : lastAt start earlier ≤ i.at_
  apart : i.isPoll = true → ∀ p, lastPoll earlier = some p → i.at_ - p < gap
  taken : ∀ m taken t, i = .update m taken t → taken ≤ t ∧ t - taken < 2 ^ 32

theorem lastPoll_le {gap start : ℕ} {inputs : List TimedCall}
    (h : Run.Every (Spaced gap start) inputs) {p : ℕ} (hp : lastPoll inputs = some p) :
    p ≤ lastAt start inputs := by
  induction inputs with
  | nil => cases hp
  | cons i earlier ih =>
    rw [lastPoll] at hp
    split at hp
    · cases hp
      exact le_refl _
    · exact (ih h.tail hp).trans h.head.in_order

namespace ProtectionCore

/-- How old the data under a supplied load are: the newest sample was passed
at `passed`, at most the limit before the latest poll, and a running
confirmation is shorter than the confirmation time. -/
structure Exposure (k : ProtectionConfig) (start : ℕ) (inputs : List TimedCall)
    (entries : List (Event Measurement ℕ)) (m : Measurement) (taken passed polled : ℕ) :
    Prop where
  newest : newestSample inputs = some (m, taken, passed)
  poll : lastPoll inputs = some polled
  passed_le : passed ≤ polled
  silence : polled - passed ≤ k.maxMeasurementAgeMs.toNat
  taken_le : taken ≤ passed
  age : passed - taken ≤ k.maxMeasurementAgeMs.toNat
  confirming : ∀ first, overSince entries = some first →
    first ≤ passed ∧ passed - first < k.faultConfirmMs.toNat

section

variable (c₀ : ProtectionCore) (start : ℕ)

/-- The run of the core on timed calls, and its log. -/
abbrev timedRun (inputs : List TimedCall) : ProtectionCore :=
  run TimedCall.call (c₀.begin (millis start)) inputs

abbrev timedLog (inputs : List TimedCall) : List (Event Measurement ℕ) :=
  log TimedCall.call TimedCall.at_ (c₀.begin (millis start)) inputs

theorem timed_refines (inputs : List TimedCall) :
    (timedRun c₀ start inputs).Refines millis
      (Mode.after (c₀.config.confirmed millis) (timedLog c₀ start inputs)) :=
  refines_after TimedCall.call TimedCall.at_ millis TimedCall.call_at c₀ (millis start) inputs

end

section

variable {c₀ : ProtectionCore} {start gap : ℕ}
  (hgap : gap + c₀.config.maxMeasurementAgeMs.toNat + c₀.config.faultConfirmMs.toNat ≤ 2 ^ 32)
include hgap

/-- A tick: the silence it measured is the true one. -/
theorem exposure_tick {earlier : List TimedCall} {t : ℕ}
    (hspaced : Run.Every (Spaced gap start) (.tick t :: earlier))
    {m : Measurement} {taken passed polled : ℕ}
    (hE : Exposure c₀.config start earlier (timedLog c₀ start earlier) m taken passed polled)
    (hop : ((timedRun c₀ start earlier).step (.tick (millis t))).state.isOperating = true)
    (hlog : timedLog c₀ start (.tick t :: earlier) = timedLog c₀ start earlier) :
    Exposure c₀.config start (.tick t :: earlier) (timedLog c₀ start (.tick t :: earlier))
      m taken passed t := by
  obtain ⟨hnewest, hpoll, hle, hsilence, htaken, hage, hconf⟩ := hE
  have hopEarlier := (step_operating _ (by simp) hop).1
  have horder := (lastPoll_le hspaced.tail hpoll).trans hspaced.head.in_order
  have hapart := hspaced.head.apart rfl polled hpoll
  simp only [TimedCall.at_] at horder hapart
  have hlast : (timedRun c₀ start earlier).lastSampleMs = millis passed := by
    refine lastSampleMs_newest TimedCall.call TimedCall.at_ c₀ (millis start) millis
      TimedCall.call_at (m := m.stamped taken) ?_ hopEarlier
    rw [newest_call, hnewest]
    rfl
  have hquiet := not_silent_of_operating hop
  have hstate := SystemState.ne_fault_of_isOperating hopEarlier
  have hshort : millis t - millis passed ≤ c₀.config.maxMeasurementAgeMs := by
    simpa [silent, hstate, hlast, run_config, begin] using hquiet
  have htrue : t - passed ≤ c₀.config.maxMeasurementAgeMs.toNat :=
    (WrappedClock.sub_reading_le_iff (by omega) (by omega) _).mp hshort
  rw [hlog]
  exact ⟨hnewest, rfl, by omega, htrue, htaken, hage, hconf⟩

/-- An overload sequence that an evaluated sample belongs to began with it, or
earlier and less than a turn of the clock ago: the polls since then bound it. -/
theorem overSince_began {earlier : List TimedCall} {m : Measurement} {taken t first : ℕ}
    (hspaced : Run.Every (Spaced gap start) (.update m taken t :: earlier))
    (ih : Run.Every (Spaced gap start) earlier →
      (timedRun c₀ start earlier).state.isOperating = true →
      ∃ m taken passed polled, Exposure c₀.config start earlier (timedLog c₀ start earlier)
        m taken passed polled)
    (he : (timedRun c₀ start earlier).evaluates (m.stamped taken) = true)
    (hfirst : overSince (timedLog c₀ start (.update m taken t :: earlier)) = some first) :
    first ≤ t ∧ t - first < 2 ^ 32 := by
  rw [timedLog, log_cons] at hfirst
  simp only [TimedCall.call, TimedCall.at_, events, he, if_true, List.cons_append,
    List.nil_append, overSince] at hfirst
  split at hfirst
  case isFalse => cases hfirst
  cases hprev : overSince (timedLog c₀ start earlier) with
  | none =>
    rw [hprev] at hfirst
    cases hfirst
    simp
  | some since =>
    rw [hprev] at hfirst
    cases hfirst
    have hs := (evaluates_iff.mp he).1
    have hopEarlier := (overSince_running TimedCall.call TimedCall.at_ c₀ (millis start) millis
      TimedCall.call_at hs hprev).1
    obtain ⟨_, _, passed, polled, hE⟩ := ih hspaced.tail hopEarlier
    obtain ⟨hsp, hshort⟩ := hE.confirming since hprev
    have hle := hE.passed_le
    have hsilence := hE.silence
    have horder := (lastPoll_le hspaced.tail hE.poll).trans hspaced.head.in_order
    have hapart := hspaced.head.apart rfl polled hE.poll
    simp only [TimedCall.at_, Option.getD_some] at horder hapart ⊢
    constructor <;> omega

/-- An update: its own age is the true one, and so is the confirmation it
continues. -/
theorem exposure_update {earlier : List TimedCall} {m : Measurement} {taken t : ℕ}
    (hspaced : Run.Every (Spaced gap start) (.update m taken t :: earlier))
    (ih : Run.Every (Spaced gap start) earlier →
      (timedRun c₀ start earlier).state.isOperating = true →
      ∃ m taken passed polled, Exposure c₀.config start earlier (timedLog c₀ start earlier)
        m taken passed polled)
    (hop : (timedRun c₀ start (.update m taken t :: earlier)).state.isOperating = true) :
    ∃ m' taken' passed polled,
      Exposure c₀.config start (.update m taken t :: earlier)
        (timedLog c₀ start (.update m taken t :: earlier)) m' taken' passed polled := by
  obtain ⟨htaken, hage32⟩ := hspaced.head.taken m taken t rfl
  have hnew : newest TimedCall.call TimedCall.at_ (.update m taken t :: earlier)
      = some (m.stamped taken, t) := rfl
  refine ⟨m, taken, t, t, rfl, rfl, le_refl _, by simp, htaken, ?_, fun first hfirst => ?_⟩
  · obtain ⟨m', t', hm', hjust⟩ :=
      justified TimedCall.call TimedCall.at_ millis TimedCall.call_at c₀ (millis start) _ hop
    rw [hnew] at hm'
    cases hm'
    exact (WrappedClock.sub_reading_le_iff htaken hage32 _).mp hjust.fresh
  have href := timed_refines c₀ start earlier
  have hbegan := overSince_began hgap hspaced ih (evaluates_of_operating href hop) hfirst
  have hs := SystemState.ne_fault_of_isOperating hop
  have hrunning := (overSince_running TimedCall.call TimedCall.at_ c₀ (millis start) millis
    TimedCall.call_at hs hfirst).2
  rw [lastSampleMs_newest TimedCall.call TimedCall.at_ c₀ (millis start) millis
    TimedCall.call_at hnew hop] at hrunning
  refine ⟨hbegan.1, ?_⟩
  apply Nat.lt_of_not_le
  intro hlong
  exact BitVec.not_lt.mpr ((WrappedClock.le_sub_reading_iff hbegan.1 hbegan.2 _).mpr hlong)
    hrunning

theorem exposure
    {inputs : List TimedCall} (hspaced : Run.Every (Spaced gap start) inputs)
    (hop : (timedRun c₀ start inputs).state.isOperating = true) :
    ∃ m taken passed polled,
      Exposure c₀.config start inputs (timedLog c₀ start inputs) m taken passed polled := by
  induction inputs with
  | nil => simp [timedRun, begin, SystemState.isOperating] at hop
  | cons i earlier ih =>
    have hop' := hop
    rw [timedRun, run_cons] at hop'
    rcases @ProtectionCore.update_or_other _ TimedCall.call i with ⟨m', nowMs, hi⟩ | hi
    · cases i with
      | update m taken t => exact exposure_update hgap hspaced ih hop
      | _ => cases hi
    · -- the newest sample is the one before; a tick checks how long ago it was
      obtain ⟨hopEarlier, -⟩ := step_operating _ hi hop'
      obtain ⟨m, taken, passed, polled, hE⟩ := ih hspaced.tail hopEarlier
      have hlog : timedLog c₀ start (i :: earlier) = timedLog c₀ start earlier := by
        rw [timedLog, log_cons, events_of_operating hi hop']
        rfl
      cases i with
      | update m taken t => exact absurd rfl (hi _ _)
      | tick t => exact ⟨m, taken, passed, t, exposure_tick hgap hspaced hE hop' hlog⟩
      | _ =>
        refine ⟨m, taken, passed, polled, ?_⟩
        rw [hlog]
        exact { hE with newest := hE.newest, poll := hE.poll }

end

/-- **Bounded exposure in true time.** For every run from `begin` with updates
and ticks less than `2 ^ 32 - maxMeasurementAgeMs - faultConfirmMs` ms apart:
after an update or tick at `i.at_` that leaves the core NORMAL or WARNING, the
newest sample was passed and taken within the limit each, and if it is over
the fault threshold, the first sample of its sequence was passed less than
the confirmation time before it. -/
theorem bounded_exposure (c₀ : ProtectionCore) (start : ℕ)
    (hpos : c₀.config.maxMeasurementAgeMs.toNat + c₀.config.faultConfirmMs.toNat < 2 ^ 32)
    (i : TimedCall) (earlier : List TimedCall)
    (hspaced : Run.Every (Spaced (2 ^ 32 - c₀.config.maxMeasurementAgeMs.toNat
      - c₀.config.faultConfirmMs.toNat) start) (i :: earlier))
    (hpoll : i.isPoll = true)
    (hop : (timedRun c₀ start (i :: earlier)).state = .normal ∨
      (timedRun c₀ start (i :: earlier)).state = .warning) :
    ∃ m taken passed, newestSample (i :: earlier) = some (m, taken, passed) ∧
      passed ≤ i.at_ ∧ i.at_ - passed ≤ c₀.config.maxMeasurementAgeMs.toNat ∧
      taken ≤ passed ∧ passed - taken ≤ c₀.config.maxMeasurementAgeMs.toNat ∧
      (m.power > c₀.config.faultPowerW →
        ∃ first, overSince (timedLog c₀ start (i :: earlier)) = some first ∧
          first ≤ passed ∧ passed - first < c₀.config.faultConfirmMs.toNat ∧
          i.at_ - first
            < c₀.config.faultConfirmMs.toNat + c₀.config.maxMeasurementAgeMs.toNat) := by
  have hop' : (timedRun c₀ start (i :: earlier)).state.isOperating = true := by
    rcases hop with h | h <;> rw [h] <;> rfl
  obtain ⟨m, taken, passed, polled, hE⟩ := exposure (by omega) hspaced hop'
  obtain ⟨hnewest, hlast, hle, hsilence, htaken, hage, hconf⟩ := hE
  have hpolled : polled = i.at_ := by
    rw [lastPoll, if_pos hpoll] at hlast
    exact (Option.some.inj hlast).symm
  subst hpolled
  refine ⟨m, taken, passed, hnewest, hle, hsilence, htaken, hage, ?_⟩
  intro hp
  obtain ⟨m', t', hm', hjust⟩ :=
    justified TimedCall.call TimedCall.at_ millis TimedCall.call_at c₀ (millis start) _ hop'
  rw [newest_call, hnewest] at hm'
  cases hm'
  obtain ⟨first, hfirst, -⟩ := hjust.unconfirmed hp
  obtain ⟨hfp, hshort⟩ := hconf first hfirst
  exact ⟨first, hfirst, hfp, hshort, by omega⟩

/-- An overload across the wrap of the 32-bit clock. -/
theorem bounded_exposure_across_wrap :
    ∃ first, overSince (timedLog (new exampleConfig) 4294966000
        [.tick 4294969500, .update (meterSample 230.0 600.0 0) 4294968000 4294968000,
          .update (meterSample 230.0 100.0 0) 4294967000 4294967000]) = some first ∧
      4294969500 - first < 5000 := by
  obtain ⟨m, taken, passed, hnewest, -, -, -, -, hover⟩ :=
    bounded_exposure (new exampleConfig) 4294966000 (by decide) (.tick 4294969500)
      [.update (meterSample 230.0 600.0 0) 4294968000 4294968000,
        .update (meterSample 230.0 100.0 0) 4294967000 4294967000]
      ⟨⟨by decide, by rintro - p ⟨⟩; decide, by rintro m taken t ⟨⟩⟩,
        ⟨by decide, by rintro - p ⟨⟩; decide, by rintro m taken t ⟨⟩; decide⟩,
        ⟨by decide, by rintro - p ⟨⟩, by rintro m taken t ⟨⟩; decide⟩, trivial⟩
      rfl (by decide)
  cases hnewest
  obtain ⟨first, hfirst, -, -, hlt⟩ := hover (by decide)
  exact ⟨first, hfirst, hlt⟩

end ProtectionCore

end EnergyController
