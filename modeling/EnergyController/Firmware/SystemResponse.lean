/-
EnergyController.Firmware.SystemResponse — how soon the firmware answers an
overload.

`SystemExposure` says what a supplied load rests on; turned round, it bounds the
time that an overload can last. The samples reach the core in the order in which
they were taken, so once ControlTask has passed one overload on, every sample
that follows it was taken later: as long as the meter shows the overload, the
confirmation it began cannot be broken off.
-/
import EnergyController.Firmware.SystemExposure

namespace EnergyController

def SystemEvent.polledAt? : SystemEvent → Option ℕ
  | .polled _ t _ => some t
  | _ => none

/-! ## The confirmation that a sample begins -/

/-- A sequence of overloads began with a poll. -/
theorem overReceivedSince_mem {faultPowerW : Float32} {h : List SystemEvent} {first : ℕ}
    (hfirst : overReceivedSince faultPowerW h = some first) :
    first ∈ h.filterMap SystemEvent.polledAt? := by
  induction h with
  | nil => cases hfirst
  | cons e earlier ih =>
    unfold overReceivedSince at hfirst
    split at hfirst
    · next heq => cases heq
    · next sample t earlier' heq =>
      cases heq
      split at hfirst
      · cases hprev : overReceivedSince faultPowerW earlier with
        | none =>
          rw [hprev] at hfirst
          cases hfirst
          simp [SystemEvent.polledAt?]
        | some since =>
          rw [hprev] at hfirst
          cases hfirst
          exact List.mem_filterMap.mpr
            ((List.mem_filterMap.mp (ih hprev)).imp fun _ hm => ⟨List.mem_cons_of_mem _ hm.1, hm.2⟩)
      · cases hfirst
    · next heq =>
      cases heq
      exact List.mem_filterMap.mpr
        ((List.mem_filterMap.mp (ih hfirst)).imp fun _ hm => ⟨List.mem_cons_of_mem _ hm.1, hm.2⟩)

/-- The newest sample is the last of the sequence. -/
theorem over_of_newest {faultPowerW : Float32} {h : List SystemEvent} {sample : Sample}
    {passed first : ℕ} (hnewest : newestReceived h = some (sample, passed))
    (hfirst : overReceivedSince faultPowerW h = some first) :
    sample.measurement.1.power > faultPowerW := by
  induction h with
  | nil => cases hnewest
  | cons e earlier ih =>
    cases e with
    | polled received t locked =>
      cases received with
      | none => exact ih hnewest hfirst
      | some sample =>
        cases locked with
        | false => exact ih hnewest hfirst
        | true =>
          cases hnewest
          rw [overReceivedSince] at hfirst
          split at hfirst
          · assumption
          · cases hfirst
    | _ => exact ih hnewest hfirst

/-- An event after which an unbroken sequence goes on. -/
theorem overReceivedSince_cons {faultPowerW : Float32} {e : SystemEvent} {h : List SystemEvent}
    {first : ℕ} (hfirst : overReceivedSince faultPowerW h = some first)
    (hover : ∀ sample ∈ e.received?, sample.measurement.1.power > faultPowerW) :
    overReceivedSince faultPowerW (e :: h) = some first := by
  cases e with
  | polled received t locked =>
    cases received with
    | none => exact hfirst
    | some sample =>
      cases locked with
      | false => exact hfirst
      | true =>
        have hpower : sample.measurement.1.power > faultPowerW := hover sample rfl
        rw [overReceivedSince, if_pos hpower, hfirst, Option.getD_some]
  | _ => exact hfirst

/-- The sequence that a sample belongs to began with it, or before. -/
theorem overReceivedSince_le {faultPowerW : Float32} {later earlier : List SystemEvent}
    {sample : Sample} {since : ℕ}
    (horder : ((later ++ .polled (some sample) since true :: earlier).filterMap
      SystemEvent.polledAt?).Pairwise fun later earlier => earlier ≤ later)
    (hpower : sample.measurement.1.power > faultPowerW)
    (hover : ∀ sample ∈ later.filterMap SystemEvent.received?,
      sample.measurement.1.power > faultPowerW) :
    ∃ first, overReceivedSince faultPowerW (later ++ .polled (some sample) since true :: earlier)
      = some first ∧ first ≤ since := by
  induction later with
  | nil =>
    refine ⟨(overReceivedSince faultPowerW earlier).getD since, ?_, ?_⟩
    · rw [List.nil_append, overReceivedSince, if_pos hpower]
    · cases hprev : overReceivedSince faultPowerW earlier with
      | none => exact Nat.le_refl since
      | some first => exact (List.pairwise_cons.mp horder).1 first (overReceivedSince_mem hprev)
  | cons e later ih =>
    obtain ⟨first, hfirst, hle⟩ := ih
      (horder.sublist ((List.sublist_cons_self _ _).filterMap _))
      (fun sample hs => hover sample (((List.sublist_cons_self _ _).filterMap _).subset hs))
    refine ⟨first, overReceivedSince_cons hfirst fun sample hs => hover sample ?_, hle⟩
    exact List.mem_filterMap.mpr ⟨e, List.mem_cons_self, hs⟩

namespace System

variable {cfg : SystemConfig} {s : System cfg} {h : List SystemEvent}

/-- A second passes, and SensorTask and ControlTask have an iteration each. -/
def secondAt (power : Float32) : List SystemStep :=
  [.controlLoop, .firmware (.controlApply levelLow), .controlPoll true, .sensorSend,
    .sensorRead
      { voltage := 230.0, current := 3.0, power := power, energy := 0.0, powerFactor := 0.5 },
    .elapse 1000]

/-! ## The order of the polls -/

/-- The polls are in order of time, and none is to come. -/
structure PollOrder (s : System cfg) (h : List SystemEvent) : Prop where
  ordered : (h.filterMap SystemEvent.polledAt?).Pairwise fun later earlier => earlier ≤ later
  past : ∀ t ∈ h.filterMap SystemEvent.polledAt?, t ≤ s.clock

/-- A step without a poll. -/
theorem PollOrder.frame (hp : PollOrder s h) {s' : System cfg} {es : List SystemEvent}
    (hclock : s.clock ≤ s'.clock) (hes : ∀ e ∈ es, e.polledAt? = none) :
    PollOrder s' (es ++ h) := by
  have hpolled : (es ++ h).filterMap SystemEvent.polledAt? = h.filterMap SystemEvent.polledAt? := by
    rw [List.filterMap_append, List.filterMap_eq_nil_iff.mpr hes, List.nil_append]
  refine ⟨?_, ?_⟩
  · rw [hpolled]
    exact hp.ordered
  · rw [hpolled]
    exact fun t ht => (hp.past t ht).trans hclock

/-- A new poll happens now. -/
theorem PollOrder.act (hp : PollOrder s h) (st : SystemStep) :
    PollOrder (s.act st).1 ((s.act st).2 ++ h) := by
  have hclock := clock_le_act s st
  revert hclock
  apply act_cases (P := fun r => s.clock ≤ r.1.clock → PollOrder r.1 (r.2 ++ h)) s st
  case controlPoll =>
    intro locked hcontrol hclock
    refine ⟨List.pairwise_cons.mpr ⟨hp.past, hp.ordered⟩, ?_⟩
    intro t ht
    rcases List.mem_cons.mp ht with rfl | ht
    · exact Nat.le_refl _
    · exact hp.past t ht
  case sensorSend =>
    intro sample hsensor hclock
    refine hp.frame hclock ?_
    intro e he
    rw [List.mem_singleton.mp he]
    split <;> rfl
  all_goals
    intros
    refine hp.frame ‹_› ?_
    simp [SystemEvent.polledAt?]

theorem pollOrder_run (cfg : SystemConfig) (a : Actuator) (readback : Int) (memory : ℕ → UInt8)
    (time : ℕ) (steps : List SystemStep) :
    PollOrder ((powerOn cfg a readback memory time).run steps)
      ((powerOn cfg a readback memory time).history steps) :=
  run_history ⟨List.Pairwise.nil, by simp⟩ (fun _ _ st _ hp => hp.act st) steps

/-- Every poll was made by the time of the latest. -/
theorem PollOrder.le_latest (hp : PollOrder s h) {t latest : ℕ} {locked : Bool}
    (ht : t ∈ h.filterMap SystemEvent.polledAt?) (hl : latestPoll h = some (latest, locked)) :
    t ≤ latest := by
  have hordered := hp.ordered
  clear hp
  induction h with
  | nil => cases hl
  | cons e earlier ih =>
    cases e with
    | polled received at_ locked =>
      cases hl
      rcases List.mem_cons.mp ht with rfl | ht
      · exact Nat.le_refl _
      · exact (List.pairwise_cons.mp hordered).1 t ht
    | _ => exact ih ht hl hordered

/-! ## The response -/

theorem SamplePath.received_sublist (hp : SamplePath s h) :
    (h.filterMap SystemEvent.received?).Sublist (h.filterMap SystemEvent.read?) := by
  refine List.Sublist.trans ?_ hp.sent_sublist
  rw [hp.account]
  exact List.sublist_append_right _ _

/-- What ControlTask received after a sample was taken no earlier. -/
theorem SamplePath.received_order {later earlier : List SystemEvent} {first : Sample} {since : ℕ}
    {locked : Bool} (hp : SamplePath s (later ++ .polled (some first) since locked :: earlier))
    {sample : Sample} (hsample : sample ∈ later.filterMap SystemEvent.received?) :
    first.takenAt ≤ sample.takenAt := by
  have hpair := hp.ordered.sublist hp.received_sublist
  rw [List.filterMap_append] at hpair
  exact (List.pairwise_append.mp hpair).2.2 sample hsample first List.mem_cons_self

end System

end EnergyController
