/-
EnergyController.Firmware.SystemExposure — from a supplied load back to the
meter: in the whole firmware, with its tasks and queues, the relay is ON only on
the strength of a reading that SensorTask took a bounded time ago.

Two things are put together. `Supplied` says what of the protection stands
behind the relay at each place of ControlTask: between two polls the relay is ON
only while the core operates and no lock failure waits to be raised. And the
events of a run, each with its true time, are calls on the core (`timedCalls`,
`core_timedHistory`), so that what `Protection.TrueTime` says of an operating core
applies: its newest sample and its latest poll are recent.

What that says in terms of calls is then said again in terms of events:
`newestReceived`, `lastPolled` and `overReceivedSince` read off the history of the
system what `newestSample`, `lastPoll` and `overRun` read off the calls
(`newestSample_timedHistory` and its like). `SupplyPath` carries it all through a
run; `supplied_by_recent_reading` is the result.
-/
import EnergyController.Firmware.SystemTheorems
import EnergyController.Protection.TrueTime

namespace EnergyController

/-- The core operates and no fault is about to be applied. -/
def Protection.Operates (p : Protection) : Prop :=
  p.internalFaultPending = false ∧ p.core.state.isOperating = true

/-- A result that commands ON leaves an operating core: it was made under the
mutex, which raises a pending fault first, and its state is that of the core. -/
theorem Protection.operates_of_commandsOn {p : Protection} {received : Option QueuedMeasurement}
    {lock : Lock} (h : (p.poll received lock).1.commandsOn = true) :
    (p.poll received lock).2.Operates := by
  rw [ProtectionResult.commandsOn_eq, Bool.and_eq_true_iff] at h
  obtain ⟨hsync, hstate⟩ := h
  cases lock with
  | none => cases received <;> cases hsync
  | some now =>
    have hpending := applyPendingInternalFault_pending p now
    cases received with
    | some m =>
      refine ⟨hpending, ?_⟩
      rw [← hstate]
      exact congrArg SystemState.isOperating (ProtectionCore.update_result _ m.1 now).1.symm
    | none =>
      refine ⟨hpending, ?_⟩
      rw [← hstate]
      exact congrArg SystemState.isOperating (ProtectionCore.tick_result _ now).1.symm

/-- A reset request that is refused leaves the state. -/
theorem Protection.operates_reset {p : Protection} (hp : p.Operates) {lock : Lock}
    (h : (p.protectionReset lock).1 ≠ .accepted) : (p.protectionReset lock).2.Operates := by
  cases lock with
  | none => exact hp
  | some now =>
    obtain ⟨hpending, hstate⟩ := hp
    obtain ⟨hcore, hnone⟩ := protectionReset_rejected h
    rw [applyPendingInternalFault_of_not_pending hpending] at hcore
    exact ⟨hnone, by rw [hcore]; exact hstate⟩

/-- No reset request makes the core operate: an accepted one leaves it in INIT, and
a refused one as it is, or with the fault that was pending. -/
theorem Protection.operates_of_reset {p : Protection} {lock : Lock}
    (h : (p.protectionReset lock).2.Operates) : p.Operates := by
  cases lock with
  | none => exact h
  | some now =>
    have hop := h.2
    by_cases hacc : (p.protectionReset (some now)).1 = .accepted
    · rw [(protectionReset_accepted hacc).1] at hop
      cases hop
    rw [(protectionReset_rejected hacc).1] at hop
    cases hpending : p.internalFaultPending with
    | true =>
      rw [applyPendingInternalFault_of_pending hpending] at hop
      simp [ProtectionCore.raiseInternalFault, ProtectionCore.raiseFault_eq,
        SystemState.isOperating] at hop
    | false =>
      rw [applyPendingInternalFault_of_not_pending hpending] at hop
      exact ⟨hpending, hop⟩

/-- An acknowledgement neither starts nor stops the core, and leaves a pending
fault pending. -/
theorem Protection.operates_acknowledge_iff (p : Protection) (lock : Lock) :
    (p.protectionAcknowledge lock).2.Operates ↔ p.Operates := by
  cases lock with
  | none => exact Iff.rfl
  | some now =>
    have hstate : (p.protectionAcknowledge (some now)).2.core.state = p.core.state :=
      acknowledge_state p.core
    unfold Operates
    rw [hstate]
    exact Iff.rfl

namespace Firmware

variable {cfg : FirmwareConfig} {s : Firmware}

/-- What stands behind the relay: between two polls, or with a result in hand.
While a result waits to be applied the relay still shows the one before it, of
which nothing is said. -/
structure Supplied (s : Firmware) : Prop where
  /-- `setup` creates ControlTask after SensorTask -/
  unborn : (s.setup = .resources ∨ s.setup = .creating .sensor ∨ s.setup = .creating .control) →
    s.control = .notCreated
  off : s.control = .notCreated → s.task.actuator.commandedOn = false
  applied : (s.control = .receiving ∨ s.control = .draining) →
    s.task.actuator.commandedOn = true → s.task.protection.Operates
  holding : ∀ result, s.control = .applying result → result.commandsOn = true →
    s.task.protection.Operates

/-- `actuatorBegin` has driven the outputs OFF, and there is no ControlTask. -/
theorem supplied_powerOn (cfg : FirmwareConfig) (a : Actuator) (readback : Int) (nowMs : Millis) :
    (powerOn cfg a readback nowMs).Supplied where
  unborn _ := rfl
  off _ := rfl
  applied h := by simp [powerOn] at h
  holding result h := by simp [powerOn] at h

/-- The outputs are driven OFF, from whichever task: where nothing is ON, nothing
has to stand behind it. -/
theorem Supplied.applyState (h : s.Supplied) {state : SystemState}
    (hstate : state.isOperating = false) (readback : Int) :
    (s.applyState cfg state readback).Supplied where
  unborn := h.unborn
  off _ := by simp [Firmware.applyState, hstate]
  applied _ hon := by simp [Firmware.applyState, hstate] at hon
  holding := h.holding

/-- `setup` creates the tasks; only the creation of ControlTask matters here. -/
theorem Supplied.setupStep (h : s.Supplied) (st : FirmwareStep) :
    (s.setupStep cfg st).Supplied := by
  unfold Firmware.setupStep
  split
  · rename_i ok hs
    exact { h with unborn := fun _ => h.unborn (.inl hs) }
  · rename_i task ok hs
    cases ok with
    | false => exact { h with unborn := by simp }
    | true =>
      cases task with
      | sensor => exact { h with unborn := fun _ => h.unborn (.inr (.inl hs)) }
      | control =>
        have hoff := h.off (h.unborn (.inr (.inr hs)))
        refine ⟨by simp [created], fun _ => hoff, fun _ hon => ?_, fun _ hheld => ?_⟩
        · have hon : s.task.actuator.commandedOn = true := hon
          rw [hoff] at hon
          cases hon
        · cases hheld
      | display => exact { h with unborn := by simp [created] }
      | network => exact { h with unborn := by simp [created] }
      | watchdog => exact { h with unborn := by simp [created] }
      | cli => exact { h with unborn := by simp [created] }
  · rename_i readback hs
    exact { h.applyState rfl readback with unborn := by simp }
  · exact h

/-- The supervisor writes the FAULT outputs and nothing else. -/
theorem Supplied.watchdogStep (h : s.Supplied) (st : FirmwareStep) :
    (s.watchdogStep cfg st).Supplied := by
  unfold Firmware.watchdogStep
  split
  · split
    · exact h
    · exact { h with }
  · rename_i readback hs
    have hfault : (s.applyState cfg .fault readback).Supplied := h.applyState rfl readback
    exact { hfault with }
  · exact { h with }
  · exact h

/-- One case for each place of ControlTask's loop. -/
theorem Supplied.controlStep (h : s.Supplied) (st : FirmwareStep) :
    (s.controlStep cfg st).Supplied := by
  have hborn {control : ControlPc} (hc : s.control = control) (hne : control ≠ .notCreated) :
      ¬ (s.setup = .resources ∨ s.setup = .creating .sensor ∨ s.setup = .creating .control) := by
    intro hs
    rw [h.unborn hs] at hc
    exact hne hc.symm
  unfold Firmware.controlStep
  split
  · -- the poll
    rename_i received lock hc
    refine ⟨fun hs => absurd hs (hborn hc (by simp)), by simp, by simp, ?_⟩
    intro result hheld hon
    cases hheld
    exact Protection.operates_of_commandsOn hon
  · -- the result is applied
    rename_i result readback hc
    refine ⟨fun hs => absurd hs (hborn hc (by simp)), by simp, fun _ hon => ?_, by simp⟩
    exact h.holding result hc hon
  · -- a command
    rename_i type lock hc
    have hnot := hborn hc (by simp)
    cases type
    case reset | remoteReset =>
      refine ⟨fun hs => absurd hs hnot, fun hpc => ?_, fun hpc hon => ?_, fun result hheld _ => ?_⟩
      · dsimp only at hpc
        split at hpc <;> cases hpc
      · dsimp only at hpc
        split at hpc
        · simp at hpc
        · next hrefused => exact Protection.operates_reset (h.applied (.inr hc) hon) hrefused
      · dsimp only at hheld
        split at hheld <;> cases hheld
    case ack | remoteAck =>
      refine ⟨h.unborn, h.off, fun hpc hon => ?_, fun result hheld _ => ?_⟩
      · exact (Protection.operates_acknowledge_iff _ lock).mpr (h.applied hpc hon)
      · have hheld : s.control = .applying result := hheld
        rw [hc] at hheld
        cases hheld
    all_goals exact h
  · -- the INIT outputs
    rename_i readback hc
    refine ⟨fun hs => absurd hs (hborn hc (by simp)), by simp, fun _ hon => ?_, by simp⟩
    simp [Firmware.applyState, SystemState.isOperating] at hon
  · -- the next iteration
    rename_i hc
    refine ⟨fun hs => absurd hs (hborn hc (by simp)), by simp, fun _ hon => ?_, by simp⟩
    exact h.applied (.inr hc) hon
  · exact h

theorem Supplied.step (h : s.Supplied) (st : FirmwareStep) : (s.step cfg st).Supplied := by
  unfold Firmware.step
  split
  · exact h
  · split <;> first
      | exact h.setupStep _
      | exact h.watchdogStep _
      | exact h.controlStep _

end Firmware

/-! ## The calls on the protection, in true time -/

namespace SystemEvent

/-- The call that an event is on the wrapper. -/
def call? : SystemEvent → Option ProtectionCall
  | .polled (some sample) t locked =>
    some (.update sample.measurement.1 (if locked then some (millis t) else none))
  | .polled none t locked => some (.tick (if locked then some (millis t) else none))
  | .executed type t locked =>
    match type with
    | .reset | .remoteReset => some (.reset (if locked then some (millis t) else none))
    | .ack | .remoteAck => some (.acknowledge (if locked then some (millis t) else none))
    | _ => none
  | _ => none

/-- The wrapper after an event; those that are no call leave it as it is. -/
def protection (p : Protection) (e : SystemEvent) : Protection :=
  match e.call? with
  | some call => p.step call
  | none => p

/-- A pending lock failure, raised by the next call that gets the mutex. -/
def pendingAt (p : Protection) (t : ℕ) : List TimedCall :=
  if p.internalFaultPending then [.raiseInternalFault t] else []

/-- The calls on the core that an event makes, newest first. -/
def timedCalls (p : Protection) : SystemEvent → List TimedCall
  | .polled (some sample) t true =>
    .update sample.measurement.1 sample.takenAt t :: pendingAt p t
  | .polled none t true => .tick t :: pendingAt p t
  | .executed type t true =>
    match type with
    | .reset | .remoteReset => .requestReset t :: pendingAt p t
    | .ack | .remoteAck => [.acknowledge t]
    | _ => []
  | _ => []

/-- What the core is called with, in true time, is what the wrapper makes of
the call. A sample's stamp is the clock's reading at the time it was taken, which
`Sample` carries with it. -/
theorem timedCalls_call (p : Protection) (e : SystemEvent) :
    (e.timedCalls p).map TimedCall.call = (e.call?.map p.coreCalls).getD [] := by
  have hpending (t : ℕ) : (pendingAt p t).map TimedCall.call = p.pendingCall (millis t) := by
    unfold pendingAt Protection.pendingCall
    split <;> rfl
  cases e with
  | polled received t locked =>
    cases received with
    | none =>
      cases locked with
      | false => rfl
      | true => simp [timedCalls, call?, Protection.coreCalls, TimedCall.call, hpending]
    | some sample =>
      cases locked with
      | false => rfl
      | true =>
        have hstamped : sample.measurement.1.stamped sample.takenAt = sample.measurement.1 := by
          rw [Measurement.stamped, ← sample.stamped]
        simp [timedCalls, call?, Protection.coreCalls, TimedCall.call, hpending, hstamped]
  | executed type t locked =>
    cases locked with
    | false => cases type <;> rfl
    | true =>
      cases type <;>
        simp [timedCalls, call?, Protection.coreCalls, TimedCall.call, hpending]
  | _ => rfl

/-- So an event does to the core what its calls do. -/
theorem protection_core (p : Protection) (e : SystemEvent) :
    (e.protection p).core = ProtectionCore.run TimedCall.call p.core (e.timedCalls p) := by
  have hrun (c : ProtectionCore) (inputs : List TimedCall) :
      ProtectionCore.run TimedCall.call c inputs
        = ProtectionCore.run id c (inputs.map TimedCall.call) := by
    induction inputs with
    | nil => rfl
    | cons i earlier ih => rw [ProtectionCore.run_cons, ih]; rfl
  rw [hrun, timedCalls_call, protection]
  cases e.call? with
  | none => rfl
  | some call => exact Protection.step_core p call

end SystemEvent

/-! ## The histories of the core -/

/-- When ControlTask last polled, and whether it got the mutex. -/
def latestPoll : List SystemEvent → Option (ℕ × Bool)
  | [] => none
  | .polled _ t locked :: _ => some (t, locked)
  | _ :: earlier => latestPoll earlier

/-- When ControlTask last called the protection with a poll that got the mutex. -/
def lastPolled : List SystemEvent → Option ℕ
  | [] => none
  | .polled _ t true :: _ => some t
  | _ :: earlier => lastPolled earlier

/-- The sample last passed to the core, and when. -/
def newestReceived : List SystemEvent → Option (Sample × ℕ)
  | [] => none
  | .polled (some sample) t true :: _ => some (sample, t)
  | _ :: earlier => newestReceived earlier

/-- When the unbroken sequence of samples over `faultPowerW` passed to the core
that ends with the newest one began. -/
def overReceivedSince (faultPowerW : Float32) : List SystemEvent → Option ℕ
  | [] => none
  | .polled (some sample) t true :: earlier =>
    if sample.measurement.1.power > faultPowerW then
      some ((overReceivedSince faultPowerW earlier).getD t)
    else none
  | _ :: earlier => overReceivedSince faultPowerW earlier

/-- A latest poll that got the mutex is the last that did. -/
theorem lastPolled_of_latestPoll {h : List SystemEvent} {t : ℕ}
    (hl : latestPoll h = some (t, true)) : lastPolled h = some t := by
  induction h with
  | nil => cases hl
  | cons e earlier ih =>
    cases e with
    | polled received at_ locked =>
      cases locked with
      | true =>
        cases hl
        rfl
      | false => cases hl
    | _ => exact ih hl

/-- If some poll got the mutex, there is a latest one. -/
theorem latestPoll_isSome {h : List SystemEvent} {t : ℕ} (hl : lastPolled h = some t) :
    ∃ latest, latestPoll h = some latest := by
  induction h with
  | nil => cases hl
  | cons e earlier ih =>
    cases e with
    | polled received at_ locked => exact ⟨_, rfl⟩
    | _ => exact ih hl

/-- The newest sample was polled. -/
theorem newestReceived_mem {h : List SystemEvent} {sample : Sample} {t : ℕ}
    (hn : newestReceived h = some (sample, t)) : .polled (some sample) t true ∈ h := by
  induction h with
  | nil => cases hn
  | cons e earlier ih =>
    unfold newestReceived at hn
    split at hn
    · next heq => cases heq
    · next heq =>
      cases heq
      cases hn
      exact List.mem_cons_self
    · next heq =>
      cases heq
      exact List.mem_cons_of_mem _ (ih hn)

section

variable (p₀ : Protection)

/-- The calls on the core in a whole history. -/
def timedHistory (h : List SystemEvent) : List TimedCall :=
  Run.observed SystemEvent.protection SystemEvent.timedCalls p₀ h

theorem timedHistory_cons (e : SystemEvent) (h : List SystemEvent) :
    timedHistory p₀ (e :: h)
      = e.timedCalls (Run.after SystemEvent.protection p₀ h) ++ timedHistory p₀ h := rfl

/-- **The core is the core of its calls**: a run of the system, looked at from the
core, is a run of `ProtectionCore` with known true times. -/
theorem core_timedHistory (h : List SystemEvent) :
    (Run.after SystemEvent.protection p₀ h).core
      = ProtectionCore.run TimedCall.call p₀.core (timedHistory p₀ h) := by
  induction h with
  | nil => rfl
  | cons e earlier ih =>
    rw [Run.after_cons, SystemEvent.protection_core, timedHistory_cons,
      ProtectionCore.run_append, ih]

/-! A raised lock failure is neither a poll nor a sample, and breaks no sequence of
overloads; so the three histories of the calls are those of the events. -/

theorem lastPoll_pendingAt (p : Protection) (t : ℕ) (calls : List TimedCall) :
    lastPoll (SystemEvent.pendingAt p t ++ calls) = lastPoll calls := by
  unfold SystemEvent.pendingAt
  split <;> rfl

theorem newestSample_pendingAt (p : Protection) (t : ℕ) (calls : List TimedCall) :
    newestSample (SystemEvent.pendingAt p t ++ calls) = newestSample calls := by
  unfold SystemEvent.pendingAt
  split <;> rfl

theorem lastPoll_timedHistory (h : List SystemEvent) :
    lastPoll (timedHistory p₀ h) = lastPolled h := by
  induction h with
  | nil => rfl
  | cons e earlier ih =>
    rw [timedHistory_cons]
    cases e with
    | polled received t locked =>
      cases locked with
      | true => cases received <;> rfl
      | false => cases received <;> exact ih
    | executed type t locked =>
      cases locked with
      | false => exact ih
      | true =>
        cases type
        case reset | remoteReset => exact (lastPoll_pendingAt _ t _).trans ih
        all_goals exact ih
    | _ => exact ih

theorem newestSample_timedHistory (h : List SystemEvent) :
    newestSample (timedHistory p₀ h)
      = (newestReceived h).map fun r => (r.1.measurement.1, r.1.takenAt, r.2) := by
  induction h with
  | nil => rfl
  | cons e earlier ih =>
    rw [timedHistory_cons]
    cases e with
    | polled received t locked =>
      cases locked with
      | false => cases received <;> exact ih
      | true =>
        cases received with
        | some sample => rfl
        | none => exact (newestSample_pendingAt _ t _).trans ih
    | executed type t locked =>
      cases locked with
      | false => exact ih
      | true =>
        cases type
        case reset | remoteReset => exact (newestSample_pendingAt _ t _).trans ih
        all_goals exact ih
    | _ => exact ih

theorem overRun_pendingAt (k : ProtectionConfig) (p : Protection) (t : ℕ) (calls : List TimedCall) :
    ProtectionCore.overRun TimedCall.call TimedCall.at_ k (SystemEvent.pendingAt p t ++ calls)
      = ProtectionCore.overRun TimedCall.call TimedCall.at_ k calls := by
  unfold SystemEvent.pendingAt
  split <;> rfl

theorem overRun_timedHistory (k : ProtectionConfig) (h : List SystemEvent) :
    ProtectionCore.overRun TimedCall.call TimedCall.at_ k (timedHistory p₀ h)
      = overReceivedSince k.faultPowerW h := by
  induction h with
  | nil => rfl
  | cons e earlier ih =>
    rw [timedHistory_cons]
    cases e with
    | polled received t locked =>
      cases locked with
      | false => cases received <;> exact ih
      | true =>
        cases received with
        | none => exact (overRun_pendingAt k _ t _).trans ih
        | some sample =>
          show (if sample.measurement.1.power > k.faultPowerW then
              some ((ProtectionCore.overRun TimedCall.call TimedCall.at_ k
                (SystemEvent.pendingAt _ t ++ timedHistory p₀ earlier)).getD t)
            else none) = _
          rw [overRun_pendingAt, ih]
          rfl
    | executed type t locked =>
      cases locked with
      | false => exact ih
      | true =>
        cases type
        case reset | remoteReset => exact (overRun_pendingAt k _ t _).trans ih
        all_goals exact ih
    | _ => exact ih

end

/-- Where the core operates, the latest poll got the mutex: a poll that did not
leaves a fault pending, and only another poll makes the core operate again. -/
theorem locked_of_operates {p₀ : Protection} {h : List SystemEvent} {t : ℕ} {locked : Bool}
    (hop : (Run.after SystemEvent.protection p₀ h).Operates)
    (hl : latestPoll h = some (t, locked)) : locked = true := by
  induction h with
  | nil => cases hl
  | cons e earlier ih =>
    rw [Run.after_cons] at hop
    cases e with
    | polled received at_ locked =>
      cases locked with
      | true =>
        cases hl
        rfl
      | false =>
        have hpending := hop.1
        cases received <;> cases hpending
    | executed type at_ locked =>
      cases type
      case reset | remoteReset => exact ih (Protection.operates_of_reset hop) hl
      case ack | remoteAck => exact ih ((Protection.operates_acknowledge_iff _ _).mp hop) hl
      all_goals exact ih hop hl
    | _ => exact ih hop hl

/-! ## Scheduling -/

/-- What the exposure rests on: ControlTask polls at least every `gap` ms, and
no sample is 49 days on its way. -/
def Timely (gap : ℕ) (earlier : List SystemEvent) : SystemEvent → Prop
  | .polled received t true =>
    (∀ p ∈ lastPolled earlier, t - p < gap) ∧ ∀ sample ∈ received, t - sample.takenAt < 2 ^ 32
  | _ => True

instance (gap : ℕ) (earlier : List SystemEvent) :
    (e : SystemEvent) → Decidable (Timely gap earlier e)
  | .polled _ _ true => inferInstanceAs (Decidable (_ ∧ _))
  | .polled _ _ false | .read _ | .sent _ | .lost _ | .typed _ | .enqueued _ _
  | .executed _ _ _ => inferInstanceAs (Decidable True)

/-- A new event happens at `t`, behind all calls. -/
def SystemEvent.At (t : ℕ) : SystemEvent → Prop
  | .polled received at_ _ => at_ = t ∧ ∀ sample, received = some sample → sample.takenAt ≤ t
  | .executed _ at_ _ => at_ = t
  | _ => True

section

variable {gap start t : ℕ} {calls : List TimedCall}

/-- The calls so far are spaced, and behind `t`: what `Protection.TrueTime` asks of
them, and what is needed to add one at `t`. -/
def SpacedUntil (gap start t : ℕ) (calls : List TimedCall) : Prop :=
  Run.Every (Spaced gap start) calls ∧ lastAt start calls ≤ t

/-- A call that is no poll. -/
theorem SpacedUntil.cons (h : SpacedUntil gap start t calls) {i : TimedCall} (ht : i.at_ = t)
    (hpoll : i.isPoll = false) : SpacedUntil gap start t (i :: calls) := by
  refine ⟨⟨⟨by rw [ht]; exact h.2, by simp [hpoll], ?_⟩, h.1⟩, ht.le⟩
  rintro m taken at_ rfl
  cases hpoll

theorem SpacedUntil.pendingAt (h : SpacedUntil gap start t calls) (p : Protection) :
    SpacedUntil gap start t (SystemEvent.pendingAt p t ++ calls) := by
  unfold SystemEvent.pendingAt
  split
  · exact h.cons rfl rfl
  · exact h

theorem SpacedUntil.later (h : SpacedUntil gap start t calls) {t' : ℕ} (ht : t ≤ t') :
    SpacedUntil gap start t' calls := ⟨h.1, h.2.trans ht⟩

/-- A timely event adds calls that are spaced as well: a raised lock failure and
the call itself, both now. -/
theorem SpacedUntil.event {p₀ : Protection} {h : List SystemEvent}
    (hs : SpacedUntil gap start t (timedHistory p₀ h)) {e : SystemEvent} (he : e.At t)
    (htimely : Timely gap h e) : SpacedUntil gap start t (timedHistory p₀ (e :: h)) := by
  rw [timedHistory_cons]
  have hlast := lastPoll_timedHistory p₀ h
  generalize Run.after SystemEvent.protection p₀ h = p
  cases e with
  | polled received at_ locked =>
    obtain ⟨rfl, htaken⟩ := he
    cases locked with
    | false => cases received <;> exact hs
    | true =>
      obtain ⟨hpending, hle⟩ := hs.pendingAt p
      have hpoll := lastPoll_pendingAt p at_ (timedHistory p₀ h)
      cases received with
      | none =>
        refine ⟨⟨⟨hle, fun _ q hq => ?_, by simp⟩, hpending⟩, Nat.le_refl _⟩
        exact htimely.1 q (by rw [← hlast, ← hpoll]; exact hq)
      | some sample =>
        refine ⟨⟨⟨hle, fun _ q hq => ?_, ?_⟩, hpending⟩, Nat.le_refl _⟩
        · exact htimely.1 q (by rw [← hlast, ← hpoll]; exact hq)
        · rintro m taken t ⟨⟩
          exact ⟨htaken sample rfl, htimely.2 sample rfl⟩
  | executed type at_ locked =>
    obtain rfl := he
    cases locked with
    | false => exact hs
    | true =>
      cases type
      case reset | remoteReset => exact (hs.pendingAt p).cons rfl rfl
      case ack | remoteAck => exact hs.cons rfl rfl
      all_goals exact hs
  | _ => exact hs

end

/-! ## The whole system -/

namespace Firmware

variable {cfg : FirmwareConfig} {s : Firmware}

/-! The other tasks do not touch the protection. -/

theorem setupStep_protection (cfg : FirmwareConfig) (s : Firmware) (st : FirmwareStep) :
    (s.setupStep cfg st).task.protection = s.task.protection := by
  have hcreated (task : FirmwareTask) : (s.created task).task = s.task := by cases task <;> rfl
  unfold setupStep
  split
  · rfl
  · split
    · rw [hcreated]
    · rfl
  · rfl
  · rfl

theorem watchdogStep_protection (cfg : FirmwareConfig) (s : Firmware) (st : FirmwareStep) :
    (s.watchdogStep cfg st).task.protection = s.task.protection := by
  unfold watchdogStep
  split
  · split <;> rfl
  all_goals rfl

/-- Only polls and commands reach the protection. -/
theorem step_protection_other {st : FirmwareStep} (hst : st.usesQueue = false) :
    (s.step cfg st).task.protection = s.task.protection := by
  have hcontrol : (s.controlStep cfg st).task.protection = s.task.protection := by
    unfold controlStep
    split <;> first | rfl | cases hst
  unfold step
  split
  · rfl
  · split <;> first
      | exact setupStep_protection cfg s _
      | exact watchdogStep_protection cfg s _
      | exact hcontrol

theorem step_protection_loop (cfg : FirmwareConfig) (s : Firmware) :
    (s.step cfg .controlLoop).task.protection = s.task.protection := by
  unfold step
  split
  · rfl
  · dsimp only
    unfold controlStep
    split <;> first | rfl | contradiction

end Firmware

namespace System

variable {cfg : SystemConfig} {s : System cfg} {h : List SystemEvent} {p₀ : Protection}

/-- The protection under a poll is the protection under its event. -/
theorem poll_protection (hw : s.firmware.watchdog ≠ .restarted)
    (hc : s.firmware.control = .receiving) (locked : Bool) :
    (s.firmware.step cfg.firmware (.controlPoll
        (s.measurementQueue.items.head?.map (·.measurement)) (s.lock locked))).task.protection
      = SystemEvent.protection s.firmware.task.protection
          (.polled s.measurementQueue.items.head? s.clock locked) := by
  cases s.measurementQueue.items.head? with
  | none => simp [Firmware.step, hw, Firmware.controlStep, hc, Protection.poll,
      SystemEvent.protection, SystemEvent.call?, Protection.step, lock]
  | some sample => simp [Firmware.step, hw, Firmware.controlStep, hc, Protection.poll,
      SystemEvent.protection, SystemEvent.call?, Protection.step, lock]

/-- The protection under a command is the protection under its event; commands
that are neither a reset nor an acknowledgement are no call. -/
theorem command_protection (hw : s.firmware.watchdog ≠ .restarted)
    (hc : s.firmware.control = .draining) (type : CommandType) (locked : Bool) :
    (s.firmware.step cfg.firmware (.controlCommand type (s.lock locked))).task.protection
      = SystemEvent.protection s.firmware.task.protection (.executed type s.clock locked) := by
  cases type <;> simp [Firmware.step, hw, Firmware.controlStep, hc, SystemEvent.protection,
    SystemEvent.call?, Protection.step, lock]

/-- What is known of a run: what stands behind the relay, that the protection is
what the events made of it, where the samples are, and, as long as the run has
been timely, that the calls are spaced. -/
structure SupplyPath (p₀ : Protection) (gap start : ℕ) (s : System cfg) (h : List SystemEvent) :
    Prop where
  supplied : s.firmware.Supplied
  protection : s.firmware.task.protection = Run.after SystemEvent.protection p₀ h
  samples : SamplePath s h
  start_le : start ≤ s.clock
  spaced : Run.Every (Timely gap) h → SpacedUntil gap start s.clock (timedHistory p₀ h)

theorem supplyPath_powerOn (cfg : SystemConfig) (a : Actuator) (readback : Int)
    (memory : ℕ → UInt8) (time gap : ℕ) :
    SupplyPath (protectionBegin (.new (makeConfig cfg.firmware)) (millis time)) gap time
      (powerOn cfg a readback memory time) [] where
  supplied := Firmware.supplied_powerOn cfg.firmware a readback (millis time)
  protection := rfl
  samples := samplePath_powerOn cfg a readback memory time
  start_le := Nat.le_refl _
  spaced _ := ⟨trivial, Nat.le_refl _⟩

variable {gap start : ℕ}

/-- A step without a call on the protection: its events, of which there are two for
a command that is typed, add nothing to the calls. -/
theorem SupplyPath.quiet (hp : SupplyPath p₀ gap start s h) {s' : System cfg}
    {es : List SystemEvent} (hsupplied : s'.firmware.Supplied)
    (hprotection : s'.firmware.task.protection = s.firmware.task.protection)
    (hsamples : SamplePath s' (es ++ h)) (hclock : s.clock ≤ s'.clock)
    (hes : ∀ e ∈ es, e.call? = none ∧ ∀ p, e.timedCalls p = []) :
    SupplyPath p₀ gap start s' (es ++ h) := by
  have hquiet : Run.after SystemEvent.protection p₀ (es ++ h)
        = Run.after SystemEvent.protection p₀ h ∧
      timedHistory p₀ (es ++ h) = timedHistory p₀ h ∧
      (Run.Every (Timely gap) (es ++ h) → Run.Every (Timely gap) h) := by
    clear hsamples
    induction es with
    | nil => exact ⟨rfl, rfl, id⟩
    | cons e es ih =>
      obtain ⟨hcall, htimed⟩ := hes e List.mem_cons_self
      obtain ⟨hafter, hhistory, hevery⟩ := ih fun e' he' => hes e' (List.mem_cons_of_mem _ he')
      refine ⟨?_, ?_, fun htimely => hevery htimely.tail⟩
      · rw [List.cons_append, Run.after_cons, SystemEvent.protection, hcall]
        exact hafter
      · rw [List.cons_append, timedHistory_cons, htimed]
        exact hhistory
  obtain ⟨hafter, hhistory, hevery⟩ := hquiet
  refine ⟨hsupplied, ?_, hsamples, hp.start_le.trans hclock, fun htimely => ?_⟩
  · rw [hprotection, hafter]
    exact hp.protection
  · rw [hhistory]
    exact (hp.spaced (hevery htimely)).later hclock

/-- A step that is one call on the protection, made now. -/
theorem SupplyPath.called (hp : SupplyPath p₀ gap start s h) {s' : System cfg} {e : SystemEvent}
    (hsupplied : s'.firmware.Supplied)
    (hprotection : s'.firmware.task.protection = e.protection s.firmware.task.protection)
    (hsamples : SamplePath s' (e :: h)) (hclock : s'.clock = s.clock) (he : e.At s.clock) :
    SupplyPath p₀ gap start s' (e :: h) := by
  refine ⟨hsupplied, ?_, hsamples, by rw [hclock]; exact hp.start_le, fun htimely => ?_⟩
  · rw [hprotection, hp.protection]
    rfl
  · rw [hclock]
    exact (hp.spaced htimely.tail).event he htimely.head

/-- Two steps call the protection, the poll and a command; the rest is quiet. -/
theorem SupplyPath.act (hw : s.firmware.watchdog ≠ .restarted) (hp : SupplyPath p₀ gap start s h)
    (st : SystemStep) : SupplyPath p₀ gap start (s.act st).1 ((s.act st).2 ++ h) := by
  have hstep := hp.samples.act st
  have hclock := clock_le_act s st
  revert hstep hclock
  apply act_cases (P := fun r => SamplePath r.1 (r.2 ++ h) → s.clock ≤ r.1.clock →
    SupplyPath p₀ gap start r.1 (r.2 ++ h)) s st
  case stays => exact fun _ _ => hp
  case firmware =>
    intro st hst hsamples hclock
    exact hp.quiet (hp.supplied.step st) (Firmware.step_protection_other hst) hsamples hclock
      (by simp)
  case controlLoop =>
    intro hq hsamples hclock
    exact hp.quiet (hp.supplied.step .controlLoop) (Firmware.step_protection_loop _ _) hsamples
      hclock (by simp)
  case controlPoll =>
    intro locked hc hsamples _
    refine hp.called (hp.supplied.step (.controlPoll _ _)) (poll_protection hw hc locked) hsamples
      rfl ⟨rfl, ?_⟩
    intro sample hsample
    exact hp.samples.waiting_le (List.mem_of_mem_head? hsample)
  case controlCommand =>
    intro locked type rest hc hq hsamples _
    exact hp.called (hp.supplied.step (.controlCommand _ _))
      (command_protection hw hc type locked) hsamples rfl rfl
  case sensorSend =>
    intro sample hs hsamples hclock
    refine hp.quiet hp.supplied rfl hsamples hclock ?_
    intro e he
    rw [List.mem_singleton.mp he]
    split <;> exact ⟨rfl, fun _ => rfl⟩
  all_goals
    intros
    refine hp.quiet hp.supplied rfl ‹_› ‹_› ?_
    simp [SystemEvent.call?, SystemEvent.timedCalls]

/-- From power-on, where the core has just begun and nothing has happened. -/
theorem supplyPath_run (cfg : SystemConfig) (a : Actuator) (readback : Int) (memory : ℕ → UInt8)
    (time gap : ℕ) (steps : List SystemStep) :
    SupplyPath (protectionBegin (.new (makeConfig cfg.firmware)) (millis time)) gap time
      ((powerOn cfg a readback memory time).run steps)
      ((powerOn cfg a readback memory time).history steps) :=
  run_history (supplyPath_powerOn cfg a readback memory time gap)
    (fun _ _ st hw hp => hp.act hw st) steps

/-- What a supplied load rests on: the newest sample passed to the core, when it
was passed, and the latest poll. -/
structure SuppliedBy (cfg : FirmwareConfig) (h : List SystemEvent) (sample : Sample)
    (passed polled : ℕ) : Prop where
  newest : newestReceived h = some (sample, passed)
  latest : latestPoll h = some (polled, true)
  read : sample ∈ h.filterMap SystemEvent.read?
  taken_le : sample.takenAt ≤ passed
  age : passed - sample.takenAt ≤ cfg.maxMeasurementAgeMs.toNat
  passed_le : passed ≤ polled
  silence : polled - passed ≤ cfg.maxMeasurementAgeMs.toNat
  valid : sample.measurement.1.valid = true
  mains : sample.measurement.1.voltage > cfg.minOperatingVoltageV
  confirming : sample.measurement.1.power > cfg.powerFaultThresholdW →
    ∃ first, overReceivedSince cfg.powerFaultThresholdW h = some first ∧
      first ≤ passed ∧ passed - first < cfg.faultConfirmTimeMs.toNat

/-- The polls come often enough for the 32-bit clock. -/
def ClockTimely (cfg : FirmwareConfig) (h : List SystemEvent) : Prop :=
  Run.Every (Timely (2 ^ 32 - cfg.maxMeasurementAgeMs.toNat - cfg.faultConfirmTimeMs.toNat)) h

instance (cfg : FirmwareConfig) (h : List SystemEvent) : Decidable (ClockTimely cfg h) :=
  inferInstanceAs (Decidable (Run.Every _ h))

/-- **A supplied load rests on a recent sample.** The relay is ON, so the core
operates; then its exposure is bounded (`ProtectionCore.exposure`), and what it
found of its newest sample justifies it (`ProtectionCore.justified`). The rest
says the same of the events. -/
theorem suppliedBy_of_on (cfg : SystemConfig) (a : Actuator) (readback : Int)
    (memory : ℕ → UInt8) (time : ℕ) (steps : List SystemStep)
    (hpos : cfg.firmware.maxMeasurementAgeMs.toNat + cfg.firmware.faultConfirmTimeMs.toNat < 2 ^ 32)
    (htimely : ClockTimely cfg.firmware ((powerOn cfg a readback memory time).history steps))
    (hcontrol : ((powerOn cfg a readback memory time).run steps).firmware.control = .receiving ∨
      ((powerOn cfg a readback memory time).run steps).firmware.control = .draining)
    (hon : ((powerOn cfg a readback memory time).run steps).firmware.task.actuator.commandedOn
      = true) :
    ∃ sample passed polled,
      SuppliedBy cfg.firmware ((powerOn cfg a readback memory time).history steps)
        sample passed polled ∧
      polled ≤ ((powerOn cfg a readback memory time).run steps).clock := by
  have hp := supplyPath_run cfg a readback memory time
    (2 ^ 32 - cfg.firmware.maxMeasurementAgeMs.toNat - cfg.firmware.faultConfirmTimeMs.toNat) steps
  obtain ⟨hspaced, hclock⟩ := hp.spaced htimely
  have hgap : 2 ^ 32 - cfg.firmware.maxMeasurementAgeMs.toNat
      - cfg.firmware.faultConfirmTimeMs.toNat + cfg.firmware.maxMeasurementAgeMs.toNat
      + cfg.firmware.faultConfirmTimeMs.toNat ≤ 2 ^ 32 := by omega
  -- the core operates, hence its exposure is bounded
  have hoperates := hp.supplied.applied hcontrol hon
  rw [hp.protection] at hoperates
  have hop := hoperates.2
  rw [core_timedHistory] at hop
  obtain ⟨m, taken, passed, polled, hE⟩ :=
    ProtectionCore.exposure hgap hspaced hop
  have hnewest := hE.newest
  have hpolled := hE.poll
  rw [newestSample_timedHistory] at hnewest
  obtain ⟨⟨sample, passed'⟩, hreceived, heq⟩ := Option.map_eq_some_iff.mp hnewest
  cases heq
  rw [lastPoll_timedHistory] at hpolled
  obtain ⟨⟨polled', locked⟩, hlatest⟩ := latestPoll_isSome hpolled
  obtain rfl := locked_of_operates hoperates hlatest
  obtain rfl : polled' = polled :=
    Option.some.inj ((lastPolled_of_latestPoll hlatest).symm.trans hpolled)
  -- what the core has found of the newest sample
  obtain ⟨m', t', hm', hj⟩ := ProtectionCore.justified TimedCall.call TimedCall.at_ millis
    TimedCall.call_at (.new (makeConfig cfg.firmware)) (millis time) _ hop
  rw [newest_call, hE.newest] at hm'
  cases hm'
  have hover := ProtectionCore.overSince_eq_overRun TimedCall.call TimedCall.at_ millis
    TimedCall.call_at (.new (makeConfig cfg.firmware)) (millis time) hop
  rw [overRun_timedHistory] at hover
  refine ⟨sample, passed', polled', ?_, (lastPoll_le hspaced hE.poll).trans hclock⟩
  exact {
    newest := hreceived
    latest := hlatest
    read := by
      refine hp.samples.sent_sublist.subset ?_
      rw [hp.samples.account]
      exact List.mem_append_right _
        (List.mem_filterMap.mpr ⟨_, newestReceived_mem hreceived, rfl⟩)
    taken_le := hE.taken_le
    age := hE.age
    passed_le := hE.passed_le
    silence := hE.silence
    valid := hj.valid
    mains := mains_of_built cfg.firmware sample.measurement.2 hj.valid hj.mains
    confirming := by
      intro hpower
      obtain ⟨first, hfirst, -⟩ := hj.unconfirmed hpower
      obtain ⟨hle, hshort⟩ := hE.confirming first hfirst
      exact ⟨first, hover.symm.trans hfirst, hle, hshort⟩ }

end System

end EnergyController
