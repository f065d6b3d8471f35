/-
EnergyController.Firmware.ConcurrencyTheorems — what the tasks see of the two
mutexes is what the one-step calls of `Firmware.Protection` and
`Firmware.LatestMeasurement` say, whatever the interleaving and however the work
under a mutex is cut into pieces.
-/
import EnergyController.Firmware.Concurrency
import EnergyController.Lib.GuardedTheorems

namespace EnergyController

open Guarded

namespace ConcurrentProtection

variable {T ℓ : Type*}

/-- The wrapper as its guarded object and its flag. -/
def pair (p : Protection) : ProtectionCore × Bool := (p.core, p.internalFaultPending)

theorem applyPending_core (p : Protection) (now : Millis) :
    p.core.applyPending p.internalFaultPending now = (p.applyPendingInternalFault now).core := by
  unfold ProtectionCore.applyPending Protection.applyPendingInternalFault
  split <;> rfl

/-- A whole call on the object is the call on the wrapper. -/
theorem perform_eq (p : Protection) (f : ProtectionFunction) (now : Option ℕ) :
    protectionObject.perform (pair p) (f, now)
      = (p.reply (f.call (now.map millis)), pair (p.step (f.call (now.map millis)))) := by
  have hpending (t : Millis) : (p.applyPendingInternalFault t).internalFaultPending = false := by
    unfold Protection.applyPendingInternalFault
    split <;> simp_all
  cases now with
  | none => cases f <;> rfl
  | some t =>
    have hcore := applyPending_core p (millis t)
    cases f with
    | update m =>
      simp [Object.perform, protectionObject, pair, ProtectionFunction.call, Protection.reply,
        Protection.step, Protection.protectionUpdate, hcore, hpending]
    | tick =>
      simp [Object.perform, protectionObject, pair, ProtectionFunction.call, Protection.reply,
        Protection.step, Protection.protectionTick, hcore, hpending]
    | reset =>
      simp [Object.perform, protectionObject, pair, ProtectionFunction.call, Protection.reply,
        Protection.step, Protection.protectionReset, hcore, hpending]
    | acknowledge => rfl
    | getSnapshot => rfl

theorem serial_eq (p : Protection) (effects : List (T × Guarded.Call ProtectionFunction)) :
    serial protectionObject (pair p) effects
      = pair (p.run ((effects.map toCall).map Prod.snd)) := by
  induction effects with
  | nil => rfl
  | cons c earlier ih =>
    obtain ⟨t, f, now⟩ := c
    rw [serial_cons, ih, perform_eq]
    rfl

theorem run_eq_after (p : Protection) (calls : List (T × ProtectionCall)) :
    Run.after (fun (p : Protection) (c : T × ProtectionCall) => p.step c.2) p calls
      = p.run (calls.map Prod.snd) := by
  induction calls with
  | nil => rfl
  | cons c earlier ih =>
    rw [Run.after_cons, ih]
    rfl

theorem answers_eq (p : Protection) (effects : List (T × Guarded.Call ProtectionFunction)) :
    answers protectionObject (pair p) effects = replies p (effects.map toCall) := by
  induction effects with
  | nil => rfl
  | cons c earlier ih =>
    obtain ⟨t, f, now⟩ := c
    rw [answers_cons, ih, serial_eq, perform_eq]
    simp [replies, run_eq_after, toCall]

variable [DecidableEq T]

/-- **`protection.cpp` is linearizable.** For every way of cutting the work under
the mutex into pieces and every interleaving of any tasks: one task at most is
inside; whenever nobody is, the core and the pending flag are what the calls that
took effect leave, made one at a time; they took effect in the order of the clock
values they read; and what a task asked and was told between two moments at which
it was in no call is what the calls since the first of them ask and are told, one
at a time, from the state at that moment. -/
theorem linearizable (C : Cutting protectionObject ℓ) (p : Protection) (clock : ℕ)
    (later earlier : List (Guarded.Step T ProtectionFunction)) :
    (∀ t u, ((run C p clock earlier).phase t).Owns → ((run C p clock earlier).phase u).Owns →
      t = u) ∧
    ((run C p clock earlier).holder = none →
      ((run C p clock earlier).data, (run C p clock earlier).register)
        = pair (p.run ((calls (history C p clock earlier)).map Prod.snd))) ∧
    (times (history C p clock earlier)).Pairwise (· ≥ ·) ∧
    ∀ t, (run C p clock earlier).phase t = .idle →
      (run C p clock (later ++ earlier)).phase t = .idle →
      let since := (run C p clock earlier).history C later
      let before := p.run ((calls (history C p clock earlier)).map Prod.snd)
      ofThread t (invoked since) = (ofThread t (effects since)).map Prod.fst ∧
        ofThread t (returned since) = ofThread t (replies before (calls since)) := by
  have hx : Exclusive (run C p clock earlier) := exclusive_after (exclusive_initial _ _ _) earlier
  have hsound : Sound C (pair p) (run C p clock earlier) (history C p clock earlier) :=
    sound_after _ _ _ earlier
  have htimed : Timed (run C p clock earlier) (history C p clock earlier) :=
    timed_after _ _ _ earlier
  have hserial := serial_eq p (effects (history C p clock earlier))
  refine ⟨fun t u => hx.eq, fun hfree => ?_, htimed.sorted, fun t hidle hidle' => ?_⟩
  · have hdata := hsound.settled
    rw [State.settled_of_free hfree] at hdata
    rw [calls, ← hserial]
    exact Prod.ext hdata hsound.register
  · obtain ⟨hasked, htold⟩ :=
      agrees_since (C := C) p.core p.internalFaultPending clock later earlier hidle
    have hphase : (Run.after (State.step C) (initial p.core p.internalFaultPending clock)
      (later ++ earlier)).phase t = .idle := hidle'
    rw [hphase] at hasked htold
    refine ⟨hasked, ?_⟩
    rw [calls, calls, ← answers_eq, ← hserial]
    exact htold.symm

/-- DisplayTask gives up its snapshot while ControlTask is inside with a sample. -/
theorem linearizable_contended :
    let steps : List (Guarded.Step Bool ProtectionFunction) :=
      [.move false .leave, .move false .refuse, .move true .exchange, .move false .giveUp,
        .move false (.invoke .getSnapshot), .move true .enter, .move true .take,
        .move true (.invoke (.update (meterSample 230.0 100.0 0)))]
    let p := protectionBegin (.new exampleConfig) 0
    let h := history protectionStatements p 0 steps
    ofThread false (returned h) = ofThread false (replies p (calls h)) :=
  ((linearizable protectionStatements (protectionBegin (.new exampleConfig) 0) 0 _ []).2.2.2
    false rfl rfl).2

end ConcurrentProtection

/-! ## `latestMeasurement` -/

namespace ConcurrentMeasurement

variable {T ℓ : Type*}

/-- A store leaves its sample, every other access what it finds. -/
theorem serial_eq (effects : List (T × Guarded.Call MeasurementAccess)) :
    (serial measurementObject (.zeroInitialised, ()) effects).1 = newestStored effects := by
  induction effects with
  | nil => rfl
  | cons c earlier ih =>
    obtain ⟨t, access, now⟩ := c
    cases access <;> cases now <;> first | rfl | exact ih

/-- A copy replies what was there at first, or a sample stored since. -/
theorem copied_mem {s : Measurement × Unit} {effects : List (T × Guarded.Call MeasurementAccess)}
    {t : T} {m : Measurement}
    (hm : (t, .copied (some m)) ∈ answers measurementObject s effects) :
    m = s.1 ∨ ∃ u now, (u, .store m, some now) ∈ effects := by
  -- the same of the data, which is what a copy replies
  have hdata : ∀ effects : List (T × Guarded.Call MeasurementAccess),
      (serial measurementObject s effects).1 = s.1 ∨
        ∃ u now, (u, .store (serial measurementObject s effects).1, some now) ∈ effects := by
    intro effects
    induction effects with
    | nil => exact .inl rfl
    | cons c earlier ih =>
      obtain ⟨u, access, now⟩ := c
      have hkept :
          (∃ v at_, (v, .store (serial measurementObject s earlier).1, some at_) ∈ earlier) →
            ∃ v at_, (v, .store (serial measurementObject s earlier).1, some at_)
            ∈ (u, access, now) :: earlier := by
        rintro ⟨v, at_, hv⟩
        exact ⟨v, at_, List.mem_cons_of_mem _ hv⟩
      cases access with
      | copy => cases now <;> exact ih.imp id hkept
      | store m' =>
        cases now with
        | none => exact ih.imp id hkept
        | some now => exact .inr ⟨u, now, List.mem_cons_self⟩
  induction effects with
  | nil => cases hm
  | cons c earlier ih =>
    obtain ⟨u, access, now⟩ := c
    rw [answers_cons] at hm
    rcases List.mem_cons.mp hm with heq | hm
    · cases access <;> cases now <;> cases heq
      exact (hdata earlier).imp id fun ⟨v, at_, hv⟩ => ⟨v, at_, List.mem_cons_of_mem _ hv⟩
    · exact (ih hm).imp id fun ⟨v, at_, hv⟩ => ⟨v, at_, List.mem_cons_of_mem _ hv⟩

variable [DecidableEq T]

/-- **No torn and no stale copy.** However the stores and the copies are cut into
pieces and the tasks interleave: a copy that a task asked for after `earlier` is
whole, and is the newest sample stored by then or one stored since. -/
theorem copies_whole (C : Cutting measurementObject ℓ) (clock : ℕ)
    (later earlier : List (Guarded.Step T MeasurementAccess)) (t : T)
    (hidle : (run C clock earlier).phase t = .idle) (m : Measurement)
    (hm : (t, .copied (some m)) ∈ returned ((run C clock earlier).history C later)) :
    m = newestStored (effects (history C clock earlier)) ∨
      ∃ u now, (u, .store m, some now) ∈ effects ((run C clock earlier).history C later) := by
  have hagrees := agrees_since (C := C) Measurement.zeroInitialised () clock later earlier hidle
  have htold := hagrees.told
  have hm' := mem_ofThread.mp (htold ▸ List.mem_append_right _ (mem_ofThread.mpr hm))
  rw [← serial_eq]
  exact copied_mem hm'

/-- DisplayTask copies member by member while SensorTask waits to store. -/
theorem copies_whole_contended :
    let steps : List (Guarded.Step Bool MeasurementAccess) :=
      .move false .leave :: .move false .give :: List.replicate 10 (.move false .piece) ++
        [.move false .exchange, .move true (.invoke (.store (meterSample 230.0 100.0 7))),
          .move false .enter, .move false .take, .move false (.invoke .copy)]
    .zeroInitialised = newestStored (T := Bool) [] ∨
      ∃ u now, (u, .store .zeroInitialised, some now)
        ∈ effects (history measurementMembers 0 steps) :=
  copies_whole measurementMembers 0 _ [] false rfl .zeroInitialised List.mem_cons_self

end ConcurrentMeasurement

end EnergyController
