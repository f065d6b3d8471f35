/-
EnergyController.Protection.History — what the core remembers of its history.

The core stores the newest sample, the time it was passed, the re-arm point
and, in the state, what the newest sample amounts to. Each is a function of
the calls made so far: `newest` (`last_newest`, `lastSampleMs_newest`),
`rearmedAt` (`rearmMs_rearmedAt`), and the log of `Protection.Refinement`,
whose samples carry their own row (`labelled_log`). `justified` collects what
an operating state says about the history: the newest sample was evaluated,
is good, and if it is over the threshold the confirmation of the sequence it
belongs to is still running.
-/
import EnergyController.Protection.Refinement

namespace EnergyController

/-- The instant of the latest start or re-arm. -/
def rearmedAt {α τ : Type*} (start : τ) : List (Event α τ) → τ
  | [] => start
  | .rearm t :: _ => t
  | .sample .. :: earlier => rearmedAt start earlier
  | .trip _ :: earlier => rearmedAt start earlier

namespace ProtectionCore

/-! ## One call -/

/-- A call other than `update` leaves the stored sample alone. -/
theorem step_stored (c : ProtectionCore) {call : CoreCall}
    (hcall : ∀ m nowMs, call ≠ .update m nowMs) :
    (c.step call).last = c.last ∧ (c.step call).haveMeasurement = c.haveMeasurement := by
  cases call with
  | update m nowMs => exact absurd rfl (hcall m nowMs)
  | tick nowMs =>
    simp only [step, tick_eq]
    split <;> simp [raiseFault_eq]
  | requestReset nowMs =>
    simp only [step, requestReset_eq]
    split <;> exact ⟨rfl, rfl⟩
  | acknowledge =>
    simp only [step, acknowledge]
    split <;> exact ⟨rfl, rfl⟩
  | raiseInternalFault nowMs => simp [step, raiseInternalFault, raiseFault_eq]
  | snapshot nowMs => exact ⟨rfl, rfl⟩

/-- A call other than `update` that leaves the core operating changed nothing
but the record of acknowledgements and reset results. -/
theorem step_operating (c : ProtectionCore) {call : CoreCall}
    (hcall : ∀ m nowMs, call ≠ .update m nowMs) (h : (c.step call).state.isOperating = true) :
    c.state.isOperating = true ∧ (c.step call).lastSampleMs = c.lastSampleMs := by
  cases call with
  | update m nowMs => exact absurd rfl (hcall m nowMs)
  | tick nowMs =>
    simp only [step, tick_eq] at h ⊢
    split at h
    · simp [raiseFault_eq, SystemState.isOperating] at h
    · rename_i hq
      simp [hq, h]
  | requestReset nowMs =>
    simp only [step, requestReset_eq] at h ⊢
    split at h
    · simp [rearmed, SystemState.isOperating] at h
    · rename_i hr
      rw [if_neg hr]
      exact ⟨h, rfl⟩
  | acknowledge =>
    simp only [step, acknowledge] at h ⊢
    split at h
    · rename_i ha
      rw [if_pos ha]
      exact ⟨h, rfl⟩
    · rename_i ha
      rw [if_neg ha]
      exact ⟨h, rfl⟩
  | raiseInternalFault nowMs =>
    simp [step, raiseInternalFault, raiseFault_eq, SystemState.isOperating] at h
  | snapshot nowMs => exact ⟨h, rfl⟩

/-- A tick that leaves the core operating found the silence short enough. -/
theorem not_silent_of_operating {c : ProtectionCore} {nowMs : Millis}
    (h : (c.step (.tick nowMs)).state.isOperating = true) :
    c.silent nowMs = false := by
  simp only [step, tick_eq] at h
  split at h
  · simp [raiseFault_eq, SystemState.isOperating] at h
  · rename_i hq
    simpa using hq

/-- A call other than `update` that leaves the core operating adds nothing to
the log. -/
theorem events_of_operating {τ : Type*} {c : ProtectionCore} {call : CoreCall} {t : τ}
    (hcall : ∀ m nowMs, call ≠ .update m nowMs) (h : (c.step call).state.isOperating = true) :
    c.events call t = [] := by
  cases call with
  | update m nowMs => exact absurd rfl (hcall m nowMs)
  | tick nowMs => simp [events, not_silent_of_operating h]
  | requestReset nowMs =>
    simp only [step, requestReset_eq] at h
    split at h
    · simp [rearmed, SystemState.isOperating] at h
    · rename_i hr
      simp [events, hr]
  | acknowledge => rfl
  | raiseInternalFault nowMs =>
    simp [step, raiseInternalFault, raiseFault_eq, SystemState.isOperating] at h
  | snapshot nowMs => rfl

/-- The sample is stored before anything is decided, whatever comes of it. -/
theorem update_stored (c : ProtectionCore) (m : Measurement) (nowMs : Millis) :
    (c.update m nowMs).2.last = m ∧ (c.update m nowMs).2.haveMeasurement = true := by
  rcases c.update_cases m with h | ⟨h, hi⟩ | he
  · simp [update_of_fault h]
  · simp [update_of_ignores h hi]
  · rw [update_of_evaluates he, evaluate_eq]
    exact ⟨(sameFrame_react _ _ _).last, (sameFrame_react _ _ _).haveMeasurement⟩

/-- The silence clock restarts with every sample that is consumed. -/
theorem update_lastSampleMs {c : ProtectionCore} {m : Measurement} {nowMs : Millis}
    (h : c.state = .fault ∨ c.evaluates m = true) :
    (c.update m nowMs).2.lastSampleMs = nowMs := by
  rcases h with h | he
  · simp [update_of_fault h]
  · rw [update_of_evaluates he, evaluate_eq]
    exact (sameFrame_react _ _ _).lastSampleMs

/-- An update that leaves the core operating evaluated its sample: a latched
core stays latched, and a sample is only ignored while the load waits. -/
theorem evaluates_of_operating {τ : Type*} {clock : τ → Millis} {c : ProtectionCore}
    {mode : Mode τ} (href : c.Refines clock mode) {m : Measurement} {nowMs : Millis}
    (hop : (c.update m nowMs).2.state.isOperating = true) : c.evaluates m = true := by
  rcases c.update_cases m with hs | ⟨hs, hi⟩ | he
  · simp [update_of_fault hs, hs, SystemState.isOperating] at hop
  · have ha : c.awaitingFirstSample = true := by
      simp only [ignores, Bool.and_eq_true] at hi
      exact hi.1
    obtain rfl := (href.awaiting_iff hs).mp ha
    simp [update_of_ignores hs hi, href.2.1, SystemState.isOperating] at hop
  · exact he

/-- The re-arm point moves only with an accepted reset. -/
theorem step_rearmMs (c : ProtectionCore) (call : CoreCall) {τ : Type*} (clock : τ → Millis)
    {t : τ} (hnow : call.At (clock t)) {start : τ} {earlier : List (Event Measurement τ)}
    (h : c.rearmMs = clock (rearmedAt start earlier)) :
    (c.step call).rearmMs = clock (rearmedAt start (c.events call t ++ earlier)) := by
  cases call with
  | update m nowMs =>
    rcases c.update_cases m with hs | ⟨hs, hi⟩ | he
    · have he : c.evaluates m = false := by simp [evaluates, hs]
      simp [step, events, update_of_fault hs, he, h]
    · have he : c.evaluates m = false := by simp [evaluates, hi]
      simp [step, events, update_of_ignores hs hi, he, h]
    · simp only [step, events, he, if_true, List.cons_append, List.nil_append, rearmedAt]
      rw [update_of_evaluates he, evaluate_eq, (sameFrame_react _ _ _).rearmMs, h]
  | tick nowMs =>
    simp only [step, tick_eq, events]
    split
    · simp [raiseFault_eq, rearmedAt, h]
    · simpa using h
  | requestReset nowMs =>
    obtain rfl : nowMs = clock t := hnow
    simp only [step, events, requestReset_eq]
    split
    · simp [rearmed, rearmedAt]
    · simpa using h
  | acknowledge =>
    simp only [step, events, acknowledge]
    split <;> simpa using h
  | raiseInternalFault nowMs => simp [step, events, raiseInternalFault, raiseFault_eq, rearmedAt, h]
  | snapshot nowMs => simpa [step, events] using h

/-! ## Whole runs -/

section Runs

variable {τ ι : Type*} (call : ι → CoreCall) (at_ : ι → τ)

/-- The newest sample passed to `update`, with the instant of the call. -/
def newest : List ι → Option (Measurement × τ)
  | [] => none
  | i :: earlier =>
    match call i with
    | .update m _ => some (m, at_ i)
    | _ => newest earlier

variable {call at_}

theorem newest_update {i : ι} {m : Measurement} {nowMs : Millis}
    (h : call i = .update m nowMs) (earlier : List ι) :
    newest call at_ (i :: earlier) = some (m, at_ i) := by
  simp [newest, h]

theorem newest_other {i : ι} (h : ∀ m nowMs, call i ≠ .update m nowMs) (earlier : List ι) :
    newest call at_ (i :: earlier) = newest call at_ earlier := by
  rw [newest]
  cases hc : call i with
  | update m nowMs => exact absurd hc (h m nowMs)
  | _ => rfl

/-- The case split of every induction over a run that is about samples. -/
theorem update_or_other (i : ι) :
    (∃ m nowMs, call i = .update m nowMs) ∨ ∀ m nowMs, call i ≠ .update m nowMs := by
  cases call i with
  | update m nowMs => exact .inl ⟨m, nowMs, rfl⟩
  | _ => exact .inr fun _ _ => by simp

variable (c₀ : ProtectionCore) (t₀ : Millis)

/-! What the core stores of its newest sample is the newest sample of the history. -/

variable (call at_) in
theorem haveMeasurement_newest (inputs : List ι) :
    (run call (c₀.begin t₀) inputs).haveMeasurement
      = (newest call at_ inputs).isSome := by
  induction inputs with
  | nil => rfl
  | cons i earlier ih =>
    rcases update_or_other i with ⟨m, nowMs, hi⟩ | hi
    · rw [newest_update hi, run_cons, hi]
      exact (update_stored _ _ _).2
    · rw [newest_other hi, run_cons, (step_stored _ hi).2, ih]

theorem last_newest {inputs : List ι} {m : Measurement} {t : τ}
    (h : newest call at_ inputs = some (m, t)) : (run call (c₀.begin t₀) inputs).last = m := by
  induction inputs with
  | nil => cases h
  | cons i earlier ih =>
    rcases update_or_other i with ⟨m', nowMs, hi⟩ | hi
    · rw [newest_update hi] at h
      cases h
      rw [run_cons, hi]
      exact (update_stored _ _ _).1
    · rw [newest_other hi] at h
      rw [run_cons, (step_stored _ hi).1, ih h]

variable (call at_) (clock : τ → Millis) (hnow : ∀ i, (call i).At (clock (at_ i)))
include hnow

theorem lastSampleMs_newest {inputs : List ι} {m : Measurement} {t : τ}
    (h : newest call at_ inputs = some (m, t))
    (hop : (run call (c₀.begin t₀) inputs).state.isOperating = true) :
    (run call (c₀.begin t₀) inputs).lastSampleMs = clock t := by
  induction inputs with
  | nil => cases h
  | cons i earlier ih =>
    have href := refines_after call at_ clock hnow c₀ t₀ earlier
    rw [run_cons] at hop ⊢
    generalize run call (c₀.begin t₀) earlier = c at hop ih href ⊢
    rcases update_or_other i with ⟨m', nowMs, hi⟩ | hi
    · rw [newest_update hi] at h
      cases h
      have hclock : nowMs = clock (at_ i) := by
        have := hnow i
        rwa [hi] at this
      rw [hi] at hop ⊢
      rw [← hclock]
      exact update_lastSampleMs (.inr (evaluates_of_operating href hop))
    · rw [newest_other hi] at h
      obtain ⟨hop', hls⟩ := step_operating c hi hop
      rw [hls, ih h hop']

omit c₀ t₀ in
/-- The re-arm point is set by `begin` and by an accepted reset, and by nothing else. -/
theorem rearmMs_rearmedAt {c : ProtectionCore} {start : τ} (hstart : c.rearmMs = clock start)
    (inputs : List ι) :
    (run call c inputs).rearmMs = clock (rearmedAt start (log call at_ c inputs)) := by
  induction inputs with
  | nil => exact hstart
  | cons i earlier ih =>
    rw [run_cons, log_cons]
    exact step_rearmMs _ _ clock (hnow i) ih

/-- A sample of the log carries the row of the policy table it falls in. -/
theorem sample_mem_log {inputs : List ι} {m : Measurement} {v : Verdict} {t : τ}
    (h : Event.sample m v t ∈ log call at_ (c₀.begin t₀) inputs) :
    v = c₀.config.classify m (clock t) ∧ ∃ i ∈ inputs, ∃ nowMs, call i = .update m nowMs := by
  induction inputs with
  | nil => simp at h
  | cons i earlier ih =>
    rw [log_cons, List.mem_append] at h
    rcases h with h | h
    · cases hc : call i with
      | update m' nowMs =>
        rw [hc] at h
        simp only [events] at h
        split at h
        · simp only [List.mem_singleton, Event.sample.injEq] at h
          obtain ⟨rfl, rfl, rfl⟩ := h
          have := hnow i
          rw [hc] at this
          rw [run_config, this]
          exact ⟨rfl, i, List.mem_cons_self, nowMs, hc⟩
        · simp at h
      | tick nowMs =>
        rw [hc] at h
        simp only [events] at h
        split at h <;> simp at h
      | requestReset nowMs =>
        rw [hc] at h
        simp only [events] at h
        split at h <;> simp at h
      | acknowledge => simp [hc, events] at h
      | raiseInternalFault nowMs => simp [hc, events] at h
      | snapshot nowMs => simp [hc, events] at h
    · obtain ⟨hv, j, hj, hcall⟩ := ih h
      exact ⟨hv, j, List.mem_cons_of_mem _ hj, hcall⟩

/-- The rows of the log, by the voltage and the power of the sample. -/
theorem labelled_log (inputs : List ι) :
    Mode.Labelled (fun m => m.voltage ≤ c₀.config.minOperatingVoltageV)
      (fun m => ¬ m.voltage ≤ c₀.config.minOperatingVoltageV ∧
        ¬ m.power > c₀.config.faultPowerW)
      (log call at_ (c₀.begin t₀) inputs) := by
  intro m v t hmem hs hi
  obtain ⟨rfl, -⟩ := sample_mem_log call at_ c₀ t₀ clock hnow hmem
  exact ⟨ProtectionConfig.mains_of_classify hs hi,
    (ProtectionConfig.isSafe_classify_iff hs hi).symm⟩

/-- A running confirmation belongs to a supplied load, and was still short when
the newest sample was passed. -/
theorem overSince_running {inputs : List ι}
    (hs : (run call (c₀.begin t₀) inputs).state ≠ .fault) {first : τ}
    (hfirst : overSince (log call at_ (c₀.begin t₀) inputs) = some first) :
    (run call (c₀.begin t₀) inputs).state.isOperating = true ∧
      (run call (c₀.begin t₀) inputs).lastSampleMs - clock first
        < c₀.config.faultConfirmMs := by
  have href := refines_after call at_ clock hnow c₀ t₀ inputs
  have hl : (Mode.after (c₀.config.confirmed clock)
      (log call at_ (c₀.begin t₀) inputs)).isLatched = false := by
    rw [Bool.eq_false_iff, Ne, href.isLatched_iff]
    exact hs
  have hsince := Mode.overSince_eq _ hl
  rw [hfirst] at hsince
  generalize Mode.after (c₀.config.confirmed clock) (log call at_ (c₀.begin t₀) inputs) = mode
    at href hsince
  rcases mode with _ | (_ | _ | since) | cause
  all_goals simp only [Mode.since] at hsince
  · cases hsince
  · cases hsince
  · cases hsince
  · cases hsince
    obtain ⟨hsup, -, -, hrunning⟩ := href
    rw [run_config] at hrunning
    exact ⟨by rw [hsup.state_eq]; rfl, hrunning⟩
  · cases hsince

end Runs

/-! ## What justifies an operating state -/

/-- **What closes the relay**: outside an operating state, only the update of
a safe sample that passes the re-arm gate leads into one. -/
theorem energised_step {c : ProtectionCore} (h : c.WellFormed) {call : CoreCall}
    (hoff : c.state.isOperating = false) (hon : (c.step call).state.isOperating = true) :
    ∃ m nowMs, call = .update m nowMs ∧ (c.config.classify m nowMs).isSafe = true ∧
      ¬ (m.timestamp - c.rearmMs).toInt < 0 := by
  obtain ⟨mode, href⟩ := h
  rcases @update_or_other _ id call with ⟨m, nowMs, hcall⟩ | hcall
  case inr => simp [(step_operating c hcall hon).1] at hoff
  obtain rfl : call = .update m nowMs := hcall
  have he : c.evaluates m = true := evaluates_of_operating href hon
  -- the policy starts the supply only on a safe sample, and only while it waits
  have hidle : mode.isSupplying = false := by
    rw [Bool.eq_false_iff, Ne, href.isSupplying_iff, hoff]
    simp
  have hnext : (mode.step (c.config.confirmed id)
      (.sample m (c.config.classify m nowMs) nowMs)).isSupplying = true :=
    (refines_evaluated (t := nowMs) href he).isSupplying_iff.mpr hon
  obtain ⟨hw, m', v, t, hevent, hsafe⟩ := Mode.supplying_step hidle hnext
  cases hevent
  obtain ⟨hs, hi⟩ := evaluates_iff.mp he
  have ha := (href.awaiting_iff hs).mpr hw
  exact ⟨m, nowMs, rfl, hsafe, by simpa [ignores, ha] using hi⟩

/-- When the unbroken sequence of samples over the fault threshold that ends
with the newest sample passed began. No look at the core is needed: whether the
core evaluated the samples does not matter here. -/
def overRun {τ ι : Type*} (call : ι → CoreCall) (at_ : ι → τ) (k : ProtectionConfig) :
    List ι → Option τ
  | [] => none
  | i :: earlier =>
    match call i with
    | .update m _ =>
      if m.power > k.faultPowerW then some ((overRun call at_ k earlier).getD (at_ i)) else none
    | _ => overRun call at_ k earlier

theorem overRun_update {τ ι : Type*} {call : ι → CoreCall} {at_ : ι → τ} {i : ι}
    {m : Measurement} {nowMs : Millis} (h : call i = .update m nowMs) (k : ProtectionConfig)
    (earlier : List ι) :
    overRun call at_ k (i :: earlier)
      = if m.power > k.faultPowerW then some ((overRun call at_ k earlier).getD (at_ i))
        else none := by
  simp [overRun, h]

theorem overRun_other {τ ι : Type*} {call : ι → CoreCall} {at_ : ι → τ} {i : ι}
    (h : ∀ m nowMs, call i ≠ .update m nowMs) (k : ProtectionConfig) (earlier : List ι) :
    overRun call at_ k (i :: earlier) = overRun call at_ k earlier := by
  rw [overRun]
  cases hc : call i with
  | update m nowMs => exact absurd hc (h m nowMs)
  | _ => rfl

/-- If the core operates after it, an evaluated sample is in the overload row
exactly when its power is over the threshold. -/
theorem overload_iff_of_operating {c : ProtectionCore} {m : Measurement} {nowMs : Millis}
    (he : c.evaluates m = true) (hop : (c.update m nowMs).2.state.isOperating = true) :
    c.config.classify m nowMs = .overload ↔ m.power > c.config.faultPowerW := by
  rw [update_of_evaluates he, evaluate_eq] at hop
  constructor
  · exact fun hv => (ProtectionConfig.classify_overload_iff.mp hv).2.2.2
  · intro hp
    cases hrow : c.config.classify m nowMs with
    | overload => rfl
    | stale => simp [hrow, react, raiseFault_eq, SystemState.isOperating] at hop
    | invalid => simp [hrow, react, raiseFault_eq, SystemState.isOperating] at hop
    | noMains => simp [hrow, react, SystemState.isOperating] at hop
    | elevated =>
      have hsafe : (c.config.classify m nowMs).isSafe = true := by rw [hrow]; rfl
      exact absurd hp (ProtectionConfig.of_isSafe_classify hsafe).2.2.2
    | normal =>
      have hsafe : (c.config.classify m nowMs).isSafe = true := by rw [hrow]; rfl
      exact absurd hp (ProtectionConfig.of_isSafe_classify hsafe).2.2.2

/-- While the load is supplied, the current sequence of overload samples is the
one that the samples passed show. -/
theorem overSince_eq_overRun {τ ι : Type*} (call : ι → CoreCall) (at_ : ι → τ)
    (clock : τ → Millis) (hnow : ∀ i, (call i).At (clock (at_ i))) (c₀ : ProtectionCore)
    (t₀ : Millis) {inputs : List ι}
    (hop : (run call (c₀.begin t₀) inputs).state.isOperating = true) :
    overSince (log call at_ (c₀.begin t₀) inputs) = overRun call at_ c₀.config inputs := by
  induction inputs with
  | nil => rfl
  | cons i earlier ih =>
    have href := refines_after call at_ clock hnow c₀ t₀ earlier
    have hwell := wellFormed_run call c₀ t₀ earlier
    have hconfig := run_config call (c₀.begin t₀) earlier
    rw [run_cons] at hop
    rw [log_cons]
    generalize run call (c₀.begin t₀) earlier = c at hop ih href hwell hconfig ⊢
    rcases @update_or_other _ call i with ⟨m, nowMs, hi⟩ | hi
    · rw [hi, step] at hop
      have he := evaluates_of_operating href hop
      have hrow := overload_iff_of_operating he hop
      rw [hconfig] at hrow
      have hevents : c.events (call i) (at_ i)
          = [.sample m ((c₀.begin t₀).config.classify m nowMs) (at_ i)] := by
        simp only [hi, events, he, if_true, hconfig]
      rw [hevents, List.cons_append, List.nil_append, overSince, overRun_update hi]
      by_cases hp : m.power > c₀.config.faultPowerW
      case neg => rw [if_neg hp, if_neg (mt hrow.mp hp)]
      rw [if_pos hp, if_pos (hrow.mpr hp)]
      cases hbefore : c.state.isOperating with
      | true => rw [ih hbefore]
      | false =>
        -- a sample over the threshold does not close the relay
        obtain ⟨m', now', hcall, hsafe, -⟩ :=
          @energised_step c hwell (.update m nowMs) hbefore hop
        cases hcall
        rw [hconfig, hrow.mpr hp] at hsafe
        cases hsafe
    · rw [overRun_other hi, ← ih (step_operating c hi hop).1, events_of_operating hi hop]
      rfl

/-- What the history must show for the load to be supplied: the newest sample
`m`, passed at `t`, was fresh, is valid and shows mains; and if it is over the
fault threshold, the confirmation of its sequence is still running. -/
structure Justified {τ : Type*} (k : ProtectionConfig) (clock : τ → Millis)
    (entries : List (Event Measurement τ)) (m : Measurement) (t : τ) : Prop where
  fresh : clock t - m.timestamp ≤ k.maxMeasurementAgeMs
  valid : m.valid = true
  mains : ¬ m.voltage ≤ k.minOperatingVoltageV
  unconfirmed : m.power > k.faultPowerW →
    ∃ first, overSince entries = some first ∧ clock t - clock first < k.faultConfirmMs

/-! What the row of the stored sample says of it, while the load is supplied. -/

theorem Supplies.good {c : ProtectionCore} {state : SystemState} {v : Verdict}
    (h : c.Supplies state v) (hs : v ≠ .stale) (hi : v ≠ .invalid) (hn : v ≠ .noMains) :
    c.lastSampleMs - c.last.timestamp ≤ c.config.maxMeasurementAgeMs ∧ c.last.valid = true ∧
      ¬ c.last.voltage ≤ c.config.minOperatingVoltageV := by
  obtain ⟨-, -, -, -, rfl⟩ := h
  obtain ⟨hfresh, hvalid⟩ := ProtectionConfig.fresh_of_classify hs hi
  exact ⟨hfresh, hvalid, fun hv => hn ((ProtectionConfig.mains_of_classify hs hi).mp hv)⟩

theorem Supplies.not_over {c : ProtectionCore} {state : SystemState} {v : Verdict}
    (h : c.Supplies state v) (hv : v.isSafe = true) :
    ¬ c.last.power > c.config.faultPowerW := by
  obtain ⟨-, -, -, -, rfl⟩ := h
  exact (ProtectionConfig.of_isSafe_classify hv).2.2.2

/-- **An operating state is justified by the history.** -/
theorem justified {τ ι : Type*} (call : ι → CoreCall) (at_ : ι → τ) (clock : τ → Millis)
    (hnow : ∀ i, (call i).At (clock (at_ i))) (c₀ : ProtectionCore) (t₀ : Millis)
    (inputs : List ι) (hop : (run call (c₀.begin t₀) inputs).state.isOperating = true) :
    ∃ m t, newest call at_ inputs = some (m, t) ∧
      Justified c₀.config clock (log call at_ (c₀.begin t₀) inputs) m t := by
  have href := refines_after call at_ clock hnow c₀ t₀ inputs
  have hconfig := run_config call (c₀.begin t₀) inputs
  have hsup := href.isSupplying_iff.mpr hop
  -- the newest sample is the stored one
  have hnew : ∀ {state v}, (run call (c₀.begin t₀) inputs).Supplies state v →
      ∃ m t, newest call at_ inputs = some (m, t) ∧
        (run call (c₀.begin t₀) inputs).last = m ∧
        (run call (c₀.begin t₀) inputs).lastSampleMs = clock t := by
    intro state v h
    have hsome := haveMeasurement_newest call at_ c₀ t₀ inputs
    rw [h.have_measurement] at hsome
    obtain ⟨⟨m, t⟩, hm⟩ := Option.isSome_iff_exists.mp hsome.symm
    exact ⟨m, t, hm, last_newest c₀ t₀ hm, lastSampleMs_newest call at_ c₀ t₀ clock hnow hm hop⟩
  -- which leaves only the power to be looked at
  have hgood : ∀ {state v}, (run call (c₀.begin t₀) inputs).Supplies state v →
      (v.isSafe = false → v = .overload ∧ ∃ first,
        overSince (log call at_ (c₀.begin t₀) inputs) = some first ∧
        (run call (c₀.begin t₀) inputs).lastSampleMs - clock first < c₀.config.faultConfirmMs) →
      ∃ m t, newest call at_ inputs = some (m, t) ∧
        Justified c₀.config clock (log call at_ (c₀.begin t₀) inputs) m t := by
    intro state v h hover
    obtain ⟨m, t, hm, hlast, ht⟩ := hnew h
    have hrow : v ≠ .stale ∧ v ≠ .invalid ∧ v ≠ .noMains := by
      cases v <;> simp_all [Verdict.isSafe]
    obtain ⟨hfresh, hvalid, hmains⟩ := h.good hrow.1 hrow.2.1 hrow.2.2
    rw [hconfig, hlast, ht] at hfresh
    rw [hlast] at hvalid
    rw [hconfig, hlast] at hmains
    refine ⟨m, t, hm, hfresh, hvalid, hmains, ?_⟩
    intro hp
    cases hv : v.isSafe with
    | true =>
      have hle := h.not_over hv
      rw [hconfig, hlast] at hle
      exact absurd hp hle
    | false =>
      obtain ⟨-, first, hfirst, hrunning⟩ := hover hv
      rw [ht] at hrunning
      exact ⟨first, hfirst, hrunning⟩
  have hsince := @Mode.overSince_eq _ _ (c₀.config.confirmed clock)
    (log call at_ (c₀.begin t₀) inputs)
  generalize Mode.after (c₀.config.confirmed clock) (log call at_ (c₀.begin t₀) inputs) = mode
    at href hsup hsince
  rcases mode with _ | (_ | _ | since) | cause
  · simp [Mode.isSupplying] at hsup
  · exact hgood href.1 (by simp [Verdict.isSafe])
  · exact hgood href.1 (by simp [Verdict.isSafe])
  · obtain ⟨h, -, -, hrunning⟩ := href
    rw [hconfig] at hrunning
    exact hgood h fun _ => ⟨rfl, since, hsince rfl, hrunning⟩
  · simp [Mode.isSupplying] at hsup

end ProtectionCore

end EnergyController
