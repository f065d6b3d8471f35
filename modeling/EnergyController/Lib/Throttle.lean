/-
EnergyController.Lib.Throttle — an action that is taken at most once in an
interval, on a wrapping counter.

The loop keeps the counter's reading at the last action in a variable `last`,
and takes the action only when `interval ≤ now - last`, computed modulo `2 ^ w`.
Of a run of such a loop, with its steps at known true times (newest first):

* `spaced` — two actions are at least the interval apart in TRUE time, however
  often the counter has wrapped in between;
* `length_le_of_spaced` — so `n` intervals of time hold at most `n` actions;
* `length_le_of_delayed` — and at most `n + 1` where an action comes after its
  reading by a delay of its own;
* `fires_within` — while the loop wants the action and is polled often enough
  for the counter not to run through the window above the interval unseen, it
  takes the action within an interval, whatever `last` was to begin with.
-/
import EnergyController.Lib.Runs
import EnergyController.Lib.WrappedClock

namespace Throttle

open WrappedClock

variable {σ ι : Type*} {w : ℕ}

/-- The steps are in order of time. -/
def Chronological (time : ι → ℕ) (inputs : List ι) : Prop :=
  inputs.Pairwise fun later earlier => time earlier ≤ time later

/-- Steps in order, with no gap longer than `gap` between two of them. -/
def Polled (time : ι → ℕ) (gap : ℕ) (inputs : List ι) : Prop :=
  inputs.IsChain fun later earlier => time earlier ≤ time later ∧ time later ≤ time earlier + gap

/-- From the oldest step to the newest. -/
def elapsed (time : ι → ℕ) : List ι → ℕ
  | [] => 0
  | [_] => 0
  | i :: j :: earlier => (time i - time j) + elapsed time (j :: earlier)

/-- The times of the steps that take the action. -/
def fireTimes (step : σ → ι → σ) (time : ι → ℕ) (fires : σ → ι → Bool) (s₀ : σ)
    (inputs : List ι) : List ℕ :=
  Run.observed step (fun s i => if fires s i then [time i] else []) s₀ inputs

/-- The action is taken when the interval has passed by the counter, and
stamps `last`, which nothing else changes. -/
structure Throttled (step : σ → ι → σ) (time : ι → ℕ) (last : σ → BitVec w)
    (fires : σ → ι → Bool) (interval : BitVec w) : Prop where
  due : ∀ s i, fires s i = true → interval ≤ reading w (time i) - last s
  stamped : ∀ s i, fires s i = true → last (step s i) = reading w (time i)
  kept : ∀ s i, fires s i = false → last (step s i) = last s

variable {step : σ → ι → σ} {time : ι → ℕ} {last : σ → BitVec w} {fires : σ → ι → Bool}
  {interval : BitVec w} {s₀ : σ} {inputs : List ι}

@[simp] theorem fireTimes_nil : fireTimes step time fires s₀ [] = [] := rfl

@[simp] theorem fireTimes_cons {i : ι} {earlier : List ι} :
    fireTimes step time fires s₀ (i :: earlier)
      = (if fires (Run.after step s₀ earlier) i then [time i] else [])
          ++ fireTimes step time fires s₀ earlier := rfl

theorem mem_fireTimes {t : ℕ} (h : t ∈ fireTimes step time fires s₀ inputs) :
    ∃ i ∈ inputs, time i = t := by
  induction inputs with
  | nil => cases h
  | cons i earlier ih =>
    rw [fireTimes_cons] at h
    rcases List.mem_append.mp h with h | h
    · split at h
      · exact ⟨i, List.mem_cons_self, (List.mem_singleton.mp h).symm⟩
      · cases h
    · obtain ⟨j, hj, ht⟩ := ih h
      exact ⟨j, List.mem_cons_of_mem i hj, ht⟩

/-! ## Actions are spaced -/

/-- `last` holds the reading at the latest action. -/
theorem Throttled.last_eq (h : Throttled step time last fires interval) (s₀ : σ)
    (inputs : List ι) : ∀ t ∈ (fireTimes step time fires s₀ inputs).head?,
      last (Run.after step s₀ inputs) = reading w t := by
  induction inputs with
  | nil => simp
  | cons i earlier ih =>
    intro t ht
    rw [Run.after_cons]
    rw [fireTimes_cons] at ht
    cases hfires : fires (Run.after step s₀ earlier) i with
    | true =>
      rw [if_pos hfires] at ht
      have ht : time i = t := by simpa using ht
      rw [h.stamped _ _ hfires, ht]
    | false =>
      rw [if_neg (by simp [hfires])] at ht
      rw [h.kept _ _ hfires]
      exact ih t ht

theorem Throttled.spaced (h : Throttled step time last fires interval) (s₀ : σ)
    (horder : Chronological time inputs) :
    (fireTimes step time fires s₀ inputs).Pairwise
      fun later earlier => earlier + interval.toNat ≤ later := by
  induction inputs with
  | nil => exact .nil
  | cons i earlier ih =>
    obtain ⟨hbefore, horder⟩ := List.pairwise_cons.mp horder
    have hrec := ih horder
    rw [fireTimes_cons]
    cases hfires : fires (Run.after step s₀ earlier) i with
    | false => simpa [hfires] using hrec
    | true =>
      rw [if_pos rfl]
      refine List.pairwise_cons.mpr ⟨?_, hrec⟩
      -- the interval counts from the latest action, and with it from all
      intro t ht
      cases htimes : fireTimes step time fires s₀ earlier with
      | nil => simp [htimes] at ht
      | cons latest rest =>
        have hmem : latest ∈ fireTimes step time fires s₀ earlier := by simp [htimes]
        obtain ⟨j, hj, hlatest⟩ := mem_fireTimes hmem
        have hle : latest ≤ time i := hlatest ▸ hbefore j hj
        have hlast := h.last_eq s₀ earlier latest (by simp [htimes])
        have hdue := h.due _ _ hfires
        rw [hlast, BitVec.le_def, toNat_sub_reading hle] at hdue
        have hmod : (time i - latest) % 2 ^ w ≤ time i - latest := Nat.mod_le _ _
        have ht : t = latest ∨ t ∈ rest := by simpa [htimes] using ht
        rcases ht with rfl | ht
        · omega
        · rw [htimes] at hrec
          have := (List.pairwise_cons.mp hrec).1 t ht
          omega

/-- `n` intervals of time hold at most `n` actions. -/
theorem length_le_of_spaced {d n : ℕ} (t₀ : ℕ) {times : List ℕ}
    (hspaced : times.Pairwise fun later earlier => earlier + d ≤ later)
    (hwindow : ∀ t ∈ times, t₀ ≤ t ∧ t < t₀ + n * d) : times.length ≤ n := by
  induction times generalizing n with
  | nil => exact Nat.zero_le n
  | cons t earlier ih =>
    obtain ⟨hbefore, hspaced⟩ := List.pairwise_cons.mp hspaced
    have ht := hwindow t List.mem_cons_self
    cases n with
    | zero => omega
    | succ n =>
      have hrest : ∀ t' ∈ earlier, t₀ ≤ t' ∧ t' < t₀ + n * d := by
        intro t' ht'
        have := hbefore t' ht'
        have := hwindow t' (List.mem_cons_of_mem t ht')
        rw [Nat.succ_mul] at ht
        omega
      have := ih hspaced hrest
      simpa using this

/-- Actions that come after their readings, one after the other: `n` intervals
of time hold at most `n + 1` of them, however long each takes to come. -/
theorem length_le_of_delayed {α : Type*} (read acted : α → ℕ) {d n : ℕ} (t₀ : ℕ)
    {actions : List α}
    (hspaced : actions.Pairwise fun later earlier =>
      read earlier + d ≤ read later ∧ acted earlier ≤ read later)
    (hdelay : ∀ a ∈ actions, read a ≤ acted a)
    (hwindow : ∀ a ∈ actions, t₀ ≤ acted a ∧ acted a < t₀ + n * d) : actions.length ≤ n + 1 := by
  rcases List.eq_nil_or_concat actions with rfl | ⟨later, oldest, rfl⟩
  · exact Nat.zero_le _
  rw [List.concat_eq_append] at hspaced hdelay hwindow ⊢
  obtain ⟨hspaced, -, holdest⟩ := List.pairwise_append.mp hspaced
  -- the readings of all but the oldest are in the window as well
  have hlater : (later.map read).length ≤ n := by
    refine length_le_of_spaced t₀ (d := d) ?_ ?_
    · exact List.pairwise_map.mpr (hspaced.imp fun h => h.1)
    · intro t ht
      obtain ⟨a, ha, rfl⟩ := List.mem_map.mp ht
      have hafter := (holdest a ha oldest (List.mem_singleton_self _)).2
      have hfirst := (hwindow oldest (by simp)).1
      have hlast := (hwindow a (List.mem_append_left _ ha)).2
      have hle := hdelay a (List.mem_append_left _ ha)
      omega
  rw [List.length_map] at hlater
  simpa using hlater

/-! ## The action is taken -/

theorem elapsed_append {i : ι} {later earlier : List ι} :
    elapsed time (later ++ i :: earlier)
      = elapsed time (later ++ [i]) + elapsed time (i :: earlier) := by
  induction later with
  | nil => simp [elapsed]
  | cons j later ih =>
    cases later with
    | nil => simp [elapsed]
    | cons k later => simpa [elapsed, Nat.add_assoc] using ih

/-- A stretch of time begins with one that is hardly longer than asked for. -/
theorem exists_prefix {gap d : ℕ} (hpolled : Polled time gap inputs) (hne : inputs ≠ [])
    (hlong : d ≤ elapsed time inputs) :
    ∃ later i earlier, inputs = later ++ i :: earlier ∧ d ≤ elapsed time (i :: earlier) ∧
      elapsed time (i :: earlier) ≤ d + gap := by
  induction inputs with
  | nil => exact absurd rfl hne
  | cons i earlier ih =>
    by_cases hfits : elapsed time (i :: earlier) ≤ d + gap
    · exact ⟨[], i, earlier, rfl, hlong, hfits⟩
    · cases earlier with
      | nil => simp [elapsed] at hfits
      | cons j earlier =>
        have hgap := (List.isChain_cons_cons.mp hpolled).1
        rw [elapsed] at hfits
        obtain ⟨later, k, before, heq, hd, hle⟩ :=
          ih (List.isChain_cons_cons.mp hpolled).2 (by simp) (by omega)
        exact ⟨i :: later, k, before, by rw [heq]; rfl, hd, hle⟩

/-- While the action is not taken, its age by the counter keeps up with the time
that passes. -/
theorem Throttled.elapsed_le_age (h : Throttled step time last fires interval)
    {wanted : σ → ι → Prop} {gap : ℕ} (hroom : interval.toNat + gap ≤ 2 ^ w)
    (hprompt : ∀ s i, wanted s i → interval ≤ reading w (time i) - last s → fires s i = true)
    {i : ι} {earlier : List ι} (hpolled : Polled time gap (i :: earlier))
    (hwanted : Run.Meets step wanted s₀ earlier)
    (hsilent : fireTimes step time fires s₀ earlier = []) :
    elapsed time (i :: earlier)
      ≤ (reading w (time i) - last (Run.after step s₀ earlier)).toNat := by
  induction earlier generalizing i with
  | nil => simp [elapsed]
  | cons j earlier ih =>
    obtain ⟨⟨hle, hgap⟩, hpolled⟩ := List.isChain_cons_cons.mp hpolled
    rw [fireTimes_cons, List.append_eq_nil_iff] at hsilent
    have hage := ih hpolled hwanted.2 hsilent.2
    have hfires : fires (Run.after step s₀ earlier) j = false := by
      simpa using hsilent.1
    have hyoung : (reading w (time j) - last (Run.after step s₀ earlier)).toNat
        < interval.toNat := by
      by_contra hold
      have := hprompt _ j hwanted.1 (BitVec.le_def.mpr (by omega))
      rw [hfires] at this
      cases this
    rw [elapsed, Run.after_cons, h.kept _ _ hfires, toNat_sub_of_later hle (by omega)]
    omega

/-- A loop that wants the action for an interval takes it. -/
theorem Throttled.fires_within (h : Throttled step time last fires interval)
    {wanted : σ → ι → Prop} {gap : ℕ} (hroom : interval.toNat + gap ≤ 2 ^ w)
    (hprompt : ∀ s i, wanted s i → interval ≤ reading w (time i) - last s → fires s i = true)
    (hpolled : Polled time gap inputs) (hne : inputs ≠ [])
    (hwanted : Run.Meets step wanted s₀ inputs) (hlong : interval.toNat ≤ elapsed time inputs) :
    fireTimes step time fires s₀ inputs ≠ [] := by
  intro hsilent
  cases inputs with
  | nil => exact hne rfl
  | cons i earlier =>
    rw [fireTimes_cons, List.append_eq_nil_iff] at hsilent
    have hage := h.elapsed_le_age hroom hprompt hpolled hwanted.2 hsilent.2
    have hfires := hprompt _ i hwanted.1 (BitVec.le_def.mpr (by omega))
    simp [hfires] at hsilent

end Throttle
