/-
EnergyController.Lib.Runs — runs of a deterministic transition system, and
the induction rules for them.

A system is a step function `step : σ → ι → σ`. A run is the list of its
inputs, NEWEST FIRST, so that the run's history is the tail of the list and
every function of the history is a structural recursion. The rules:

* `invariant` — what every step preserves holds after every run;
* `invariant_of_meets` — the same when the steps are known to meet a
  condition on the state they start in and their input (`Meets`);
* `holds_or_released` — what every step but a releasing one preserves holds
  after every run without a releasing step; otherwise the run splits at its
  FIRST releasing step;
* `Every` — each step of the run satisfies a condition on the steps before it;
* `simulation` — a relation kept between each step and the abstract run on
  what the step shows (`observed`) relates the end states;
* `lockstep` — two runs whose inputs correspond one to one, compared by a
  relation that every pair of corresponding steps keeps;
* `thinned` — a run and the same run with some of its inputs left out
  (`kept`), compared by a relation that every input keeps and that the
  left-out ones do not break.
-/
import Mathlib.Tactic.TypeStar

namespace Run

variable {σ ι : Type*} (step : σ → ι → σ)

/-- The state after `inputs` (newest first), starting in `s₀`. -/
def after (s₀ : σ) : List ι → σ
  | [] => s₀
  | i :: earlier => step (after s₀ earlier) i

@[simp] theorem after_nil (s₀ : σ) : after step s₀ [] = s₀ := rfl

@[simp] theorem after_cons (s₀ : σ) (i : ι) (earlier : List ι) :
    after step s₀ (i :: earlier) = step (after step s₀ earlier) i := rfl

theorem after_append (s₀ : σ) (later earlier : List ι) :
    after step s₀ (later ++ earlier) = after step (after step s₀ earlier) later := by
  induction later with
  | nil => rfl
  | cons i later ih => simp [ih]

/-- A block of steps, once more. -/
theorem after_replicate_succ (s₀ : σ) (block : List ι) (n : Nat) :
    after step s₀ (List.replicate (n + 1) block).flatten
      = after step (after step s₀ (List.replicate n block).flatten) block := by
  rw [List.replicate_succ, List.flatten_cons, after_append]

/-! ## Invariants -/

variable {step}

theorem invariant {P : σ → Prop} {s₀ : σ} (h₀ : P s₀)
    (hstep : ∀ s i, P s → P (step s i)) (inputs : List ι) : P (after step s₀ inputs) := by
  induction inputs with
  | nil => exact h₀
  | cons i earlier ih => exact hstep _ i ih

variable (step)

/-- Every step of the run meets `ok`, a condition on the state the step
starts in and its input. -/
def Meets (ok : σ → ι → Prop) (s₀ : σ) : List ι → Prop
  | [] => True
  | i :: earlier => ok (after step s₀ earlier) i ∧ Meets ok s₀ earlier

instance Meets.decidable (ok : σ → ι → Prop) [∀ s i, Decidable (ok s i)] (s₀ : σ) :
    (inputs : List ι) → Decidable (Meets step ok s₀ inputs)
  | [] => inferInstanceAs (Decidable True)
  | i :: earlier =>
    have := Meets.decidable ok s₀ earlier
    inferInstanceAs (Decidable (ok (after step s₀ earlier) i ∧ Meets step ok s₀ earlier))

variable {step}

theorem invariant_of_meets {P : σ → Prop} {ok : σ → ι → Prop} {s₀ : σ} (h₀ : P s₀)
    (hstep : ∀ s i, ok s i → P s → P (step s i)) {inputs : List ι}
    (hok : Meets step ok s₀ inputs) : P (after step s₀ inputs) := by
  induction inputs with
  | nil => exact h₀
  | cons i earlier ih => exact hstep _ i hok.1 (ih hok.2)

/-- Either no step released `P` and it still holds, or the run splits at the
first step that did. -/
theorem holds_or_released {P : σ → Prop} {released : σ → ι → Prop} {s₀ : σ} (h₀ : P s₀)
    (hstep : ∀ s i, P s → ¬ released s i → P (step s i)) (inputs : List ι) :
    P (after step s₀ inputs) ∨
      ∃ later i earlier, inputs = later ++ i :: earlier ∧ P (after step s₀ earlier) ∧
        released (after step s₀ earlier) i := by
  induction inputs with
  | nil => exact .inl h₀
  | cons i earlier ih =>
    rcases ih with hP | ⟨later, j, before, rfl, hP, hrel⟩
    · by_cases hrel : released (after step s₀ earlier) i
      · exact .inr ⟨[], i, earlier, rfl, hP, hrel⟩
      · exact .inl (hstep _ i hP hrel)
    · exact .inr ⟨i :: later, j, before, rfl, hP, hrel⟩

/-! ## Conditions on the history -/

/-- Every step of the run satisfies `p`, a condition on the steps before it. -/
def Every (p : List ι → ι → Prop) : List ι → Prop
  | [] => True
  | i :: earlier => p earlier i ∧ Every p earlier

instance Every.decidable (p : List ι → ι → Prop) [∀ earlier i, Decidable (p earlier i)] :
    (inputs : List ι) → Decidable (Every p inputs)
  | [] => inferInstanceAs (Decidable True)
  | i :: earlier =>
    have := Every.decidable p earlier
    inferInstanceAs (Decidable (p earlier i ∧ Every p earlier))

theorem Every.head {p : List ι → ι → Prop} {i : ι} {earlier : List ι}
    (h : Every p (i :: earlier)) : p earlier i := h.1

theorem Every.tail {p : List ι → ι → Prop} {i : ι} {earlier : List ι}
    (h : Every p (i :: earlier)) : Every p earlier := h.2

/-! ## Observations and simulation -/

variable (step)

/-- What a run shows, newest first: the observations of each step, read off
the state the step starts in and its input. -/
def observed {κ : Type*} (view : σ → ι → List κ) (s₀ : σ) : List ι → List κ
  | [] => []
  | i :: earlier => view (after step s₀ earlier) i ++ observed view s₀ earlier

@[simp] theorem observed_nil {κ : Type*} (view : σ → ι → List κ) (s₀ : σ) :
    observed step view s₀ [] = [] := rfl

@[simp] theorem observed_cons {κ : Type*} (view : σ → ι → List κ) (s₀ : σ) (i : ι)
    (earlier : List ι) :
    observed step view s₀ (i :: earlier)
      = view (after step s₀ earlier) i ++ observed step view s₀ earlier := rfl

theorem observed_append {κ : Type*} (view : σ → ι → List κ) (s₀ : σ) (later earlier : List ι) :
    observed step view s₀ (later ++ earlier)
      = observed step view (after step s₀ earlier) later ++ observed step view s₀ earlier := by
  induction later with
  | nil => rfl
  | cons i later ih =>
    rw [List.cons_append, observed_cons, observed_cons, ih, after_append, List.append_assoc]

variable {step}

/-- If each step keeps `R` towards a run of the abstract system on what the
step shows, the whole run does. -/
theorem simulation {α κ : Type*} {astep : α → κ → α} {R : σ → α → Prop}
    {view : σ → ι → List κ} {s₀ : σ} {a₀ : α} (h₀ : R s₀ a₀)
    (hstep : ∀ s a i, R s a → R (step s i) (after astep a (view s i))) (inputs : List ι) :
    R (after step s₀ inputs) (after astep a₀ (observed step view s₀ inputs)) := by
  induction inputs with
  | nil => exact h₀
  | cons i earlier ih =>
    rw [observed_cons, after_append, after_cons]
    exact hstep _ _ i ih

/-! ## Two runs side by side -/

section TwoRuns

variable {σ' ι' κ κ' : Type*} {step' : σ' → ι' → σ'} {R : σ → σ' → Prop}
  {s₀ : σ} {s₀' : σ'}

theorem lockstep {f : ι → ι'} (h₀ : R s₀ s₀')
    (hstep : ∀ s s' i, R s s' → R (step s i) (step' s' (f i))) (inputs : List ι) :
    R (after step s₀ inputs) (after step' s₀' (inputs.map f)) := by
  induction inputs with
  | nil => exact h₀
  | cons i earlier ih => exact hstep _ _ i ih

/-- Runs in lockstep show the same up to `g` if corresponding steps do. -/
theorem lockstep_observed {f : ι → ι'} {g : κ → κ'} {view : σ → ι → List κ}
    {view' : σ' → ι' → List κ'} (h₀ : R s₀ s₀')
    (hstep : ∀ s s' i, R s s' → R (step s i) (step' s' (f i)))
    (hview : ∀ s s' i, R s s' → view' s' (f i) = (view s i).map g) (inputs : List ι) :
    observed step' view' s₀' (inputs.map f) = (observed step view s₀ inputs).map g := by
  induction inputs with
  | nil => rfl
  | cons i earlier ih =>
    rw [List.map_cons, observed_cons, observed_cons, List.map_append, ih,
      hview _ _ i (lockstep h₀ hstep earlier)]

end TwoRuns

/-- The inputs of a marked run that are not left out. -/
def kept : List (ι × Bool) → List ι
  | [] => []
  | (i, left) :: earlier => if left then kept earlier else i :: kept earlier

section Thinned

variable {κ : Type*} {R : σ → σ → Prop} {s₀ s₀' : σ} {harmless : σ → ι → Prop}
  {marked : List (ι × Bool)}

theorem thinned (h₀ : R s₀ s₀') (hkeep : ∀ s s' i, R s s' → R (step s i) (step s' i))
    (hleave : ∀ s s' i, R s s' → harmless s i → R (step s i) s')
    (hok : Meets (fun s i => step s i.1) (fun s i => i.2 = true → harmless s i.1) s₀ marked) :
    R (after (fun s i => step s i.1) s₀ marked) (after step s₀' (kept marked)) := by
  induction marked with
  | nil => exact h₀
  | cons i earlier ih =>
    obtain ⟨i, left⟩ := i
    have hrec := ih hok.2
    cases left with
    | false => exact hkeep _ _ i hrec
    | true => exact hleave _ _ i hrec (hok.1 rfl)

/-- The steps that are kept show the same in both runs. -/
theorem thinned_observed {view : σ → ι → List κ} (h₀ : R s₀ s₀')
    (hkeep : ∀ s s' i, R s s' → R (step s i) (step s' i))
    (hleave : ∀ s s' i, R s s' → harmless s i → R (step s i) s')
    (hview : ∀ s s' i, R s s' → view s i = view s' i)
    (hok : Meets (fun s i => step s i.1) (fun s i => i.2 = true → harmless s i.1) s₀ marked) :
    observed (fun s i => step s i.1) (fun s i => if i.2 then [] else view s i.1) s₀ marked
      = observed step view s₀' (kept marked) := by
  induction marked with
  | nil => rfl
  | cons i earlier ih =>
    obtain ⟨i, left⟩ := i
    have hrec := thinned h₀ hkeep hleave hok.2
    rw [observed_cons, ih hok.2]
    cases left with
    | true => rfl
    | false =>
      show view _ i ++ _ = view _ i ++ _
      rw [hview _ _ i hrec]

end Thinned

end Run
