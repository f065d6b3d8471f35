/-
EnergyController.Protection.Policy — what the protection is for, as an
abstract machine.

The documented policy (`docs/fault-management.md` §1, §2, §4) decides from
each evaluated sample whether the load may be supplied. `Mode` is that
decision and nothing else: no 32-bit clock, no fault record, no stored
sample. A log of `Event`s, NEWEST FIRST, is what happened to the protection:
samples with the row of the policy table they fall in, trips, and accepted
resets. The samples (`α`) and the instants (`τ`) are arbitrary; `confirmed s t`
says that an overload seen since `s` has persisted long enough at `t`.

The results are about the log as a whole:

* `step_latched` — the latch keeps its first cause through every event but a
  re-arm;
* `supplying_step` — only a safe sample starts the supply;
* `overSince_eq` — the running confirmation, if any, began with the first
  sample of the current unbroken sequence of overload samples;
* `waiting_iff` — the supply is waited for exactly when no safe sample was
  seen since the latest (re-)arm point or loss of mains;
* `overload_step` — when an overload sample trips.

`Protection.Refinement` proves that `ProtectionCore` follows this machine.
-/
import EnergyController.Lib.Runs
import EnergyController.Protection.Core

namespace EnergyController

/-- The row of the policy table a sample falls in. -/
inductive Verdict where
  | stale
  | invalid
  | noMains
  | overload
  | elevated
  | normal
  deriving DecidableEq, Repr

/-- Fresh, valid, mains present and power not above the fault threshold. -/
def Verdict.isSafe : Verdict → Bool
  | .elevated => true
  | .normal => true
  | _ => false

inductive Load (τ : Type*) where
  | normal
  | elevated
  /-- above the fault threshold, confirmation running since `since` -/
  | overload (since : τ)

inductive Mode (τ : Type*) where
  /-- load off, until a safe sample -/
  | waiting
  | supplying (load : Load τ)
  /-- load off, until a re-arm -/
  | latched (cause : FaultCode)

inductive Event (α τ : Type*) where
  | sample (s : α) (v : Verdict) (at_ : τ)
  | trip (cause : FaultCode)
  | rearm (at_ : τ)

namespace Mode

variable {α τ : Type*} (confirmed : τ → τ → Bool)

/-- An overload sample at `t` while a confirmation has been running since
`since`. -/
def confirm (since t : τ) : Mode τ :=
  if confirmed since t then .latched .overpower else .supplying (.overload since)

/-- A sample in row `v` at instant `t`, outside the latch. The first sample
after a (re-)arm may not open a confirmation: an overload trips at once. -/
def react : Mode τ → Verdict → τ → Mode τ
  | .latched cause, _, _ => .latched cause
  | _, .stale, _ => .latched .sensorStale
  | _, .invalid, _ => .latched .sensorInvalid
  | _, .noMains, _ => .waiting
  | .waiting, .overload, _ => .latched .overpower
  | .supplying (.overload since), .overload, t => confirm confirmed since t
  | .supplying _, .overload, t => confirm confirmed t t
  | _, .elevated, _ => .supplying .elevated
  | _, .normal, _ => .supplying .normal

def step (mode : Mode τ) : Event α τ → Mode τ
  | .sample _ v t => mode.react confirmed v t
  | .trip cause =>
    match mode with
    | .latched first => .latched first
    | _ => .latched cause
  | .rearm _ => .waiting

/-- The mode a log leads to from the start, which waits. -/
def after (log : List (Event α τ)) : Mode τ :=
  Run.after (step confirmed) .waiting log

def isLatched : Mode τ → Bool
  | .latched _ => true
  | _ => false

def isSupplying : Mode τ → Bool
  | .supplying _ => true
  | _ => false

/-- When the running confirmation began. -/
def since : Mode τ → Option τ
  | .supplying (.overload t) => some t
  | _ => none

end Mode

namespace Event

variable {α τ : Type*}

def isRearm : Event α τ → Bool
  | .rearm _ => true
  | _ => false

end Event

/-! ## What the history says -/

section History

variable {α τ : Type*}

/-- When the current unbroken sequence of overload samples began: the instant
of its first sample. Any other sample and a re-arm break it. -/
def overSince : List (Event α τ) → Option τ
  | [] => none
  | .sample _ v t :: earlier =>
    if v = .overload then some ((overSince earlier).getD t) else none
  | .trip _ :: earlier => overSince earlier
  | .rearm _ :: _ => none

/-- Some safe sample was evaluated since the latest of: the start, a re-arm,
a sample without mains. -/
def SafeSeen (noMains safe : α → Prop) : List (Event α τ) → Prop
  | [] => False
  | .sample s _ _ :: earlier => ¬ noMains s ∧ (safe s ∨ SafeSeen noMains safe earlier)
  | .trip _ :: earlier => SafeSeen noMains safe earlier
  | .rearm _ :: _ => False

end History

namespace Mode

variable {α τ : Type*} {confirmed : τ → τ → Bool}

@[simp] theorem after_nil : after (α := α) confirmed [] = .waiting := rfl

@[simp] theorem after_cons (e : Event α τ) (log : List (Event α τ)) :
    after confirmed (e :: log) = (after confirmed log).step confirmed e := rfl

@[simp] theorem isLatched_latched (cause : FaultCode) :
    (latched cause : Mode τ).isLatched = true := rfl
@[simp] theorem isLatched_waiting : (waiting : Mode τ).isLatched = false := rfl
@[simp] theorem isLatched_supplying (load : Load τ) :
    (supplying load).isLatched = false := rfl

/-- A confirmation that does not trip runs on from where it began. -/
theorem confirm_of_not_latched {t₀ t : τ} (h : (confirm confirmed t₀ t).isLatched = false) :
    confirm confirmed t₀ t = .supplying (.overload t₀) := by
  simp only [confirm] at h ⊢
  split at h
  · simp at h
  · rename_i hc
    rw [if_neg hc]

/-! ## Single steps -/

theorem step_latched {cause : FaultCode} {e : Event α τ} (h : e.isRearm = false) :
    step confirmed (.latched cause) e = .latched cause := by
  cases e with
  | sample s v t => rfl
  | trip c => rfl
  | rearm t => simp [Event.isRearm] at h

/-- The supply starts only on a safe sample, and only outside the latch. -/
theorem supplying_step {mode : Mode τ} {e : Event α τ} (hoff : mode.isSupplying = false)
    (hon : (mode.step confirmed e).isSupplying = true) :
    mode = .waiting ∧ ∃ s v t, e = .sample s v t ∧ v.isSafe = true := by
  cases mode with
  | supplying load => simp [isSupplying] at hoff
  | latched cause => cases e <;> simp [step, react, isSupplying] at hon
  | waiting =>
    cases e with
    | trip c => simp [step, isSupplying] at hon
    | rearm t => simp [step, isSupplying] at hon
    | sample s v t =>
      refine ⟨rfl, s, v, t, rfl, ?_⟩
      cases v <;> simp_all [step, react, isSupplying, Verdict.isSafe]

/-- Where every row but the overload leads, outside the latch. -/
def settled : Verdict → Mode τ
  | .stale => .latched .sensorStale
  | .invalid => .latched .sensorInvalid
  | .noMains => .waiting
  | .overload => .latched .overpower
  | .elevated => .supplying .elevated
  | .normal => .supplying .normal

theorem react_settled {mode : Mode τ} (hm : mode.isLatched = false) {v : Verdict}
    (hv : v ≠ .overload) (t : τ) : mode.react confirmed v t = settled v := by
  cases v with
  | overload => exact absurd rfl hv
  | _ => rcases mode with _ | (_ | _ | _) | _ <;> first | rfl | simp at hm

/-! ## The mode and the history -/

theorem isLatched_step {mode : Mode τ} {e : Event α τ} (hm : mode.isLatched = true)
    (he : e.isRearm = false) : (mode.step confirmed e).isLatched = true := by
  cases mode with
  | latched cause => rw [step_latched he]; rfl
  | waiting => simp at hm
  | supplying load => simp at hm

theorem since_react {mode : Mode τ} {v : Verdict} {t : τ}
    (hl : (mode.react confirmed v t).isLatched = false) :
    (mode.react confirmed v t).since
      = if v = .overload then some (mode.since.getD t) else none := by
  cases v with
  | overload =>
    rcases mode with _ | (_ | _ | t₀) | cause
    case waiting => simp [react] at hl
    case latched => simp [react] at hl
    all_goals
      simp only [react] at hl ⊢
      rw [confirm_of_not_latched hl]
      rfl
  | _ => rcases mode with _ | (_ | _ | t₀) | cause <;> simp_all [react, since]

/-- Outside the latch, the running confirmation began with the first sample of
the current sequence of overload samples. -/
theorem overSince_eq (log : List (Event α τ)) (hl : (after confirmed log).isLatched = false) :
    overSince log = (after confirmed log).since := by
  induction log with
  | nil => rfl
  | cons e earlier ih =>
    rw [after_cons] at hl ⊢
    cases e with
    | rearm t => rfl
    | trip c => cases hm : after confirmed earlier <;> simp [hm, step] at hl
    | sample s v t =>
      have hearlier : (after confirmed earlier).isLatched = false :=
        Bool.eq_false_iff.mpr fun hm => Bool.eq_false_iff.mp hl (isLatched_step hm rfl)
      rw [step, since_react hl, overSince, ih hearlier]

/-- The rows of a log agree with what `noMains` and `safe` say of the samples
that are neither stale nor invalid. -/
def Labelled (noMains safe : α → Prop) (log : List (Event α τ)) : Prop :=
  ∀ s v t, Event.sample s v t ∈ log → v ≠ .stale → v ≠ .invalid →
    (noMains s ↔ v = .noMains) ∧ (safe s ↔ v.isSafe = true)

theorem Labelled.tail {noMains safe : α → Prop} {e : Event α τ} {log : List (Event α τ)}
    (h : Labelled noMains safe (e :: log)) : Labelled noMains safe log :=
  fun s v t hs => h s v t (List.mem_cons_of_mem _ hs)

/-- Outside the latch, the supply is waited for exactly when no safe sample
was seen since the latest start, re-arm or loss of mains. -/
theorem waiting_iff {noMains safe : α → Prop} (log : List (Event α τ))
    (hlab : Labelled noMains safe log) (hl : (after confirmed log).isLatched = false) :
    after confirmed log = .waiting ↔ ¬ SafeSeen noMains safe log := by
  induction log with
  | nil => simp [SafeSeen]
  | cons e earlier ih =>
    rw [after_cons] at hl ⊢
    have hrec := ih hlab.tail
    cases e with
    | rearm t => simp [step, SafeSeen]
    | trip c => cases hm : after confirmed earlier <;> simp [hm, step] at hl
    | sample s v t =>
      have hs := hlab s v t List.mem_cons_self
      generalize after confirmed earlier = mode at hl hrec ⊢
      simp only [step, SafeSeen] at hl ⊢
      rcases mode with _ | load | cause
      case latched => simp [react] at hl
      case waiting =>
        have hno : ¬ SafeSeen noMains safe earlier := (hrec rfl).mp rfl
        cases v <;> simp_all [react, Verdict.isSafe]
      case supplying =>
        have hyes : SafeSeen noMains safe earlier := by simpa using hrec rfl
        cases v with
        | stale => cases load <;> simp [react] at hl
        | invalid => cases load <;> simp [react] at hl
        | noMains => cases load <;> simp_all [react]
        | elevated => cases load <;> simp_all [react, Verdict.isSafe]
        | normal => cases load <;> simp_all [react, Verdict.isSafe]
        | overload =>
          -- no trip, so the supply goes on and the earlier safe sample still counts
          have hmain : ¬ noMains s := fun h => by simpa using (hs (by simp) (by simp)).1.mp h
          cases load <;>
            (simp only [react] at hl ⊢; rw [confirm_of_not_latched hl]; simp [hmain, hyes])

/-- What an overload sample does outside the latch: it trips when the supply
is waited for, or when the confirmation it continues or opens has run long
enough; otherwise the confirmation runs on. -/
theorem react_overload {mode : Mode τ} (hm : mode.isLatched = false) (t : τ) :
    mode.react confirmed .overload t
      = match mode with
        | .waiting => .latched .overpower
        | _ => confirm confirmed (mode.since.getD t) t := by
  rcases mode with _ | (_ | _ | t₀) | cause <;> first | rfl | simp at hm

/-- **When an overload sample trips**, in terms of the log before it. -/
theorem overload_step {noMains safe : α → Prop} (log : List (Event α τ))
    (hlab : Labelled noMains safe log) (hl : (after confirmed log).isLatched = false)
    (s : α) (t : τ) :
    (¬ SafeSeen noMains safe log ∨ confirmed ((overSince log).getD t) t = true →
      after confirmed (.sample s .overload t :: log) = .latched .overpower) ∧
    (SafeSeen noMains safe log → confirmed ((overSince log).getD t) t = false →
      after confirmed (.sample s .overload t :: log)
        = .supplying (.overload ((overSince log).getD t))) := by
  have hw := waiting_iff log hlab hl
  rw [overSince_eq log hl, after_cons, step, react_overload hl t]
  generalize after confirmed log = mode at hl hw ⊢
  cases mode with
  | waiting => simp_all
  | latched cause => simp at hl
  | supplying load =>
    have hseen : SafeSeen noMains safe log := by simpa using hw
    constructor
    · rintro (hno | hc)
      · exact absurd hseen hno
      · simp [confirm, hc]
    · intro _ hc
      simp [confirm, hc]

end Mode

end EnergyController
