/-
EnergyController.Lib.Guarded — data guarded by a mutex, and a register beside
it that is accessed without the mutex, as any number of threads use them.

`Object` says what each operation does as a whole. `Cutting` cuts every
operation into pieces, each of which reads and writes the guarded data and the
thread's own memory; between two pieces any other thread may move, so the data
is torn while an operation is at work on it. `step` is one move of one thread,
or time going by. Each move that is seen from outside, or that lets a call take
effect, is an `Event`; the history of a run lists them newest first.
`Lib.GuardedTheorems` has the rules.
-/
import EnergyController.Lib.Runs
import Mathlib.Logic.Function.Basic

namespace Guarded

variable {T γ φ ω ρ ℓ : Type*}

/-- Guarded data `γ` and a register `φ`, with operations `ω` and answers `ρ`. -/
structure Object (γ φ ω ρ : Type*) where
  /-- what an operation leaves in the register when it takes effect -/
  exchange : ω → φ → φ
  /-- what it answers and leaves of the data, from the time at which it was
  inside and what it found in the register -/
  act : ω → Nat → φ → γ → ρ × γ
  /-- an operation that did not get the mutex has the register only -/
  refuse : ω → φ → ρ × φ

/-- A call as it takes effect: when it was inside, `none` if it never was. -/
abbrev Call (ω : Type*) := ω × Option Nat

namespace Object

variable (O : Object γ φ ω ρ)

/-- A whole call at once. -/
def perform (s : γ × φ) : Call ω → ρ × (γ × φ)
  | (o, none) => ((O.refuse o s.2).1, (s.1, (O.refuse o s.2).2))
  | (o, some now) => ((O.act o now s.2 s.1).1, ((O.act o now s.2 s.1).2, O.exchange o s.2))

def serialStep (s : γ × φ) (c : T × Call ω) : γ × φ := (O.perform s c.2).2

def serialAnswer (s : γ × φ) (c : T × Call ω) : List (T × ρ) := [(c.1, (O.perform s c.2).1)]

end Object

/-- A thread's work on the data and its own memory, piece by piece. -/
def work (pieces : List (γ × ℓ → γ × ℓ)) (s : γ × ℓ) : γ × ℓ :=
  pieces.foldl (fun s piece => piece s) s

@[simp] theorem work_nil (s : γ × ℓ) : work [] s = s := rfl

@[simp] theorem work_cons (piece : γ × ℓ → γ × ℓ) (rest : List (γ × ℓ → γ × ℓ)) (s : γ × ℓ) :
    work (piece :: rest) s = work rest (piece s) := rfl

/-- A cutting of the operations into pieces that together do what `act` says. -/
structure Cutting (O : Object γ φ ω ρ) (ℓ : Type*) where
  start : ℓ
  pieces : ω → Nat → φ → List (γ × ℓ → γ × ℓ)
  answer : ω → ℓ → ρ
  composes : ∀ o now v g, O.act o now v g
    = (answer o (work (pieces o now v) (g, start)).2, (work (pieces o now v) (g, start)).1)

/-! ## Threads -/

/-- Where a thread is in its current call. -/
inductive Phase (γ ω ρ ℓ : Type*) where
  | idle
  /-- waiting for the mutex -/
  | waiting (o : ω)
  /-- the wait timed out -/
  | refused (o : ω)
  /-- the mutex is taken -/
  | holding (o : ω)
  /-- the clock is read -/
  | entered (o : ω) (now : Nat)
  /-- these pieces are left to do -/
  | working (o : ω) (memory : ℓ) (rest : List (γ × ℓ → γ × ℓ))
  | answered (r : ρ)

/-- The thread holds the mutex. -/
def Phase.Owns : Phase γ ω ρ ℓ → Prop
  | .holding _ => True
  | .entered _ _ => True
  | .working _ _ _ => True
  | _ => False

inductive Move (ω : Type*) where
  | invoke (o : ω)
  | take
  | giveUp
  | refuse
  | enter
  | exchange
  | piece
  | give
  | leave

inductive Step (T ω : Type*) where
  | elapse (d : Nat)
  | move (t : T) (m : Move ω)

inductive Event (T ω ρ : Type*) where
  | invoked (t : T) (o : ω)
  /-- the call takes effect -/
  | effect (t : T) (c : Call ω)
  | returned (t : T) (r : ρ)

structure State (T γ φ ω ρ ℓ : Type*) where
  clock : Nat
  data : γ
  register : φ
  holder : Option T
  phase : T → Phase γ ω ρ ℓ

def initial (data : γ) (register : φ) (clock : Nat) : State T γ φ ω ρ ℓ where
  clock := clock
  data := data
  register := register
  holder := none
  phase := fun _ => .idle

/-! ## Histories -/

def invoked : List (Event T ω ρ) → List (T × ω)
  | [] => []
  | .invoked t o :: earlier => (t, o) :: invoked earlier
  | _ :: earlier => invoked earlier

/-- The calls in the order in which they took effect. -/
def effects : List (Event T ω ρ) → List (T × Call ω)
  | [] => []
  | .effect t c :: earlier => (t, c) :: effects earlier
  | _ :: earlier => effects earlier

def returned : List (Event T ω ρ) → List (T × ρ)
  | [] => []
  | .returned t r :: earlier => (t, r) :: returned earlier
  | _ :: earlier => returned earlier

section Simp

variable (t : T) (o : ω) (c : Call ω) (r : ρ) (h : List (Event T ω ρ))

@[simp] theorem invoked_invoked : invoked (.invoked t o :: h) = (t, o) :: invoked h := rfl
@[simp] theorem invoked_effect : invoked (.effect t c :: h) = invoked h := rfl
@[simp] theorem invoked_returned : invoked (.returned t r :: h) = invoked h := rfl
@[simp] theorem effects_invoked : effects (.invoked t o :: h) = effects h := rfl
@[simp] theorem effects_effect : effects (.effect t c :: h) = (t, c) :: effects h := rfl
@[simp] theorem effects_returned : effects (.returned t r :: h) = effects h := rfl
@[simp] theorem returned_invoked : returned (.invoked t o :: h) = returned h := rfl
@[simp] theorem returned_effect : returned (.effect t c :: h) = returned h := rfl
@[simp] theorem returned_returned : returned (.returned t r :: h) = (t, r) :: returned h := rfl

end Simp

/-- The data and the register once the calls are done one after another. -/
def serial (O : Object γ φ ω ρ) (s₀ : γ × φ) (calls : List (T × Call ω)) : γ × φ :=
  Run.after O.serialStep s₀ calls

/-- What the calls answer, done one after another. -/
def answers (O : Object γ φ ω ρ) (s₀ : γ × φ) (calls : List (T × Call ω)) : List (T × ρ) :=
  Run.observed O.serialStep O.serialAnswer s₀ calls

variable {O : Object γ φ ω ρ}

@[simp] theorem serial_cons (s₀ : γ × φ) (t : T) (c : Call ω) (calls : List (T × Call ω)) :
    serial O s₀ ((t, c) :: calls) = (O.perform (serial O s₀ calls) c).2 := rfl

@[simp] theorem answers_cons (s₀ : γ × φ) (t : T) (c : Call ω) (calls : List (T × Call ω)) :
    answers O s₀ ((t, c) :: calls)
      = (t, (O.perform (serial O s₀ calls) c).1) :: answers O s₀ calls := rfl

theorem invoked_append (h h' : List (Event T ω ρ)) :
    invoked (h' ++ h) = invoked h' ++ invoked h := by
  induction h' with
  | nil => rfl
  | cons e h' ih => cases e <;> simp [ih]

theorem effects_append (h h' : List (Event T ω ρ)) :
    effects (h' ++ h) = effects h' ++ effects h := by
  induction h' with
  | nil => rfl
  | cons e h' ih => cases e <;> simp [ih]

theorem returned_append (h h' : List (Event T ω ρ)) :
    returned (h' ++ h) = returned h' ++ returned h := by
  induction h' with
  | nil => rfl
  | cons e h' ih => cases e <;> simp [ih]

theorem answers_append (s₀ : γ × φ) (calls calls' : List (T × Call ω)) :
    answers O s₀ (calls' ++ calls) = answers O (serial O s₀ calls) calls' ++ answers O s₀ calls :=
  Run.observed_append O.serialStep O.serialAnswer s₀ calls' calls

variable [DecidableEq T]

/-- What belongs to one thread. -/
def ofThread {α : Type*} (t : T) : List (T × α) → List α
  | [] => []
  | (u, a) :: rest => if u = t then a :: ofThread t rest else ofThread t rest

@[simp] theorem ofThread_nil {α : Type*} (t : T) : ofThread t ([] : List (T × α)) = [] := rfl

@[simp] theorem ofThread_cons {α : Type*} (t u : T) (a : α) (rest : List (T × α)) :
    ofThread t ((u, a) :: rest) = if u = t then a :: ofThread t rest else ofThread t rest := rfl

theorem ofThread_append {α : Type*} (t : T) (l l' : List (T × α)) :
    ofThread t (l' ++ l) = ofThread t l' ++ ofThread t l := by
  induction l' with
  | nil => rfl
  | cons a l' ih =>
    obtain ⟨u, a⟩ := a
    by_cases hut : u = t
    · simp [hut, ih]
    · simp [hut, ih]

theorem mem_ofThread {α : Type*} {t : T} {a : α} {l : List (T × α)} :
    a ∈ ofThread t l ↔ (t, a) ∈ l := by
  induction l with
  | nil => simp
  | cons b l ih =>
    obtain ⟨u, b⟩ := b
    by_cases hut : u = t
    · simp [hut, ih]
    · simp [hut, ih, Ne.symm hut]

/-! ## Moves -/

namespace State

def goto (s : State T γ φ ω ρ ℓ) (t : T) (p : Phase γ ω ρ ℓ) : State T γ φ ω ρ ℓ :=
  { s with phase := Function.update s.phase t p }

/-- A move that a thread cannot make where it is leaves everything as it is. -/
def move (C : Cutting O ℓ) (s : State T γ φ ω ρ ℓ) (t : T) (m : Move ω) :
    State T γ φ ω ρ ℓ × List (Event T ω ρ) :=
  match m, s.phase t with
  | .invoke o, .idle => (s.goto t (.waiting o), [.invoked t o])
  | .take, .waiting o =>
    if s.holder.isNone then ({ s.goto t (.holding o) with holder := some t }, []) else (s, [])
  | .giveUp, .waiting o => (s.goto t (.refused o), [])
  | .refuse, .refused o =>
    ({ s.goto t (.answered (O.refuse o s.register).1) with register := (O.refuse o s.register).2 },
      [.effect t (o, none)])
  | .enter, .holding o => (s.goto t (.entered o s.clock), [])
  | .exchange, .entered o now =>
    ({ s.goto t (.working o C.start (C.pieces o now s.register)) with
        register := O.exchange o s.register },
      [.effect t (o, some now)])
  | .piece, .working o memory (piece :: rest) =>
    ({ s.goto t (.working o (piece (s.data, memory)).2 rest) with
        data := (piece (s.data, memory)).1 }, [])
  | .give, .working o memory [] =>
    ({ s.goto t (.answered (C.answer o memory)) with holder := none }, [])
  | .leave, .answered r => (s.goto t .idle, [.returned t r])
  | _, _ => (s, [])

def step (C : Cutting O ℓ) (s : State T γ φ ω ρ ℓ) : Step T ω → State T γ φ ω ρ ℓ
  | .elapse d => { s with clock := s.clock + d }
  | .move t m => (s.move C t m).1

def events (C : Cutting O ℓ) (s : State T γ φ ω ρ ℓ) : Step T ω → List (Event T ω ρ)
  | .elapse _ => []
  | .move t m => (s.move C t m).2

/-- The events of a run, newest first. -/
def history (C : Cutting O ℓ) (s : State T γ φ ω ρ ℓ) (steps : List (Step T ω)) :
    List (Event T ω ρ) :=
  Run.observed (step C) (events C) s steps

theorem history_append (C : Cutting O ℓ) (s : State T γ φ ω ρ ℓ) (later earlier : List (Step T ω)) :
    s.history C (later ++ earlier)
      = (Run.after (step C) s earlier).history C later ++ s.history C earlier :=
  Run.observed_append (step C) (events C) s later earlier

end State

end Guarded
