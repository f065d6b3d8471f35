/-
EnergyController.Lib.Transducer — deterministic machines that read a stream and
answer each of its items with a list of outputs.

`run` feeds a stream to such a machine, oldest item first. The rules:

* `run_flatten` — a machine that takes whole blocks, and feeds each to another
  one, does with the blocks what the other does with the stream;
* `run_invariant` — what each step keeps of the state and the outputs so far, a
  run keeps;
* `simulation` — what each step keeps towards a step of an abstract machine,
  and shows of it, a run keeps and shows;
* `run_pieces` — a machine that answers terminators only, and is in its first
  state again behind each, answers each of the `pieces` of the stream as if it
  were the first.
-/
import Mathlib.Tactic.TypeStar

namespace Transducer

variable {σ ι κ : Type*}

/-- The state after the stream and the outputs on the way. -/
def run (step : σ → ι → σ × List κ) (s : σ) : List ι → σ × List κ
  | [] => (s, [])
  | i :: rest =>
    let (s', outputs) := step s i
    let (s'', later) := run step s' rest
    (s'', outputs ++ later)

variable {step : σ → ι → σ × List κ}

@[simp] theorem run_nil (s : σ) : run step s [] = (s, []) := rfl

@[simp] theorem run_cons (s : σ) (i : ι) (rest : List ι) :
    run step s (i :: rest)
      = ((run step (step s i).1 rest).1, (step s i).2 ++ (run step (step s i).1 rest).2) := rfl

theorem run_append (s : σ) (first second : List ι) :
    run step s (first ++ second)
      = ((run step (run step s first).1 second).1,
          (run step s first).2 ++ (run step (run step s first).1 second).2) := by
  induction first generalizing s with
  | nil => rfl
  | cons i first ih => simp [ih]

/-- It does not matter how a stream is cut into blocks. -/
theorem run_flatten (s : σ) (blocks : List (List ι)) :
    run (run step) s blocks = run step s blocks.flatten := by
  induction blocks generalizing s with
  | nil => rfl
  | cons block blocks ih => rw [run_cons, ih, List.flatten_cons, run_append]

theorem run_invariant {P : σ → List κ → Prop}
    (hstep : ∀ s outputs i, P s outputs → P (step s i).1 (outputs ++ (step s i).2))
    (stream : List ι) {s : σ} {outputs : List κ} (h : P s outputs) :
    P (run step s stream).1 (outputs ++ (run step s stream).2) := by
  induction stream generalizing s outputs with
  | nil =>
    rw [run_nil, List.append_nil]
    exact h
  | cons i rest ih =>
    rw [run_cons, ← List.append_assoc]
    exact ih (hstep s outputs i h)

/-! ## Simulation -/

section

variable {τ ι' κ' : Type*} {astep : τ → ι' → τ × List κ'} {R : σ → τ → Prop} {f : ι → ι'}
  {view : κ → Option κ'}

theorem simulation
    (hstep : ∀ s a i, R s a → R (step s i).1 (astep a (f i)).1 ∧
      (step s i).2.filterMap view = (astep a (f i)).2)
    (stream : List ι) {s : σ} {a : τ} (h : R s a) :
    R (run step s stream).1 (run astep a (stream.map f)).1 ∧
      (run step s stream).2.filterMap view = (run astep a (stream.map f)).2 := by
  induction stream generalizing s a with
  | nil => exact ⟨h, rfl⟩
  | cons i rest ih =>
    obtain ⟨hnext, hout⟩ := hstep s a i h
    obtain ⟨hlast, hlater⟩ := ih hnext
    refine ⟨hlast, ?_⟩
    rw [run_cons, List.map_cons, run_cons, List.filterMap_append, hout, hlater]

end

/-! ## Pieces -/

/-- The parts of a stream that a terminator closes, without the terminators. -/
def pieces (isEnd : ι → Bool) (stream : List ι) : List (List ι) :=
  (stream.splitOnP isEnd).dropLast

variable {isEnd : ι → Bool}

theorem pieces_of_open {piece : List ι} (h : ∀ i ∈ piece, isEnd i = false) :
    pieces isEnd piece = [] := by
  rw [pieces, List.splitOnP_eq_singleton h]
  rfl

theorem pieces_append_cons {piece : List ι} (h : ∀ i ∈ piece, isEnd i = false) {i : ι}
    (hi : isEnd i = true) (rest : List ι) :
    pieces isEnd (piece ++ i :: rest) = piece :: pieces isEnd rest := by
  rw [pieces, List.splitOnP_append_cons_of_forall_mem h i hi,
    List.dropLast_cons_of_ne_nil (List.splitOnP_ne_nil isEnd rest)]
  rfl

/-- `emit` is what a terminator answers, `answer` the same for a whole piece. -/
theorem run_pieces {s₀ : σ} {emit : σ → List κ} {answer : List ι → List κ}
    (hend : ∀ s i, isEnd i = true → step s i = (s₀, emit s))
    (hopen : ∀ s i, isEnd i = false → (step s i).2 = [])
    (hpiece : ∀ piece, (∀ i ∈ piece, isEnd i = false) → emit (run step s₀ piece).1 = answer piece)
    (stream : List ι) : (run step s₀ stream).2 = (pieces isEnd stream).flatMap answer := by
  suffices hfrom : ∀ piece : List ι, (∀ i ∈ piece, isEnd i = false) →
      (run step (run step s₀ piece).1 stream).2
        = (pieces isEnd (piece ++ stream)).flatMap answer from
    hfrom [] (by simp)
  -- `piece` is what the machine has read since the last terminator
  induction stream with
  | nil =>
    intro piece hno
    rw [List.append_nil, pieces_of_open hno]
    rfl
  | cons i rest ih =>
    intro piece hno
    cases hi : isEnd i with
    | true =>
      have hrest := ih [] (by simp)
      rw [run_nil, List.nil_append] at hrest
      rw [run_cons, hend _ i hi, pieces_append_cons hno hi, List.flatMap_cons, hrest,
        hpiece piece hno]
    | false =>
      have hlonger : ∀ j ∈ piece ++ [i], isEnd j = false := by
        intro j hj
        rcases List.mem_append.mp hj with hj | hj
        · exact hno j hj
        · rw [List.mem_singleton.mp hj]
          exact hi
      have hrest := ih (piece ++ [i]) hlonger
      rw [run_append, List.append_assoc] at hrest
      rw [run_cons, hopen _ i hi, List.nil_append]
      exact hrest

end Transducer
