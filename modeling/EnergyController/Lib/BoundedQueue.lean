/-
EnergyController.Lib.BoundedQueue — a first-in first-out queue of limited
length, as an operating system provides it between tasks.

The bound is a field, so a queue that holds more than its capacity cannot be
built. `Passed` is the account of a queue over a run, with the histories newest
first: what was sent is what was received, and behind it what is still in the
queue. `send` and `receive` keep it, so nothing is lost, duplicated or reordered
on the way.
-/
import Mathlib.Tactic.TypeStar

structure BoundedQueue (α : Type*) (capacity : Nat) where
  /-- oldest first -/
  items : List α
  bounded : items.length ≤ capacity

namespace BoundedQueue

variable {α : Type*} {capacity : Nat}

def empty : BoundedQueue α capacity where
  items := []
  bounded := Nat.zero_le _

def hasRoom (q : BoundedQueue α capacity) : Bool := q.items.length < capacity

/-- A full queue refuses the item. -/
def send (q : BoundedQueue α capacity) (a : α) : BoundedQueue α capacity :=
  if h : q.items.length < capacity then
    { items := q.items ++ [a], bounded := by rw [List.length_append]; exact h }
  else q

/-- What is left when the oldest item is taken. -/
def receive (q : BoundedQueue α capacity) : BoundedQueue α capacity where
  items := q.items.tail
  bounded := by
    rw [List.length_tail]
    exact Nat.le_trans (Nat.sub_le _ _) q.bounded

@[simp] theorem items_empty : (empty : BoundedQueue α capacity).items = [] := rfl

@[simp] theorem items_receive (q : BoundedQueue α capacity) : q.receive.items = q.items.tail := rfl

theorem items_send_of_hasRoom {q : BoundedQueue α capacity} (h : q.hasRoom = true) (a : α) :
    (q.send a).items = q.items ++ [a] := by
  simp only [hasRoom, decide_eq_true_eq] at h
  simp [send, h]

theorem send_of_full {q : BoundedQueue α capacity} (h : q.hasRoom = false) (a : α) :
    q.send a = q := by
  simp only [hasRoom, decide_eq_false_iff_not] at h
  simp [send, h]

/-- A queue that refuses an item is filled to its capacity. -/
theorem length_of_full {q : BoundedQueue α capacity} (h : q.hasRoom = false) :
    q.items.length = capacity := by
  have hle := q.bounded
  simp only [hasRoom, decide_eq_false_iff_not] at h
  omega

/-! ## The account of a run -/

/-- `sent` and `received` are the histories of the queue, newest first. -/
def Passed (q : BoundedQueue α capacity) (sent received : List α) : Prop :=
  sent = q.items.reverse ++ received

theorem passed_empty : (empty : BoundedQueue α capacity).Passed [] [] := rfl

theorem Passed.send {q : BoundedQueue α capacity} {sent received : List α}
    (h : q.Passed sent received) (hroom : q.hasRoom = true) (a : α) :
    (q.send a).Passed (a :: sent) received := by
  rw [Passed, items_send_of_hasRoom hroom, h, List.reverse_append]
  rfl

theorem Passed.receive {q : BoundedQueue α capacity} {sent received : List α}
    (h : q.Passed sent received) {a : α} {rest : List α} (hq : q.items = a :: rest) :
    q.receive.Passed sent (a :: received) := by
  rw [Passed, items_receive, h, hq, List.reverse_cons, List.append_assoc]
  rfl

end BoundedQueue
