/-
EnergyController.Lib.CString — byte strings as C code sees them.

A `CString` is the bytes before the terminator, so none of them is 0.
`charAt` reads the string with its terminator and nothing else: an index
past the terminator is `none`, which lets a statement say that a scan stays
inside its string. `readBytes` is a run of bytes behind a plain pointer, where
a 0 means nothing. `split_unique` is the fact behind separators: a part that
does not contain the separator can be read off the whole.
-/
import Mathlib.Data.List.Basic
import Mathlib.Data.List.GetD
import Mathlib.Data.List.TakeWhile
import Mathlib.Tactic.IntervalCases

/-- The bytes of an ASCII literal. -/
def ascii (s : String) : List UInt8 := s.toList.map Char.toUInt8

/-- A NUL-terminated string: its bytes before the terminator. -/
abbrev CString := { s : List UInt8 // 0 ∉ s }

namespace CString

/-- A string literal. -/
def lit (s : String) (h : 0 ∉ ascii s := by decide) : CString := ⟨ascii s, h⟩

def empty : CString := ⟨[], by simp⟩

/-- The string in front of the first NUL. -/
def ofBytes (l : List UInt8) : CString :=
  ⟨l.takeWhile (· != 0), fun h => by simpa using List.mem_takeWhile_imp h⟩

theorem bne_zero_of_mem {l : List UInt8} (h : 0 ∉ l) : ∀ c ∈ l, (c != 0) = true := by
  intro c hc
  rw [bne_iff_ne]
  rintro rfl
  exact h hc

theorem ofBytes_val {l : List UInt8} (h : 0 ∉ l) : (ofBytes l).1 = l :=
  List.takeWhile_eq_self_iff.mpr (bne_zero_of_mem h)

/-- Concatenation, as of adjacent literals. -/
def append (s t : CString) : CString := ⟨s.1 ++ t.1, by simp [s.2, t.2]⟩

@[simp] theorem append_val (s t : CString) : (s.append t).1 = s.1 ++ t.1 := rfl

theorem append_left_injective {s t t' : CString} (h : s.append t = s.append t') : t = t' :=
  Subtype.ext (List.append_cancel_left (congrArg Subtype.val h))

/-- Reading `s[i]`: a byte, the terminator, or past it. -/
def charAt (s : CString) (i : ℕ) : Option UInt8 :=
  if i = s.1.length then some 0 else s.1[i]?

theorem charAt_length (s : CString) : s.charAt s.1.length = some 0 := by
  unfold charAt
  rw [if_pos rfl]

theorem charAt_of_lt {s : CString} {i : ℕ} (h : i < s.1.length) :
    s.charAt i = some s.1[i] := by
  unfold charAt
  rw [if_neg (by omega), List.getElem?_eq_getElem h]

/-- No byte before the terminator is the terminator. -/
theorem getElem_ne_zero {s : CString} {i : ℕ} (h : i < s.1.length) : s.1[i] ≠ 0 := by
  intro h0
  have hmem : s.1[i] ∈ s.1 := List.getElem_mem h
  rw [h0] at hmem
  exact s.2 hmem

end CString

/-- `n` bytes from a pointer. -/
def readBytes (p : ℕ → UInt8) (n : ℕ) : List UInt8 := (List.range n).map p

@[simp] theorem length_readBytes (p : ℕ → UInt8) (n : ℕ) : (readBytes p n).length = n := by
  simp [readBytes]

theorem readBytes_succ (p : ℕ → UInt8) (n : ℕ) : readBytes p (n + 1) = readBytes p n ++ [p n] := by
  simp [readBytes, List.range_succ]

theorem readBytes_congr {p q : ℕ → UInt8} {n : ℕ} (h : ∀ i < n, p i = q i) :
    readBytes p n = readBytes q n := by
  unfold readBytes
  rw [List.map_inj_left]
  intro i hi
  exact h i (List.mem_range.mp hi)

/-- The memory from `p` on holds the string and its terminator. -/
def HoldsString (p : ℕ → UInt8) (s : CString) : Prop := ∀ i ≤ s.1.length, p i = s.1.getD i 0

/-- Reading far enough finds the string and its terminator. -/
theorem readBytes_of_holds {p : ℕ → UInt8} {s : CString} (h : HoldsString p s) {n : ℕ}
    (hn : s.1.length < n) : ∃ rest, readBytes p n = s.1 ++ 0 :: rest := by
  have htake : (readBytes p n).take (s.1.length + 1) = s.1 ++ [0] := by
    apply List.ext_getElem
    · rw [List.length_take, length_readBytes, List.length_append, List.length_singleton]
      omega
    · intro i hi hi'
      rw [List.length_append, List.length_singleton] at hi'
      have hp := h i (by omega)
      simp only [List.getElem_take, readBytes, List.getElem_map, List.getElem_range, hp]
      rw [List.getElem_append]
      split
      · rename_i hlt
        exact List.getD_eq_getElem _ _ hlt
      · rw [List.getElem_singleton]
        exact List.getD_eq_default _ _ (by omega)
  refine ⟨(readBytes p n).drop (s.1.length + 1), ?_⟩
  rw [← List.take_append_drop (s.1.length + 1) (readBytes p n), htake, List.append_assoc]
  simp

theorem ofBytes_readBytes {p : ℕ → UInt8} {s : CString} (h : HoldsString p s) {n : ℕ}
    (hn : s.1.length < n) : CString.ofBytes (readBytes p n) = s := by
  obtain ⟨rest, hread⟩ := readBytes_of_holds h hn
  apply Subtype.ext
  show (readBytes p n).takeWhile (· != 0) = s.1
  rw [hread, List.takeWhile_append_of_pos (CString.bne_zero_of_mem s.2),
    List.takeWhile_cons_of_neg (by simp), List.append_nil]

/-- A property of bytes is decided by the 256 of them. -/
theorem forall_byte {P : UInt8 → Prop} (h : ∀ n < 256, P (UInt8.ofNat n)) (c : UInt8) : P c := by
  have hc := h c.toNat c.toNat_lt
  rwa [UInt8.ofNat_toNat] at hc

/-- A first part without the separator is determined by the whole. -/
theorem split_unique {sep : UInt8} {s t rest rest' : List UInt8} (hs : sep ∉ s) (ht : sep ∉ t)
    (h : s ++ sep :: rest = t ++ sep :: rest') : s = t ∧ rest = rest' := by
  induction s generalizing t with
  | nil =>
    cases t with
    | nil => exact ⟨rfl, (List.cons.inj h).2⟩
    | cons c t => exact absurd (List.cons.inj h).1 (List.ne_of_not_mem_cons ht)
  | cons c s ih =>
    cases t with
    | nil => exact absurd (List.cons.inj h).1.symm (List.ne_of_not_mem_cons hs)
    | cons c' t =>
      obtain ⟨hc, htail⟩ := List.cons.inj h
      obtain ⟨hst, hrest⟩ :=
        ih (List.not_mem_of_not_mem_cons hs) (List.not_mem_of_not_mem_cons ht) htail
      rw [hc, hst]
      exact ⟨rfl, hrest⟩
