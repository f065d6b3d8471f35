/-
EnergyController.Lib.Terminal — the row that a terminal's cursor is in, on
whatever terminal.

A terminal is a parameter: how a byte changes it (`write`), and what can be seen
of the cursor's row. `Lawful` is what terminals document of the bytes used here:
CR moves the cursor to the first column, LF to a new row, BS one column back, and
a printable byte goes into the cell under the cursor and moves it on, as long as
the row has a column left.

`Shows` says that the row reads a text, with the cursor behind it. Whatever
happened before, a CR LF shows the empty text (`shows_newline`); from there on
printing appends (`Shows.print`), and BS, blank, BS takes the last byte away
(`Shows.erase`).
-/
import Mathlib.Data.Nat.Notation
import Mathlib.Data.List.GetD
import Mathlib.Logic.Function.Basic

structure Terminal (τ : Type*) where
  write : τ → UInt8 → τ
  /-- the cells of the row that the cursor is in -/
  row : τ → ℕ → UInt8
  column : τ → ℕ

namespace Terminal

def blank : UInt8 := 32

variable {τ : Type*}

/-- A terminal with rows of `width` columns, whose cursor is in the last row. -/
structure Lawful (T : Terminal τ) (width : ℕ) : Prop where
  carriageReturn : ∀ t, T.column (T.write t 13) = 0 ∧ T.row (T.write t 13) = T.row t
  lineFeed : ∀ t,
    T.column (T.write t 10) = T.column t ∧ T.row (T.write t 10) = fun _ => blank
  backspace : ∀ t, T.column (T.write t 8) = T.column t - 1 ∧ T.row (T.write t 8) = T.row t
  printable : ∀ t c, 32 ≤ c → c < 127 → T.column t + 1 < width →
    T.column (T.write t c) = T.column t + 1 ∧
      T.row (T.write t c) = Function.update (T.row t) (T.column t) c

def print (T : Terminal τ) (t : τ) (text : List UInt8) : τ := text.foldl T.write t

structure Shows (T : Terminal τ) (t : τ) (text : List UInt8) : Prop where
  column : T.column t = text.length
  row : ∀ i, T.row t i = text.getD i blank

variable {T : Terminal τ} {t : τ} {width : ℕ} {text : List UInt8}

theorem print_append (T : Terminal τ) (t : τ) (first second : List UInt8) :
    T.print t (first ++ second) = T.print (T.print t first) second := List.foldl_append

theorem Lawful.shows_newline (hT : T.Lawful width) (t : τ) : T.Shows (T.print t [13, 10]) [] where
  column := (hT.lineFeed _).1.trans (hT.carriageReturn t).1
  row i := congrFun (hT.lineFeed _).2 i

/-- A byte behind a text in a row, in a blank cell or over one last byte. -/
theorem update_getD {rest : List UInt8} (hrest : rest.length ≤ 1) (text : List UInt8) (c : UInt8)
    (i : ℕ) :
    Function.update (fun i => (text ++ rest).getD i blank) text.length c i
      = (text ++ [c]).getD i blank := by
  rcases Nat.lt_trichotomy i text.length with hlt | rfl | hgt
  · rw [Function.update_of_ne (by omega), List.getD_append _ _ _ _ hlt,
      List.getD_append _ _ _ _ hlt]
  · rw [Function.update_self, List.getD_append_right _ _ _ _ (Nat.le_refl _), Nat.sub_self]
    rfl
  · rw [Function.update_of_ne (by omega), List.getD_eq_default _ _ (by simp; omega),
      List.getD_eq_default _ _ (by simp; omega)]

/-- A blank behind the text makes no difference. -/
theorem getD_append_blank (text : List UInt8) (i : ℕ) :
    (text ++ [blank]).getD i blank = text.getD i blank := by
  rcases Nat.lt_or_ge i text.length with hlt | hge
  · rw [List.getD_append _ _ _ _ hlt]
  · rw [List.getD_append_right _ _ _ _ hge, List.getD_eq_default _ _ hge,
      List.getD_eq_getElem?_getD, List.getElem?_getD_singleton_default_eq]

theorem Shows.write (h : T.Shows t text) (hT : T.Lawful width) {c : UInt8} (hc : 32 ≤ c)
    (hc' : c < 127) (hroom : text.length + 1 < width) : T.Shows (T.write t c) (text ++ [c]) := by
  obtain ⟨hcolumn, hrow⟩ := hT.printable t c hc hc' (by rwa [h.column])
  have hbefore : T.row t = fun i => (text ++ []).getD i blank := by
    funext i
    rw [List.append_nil, h.row]
  refine ⟨by simp [hcolumn, h.column], fun i => ?_⟩
  rw [hrow, h.column, hbefore, update_getD (Nat.zero_le _)]

theorem Shows.print (h : T.Shows t text) (hT : T.Lawful width) {more : List UInt8}
    (hmore : ∀ c ∈ more, 32 ≤ c ∧ c < 127) (hroom : text.length + more.length < width) :
    T.Shows (T.print t more) (text ++ more) := by
  induction more generalizing t text with
  | nil =>
    rw [List.append_nil]
    exact h
  | cons c more ih =>
    have hc := hmore c List.mem_cons_self
    rw [List.length_cons] at hroom
    rw [List.append_cons]
    refine ih (h.write hT hc.1 hc.2 (by omega)) (fun d hd => hmore d (List.mem_cons_of_mem c hd)) ?_
    rw [List.length_append, List.length_singleton]
    omega

/-- The last byte is overwritten with a blank. -/
theorem Shows.erase {c : UInt8} (h : T.Shows t (text ++ [c])) (hT : T.Lawful width)
    (hroom : text.length + 1 < width) : T.Shows (T.print t [8, 32, 8]) text := by
  have hcolumn : T.column t = text.length + 1 := by simpa using h.column
  obtain ⟨hback, hkept⟩ := hT.backspace t
  rw [hcolumn, Nat.add_sub_cancel] at hback
  obtain ⟨hnext, hblank⟩ := hT.printable (T.write t 8) 32 (by decide) (by decide) (by omega)
  obtain ⟨hlast, hrow⟩ := hT.backspace (T.write (T.write t 8) 32)
  refine ⟨?_, fun i => ?_⟩
  · show T.column (T.write (T.write (T.write t 8) 32) 8) = _
    omega
  · show T.row (T.write (T.write (T.write t 8) 32) 8) i = _
    have hbefore : T.row t = fun i => (text ++ [c]).getD i blank := funext h.row
    rw [hrow, hblank, hkept, hback, hbefore, update_getD (Nat.le_refl _)]
    exact getD_append_blank text i

end Terminal
