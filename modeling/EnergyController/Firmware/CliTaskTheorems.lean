/-
EnergyController.Firmware.CliTaskTheorems — the command line against lines of
unlimited length.

`editedLine` is what a piece of the byte stream, without its CR or LF, leaves on
a line that has no limit, and `overruns` says that the piece tries at some point
to append to a line that is full. `TypedLine` reads the stream with these alone.
The task keeps the same line, in its buffer, until the first overrun (`Holds`),
and answers a terminator as `TypedLine` does (`Holds.readByte`). So what it
dispatches is read off the pieces of the stream (`run_shows`).
-/
import EnergyController.Firmware.CliTask

namespace EnergyController

/-! ## Pieces of the stream -/

/-- CR or LF. -/
def isLineEnd (b : UInt8) : Bool := b = 13 || b = 10

def isErase (b : UInt8) : Bool := b = 8 || b = 127

def isPrintable (b : UInt8) : Bool := 32 ≤ b && b ≤ 126

theorem isErase_of_isPrintable (b : UInt8) : isPrintable b = true → isErase b = false := by
  revert b
  exact forall_byte (by decide +kernel)

/-- A byte that is neither printable nor BS or DEL is ignored. -/
def editLine (line : List UInt8) (b : UInt8) : List UInt8 :=
  if isPrintable b then line ++ [b] else if isErase b then line.dropLast else line

theorem zero_not_mem_editLine {line : List UInt8} (h : 0 ∉ line) (b : UInt8) :
    0 ∉ editLine line b := by
  unfold editLine
  split
  · rename_i hb
    intro hmem
    rcases List.mem_append.mp hmem with hmem | hmem
    · exact h hmem
    · rw [← List.mem_singleton.mp hmem] at hb
      exact absurd hb (by decide)
  · split
    · exact fun hmem => h (List.mem_of_mem_dropLast hmem)
    · exact h

def editedLine (piece : List UInt8) : List UInt8 := piece.foldl editLine []

/-- An append is attempted on a line of `limit` characters or more. -/
def overrunsFrom (limit : ℕ) (line : List UInt8) : List UInt8 → Bool
  | [] => false
  | b :: rest =>
    isPrintable b && decide (limit ≤ line.length) || overrunsFrom limit (editLine line b) rest

def overruns (limit : ℕ) (piece : List UInt8) : Bool := overrunsFrom limit [] piece

/-- The line that a piece dispatches, if any. -/
def dispatchedLine (limit : ℕ) (piece : List UInt8) : Option (List UInt8) :=
  if overruns limit piece || (editedLine piece).isEmpty then none else some (editedLine piece)

example : dispatchedLine 3 (ascii "acl" ++ [8, 107]) = some (ascii "ack") := by decide

/-- No backspace takes an overrun back. -/
example : dispatchedLine 3 (ascii "acks" ++ [8]) = none := by decide

/-- The command that a line asks the control task for. -/
def requestOf (line : List UInt8) : Option CommandType :=
  if line = ascii "reset" then some .reset
  else if line = ascii "ack" then some .ack
  else none

/-! ## A reader without a limit -/

/-- What has been typed since the last terminator. -/
structure TypedLine where
  text : List UInt8
  overran : Bool

namespace TypedLine

variable {κ : Type*} (limit : ℕ) (emit : List UInt8 → Option κ)

def blank : TypedLine := { text := [], overran := false }

def edit (l : TypedLine) (b : UInt8) : TypedLine where
  text := editLine l.text b
  overran := l.overran || (isPrintable b && decide (limit ≤ l.text.length))

/-- An overrun stays. -/
theorem overran_of_edit {l : TypedLine} {b : UInt8} (h : (l.edit limit b).overran = false) :
    l.overran = false := (Bool.or_eq_false_iff.mp h).1

def answer (l : TypedLine) : List κ :=
  if l.overran || l.text.isEmpty then [] else (emit l.text).toList

def read (l : TypedLine) (b : UInt8) : TypedLine × List κ :=
  if isLineEnd b then (blank, l.answer emit) else (l.edit limit b, [])

/-- Without a line end the reader edits its line and answers nothing. -/
theorem run_piece (l : TypedLine) {piece : List UInt8} (h : ∀ b ∈ piece, isLineEnd b = false) :
    (Transducer.run (read limit emit) l piece).1
      = { text := piece.foldl editLine l.text
          overran := l.overran || overrunsFrom limit l.text piece } := by
  induction piece generalizing l with
  | nil => simp [overrunsFrom]
  | cons b rest ih =>
    have hread : read limit emit l b = (l.edit limit b, []) := by
      rw [read, h b List.mem_cons_self]
      rfl
    rw [Transducer.run_cons, hread, ih _ fun c hc => h c (List.mem_cons_of_mem b hc)]
    simp [edit, overrunsFrom, Bool.or_assoc]

/-- What it would answer behind a piece is read off the piece. -/
theorem answer_piece {piece : List UInt8} (h : ∀ b ∈ piece, isLineEnd b = false) :
    (Transducer.run (read limit emit) blank piece).1.answer emit
      = ((dispatchedLine limit piece).bind emit).toList := by
  rw [run_piece limit emit blank h]
  unfold answer dispatchedLine overruns editedLine blank
  dsimp only
  rw [Bool.false_or]
  split <;> rfl

/-- **What the reader answers**, piece by piece. -/
theorem run_outputs (bytes : List UInt8) :
    (Transducer.run (read limit emit) blank bytes).2
      = ((Transducer.pieces isLineEnd bytes).filterMap (dispatchedLine limit)).filterMap emit := by
  have hend : ∀ (l : TypedLine) b, isLineEnd b = true →
      read limit emit l b = (blank, l.answer emit) := by
    intro l b hb
    rw [read, hb]
    rfl
  have hopen : ∀ (l : TypedLine) b, isLineEnd b = false → (read limit emit l b).2 = [] := by
    intro l b hb
    rw [read, hb]
    rfl
  rw [Transducer.run_pieces hend hopen fun piece hno => answer_piece limit emit hno,
    List.filterMap_filterMap, List.filterMap_eq_flatMap_toList]

end TypedLine

/-! ## The task -/

theorem charValue_eq_end (charSigned : Bool) (c : UInt8) :
    charValue charSigned c = 13 ∨ charValue charSigned c = 10 ↔ isLineEnd c = true := by
  revert c
  cases charSigned <;> exact forall_byte (by decide +kernel)

theorem charValue_eq_erase (charSigned : Bool) (c : UInt8) :
    charValue charSigned c = 8 ∨ charValue charSigned c = 127 ↔ isErase c = true := by
  revert c
  cases charSigned <;> exact forall_byte (by decide +kernel)

/-- A byte of 128 or more is out of range either way. -/
theorem charValue_out_of_range (charSigned : Bool) (c : UInt8) :
    charValue charSigned c < 32 ∨ charValue charSigned c > 126 ↔ ¬ isPrintable c = true := by
  revert c
  cases charSigned <;> exact forall_byte (by decide +kernel)

namespace CliTask

/-- The loop's body, with the classes of bytes by name. The comparisons of the source
are on a `char`, and come out the same whether it is signed or not. -/
theorem readByte_eq (charSigned : Bool) (size : ℕ) (t : CliTask) (b : SerialByte) :
    readByte charSigned size t b =
      if isLineEnd b.value then
        if t.index = 0 ∧ t.overflow = false then (t, []) else t.endLine size b.room
      else if isErase b.value then
        if t.index > 0 then ({ t with index := t.index - 1 }, [.print [8, 32, 8]]) else (t, [])
      else if ¬ isPrintable b.value then (t, [])
      else if t.index < size - 1 then
        ({ t with buffer := Function.update t.buffer t.index b.value, index := t.index + 1 },
          [.print [b.value]])
      else ({ t with overflow := true }, []) := by
  unfold readByte
  simp only [charValue_eq_end, charValue_eq_erase, charValue_out_of_range]

/-- **It does not matter whether `char` is signed.** -/
theorem readByte_charSigned (charSigned : Bool) :
    readByte charSigned = readByte (!charSigned) := by
  funext size t b
  rw [readByte_eq, readByte_eq]

/-! The two ways a line ends: refused as too long, or dispatched. -/

theorem endLine_of_overflow {t : CliTask} (h : t.overflow = true) (size : ℕ) (room : Bool) :
    t.endLine size room
      = ({ buffer := t.buffer, index := 0, overflow := false },
          [.println [], .println (ascii "[CLI] ERROR: command too long"),
            .print (ascii "\r\ndiag> ")]) := by
  rw [endLine, h]
  rfl

theorem endLine_of_line {t : CliTask} (h : t.overflow = false) (size : ℕ) (room : Bool) :
    let buffer := Function.update t.buffer t.index 0
    let line := CString.ofBytes (readBytes buffer size)
    t.endLine size room
      = ({ buffer := buffer, index := 0, overflow := false },
          .println [] :: (.parse line :: execute line room) ++ [.print (ascii "\r\ndiag> ")]) := by
  intro buffer line
  rw [endLine, h]
  rfl

/-- What the task holds of the line typed so far. -/
structure Holds (size : ℕ) (memory : ℕ → UInt8) (t : CliTask) (l : TypedLine) : Prop where
  overflow : t.overflow = l.overran
  index_le : t.index ≤ size - 1
  text : l.overran = false → readBytes t.buffer t.index = l.text
  zero_not_mem : 0 ∉ l.text
  frame : ∀ i, size ≤ i → t.buffer i = memory i

variable {size : ℕ} {memory : ℕ → UInt8} {t : CliTask} {l : TypedLine}

theorem holds_start (size : ℕ) (memory : ℕ → UInt8) :
    Holds size memory (start size memory) .blank where
  overflow := rfl
  index_le := Nat.zero_le _
  text := fun _ => rfl
  zero_not_mem := by simp [TypedLine.blank]
  frame := by
    intro i hi
    show (if i < size then 0 else memory i) = memory i
    rw [if_neg (by omega)]

namespace Holds

theorem index_eq (h : Holds size memory t l) (hl : l.overran = false) :
    t.index = l.text.length := by
  rw [← h.text hl, length_readBytes]

/-- Only a CR or LF on an empty line is skipped. -/
theorem blank_iff (h : Holds size memory t l) :
    t.index = 0 ∧ t.overflow = false ↔ l.overran = false ∧ l.text = [] := by
  rw [h.overflow, and_comm]
  refine and_congr_right ?_
  intro hl
  rw [h.index_eq hl, List.length_eq_zero_iff]

/-- The parser sees the whole line. -/
theorem ofBytes_line (h : Holds size memory t l) (hl : l.overran = false) (hpos : t.index > 0) :
    CString.ofBytes (readBytes (Function.update t.buffer t.index 0) size)
      = ⟨l.text, h.zero_not_mem⟩ := by
  have hsize := h.index_le
  have hindex := h.index_eq hl
  apply ofBytes_readBytes
  · intro i hi
    dsimp only at hi ⊢
    rw [← h.text hl]
    rcases Nat.lt_or_eq_of_le hi with hlt | rfl
    · rw [Function.update_of_ne (by omega), List.getD_eq_getElem _ _ (by simp; omega)]
      simp [readBytes]
    · rw [← hindex, Function.update_self, List.getD_eq_default _ _ (by simp)]
  · dsimp only
    omega

/-- The line is empty again. -/
theorem after_end (h : Holds size memory t l) (hline : ¬ (t.index = 0 ∧ t.overflow = false))
    (room : Bool) : Holds size memory (t.endLine size room).1 .blank where
  overflow := rfl
  index_le := Nat.zero_le _
  text := fun _ => rfl
  zero_not_mem := List.not_mem_nil
  frame := by
    intro i hi
    have hsize := h.index_le
    cases hover : t.overflow with
    | true =>
      rw [endLine_of_overflow hover]
      exact h.frame i hi
    | false =>
      rw [endLine_of_line hover]
      -- the terminator is written behind a character, so inside the array
      have hpos : t.index ≠ 0 := fun hzero => hline ⟨hzero, hover⟩
      show Function.update t.buffer t.index 0 i = memory i
      rw [Function.update_of_ne (by omega)]
      exact h.frame i hi

/-- A byte that changes no character changes nothing. -/
theorem after_ignored (h : Holds size memory t l) {b : UInt8} (hb : isPrintable b = false)
    (herase : isErase b = false ∨ t.index = 0) :
    Holds size memory t (l.edit (size - 1) b) where
  overflow := by simp [TypedLine.edit, hb, h.overflow]
  index_le := h.index_le
  text := by
    intro hl
    have hl' := TypedLine.overran_of_edit _ hl
    have hsame : editLine l.text b = l.text := by
      rcases herase with herase | hzero
      · simp [editLine, hb, herase]
      · have hnil : l.text = [] := by rw [← h.text hl', hzero]; rfl
        simp [editLine, hb, hnil]
    rw [TypedLine.edit, hsame]
    exact h.text hl'
  zero_not_mem := zero_not_mem_editLine h.zero_not_mem b
  frame := h.frame

/-! The rest of the loop: what each class of bytes does to the line that is kept. -/

theorem after_erase (h : Holds size memory t l) (hpos : t.index > 0) {b : UInt8}
    (hb : isPrintable b = false) (herase : isErase b = true) :
    Holds size memory { t with index := t.index - 1 } (l.edit (size - 1) b) where
  overflow := by simp [TypedLine.edit, hb, h.overflow]
  index_le := (Nat.sub_le t.index 1).trans h.index_le
  text := by
    intro hl
    have hl' := TypedLine.overran_of_edit _ hl
    have hshort : (l.edit (size - 1) b).text = l.text.dropLast := by
      simp [TypedLine.edit, editLine, hb, herase]
    obtain ⟨n, hn⟩ : ∃ n, t.index = n + 1 := ⟨t.index - 1, by omega⟩
    rw [hshort, ← h.text hl', hn, readBytes_succ, List.dropLast_concat]
    rfl
  zero_not_mem := zero_not_mem_editLine h.zero_not_mem b
  frame := h.frame

theorem after_append (h : Holds size memory t l) {b : UInt8} (hb : isPrintable b = true)
    (hroom : t.index < size - 1) :
    Holds size memory
      { t with buffer := Function.update t.buffer t.index b, index := t.index + 1 }
      (l.edit (size - 1) b) where
  overflow := by
    cases hl : l.overran with
    | true => simp [TypedLine.edit, h.overflow, hl]
    | false =>
      have hlength := h.index_eq hl
      have hshort : ¬ size - 1 ≤ l.text.length := by omega
      simp [TypedLine.edit, h.overflow, hl, hshort]
  index_le := hroom
  text := by
    intro hl
    have hl' := TypedLine.overran_of_edit _ hl
    have hlong : (l.edit (size - 1) b).text = l.text ++ [b] := by
      simp [TypedLine.edit, editLine, hb]
    have hfront : readBytes (Function.update t.buffer t.index b) t.index
        = readBytes t.buffer t.index :=
      readBytes_congr fun i hi => Function.update_of_ne (by omega) _ _
    rw [hlong, readBytes_succ, hfront, h.text hl']
    show l.text ++ [Function.update t.buffer t.index b t.index] = l.text ++ [b]
    rw [Function.update_self]
  zero_not_mem := zero_not_mem_editLine h.zero_not_mem b
  frame := by
    intro i hi
    show Function.update t.buffer t.index b i = memory i
    rw [Function.update_of_ne (by omega)]
    exact h.frame i hi

theorem after_overrun (h : Holds size memory t l) {b : UInt8} (hb : isPrintable b = true)
    (hfull : ¬ t.index < size - 1) :
    Holds size memory { t with overflow := true } (l.edit (size - 1) b) := by
  have hover : (l.edit (size - 1) b).overran = true := by
    cases hl : l.overran with
    | true => simp [TypedLine.edit, hl]
    | false =>
      have hlength := h.index_eq hl
      have hlong : size - 1 ≤ l.text.length := by omega
      simp [TypedLine.edit, hb, hlong]
  refine ⟨hover.symm, h.index_le, ?_, zero_not_mem_editLine h.zero_not_mem b, h.frame⟩
  intro hl
  rw [hover] at hl
  cases hl

end Holds

/-- A view of the events in which a line shows as `emit` says, and nothing else
shows. -/
structure Shows {κ : Type*} (view : CliEvent → Option κ) (emit : List UInt8 → Option κ) :
    Prop where
  print : ∀ text, view (.print text) = none
  heartbeat : view .heartbeat = none
  execute : ∀ line room,
    (CliEvent.parse line :: execute line room).filterMap view = (emit line.1).toList

section

variable {κ : Type*} {view : CliEvent → Option κ} {emit : List UInt8 → Option κ}

theorem Shows.println (hview : Shows view emit) (text : List UInt8) :
    view (.println text) = none := hview.print _

theorem Holds.shows_end (h : Holds size memory t l) (hview : Shows view emit)
    (hline : ¬ (t.index = 0 ∧ t.overflow = false)) (room : Bool) :
    (t.endLine size room).2.filterMap view = l.answer emit := by
  have hblank : ¬ (l.overran = false ∧ l.text = []) := by rwa [← h.blank_iff]
  cases hl : l.overran with
  | true =>
    rw [endLine_of_overflow (h.overflow.trans hl)]
    simp [hview.println, hview.print, TypedLine.answer, hl]
  | false =>
    have hover : t.overflow = false := h.overflow.trans hl
    have hpos : t.index > 0 := Nat.pos_of_ne_zero fun hzero => hline ⟨hzero, hover⟩
    have htext : l.text.isEmpty = false := by simpa [hl] using hblank
    rw [endLine_of_line hover, h.ofBytes_line hl hpos]
    dsimp only
    rw [List.cons_append, List.filterMap_cons_none (hview.println _), List.filterMap_append,
      hview.execute, List.filterMap_cons_none (hview.print _), List.filterMap_nil, List.append_nil]
    simp [TypedLine.answer, hl, htext]

/-- **One byte.** -/
theorem Holds.readByte (h : Holds size memory t l) (hview : Shows view emit) (charSigned : Bool)
    (b : SerialByte) :
    Holds size memory (t.readByte charSigned size b).1 (l.read (size - 1) emit b.value).1 ∧
      (t.readByte charSigned size b).2.filterMap view = (l.read (size - 1) emit b.value).2 := by
  rw [readByte_eq, TypedLine.read]
  cases hend : isLineEnd b.value with
  | true =>
    simp only [if_true]
    split
    · rename_i hskip
      obtain ⟨hl, htext⟩ := h.blank_iff.mp hskip
      have hanswer : l.answer emit = [] := by simp [TypedLine.answer, htext]
      have hblank : l = .blank := by
        cases l
        simp_all [TypedLine.blank]
      rw [hanswer]
      exact ⟨hblank ▸ h, rfl⟩
    · rename_i hline
      exact ⟨h.after_end hline b.room, h.shows_end hview hline b.room⟩
  | false =>
    simp only [Bool.false_eq_true, if_false]
    cases hb : isPrintable b.value with
    | true =>
      have herase : isErase b.value = false := isErase_of_isPrintable b.value hb
      simp only [herase, Bool.false_eq_true, if_false, not_true_eq_false]
      split
      · rename_i hroom
        exact ⟨h.after_append hb hroom, List.filterMap_cons_none (hview.print _)⟩
      · rename_i hfull
        exact ⟨h.after_overrun hb hfull, rfl⟩
    | false =>
      simp only [Bool.false_eq_true, not_false_eq_true, if_true]
      split
      · rename_i herase
        split
        · rename_i hpos
          exact ⟨h.after_erase hpos hb herase, List.filterMap_cons_none (hview.print _)⟩
        · rename_i hzero
          exact ⟨h.after_ignored hb (.inr (by omega)), rfl⟩
      · rename_i herase
        exact ⟨h.after_ignored hb (.inl (by simpa using herase)), rfl⟩

/-- **One wake-up.** -/
theorem Holds.iterate (h : Holds size memory t l) (hview : Shows view emit) (charSigned : Bool)
    (arrived : List SerialByte) :
    let read := Transducer.run (TypedLine.read (size - 1) emit) l (arrived.map SerialByte.value)
    Holds size memory (t.iterate charSigned size arrived).1 read.1 ∧
      (t.iterate charSigned size arrived).2.filterMap view = read.2 := by
  obtain ⟨hholds, hshown⟩ := Transducer.simulation
    (fun t l b (h : Holds size memory t l) => h.readByte hview charSigned b) arrived h
  refine ⟨hholds, ?_⟩
  show (_ ++ [CliEvent.heartbeat]).filterMap view = _
  rw [List.filterMap_append, List.filterMap_cons_none hview.heartbeat, List.filterMap_nil,
    List.append_nil]
  exact hshown

/-- **Every run**, however the bytes arrive. -/
theorem run_shows (hview : Shows view emit) (charSigned : Bool) (size : ℕ) (memory : ℕ → UInt8)
    (wakeUps : List (List SerialByte)) :
    (∃ l, Holds size memory (run charSigned size memory wakeUps).1 l) ∧
      (run charSigned size memory wakeUps).2.filterMap view
        = ((Transducer.pieces isLineEnd (wakeUps.flatten.map SerialByte.value)).filterMap
            (dispatchedLine (size - 1))).filterMap emit := by
  obtain ⟨hholds, hshown⟩ := Transducer.simulation
    (fun t l arrived (h : Holds size memory t l) => h.iterate hview charSigned arrived) wakeUps
    (holds_start size memory)
  refine ⟨⟨_, hholds⟩, ?_⟩
  rw [List.map_flatten, ← TypedLine.run_outputs, ← Transducer.run_flatten]
  exact hshown

end

/-! ## The views -/

theorem shows_parsed : Shows CliEvent.parsed? some where
  print := fun _ => rfl
  heartbeat := rfl
  execute := by
    intro line room
    have hrest : (execute line room).filterMap CliEvent.parsed? = [] := by
      unfold execute
      dsimp only
      split <;> cases room <;> rfl
    show line.1 :: (execute line room).filterMap CliEvent.parsed? = [line.1]
    rw [hrest]

theorem diagnosticsParseCommand_reset {line : CString} (h : line.1 = ascii "reset") :
    diagnosticsParseCommand line = .reset := by
  rw [diagnosticsParseCommand, h]
  decide

theorem diagnosticsParseCommand_ack {line : CString} (h : line.1 = ascii "ack") :
    diagnosticsParseCommand line = .ack := by
  rw [diagnosticsParseCommand, h]
  decide

theorem shows_requested : Shows CliEvent.requested? requestOf where
  print := fun _ => rfl
  heartbeat := rfl
  execute := by
    intro line room
    rw [List.filterMap_cons_none rfl]
    unfold execute requestOf
    by_cases hreset : line.1 = ascii "reset"
    · rw [diagnosticsParseCommand_reset hreset, if_pos hreset]
      cases room <;> rfl
    by_cases hack : line.1 = ascii "ack"
    · rw [diagnosticsParseCommand_ack hack, if_neg hreset, if_pos hack]
      cases room <;> rfl
    rw [if_neg hreset, if_neg hack, diagnosticsParseCommand, if_neg hreset, if_neg hack]
    split_ifs <;> rfl

/-- **The typed line is what is dispatched**, for every stream and every way it
is split over wake-ups: `diagnosticsParseCommand` is called with the lines of the
pieces, in order; RESET and ACK are requested for the lines `reset` and `ack`;
the index stays in the array and no byte outside it is written; and it does not
matter whether `char` is signed. -/
theorem dispatches_typed_lines (charSigned : Bool) (size : ℕ) (memory : ℕ → UInt8)
    (wakeUps : List (List SerialByte)) :
    let stream := wakeUps.flatten.map SerialByte.value
    let lines := (Transducer.pieces isLineEnd stream).filterMap (dispatchedLine (size - 1))
    let (task, events) := run charSigned size memory wakeUps
    events.filterMap CliEvent.parsed? = lines ∧
      events.filterMap CliEvent.requested? = lines.filterMap requestOf ∧
      task.index ≤ size - 1 ∧
      (∀ i, size ≤ i → task.buffer i = memory i) ∧
      run (!charSigned) size memory wakeUps = (task, events) := by
  obtain ⟨⟨l, hholds⟩, hparsed⟩ := run_shows shows_parsed charSigned size memory wakeUps
  have hrequested := (run_shows shows_requested charSigned size memory wakeUps).2
  rw [List.filterMap_some] at hparsed
  refine ⟨hparsed, hrequested, hholds.index_le, hholds.frame, ?_⟩
  unfold run iterate
  rw [readByte_charSigned charSigned]

end CliTask

end EnergyController
