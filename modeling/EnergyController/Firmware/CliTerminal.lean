/-
EnergyController.Firmware.CliTerminal — what an operator sees of `cliTask`
(`src/main.cpp`), on a terminal that shows what arrives on the serial line.

The task echoes a byte it takes, rubs out the one it removes, and is silent
about the bytes it ignores. `shown_is_executed` says that with this the row of
the cursor reads the prompt and exactly the line that the next CR or LF would
hand to the parser. The other tasks print on the same line: what they have put
there by the time of the latest prompt makes no difference, what they put there
after it is not covered.
-/
import EnergyController.Firmware.CliTaskTheorems
import EnergyController.Lib.Terminal

namespace EnergyController

/-- What an event puts on the serial line; `report` are the texts of the
`diagnosticsPrint...` functions. -/
def CliEvent.shown (report : CommandType → List UInt8) : CliEvent → List UInt8
  | .print text => text
  | .report type => report type
  | .parse _ => []
  | .request _ _ => []
  | .heartbeat => []

namespace CliTask

def prompt : CliEvent := .print (ascii "\r\ndiag> ")

/-- What the task prints before it reads the first byte. -/
def opening : List CliEvent := [.report .help, prompt]

/-- A terminal after events of the task. -/
def screen {τ : Type*} (T : Terminal τ) (report : CommandType → List UInt8) (before : τ)
    (events : List CliEvent) : τ := T.print before (events.flatMap (CliEvent.shown report))

/-- The line in the buffer. -/
def line (t : CliTask) : List UInt8 := readBytes t.buffer t.index

/-- From the latest prompt on, with nothing else printed since, the row of the
cursor is the prompt and the line, whatever the terminal showed before. -/
structure Mirrored {τ : Type*} (T : Terminal τ) (report : CommandType → List UInt8) (size : ℕ)
    (t : CliTask) (events : List CliEvent) : Prop where
  index : t.index ≤ size - 1
  shows : ∃ earlier since, events = earlier ++ prompt :: since ∧ prompt ∉ since ∧
    ∀ before, T.Shows (screen T report before (prompt :: since)) (ascii "diag> " ++ t.line)

variable {τ : Type*} {T : Terminal τ} {width : ℕ} {report : CommandType → List UInt8}
  {size : ℕ} {t : CliTask} {events : List CliEvent}

theorem screen_append (T : Terminal τ) (report : CommandType → List UInt8) (before : τ)
    (first second : List CliEvent) :
    screen T report before (first ++ second)
      = screen T report (screen T report before first) second := by
  rw [screen, screen, screen, List.flatMap_append, Terminal.print_append]

/-- An echo is no prompt: its text does not begin with CR. -/
theorem ne_prompt {c : UInt8} (hc : c ≠ 13) (text : List UInt8) :
    CliEvent.print (c :: text) ≠ prompt := by
  intro heq
  have hbytes : c :: text = ascii "\r\ndiag> " := CliEvent.print.inj heq
  exact hc (List.cons.inj hbytes).1

/-- The prompt starts a row of its own, whatever was printed before. -/
theorem shows_prompt (hT : T.Lawful width) (hwidth : 6 < width)
    (report : CommandType → List UInt8) (before : τ) :
    T.Shows (screen T report before [prompt]) (ascii "diag> ") := by
  have hprintable : ∀ c ∈ ascii "diag> ", 32 ≤ c ∧ c < 127 := by decide +kernel
  have hprompt : screen T report before [prompt]
      = T.print (T.print before [13, 10]) (ascii "diag> ") := by
    rw [← Terminal.print_append]
    rfl
  rw [hprompt]
  exact (hT.shows_newline before).print hT hprintable hwidth

/-- A prompt, with an empty line behind it. -/
theorem mirrored_prompt (hT : T.Lawful width) (hwidth : 6 < width) (hline : t.index = 0)
    (earlier : List CliEvent) : Mirrored T report size t (earlier ++ [prompt]) where
  index := by omega
  shows := by
    refine ⟨earlier, [], rfl, List.not_mem_nil, fun before => ?_⟩
    rw [line, hline]
    exact shows_prompt hT hwidth report before

/-- The task has printed something else than a prompt, and the line is as shown. -/
theorem Mirrored.extend (h : Mirrored T report size t events) {t' : CliTask} {e : CliEvent}
    (he : e ≠ prompt) (hindex : t'.index ≤ size - 1)
    (hshows : ∀ s, T.Shows s (ascii "diag> " ++ t.line) →
      T.Shows (T.print s (e.shown report)) (ascii "diag> " ++ t'.line)) :
    Mirrored T report size t' (events ++ [e]) where
  index := hindex
  shows := by
    obtain ⟨earlier, since, rfl, hlatest, hline⟩ := h.shows
    refine ⟨earlier, since ++ [e], by simp, ?_, fun before => ?_⟩
    · simpa [hlatest] using he.symm
    · rw [← List.cons_append, screen_append]
      simpa [screen] using hshows _ (hline before)

theorem Mirrored.readByte (h : Mirrored T report size t events) (hT : T.Lawful width)
    (hwidth : 6 + size < width) (charSigned : Bool) (b : SerialByte) :
    Mirrored T report size (t.readByte charSigned size b).1
      (events ++ (t.readByte charSigned size b).2) := by
  have hprompt : (ascii "diag> ").length = 6 := rfl
  have hlength : (ascii "diag> " ++ t.line).length = 6 + t.index := by
    rw [List.length_append, hprompt, line, length_readBytes]
  have hindex := h.index
  have hquiet : Mirrored T report size t (events ++ []) := by rwa [List.append_nil]
  rw [readByte_eq]
  split
  · split
    · exact hquiet
    · -- the end of a line prints a new prompt, and empties the line
      obtain ⟨first, hfirst⟩ : ∃ first, (t.endLine size b.room).2 = first ++ [prompt] := ⟨_, rfl⟩
      rw [hfirst, ← List.append_assoc]
      exact mirrored_prompt hT (by omega) rfl _
  · split
    · split
      · -- the last byte of the line is rubbed out
        rename_i hpos
        obtain ⟨n, hn⟩ : ∃ n, t.index = n + 1 := ⟨t.index - 1, by omega⟩
        refine h.extend (ne_prompt (by decide) _) (by dsimp only; omega) fun s hs => ?_
        have hline : t.line = readBytes t.buffer n ++ [t.buffer n] := by
          rw [line, hn, readBytes_succ]
        rw [hline, ← List.append_assoc] at hs hlength
        rw [List.length_append, List.length_singleton] at hlength
        simpa [line, hn, CliEvent.shown] using hs.erase hT (by omega)
      · exact hquiet
    · split
      · exact hquiet
      · rename_i hprintable
        split
        · -- the byte is echoed
          rename_i hroom
          obtain ⟨hlow, hhigh⟩ := Bool.and_eq_true_iff.mp (not_not.mp hprintable)
          have hhigh : b.value < 127 := by
            have := of_decide_eq_true hhigh
            rw [UInt8.le_iff_toNat_le] at this
            exact UInt8.lt_iff_toNat_lt.mpr (Nat.lt_succ_of_le this)
          have hc : b.value ≠ 13 := by
            intro heq
            rw [heq] at hlow
            exact absurd hlow (by decide)
          refine h.extend (ne_prompt hc []) (by dsimp only; omega) fun s hs => ?_
          have hkept : readBytes (Function.update t.buffer t.index b.value) t.index = t.line := by
            refine readBytes_congr fun i hi => ?_
            rw [Function.update_of_ne (by omega)]
          have hline : readBytes (Function.update t.buffer t.index b.value) (t.index + 1)
              = t.line ++ [b.value] := by
            rw [readBytes_succ, hkept, Function.update_self]
          show T.Shows (T.print s [b.value]) (_ ++ readBytes _ _)
          rw [hline, ← List.append_assoc]
          exact hs.write hT (of_decide_eq_true hlow) hhigh (by omega)
        · exact ⟨h.index, hquiet.shows⟩

theorem Mirrored.iterate (h : Mirrored T report size t events) (hT : T.Lawful width)
    (hwidth : 6 + size < width) (charSigned : Bool) (arrived : List SerialByte) :
    Mirrored T report size (t.iterate charSigned size arrived).1
      (events ++ (t.iterate charSigned size arrived).2) := by
  have hread := Transducer.run_invariant
    (fun t events b (h : Mirrored T report size t events) => h.readByte hT hwidth charSigned b)
    arrived h
  show Mirrored T report size _ (events ++ (_ ++ [CliEvent.heartbeat]))
  rw [← List.append_assoc]
  exact hread.extend nofun hread.index fun s hs => hs

theorem mirrored_run (hT : T.Lawful width) (report : CommandType → List UInt8)
    (charSigned : Bool) (hwidth : 6 + size < width) (memory : ℕ → UInt8)
    (wakeUps : List (List SerialByte)) :
    Mirrored T report size (run charSigned size memory wakeUps).1
      (opening ++ (run charSigned size memory wakeUps).2) := by
  refine Transducer.run_invariant
    (fun t events arrived (h : Mirrored T report size t events) =>
      h.iterate hT hwidth charSigned arrived) wakeUps ?_
  exact mirrored_prompt hT (by omega) rfl [.report .help]

/-- What the end of a line hands to the parser. -/
theorem Holds.parsed {size : ℕ} {memory : ℕ → UInt8} {l : TypedLine} (h : Holds size memory t l)
    (charSigned : Bool) {b : SerialByte} (hb : isLineEnd b.value = true) :
    (t.readByte charSigned size b).2.filterMap CliEvent.parsed?
      = if t.overflow = true ∨ t.line = [] then [] else [t.line] := by
  have hempty : t.line = [] ↔ t.index = 0 := by
    rw [← List.length_eq_zero_iff, line, length_readBytes]
  rw [(h.readByte shows_parsed charSigned b).2, TypedLine.read, if_pos hb]
  show l.answer some = _
  rw [TypedLine.answer, h.overflow]
  cases hl : l.overran with
  | true => simp
  | false => simp [line, h.text hl]

/-- **What is shown is what is executed.** Whatever has been typed, and however
it arrived, and on every terminal whose rows hold the prompt and a full line:
from the latest prompt on, if nothing else is printed after it, the row of the
cursor reads the prompt and the line in the buffer, whatever the tasks had put on
the terminal before; and a CR or LF hands the parser exactly that line, unless it
is empty or more has been typed than fits. -/
theorem shown_is_executed (T : Terminal τ) (width : ℕ) (hT : T.Lawful width)
    (report : CommandType → List UInt8) (charSigned : Bool) (size : ℕ)
    (hwidth : 6 + size < width) (memory : ℕ → UInt8) (wakeUps : List (List SerialByte)) :
    let (t, events) := run charSigned size memory wakeUps
    (∃ earlier since, opening ++ events = earlier ++ prompt :: since ∧ prompt ∉ since ∧
        ∀ before, T.Shows (screen T report before (prompt :: since)) (ascii "diag> " ++ t.line)) ∧
      ∀ b, isLineEnd b.value = true →
        (t.readByte charSigned size b).2.filterMap CliEvent.parsed?
          = if t.overflow = true ∨ t.line = [] then [] else [t.line] := by
  obtain ⟨l, hl⟩ := (run_shows shows_parsed charSigned size memory wakeUps).1
  exact ⟨(mirrored_run hT report charSigned hwidth memory wakeUps).shows,
    fun b hb => hl.parsed charSigned hb⟩

/-- The row and the column of a terminal with 80 columns, where what is printed
in the last one stays in it. -/
def terminal80 : Terminal ((ℕ → UInt8) × ℕ) where
  write := fun (row, column) c =>
    if c = 13 then (row, 0)
    else if c = 10 then (fun _ => Terminal.blank, column)
    else if c = 8 then (row, column - 1)
    else if c < 32 ∨ 127 ≤ c then (row, column)
    else (Function.update row column c, min (column + 1) 79)
  row := fun t => t.1
  column := fun t => t.2

theorem lawful_terminal80 : terminal80.Lawful 80 where
  carriageReturn _ := ⟨rfl, rfl⟩
  lineFeed _ := ⟨rfl, rfl⟩
  backspace _ := ⟨rfl, rfl⟩
  printable := by
    rintro ⟨row, column⟩ c hlow hhigh hroom
    have hcontrol : ∀ d : UInt8, d < 32 → c ≠ d := by
      rintro d hd rfl
      exact absurd hlow (UInt8.not_le.mpr hd)
    have hshown : ¬ (c < 32 ∨ 127 ≤ c) := by
      rintro (h | h)
      · exact absurd hlow (UInt8.not_le.mpr h)
      · exact absurd hhigh (UInt8.not_lt.mpr h)
    have hwrite : terminal80.write (row, column) c
        = (Function.update row column c, min (column + 1) 79) := by
      simp only [terminal80]
      rw [if_neg (hcontrol 13 (by decide)), if_neg (hcontrol 10 (by decide)),
        if_neg (hcontrol 8 (by decide)), if_neg hshown]
    rw [hwrite]
    exact ⟨Nat.min_eq_left (Nat.le_of_lt_succ hroom), rfl⟩

/-- `rx`, BS and `eset` are typed, over two wake-ups, on a terminal that another
task has written to: the row reads `diag> reset`, and CR executes it. -/
theorem shown_is_executed_corrected :
    let typed : List UInt8 → List SerialByte := List.map fun c => ⟨c, true⟩
    let (t, events) := run true 64 (fun _ => 7) [typed (ascii "rx"), typed (8 :: ascii "eset")]
    (∃ earlier since, opening ++ events = earlier ++ prompt :: since ∧ prompt ∉ since ∧
        terminal80.Shows (screen terminal80 (fun _ => ascii "...") (fun _ => 42, 17)
          (prompt :: since)) (ascii "diag> reset")) ∧
      (t.readByte true 64 ⟨13, true⟩).2.filterMap CliEvent.parsed? = [ascii "reset"] := by
  intro typed
  have h := shown_is_executed terminal80 80 lawful_terminal80 (fun _ => ascii "...") true 64
    (by decide) (fun _ => 7) [typed (ascii "rx"), typed (8 :: ascii "eset")]
  obtain ⟨⟨earlier, since, hsplit, hlatest, hshows⟩, hparsed⟩ := h
  refine ⟨⟨earlier, since, hsplit, hlatest, ?_⟩, ?_⟩
  · exact hshows (fun _ => 42, 17)
  · exact (hparsed ⟨13, true⟩ rfl).trans (by decide +kernel)

end CliTask

end EnergyController
