/-
EnergyController.Lib.Json — JSON text over bytes: a parser, and the text of a
flat object.

`parse` accepts one JSON value with nothing after it but white space. Inside a
string a byte below 32 must be escaped, and a byte of 128 or more stands for
itself. Numbers are read as exact rationals, objects as their members in order,
so that a repeated key shows.

A writer is connected to it by `Written t v`: wherever a value may end, reading
`t` there gives `v`. `parse_objectText` assembles an object from such members.
-/
import EnergyController.Lib.Decimal

inductive Json where
  | null
  | bool (b : Bool)
  | number (q : ℚ)
  | string (s : List UInt8)
  | array (elements : List Json)
  | object (members : List (List UInt8 × Json))

namespace Json

/-! ## White space and punctuation -/

def isSpace (c : UInt8) : Bool := c == 32 || c == 9 || c == 10 || c == 13

def skipSpace (t : List UInt8) : List UInt8 := t.dropWhile isSpace

/-- What follows the byte `c`, white space before it skipped. -/
def expect (c : UInt8) (t : List UInt8) : Option (List UInt8) :=
  match skipSpace t with
  | [] => none
  | c' :: t => if c' = c then some t else none

/-! ## Strings -/

def hexValue (c : UInt8) : Option ℕ :=
  if 48 ≤ c && c ≤ 57 then some (c.toNat - 48)
  else if 97 ≤ c && c ≤ 102 then some (c.toNat - 87)
  else if 65 ≤ c && c ≤ 70 then some (c.toNat - 55)
  else none

def readHex4 (a b c d : UInt8) : Option ℕ := do
  let a ← hexValue a
  let b ← hexValue b
  let c ← hexValue c
  let d ← hexValue d
  return ((a * 16 + b) * 16 + c) * 16 + d

/-- A code unit in UTF-8; a surrogate is taken on its own. -/
def utf8 (n : ℕ) : List UInt8 :=
  if n < 0x80 then [.ofNat n]
  else if n < 0x800 then [.ofNat (0xC0 + n / 64), .ofNat (0x80 + n % 64)]
  else [.ofNat (0xE0 + n / 4096), .ofNat (0x80 + n / 64 % 64), .ofNat (0x80 + n % 64)]

/-- The escapes of one letter. -/
def unescape (c : UInt8) : Option UInt8 :=
  if c = '"'.toUInt8 ∨ c = '\\'.toUInt8 ∨ c = '/'.toUInt8 then some c
  else if c = 'b'.toUInt8 then some 8
  else if c = 'f'.toUInt8 then some 12
  else if c = 'n'.toUInt8 then some 10
  else if c = 'r'.toUInt8 then some 13
  else if c = 't'.toUInt8 then some 9
  else none

/-- More string in front. -/
def prepend (s : List UInt8) (r : Option (List UInt8 × List UInt8)) :
    Option (List UInt8 × List UInt8) :=
  r.map fun (s', rest) => (s ++ s', rest)

/-- The string up to its closing quote, and what follows. -/
def readString : List UInt8 → Option (List UInt8 × List UInt8)
  | [] => none
  | c :: t =>
    if c = '"'.toUInt8 then some ([], t)
    else if c = '\\'.toUInt8 then
      match t with
      | [] => none
      | e :: t =>
        if e = 'u'.toUInt8 then
          match t with
          | a :: b :: c :: d :: t =>
            (readHex4 a b c d).bind fun n => prepend (utf8 n) (readString t)
          | _ => none
        else (unescape e).bind fun c => prepend [c] (readString t)
    else if c < 32 then none
    else prepend [c] (readString t)

/-! ## Numbers -/

def readSign (t : List UInt8) : Bool × List UInt8 :=
  match t with
  | c :: u => if c = '-'.toUInt8 then (true, u) else (false, t)
  | [] => (false, [])

/-- A run of digits without a leading zero. -/
def readInteger (t : List UInt8) : Option (ℕ × List UInt8) :=
  match t.takeWhile Decimal.isDigit with
  | [] => none
  | c :: ds =>
    if c = '0'.toUInt8 ∧ ds ≠ [] then none
    else some (Decimal.digitsValue (c :: ds), t.dropWhile Decimal.isDigit)

def readFraction (t : List UInt8) : Option (ℚ × List UInt8) :=
  match t with
  | [] => some (0, [])
  | c :: u =>
    if c = '.'.toUInt8 then
      let ds := u.takeWhile Decimal.isDigit
      if ds = [] then none
      else some (Decimal.digitsValue ds / 10 ^ ds.length, u.dropWhile Decimal.isDigit)
    else some (0, t)

def readExponent (t : List UInt8) : Option (ℤ × List UInt8) :=
  match t with
  | [] => some (0, [])
  | c :: u =>
    if c = 'e'.toUInt8 ∨ c = 'E'.toUInt8 then
      let (neg, u) :=
        match u with
        | c :: v => if c = '+'.toUInt8 then (false, v) else readSign u
        | [] => (false, [])
      let ds := u.takeWhile Decimal.isDigit
      if ds = [] then none
      else
        let n : ℤ := Decimal.digitsValue ds
        some (if neg then -n else n, u.dropWhile Decimal.isDigit)
    else some (0, t)

def readNumber (t : List UInt8) : Option (ℚ × List UInt8) := do
  let (neg, t) := readSign t
  let (n, t) ← readInteger t
  let (f, t) ← readFraction t
  let (e, t) ← readExponent t
  let q : ℚ := (n + f) * 10 ^ e
  return (if neg then -q else q, t)

/-! ## Values -/

def readWord (word : List UInt8) (v : Json) (t : List UInt8) : Option (Json × List UInt8) :=
  if word <+: t then some (v, t.drop word.length) else none

mutual

/-- A value, at most `fuel` deep. -/
def readValue : ℕ → List UInt8 → Option (Json × List UInt8)
  | 0, _ => none
  | fuel + 1, t =>
    match skipSpace t with
    | [] => none
    | c :: t =>
      if c = '\x7b'.toUInt8 then
        match expect '\x7d'.toUInt8 t with
        | some rest => some (.object [], rest)
        | none => (readMembers fuel t).map fun (ms, rest) => (.object ms, rest)
      else if c = '['.toUInt8 then
        match expect ']'.toUInt8 t with
        | some rest => some (.array [], rest)
        | none => (readElements fuel t).map fun (vs, rest) => (.array vs, rest)
      else if c = '"'.toUInt8 then (readString t).map fun (s, rest) => (.string s, rest)
      else
        readWord (ascii "null") .null (c :: t) <|> readWord (ascii "true") (.bool true) (c :: t) <|>
          readWord (ascii "false") (.bool false) (c :: t) <|>
            (readNumber (c :: t)).map fun (q, rest) => (.number q, rest)

/-- The members up to the closing brace. -/
def readMembers : ℕ → List UInt8 → Option (List (List UInt8 × Json) × List UInt8)
  | 0, _ => none
  | fuel + 1, t => do
    let t ← expect '"'.toUInt8 t
    let (k, t) ← readString t
    let t ← expect ':'.toUInt8 t
    let (v, t) ← readValue fuel t
    match expect ','.toUInt8 t with
    | some t => (readMembers fuel t).map fun (ms, rest) => ((k, v) :: ms, rest)
    | none => (expect '\x7d'.toUInt8 t).map fun rest => ([(k, v)], rest)

/-- The elements up to the closing bracket. -/
def readElements : ℕ → List UInt8 → Option (List Json × List UInt8)
  | 0, _ => none
  | fuel + 1, t => do
    let (v, t) ← readValue fuel t
    match expect ','.toUInt8 t with
    | some t => (readElements fuel t).map fun (vs, rest) => (v :: vs, rest)
    | none => (expect ']'.toUInt8 t).map fun rest => ([v], rest)

end

/-- The value of a text that is one JSON value. Every level takes at least one
byte. -/
def parse (t : List UInt8) : Option Json :=
  match readValue (t.length + 1) t with
  | some (v, rest) => if skipSpace rest = [] then some v else none
  | none => none

/-! ## What a writer writes -/

/-- The byte after a value in an object: a comma or the closing brace. -/
def Follows (rest : List UInt8) : Prop :=
  ∃ c t, rest = c :: t ∧ (c = ','.toUInt8 ∨ c = '\x7d'.toUInt8)

/-- Reading the text `t` where a value may end gives `v`. -/
def Written (t : List UInt8) (v : Json) : Prop :=
  ∀ fuel rest, Follows rest → readValue (fuel + 1) (t ++ rest) = some (v, rest)

/-! ### Strings -/

/-- A byte inside a string: quotes and backslashes behind a backslash, control
characters by their code. -/
def escape (c : UInt8) : List UInt8 :=
  if c = '"'.toUInt8 ∨ c = '\\'.toUInt8 then ['\\'.toUInt8, c]
  else if c < 32 then ascii "\\u" ++ Decimal.hexPlaces 4 c.toNat
  else [c]

def quoted (s : List UInt8) : List UInt8 :=
  '"'.toUInt8 :: (s.flatMap escape ++ ['"'.toUInt8])

/-! ### Reading a string back, byte by byte -/

theorem readString_quote (t : List UInt8) : readString ('"'.toUInt8 :: t) = some ([], t) := by
  rw [readString.eq_def]
  exact if_pos rfl

theorem readString_plain {c : UInt8} (hquote : c ≠ '"'.toUInt8) (hslash : c ≠ '\\'.toUInt8)
    (hcontrol : ¬ c < 32) (t : List UInt8) :
    readString (c :: t) = prepend [c] (readString t) := by
  rw [readString.eq_def]
  dsimp only
  rw [if_neg hquote, if_neg hslash, if_neg hcontrol]

/-- A backslash and a letter other than `u`. -/
theorem readString_letter {e : UInt8} (he : e ≠ 'u'.toUInt8) (t : List UInt8) :
    readString ('\\'.toUInt8 :: e :: t)
      = (unescape e).bind fun c => prepend [c] (readString t) := by
  rw [readString.eq_def]
  dsimp only
  rw [if_neg (by decide), if_pos rfl, if_neg he]

theorem readString_unicode (a b c d : UInt8) (t : List UInt8) :
    readString ('\\'.toUInt8 :: 'u'.toUInt8 :: a :: b :: c :: d :: t)
      = (readHex4 a b c d).bind fun n => prepend (utf8 n) (readString t) := by
  rw [readString.eq_def]
  dsimp only
  rw [if_neg (by decide), if_pos rfl, if_pos rfl]

/-- The escapes that are written have four digits, of a control byte. -/
theorem readHex4_hexPlaces {n : ℕ} (h : n < 32) : ∃ a b c d,
    Decimal.hexPlaces 4 n = [a, b, c, d] ∧ readHex4 a b c d = some n := by
  refine ⟨_, _, _, _, rfl, ?_⟩
  revert n
  decide

theorem utf8_control {c : UInt8} (h : c.toNat < 32) : utf8 c.toNat = [c] := by
  unfold utf8
  rw [if_pos (by omega), UInt8.ofNat_toNat]

/-- **An escaped byte is read as the byte**. The cases are those of `escape`: the quote and
the backslash after a backslash, a control byte by its code, the rest as they are. -/
theorem readString_escape (c : UInt8) (t : List UInt8) :
    readString (escape c ++ t) = prepend [c] (readString t) := by
  unfold escape
  split
  · rename_i hc
    rw [List.cons_append, List.singleton_append]
    rcases hc with rfl | rfl
    · rw [readString_letter (by decide)]
      rfl
    · rw [readString_letter (by decide)]
      rfl
  rename_i hplain
  rw [not_or] at hplain
  split
  · rename_i hcontrol
    have hlt : c.toNat < 32 := UInt8.lt_iff_toNat_lt.mp hcontrol
    obtain ⟨a, b, c', d, hplaces, hread⟩ := readHex4_hexPlaces hlt
    rw [hplaces]
    show readString ('\\'.toUInt8 :: 'u'.toUInt8 :: a :: b :: c' :: d :: t) = _
    rw [readString_unicode, hread, Option.bind_some, utf8_control hlt]
  · rename_i hcontrol
    exact readString_plain hplain.1 hplain.2 hcontrol t

/-- By induction over the text, up to the quote that ends it. -/
theorem readString_escaped (s rest : List UInt8) :
    readString (s.flatMap escape ++ '"'.toUInt8 :: rest) = some (s, rest) := by
  induction s with
  | nil => exact readString_quote rest
  | cons c s ih =>
    rw [List.flatMap_cons, List.append_assoc, readString_escape, ih]
    rfl

theorem written_quoted (s : List UInt8) : Written (quoted s) (.string s) := by
  intro fuel rest _
  unfold quoted
  rw [List.cons_append, List.append_assoc, List.singleton_append, readValue]
  show (readString _).map _ = _
  rw [readString_escaped]
  rfl

/-! ### Words -/

theorem written_true : Written (ascii "true") (.bool true) := by
  intro fuel rest _
  rfl

theorem written_false : Written (ascii "false") (.bool false) := by
  intro fuel rest _
  rfl

theorem written_bool (b : Bool) : Written (ascii (if b then "true" else "false")) (.bool b) := by
  cases b with
  | true => exact written_true
  | false => exact written_false

/-! ### Numbers -/

/-- No digit comes next. -/
def Stops (rest : List UInt8) : Prop :=
  rest.takeWhile Decimal.isDigit = [] ∧ rest.dropWhile Decimal.isDigit = rest

theorem stops_cons {c : UInt8} (hc : Decimal.isDigit c = false) (t : List UInt8) :
    Stops (c :: t) := by
  constructor
  · rw [List.takeWhile_cons, hc]
    rfl
  · rw [List.dropWhile_cons, hc]
    rfl

theorem Follows.stops {rest : List UInt8} (h : Follows rest) : Stops rest := by
  obtain ⟨c, t, rfl, rfl | rfl⟩ := h
  · exact stops_cons (by decide) t
  · exact stops_cons (by decide) t

/-- No more of a number comes next: the text ends, or a byte that may follow a
value. -/
def Ends (rest : List UInt8) : Prop := rest = [] ∨ Follows rest

theorem Ends.stops {rest : List UInt8} (h : Ends rest) : Stops rest := by
  rcases h with rfl | h
  · exact ⟨rfl, rfl⟩
  · exact h.stops

theorem takeWhile_digits {ds rest : List UInt8} (h : ∀ c ∈ ds, Decimal.isDigit c = true)
    (hrest : Stops rest) : (ds ++ rest).takeWhile Decimal.isDigit = ds := by
  rw [List.takeWhile_append_of_pos h, hrest.1, List.append_nil]

theorem dropWhile_digits {ds rest : List UInt8} (h : ∀ c ∈ ds, Decimal.isDigit c = true)
    (hrest : Stops rest) : (ds ++ rest).dropWhile Decimal.isDigit = rest := by
  rw [List.dropWhile_append_of_pos h, hrest.2]

/-! ### Reading a number back

A number ends where a byte follows that cannot continue it (`Ends`); what the
parts of a number are followed by is less strict (`Stops`). -/

theorem readInteger_natText (n : ℕ) {rest : List UInt8} (h : Stops rest) :
    readInteger (Decimal.natText n ++ rest) = some (n, rest) := by
  have hdigits : ∀ c ∈ Decimal.natText n, Decimal.isDigit c = true :=
    fun c hc => Decimal.isDigit_of_mem_natText hc
  unfold readInteger
  rw [takeWhile_digits hdigits h, dropWhile_digits hdigits h]
  obtain ⟨c, ds, htext, hzero⟩ := Decimal.natText_head n
  rw [htext]
  dsimp only
  rw [if_neg fun hlead => hlead.2 (hzero hlead.1), ← htext, Decimal.digitsValue_natText]

theorem readFraction_places {d : ℕ} (hd : 0 < d) (k : ℕ) {rest : List UInt8} (h : Stops rest) :
    readFraction (ascii "." ++ Decimal.places d k ++ rest)
      = some (((k % 10 ^ d : ℕ) : ℚ) / 10 ^ d, rest) := by
  have hdigits : ∀ c ∈ Decimal.places d k, Decimal.isDigit c = true :=
    fun c hc => Decimal.isDigit_of_mem_places hc
  have hne : Decimal.places d k ≠ [] := by
    intro hnil
    have := congrArg List.length hnil
    rw [Decimal.length_places] at this
    exact absurd this hd.ne'
  show readFraction ('.'.toUInt8 :: (Decimal.places d k ++ rest)) = _
  unfold readFraction
  dsimp only
  rw [if_pos rfl, takeWhile_digits hdigits h, dropWhile_digits hdigits h, if_neg hne,
    Decimal.digitsValue_places, Decimal.length_places]

theorem readFraction_absent {rest : List UInt8} (h : Ends rest) :
    readFraction rest = some (0, rest) := by
  obtain rfl | ⟨c, t, rfl, rfl | rfl⟩ := h
  · rfl
  · rfl
  · rfl

theorem readExponent_absent {rest : List UInt8} (h : Ends rest) :
    readExponent rest = some (0, rest) := by
  obtain rfl | ⟨c, t, rfl, rfl | rfl⟩ := h
  · rfl
  · rfl
  · rfl

/-- A text that starts with a digit has no sign. -/
theorem readSign_natText (n : ℕ) (rest : List UInt8) :
    readSign (Decimal.natText n ++ rest) = (false, Decimal.natText n ++ rest) := by
  obtain ⟨c, ds, htext, -⟩ := Decimal.natText_head n
  have hdigit : Decimal.isDigit c = true := Decimal.isDigit_of_mem_natText (by rw [htext]; simp)
  rw [htext]
  unfold readSign
  dsimp only [List.cons_append]
  rw [if_neg]
  rintro rfl
  exact absurd hdigit (by decide)

/-- A sign is read if there is one. -/
theorem readSign_sign (neg : Bool) (n : ℕ) (rest : List UInt8) :
    readSign (Decimal.sign neg ++ (Decimal.natText n ++ rest))
      = (neg, Decimal.natText n ++ rest) := by
  cases neg with
  | false => exact readSign_natText n rest
  | true => rfl

theorem readNumber_natText (neg : Bool) (n : ℕ) {rest : List UInt8} (h : Ends rest) :
    readNumber (Decimal.sign neg ++ (Decimal.natText n ++ rest))
      = some (if neg then -(n : ℚ) else n, rest) := by
  simp [readNumber, readSign_sign, readInteger_natText n h.stops, readFraction_absent h,
    readExponent_absent h]

/-- A point that no digit follows belongs to no number. -/
theorem readNumber_barePoint (neg : Bool) (n : ℕ) :
    readNumber (Decimal.sign neg ++ (Decimal.natText n ++ ascii ".")) = none := by
  have hint := readInteger_natText n (stops_cons (c := '.'.toUInt8) (by decide) [])
  have hfrac : readFraction (ascii ".") = none := rfl
  simp [readNumber, readSign_sign, show ascii "." = ['.'.toUInt8] from rfl] at hint hfrac ⊢
  simp [hint, hfrac]

theorem readNumber_places {d : ℕ} (hd : 0 < d) (neg : Bool) (k : ℕ) {rest : List UInt8}
    (h : Ends rest) :
    readNumber (Decimal.sign neg ++
        (Decimal.natText (k / 10 ^ d) ++ (ascii "." ++ Decimal.places d k ++ rest)))
      = some (if neg then -((k : ℚ) / 10 ^ d) else (k : ℚ) / 10 ^ d, rest) := by
  have hvalue : ((k / 10 ^ d : ℕ) : ℚ) + ((k % 10 ^ d : ℕ) : ℚ) / 10 ^ d = (k : ℚ) / 10 ^ d := by
    have hsplit : (k : ℚ) = 10 ^ d * (k / 10 ^ d : ℕ) + (k % 10 ^ d : ℕ) := by
      exact_mod_cast (Nat.div_add_mod k (10 ^ d)).symm
    rw [eq_div_iff (by positivity), add_mul, div_mul_cancel₀ _ (by positivity)]
    linarith
  set tail := ascii "." ++ Decimal.places d k ++ rest with htail
  have hint : readInteger (Decimal.natText (k / 10 ^ d) ++ tail) = some (k / 10 ^ d, tail) :=
    readInteger_natText _ (stops_cons (c := '.'.toUInt8) (by decide) _)
  have hfrac : readFraction tail = some (((k % 10 ^ d : ℕ) : ℚ) / 10 ^ d, rest) :=
    readFraction_places hd k h.stops
  simp only [readNumber, readSign_sign, hint, hfrac, readExponent_absent h, Option.bind_eq_bind,
    Option.bind_some, zpow_zero, mul_one, hvalue]
  rfl

/-- Both forms of `Decimal.fixedText`, with and without a sign. -/
theorem readNumber_fixedText {d : ℕ} (hd : 0 < d) (neg : Bool) (k : ℕ) {rest : List UInt8}
    (h : Ends rest) :
    readNumber (Decimal.fixedText d neg k ++ rest)
      = some (if neg then -((k : ℚ) / 10 ^ d) else (k : ℚ) / 10 ^ d, rest) := by
  rw [← readNumber_places hd neg k h]
  unfold Decimal.fixedText Decimal.sign
  simp only [List.append_assoc]

/-- The bytes that a number starts with start nothing else. -/
theorem readValue_number {c : UInt8} (hc : Decimal.isDigit c = true ∨ c = '-'.toUInt8)
    (fuel : ℕ) (t : List UInt8) :
    readValue (fuel + 1) (c :: t)
      = (readNumber (c :: t)).map fun (q, rest) => (.number q, rest) := by
  have hother : isSpace c = false ∧ c ≠ '\x7b'.toUInt8 ∧ c ≠ '['.toUInt8 ∧ c ≠ '"'.toUInt8 ∧
      c ≠ 'n'.toUInt8 ∧ c ≠ 't'.toUInt8 ∧ c ≠ 'f'.toUInt8 := by
    revert c
    apply forall_byte
    decide +kernel
  obtain ⟨hspace, hbrace, hbracket, hquote, hn, ht, hf⟩ := hother
  have hword : ∀ (w : UInt8) (word : List UInt8) (v : Json), c ≠ w →
      readWord (w :: word) v (c :: t) = none := by
    intro w word v hne
    unfold readWord
    rw [if_neg]
    rintro ⟨u, hu⟩
    exact hne (List.cons.inj hu).1.symm
  rw [readValue]
  unfold skipSpace
  rw [List.dropWhile_cons, hspace]
  dsimp only
  rw [if_neg Bool.false_ne_true]
  dsimp only
  rw [if_neg hbrace, if_neg hbracket, if_neg hquote]
  rw [show ascii "null" = 'n'.toUInt8 :: ascii "ull" from rfl,
    show ascii "true" = 't'.toUInt8 :: ascii "rue" from rfl,
    show ascii "false" = 'f'.toUInt8 :: ascii "alse" from rfl, hword _ _ _ hn, hword _ _ _ ht,
    hword _ _ _ hf]
  rfl

theorem written_natText (n : ℕ) : Written (Decimal.natText n) (.number n) := by
  intro fuel rest h
  obtain ⟨c, ds, htext, -⟩ := Decimal.natText_head n
  have hdigit : Decimal.isDigit c = true := Decimal.isDigit_of_mem_natText (by rw [htext]; simp)
  have hnumber : readNumber (Decimal.natText n ++ rest) = some ((n : ℚ), rest) :=
    readNumber_natText false n (.inr h)
  rw [htext, List.cons_append] at hnumber ⊢
  rw [readValue_number (.inl hdigit), hnumber]
  rfl

theorem written_fixedText {d : ℕ} (hd : 0 < d) (neg : Bool) (k : ℕ) :
    Written (Decimal.fixedText d neg k)
      (.number (if neg then -((k : ℚ) / 10 ^ d) else (k : ℚ) / 10 ^ d)) := by
  intro fuel rest h
  have hnumber := readNumber_fixedText hd neg k (.inr h)
  obtain ⟨c, ds, htext, hc⟩ : ∃ c ds, Decimal.fixedText d neg k = c :: ds ∧
      (Decimal.isDigit c = true ∨ c = '-'.toUInt8) := by
    obtain ⟨c, ds, htext, -⟩ := Decimal.natText_head (k / 10 ^ d)
    have hdigit : Decimal.isDigit c = true := Decimal.isDigit_of_mem_natText (by rw [htext]; simp)
    unfold Decimal.fixedText
    cases neg with
    | true => exact ⟨_, _, rfl, .inr rfl⟩
    | false =>
      rw [htext]
      exact ⟨_, _, rfl, .inl hdigit⟩
  rw [htext, List.cons_append] at hnumber ⊢
  rw [readValue_number hc, hnumber]
  rfl

/-! ### Objects -/

/-- A member as a writer sees it: its key, the text of its value, and the
value that the text stands for. -/
structure Member where
  key : List UInt8
  text : List UInt8
  value : Json

def Member.ofString (k : List UInt8) (s : List UInt8) : Member where
  key := k
  text := quoted s
  value := .string s

def Member.ofBool (k : List UInt8) (b : Bool) : Member where
  key := k
  text := ascii (if b then "true" else "false")
  value := .bool b

def Member.ofNat (k : List UInt8) (n : ℕ) : Member where
  key := k
  text := Decimal.natText n
  value := .number n

def Member.written (m : Member) : List UInt8 := quoted m.key ++ ':'.toUInt8 :: m.text

/-- Members separated by commas, in braces. -/
def objectText (m : Member) (ms : List Member) : List UInt8 :=
  '\x7b'.toUInt8 ::
    (m.written ++ ms.flatMap (fun m => ','.toUInt8 :: m.written) ++ ['\x7d'.toUInt8])

theorem expect_cons {c : UInt8} (hc : isSpace c = false) (t : List UInt8) :
    expect c (c :: t) = some t := by
  unfold expect skipSpace
  rw [List.dropWhile_cons, hc]
  rw [if_neg Bool.false_ne_true]
  exact if_pos rfl

theorem expect_ne {c c' : UInt8} (hc : isSpace c' = false) (hne : c' ≠ c) (t : List UInt8) :
    expect c (c' :: t) = none := by
  unfold expect skipSpace
  rw [List.dropWhile_cons, hc]
  rw [if_neg Bool.false_ne_true]
  exact if_neg hne

/-- One member: what its reading leaves to be read. -/
theorem readMembers_written {m : Member} (hm : Written m.text m.value) {rest : List UInt8}
    (h : Follows rest) (fuel : ℕ) :
    readMembers (fuel + 2) (m.written ++ rest) =
      match expect ','.toUInt8 rest with
      | some t => (readMembers (fuel + 1) t).map fun (ms, rest) => ((m.key, m.value) :: ms, rest)
      | none => (expect '\x7d'.toUInt8 rest).map fun rest => ([(m.key, m.value)], rest) := by
  have htext : m.written ++ rest
      = '"'.toUInt8 ::
          (m.key.flatMap escape ++ '"'.toUInt8 :: (':'.toUInt8 :: (m.text ++ rest))) := by
    simp [Member.written, quoted]
  rw [htext, readMembers, expect_cons (by decide)]
  simp only [Option.bind_eq_bind, Option.bind_some, readString_escaped]
  rw [expect_cons (by decide), Option.bind_some, hm fuel rest h, Option.bind_some]

/-- The members are read one after the other; the fuel is enough for as many as were
written. -/
theorem readMembers_objectText (m : Member) (ms : List Member)
    (h : ∀ m' ∈ m :: ms, Written m'.text m'.value) (fuel : ℕ) (rest : List UInt8) :
    readMembers (fuel + ms.length + 2)
        (m.written ++ (ms.flatMap (fun m => ','.toUInt8 :: m.written) ++ '\x7d'.toUInt8 :: rest))
      = some ((m :: ms).map fun m => (m.key, m.value), rest) := by
  induction ms generalizing m with
  | nil =>
    rw [List.flatMap_nil, List.nil_append,
      readMembers_written (h m List.mem_cons_self) ⟨_, _, rfl, .inr rfl⟩,
      expect_ne (by decide) (by decide), expect_cons (by decide)]
    rfl
  | cons m' ms ih =>
    have ih := ih m' fun x hx => h x (List.mem_cons_of_mem _ hx)
    rw [List.flatMap_cons, List.cons_append, List.cons_append, List.append_assoc, List.length_cons,
      show fuel + (ms.length + 1) + 2 = fuel + ms.length + 1 + 2 by omega,
      readMembers_written (h m List.mem_cons_self) ⟨_, _, rfl, .inl rfl⟩, expect_cons (by decide)]
    show (readMembers (fuel + ms.length + 2) _).map _ = _
    rw [ih]
    rfl

theorem readValue_object {t : List UInt8} (h : expect '\x7d'.toUInt8 t = none) (fuel : ℕ) :
    readValue (fuel + 1) ('\x7b'.toUInt8 :: t)
      = (readMembers fuel t).map fun (ms, rest) => (Json.object ms, rest) := by
  rw [readValue]
  show (match expect '\x7d'.toUInt8 t with
    | some rest => some (Json.object [], rest)
    | none => (readMembers fuel t).map fun (ms, rest) => (Json.object ms, rest)) = _
  rw [h]

/-- **The object round trip.** -/
theorem parse_objectText (m : Member) (ms : List Member)
    (h : ∀ m' ∈ m :: ms, Written m'.text m'.value) :
    parse (objectText m ms) = some (.object ((m :: ms).map fun m => (m.key, m.value))) := by
  have hlength : ms.length + 2 ≤ (objectText m ms).length := by
    have hflat : ms.length ≤ (ms.flatMap fun m => ','.toUInt8 :: m.written).length := by
      induction ms with
      | nil => exact le_refl _
      | cons m' ms ih =>
        have ih := ih fun x hx => h x (by
          rcases List.mem_cons.mp hx with rfl | hx
          · exact List.mem_cons_self
          · exact List.mem_cons_of_mem _ (List.mem_cons_of_mem _ hx))
        rw [List.flatMap_cons, List.length_append, List.length_cons, List.length_cons]
        omega
    simp only [objectText, List.length_cons, List.length_append, List.length_nil]
    omega
  obtain ⟨fuel, hfuel⟩ := Nat.exists_eq_add_of_le hlength
  have hmembers := readMembers_objectText m ms h fuel []
  have hexpect : expect '\x7d'.toUInt8 (m.written ++
      (ms.flatMap (fun m => ','.toUInt8 :: m.written) ++ ['\x7d'.toUInt8])) = none :=
    show expect '\x7d'.toUInt8 ('"'.toUInt8 :: _) = none from expect_ne (by decide) (by decide) _
  unfold parse
  rw [hfuel, show ms.length + 2 + fuel + 1 = fuel + ms.length + 2 + 1 by omega, objectText,
    List.append_assoc, readValue_object hexpect, hmembers]
  rfl

end Json
