/-
EnergyController.Telemetry.AllOrNothing — the writer against one that has no
size to respect.

`UnboundedWriter` has the operations of `Writer`, but its `raw` always appends.
The text it makes of an input is `documentText`; `text_document` is that text as
an object of 22 members, and `writes_document` says that the bounded writer
asks for the same bytes. So the bounded writer ends with `ok` exactly if the
whole text and its terminator fit (`ok_document_iff`), it then holds the whole
text, and it never leaves its buffer (`buf_document_of_size_le`).
-/
import EnergyController.Telemetry.TelemetryJsonTheorems

namespace EnergyController

/-- The text written so far. -/
structure UnboundedWriter where
  text : List UInt8

namespace UnboundedWriter

def raw (u : UnboundedWriter) (s : List UInt8) : UnboundedWriter := { text := u.text ++ s }

def ch (u : UnboundedWriter) (c : UInt8) : UnboundedWriter := u.raw [c]

def strCh (u : UnboundedWriter) (c : UInt8) : UnboundedWriter :=
  if c = '"'.toUInt8 ∨ c = '\\'.toUInt8 then (u.ch '\\'.toUInt8).ch c
  else if c < 0x20 then u.raw (snprintf 8 (ascii "\\u" ++ Decimal.hexPlaces 4 c.toNat)).1
  else u.ch c

def str (u : UnboundedWriter) (s : Option CString) : UnboundedWriter :=
  ((s.getD .empty).1.foldl strCh (u.ch '"'.toUInt8)).ch '"'.toUInt8

def key (u : UnboundedWriter) (k : List UInt8) (first : Bool) : UnboundedWriter :=
  let u := if first then u else u.ch ','.toUInt8
  ((k.foldl strCh (u.ch '"'.toUInt8)).ch '"'.toUInt8).ch ':'.toUInt8

def num (u : UnboundedWriter) (v : Float32) (decimals : ℕ) : UnboundedWriter :=
  if !v.isFinite then u.raw (ascii "null")
  else u.raw (snprintf 32 (FloatValue.decimalText decimals v)).1

def u32 (u : UnboundedWriter) (v : Millis) : UnboundedWriter :=
  u.raw (snprintf 16 (Decimal.natText v.toNat)).1

def boolean (u : UnboundedWriter) (v : Bool) : UnboundedWriter :=
  u.raw (if v then ascii "true" else ascii "false")

def document (u : UnboundedWriter) (input : TelemetryInput) : UnboundedWriter :=
  let m := input.measurement
  let p := input.protection
  let u := u.ch '\x7b'.toUInt8
  let u := (u.key (ascii "schema_version") true).u32 telemetrySchemaVersion
  let u := (u.key (ascii "device_id") false).str input.deviceId
  let u := (u.key (ascii "firmware_version") false).str input.firmwareVersion
  let u := (u.key (ascii "source") false).str (measurementSourceName m.source)
  let u := (u.key (ascii "simulated") false).boolean (m.source = MeasurementSource.simulation)
  let u := (u.key (ascii "uptime_ms") false).u32 input.uptimeMs
  let u := (u.key (ascii "valid") false).boolean m.valid
  let u := (u.key (ascii "measurement_status") false).str (measurementStatusName m.status)
  let u := (u.key (ascii "measurement_age_ms") false).u32 input.measurementAgeMs
  let u := (u.key (ascii "voltage") false).num m.voltage 2
  let u := (u.key (ascii "current") false).num m.current 3
  let u := (u.key (ascii "power") false).num m.power 2
  let u := (u.key (ascii "energy") false).num m.energy 3
  let u := (u.key (ascii "apparent_power") false).num m.apparentPower 2
  let u := (u.key (ascii "power_factor") false).num m.powerFactor 3
  let u := (u.key (ascii "state") false).str (systemStateName p.state)
  let u := (u.key (ascii "fault") false).str (faultCodeName p.fault.activeFault)
  let u := (u.key (ascii "fault_active") false).boolean p.fault.active
  let u := (u.key (ascii "fault_acknowledged") false).boolean p.fault.acknowledged
  let u := (u.key (ascii "last_reset_result") false).str (resetResultName p.lastResetResult)
  let u := (u.key (ascii "relay_commanded_on") false).boolean input.relayCommandedOn
  let u := (u.key (ascii "relay_output_enabled") false).boolean input.relayOutputEnabled
  u.ch '\x7d'.toUInt8

/-! ## The text it writes -/

@[simp] theorem text_raw (u : UnboundedWriter) (s : List UInt8) :
    (u.raw s).text = u.text ++ s := rfl

@[simp] theorem text_ch (u : UnboundedWriter) (c : UInt8) : (u.ch c).text = u.text ++ [c] := rfl

/-! What each function appends is what it writes in a buffer that is long enough; the
two texts are compared in terms of `Lib.Json`. -/

theorem text_strCh (u : UnboundedWriter) (c : UInt8) :
    (u.strCh c).text = u.text ++ Json.escape c := by
  unfold strCh Json.escape
  split
  · simp
  split
  · rename_i hcontrol
    rw [snprintf_unicode hcontrol]
    rfl
  · rfl

theorem text_foldl_strCh (u : UnboundedWriter) (s : List UInt8) :
    (s.foldl strCh u).text = u.text ++ s.flatMap Json.escape := by
  induction s generalizing u with
  | nil => simp
  | cons c s ih => simp [ih, text_strCh]

@[simp] theorem text_str (u : UnboundedWriter) (s : Option CString) :
    (u.str s).text = u.text ++ Json.quoted (s.getD .empty).1 := by
  simp [str, text_foldl_strCh, Json.quoted]

@[simp] theorem text_key_first (u : UnboundedWriter) (k : List UInt8) :
    (u.key k true).text = u.text ++ (Json.quoted k ++ [':'.toUInt8]) := by
  simp [key, text_foldl_strCh, Json.quoted]

@[simp] theorem text_key (u : UnboundedWriter) (k : List UInt8) :
    (u.key k false).text = u.text ++ ','.toUInt8 :: (Json.quoted k ++ [':'.toUInt8]) := by
  simp [key, text_foldl_strCh, Json.quoted]

@[simp] theorem text_num (u : UnboundedWriter) (v : Float32) (decimals : ℕ) :
    (u.num v decimals).text = u.text ++ numText decimals v := by
  unfold num numText
  cases v.isFinite with
  | false => rfl
  | true => simp [snprintf_decimalText]

@[simp] theorem text_u32 (u : UnboundedWriter) (v : Millis) :
    (u.u32 v).text = u.text ++ Decimal.natText v.toNat := by
  have hlt : v.toNat < 10 ^ 10 := lt_trans v.isLt (by norm_num)
  have hlength := Decimal.length_natText_le (by decide) hlt
  rw [u32, snprintf_of_fits (Decimal.zero_not_mem_natText _) (by omega), text_raw]

@[simp] theorem text_boolean (u : UnboundedWriter) (v : Bool) :
    (u.boolean v).text = u.text ++ ascii (if v then "true" else "false") := by
  cases v <;> rfl

/-! A member after the first: its key and its value. -/

theorem text_stringMember (u : UnboundedWriter) (k : List UInt8) (s : Option CString) :
    ((u.key k false).str s).text
      = u.text ++ ','.toUInt8 :: (Json.Member.ofString k (s.getD .empty).1).written := by
  simp [Json.Member.written, Json.Member.ofString]

theorem text_boolMember (u : UnboundedWriter) (k : List UInt8) (v : Bool) :
    ((u.key k false).boolean v).text
      = u.text ++ ','.toUInt8 :: (Json.Member.ofBool k v).written := by
  simp [Json.Member.written, Json.Member.ofBool]

theorem text_natMember (u : UnboundedWriter) (k : List UInt8) (v : Millis) :
    ((u.key k false).u32 v).text
      = u.text ++ ','.toUInt8 :: (Json.Member.ofNat k v.toNat).written := by
  simp [Json.Member.written, Json.Member.ofNat]

theorem text_fixedMember (u : UnboundedWriter) (k : List UInt8) (v : Float32) (decimals : ℕ) :
    ((u.key k false).num v decimals).text
      = u.text ++ ','.toUInt8 :: (fixedMember k decimals v).written := by
  simp [Json.Member.written, fixedMember]

/-- What follows the text so far is one object with 22 members. -/
theorem text_document (u : UnboundedWriter) (input : TelemetryInput) :
    (u.document input).text
      = u.text ++ Json.objectText schemaMember (laterMembers input) := by
  unfold document
  dsimp only
  rw [text_ch, text_boolMember, text_boolMember, text_stringMember, text_boolMember,
    text_boolMember, text_stringMember, text_stringMember, text_fixedMember, text_fixedMember,
    text_fixedMember, text_fixedMember, text_fixedMember, text_fixedMember, text_natMember,
    text_stringMember, text_boolMember, text_natMember, text_boolMember, text_stringMember,
    text_stringMember, text_stringMember, text_u32, text_key_first, text_ch]
  simp only [Json.objectText, laterMembers, List.flatMap_cons, List.flatMap_nil,
    List.append_assoc, List.cons_append, List.nil_append]
  rfl

end UnboundedWriter

/-- The text that an unbounded writer makes of an input. -/
def documentText (input : TelemetryInput) : List UInt8 :=
  (UnboundedWriter.document { text := [] } input).text

/-- The unbounded document is the JSON object of its members. -/
theorem documentText_eq (input : TelemetryInput) :
    documentText input = Json.objectText schemaMember (laterMembers input) := by
  rw [documentText, UnboundedWriter.text_document, List.nil_append]

/-! ## The bounded writer -/

namespace Writer

variable {w : Writer} {R : List UInt8}

/-- An append that fits is made. -/
theorem ok_raw {s : CString} (hok : w.ok = true) (hfit : w.len + s.1.length < w.size) :
    (w.raw s).ok = true := by
  unfold raw
  dsimp only
  rw [if_neg (by simp [hok]; omega)]
  exact hok

/-- Appends that fit together are all made. -/
theorem Holds.ok_appends (h : w.Holds R) {pieces : List CString} (hok : w.ok = true)
    (hfit : (R ++ textOf pieces).length < w.size) : (w.appends pieces).ok = true := by
  induction pieces generalizing w R with
  | nil => exact hok
  | cons s pieces ih =>
    have htext : R ++ textOf (s :: pieces) = (R ++ s.1) ++ textOf pieces := by
      simp [textOf]
    rw [htext] at hfit
    have hok' : (w.raw s).ok = true := by
      apply ok_raw hok
      rw [List.length_append, List.length_append] at hfit
      rw [h.len]
      omega
    exact ih (h.raw hok') hok' (by rw [size_raw]; exact hfit)

/-- An append does not leave the buffer. -/
theorem buf_raw_of_size_le (w : Writer) (s : CString) {i : ℕ} (hi : w.size ≤ i) :
    (w.raw s).buf i = w.buf i := by
  unfold raw
  dsimp only
  split
  · rfl
  · rename_i hfit
    simp only [Bool.or_eq_true, decide_eq_true_eq, not_or] at hfit
    show memcpy w.buf w.len (s.1 ++ [0]) i = _
    unfold memcpy
    rw [if_neg]
    rw [List.length_append, List.length_singleton]
    omega

theorem buf_appends_of_size_le (w : Writer) (pieces : List CString) {i : ℕ} (hi : w.size ≤ i) :
    (w.appends pieces).buf i = w.buf i := by
  induction pieces generalizing w with
  | nil => rfl
  | cons s pieces ih =>
    rw [← buf_raw_of_size_le w s hi]
    exact ih (w.raw s) (by rw [size_raw]; exact hi)

/-- **All or nothing**: the writes succeed exactly if all of their text fits. -/
theorem Writes.ok_iff {w' : Writer} {t : List UInt8} (h : Writes w w' t) (hw : w.Holds R)
    (hok : w.ok = true) : w'.ok = true ↔ (R ++ t).length < w.size := by
  constructor
  · intro hok'
    have hfits := (h.holds hw hok').fits
    rwa [h.size] at hfits
  · intro hfit
    obtain ⟨pieces, rfl, rfl⟩ := h
    exact hw.ok_appends hok hfit

theorem Writes.buf_of_size_le {w' : Writer} {t : List UInt8} (h : Writes w w' t) {i : ℕ}
    (hi : w.size ≤ i) : w'.buf i = w.buf i := by
  obtain ⟨pieces, rfl, -⟩ := h
  exact buf_appends_of_size_le w pieces hi

theorem writes_documentText (w : Writer) (input : TelemetryInput) :
    Writes w (w.document input) (documentText input) := by
  rw [documentText_eq]
  exact writes_document input w

/-- **It fits exactly if the document and its terminator are no longer than the buffer.** -/
theorem ok_document_iff (buf : ℕ → UInt8) {size : ℕ} (h : 1 ≤ size) (input : TelemetryInput) :
    ((start buf size).document input).ok = true ↔ (documentText input).length < size := by
  have hiff := ((start buf size).writes_documentText input).ok_iff (holds_start buf h) rfl
  rw [List.nil_append] at hiff
  exact hiff

/-- A document that fits is in the buffer. -/
theorem holds_document (buf : ℕ → UInt8) {size : ℕ} {input : TelemetryInput}
    (hfits : (documentText input).length < size) :
    ((start buf size).document input).Holds (documentText input) := by
  have hsize : 1 ≤ size := by omega
  have hok := (ok_document_iff buf hsize input).mpr hfits
  have hholds := (writes_documentText _ input).holds (holds_start buf hsize) hok
  rwa [List.nil_append] at hholds

end Writer

theorem memcpy_zero_of_pos (buf : ℕ → UInt8) {i : ℕ} (hi : 1 ≤ i) : memcpy buf 0 [0] i = buf i := by
  unfold memcpy
  rw [if_neg (by simp; omega)]

/-- Nothing is written beyond the buffer. -/
theorem buf_document_of_size_le (buf : ℕ → UInt8) {size : ℕ} (h : 1 ≤ size)
    (input : TelemetryInput) {i : ℕ} (hi : size ≤ i) :
    ((Writer.start buf size).document input).buf i = buf i := by
  rw [((Writer.start buf size).writes_documentText input).buf_of_size_le hi]
  exact memcpy_zero_of_pos buf (by omega)

/-! ## The whole call -/

/-! The two results: the document in full with its length, or the empty string and -1. -/

theorem buildTelemetryJson_of_fits (buf : ℕ → UInt8) {outSize : ℕ} {input : TelemetryInput}
    (hfits : (documentText input).length < outSize) :
    buildTelemetryJson (some buf) outSize input
      = (some ((Writer.start buf outSize).document input).buf,
          (BitVec.ofNat 32 (documentText input).length).toInt) := by
  have hsize : 1 ≤ outSize := by omega
  have hok := (Writer.ok_document_iff buf hsize input).mpr hfits
  rw [buildTelemetryJson_eq buf hsize, if_pos hok, (Writer.holds_document buf hfits).len]

theorem buildTelemetryJson_of_too_long (buf : ℕ → UInt8) {outSize : ℕ} (h : 1 ≤ outSize)
    {input : TelemetryInput} (hlong : outSize ≤ (documentText input).length) :
    buildTelemetryJson (some buf) outSize input
      = (some (memcpy ((Writer.start buf outSize).document input).buf 0 [0]), -1) := by
  have hok : ¬ ((Writer.start buf outSize).document input).ok = true := by
    rw [Writer.ok_document_iff buf h]
    omega
  rw [buildTelemetryJson_eq buf h, if_neg hok]

/-- Escaping does not shorten, so a long device ID makes a long document. -/
theorem length_le_length_flatMap_escape (s : List UInt8) :
    s.length ≤ (s.flatMap Json.escape).length := by
  induction s with
  | nil => exact le_refl _
  | cons c s ih =>
    have hpos : 1 ≤ (Json.escape c).length := by
      unfold Json.escape
      split
      · simp
      · split <;> simp [ascii]
    rw [List.flatMap_cons, List.length_append, List.length_cons]
    omega

theorem length_deviceId_le (input : TelemetryInput) :
    (input.deviceId.getD .empty).1.length ≤ (documentText input).length := by
  have hescaped := length_le_length_flatMap_escape (input.deviceId.getD .empty).1
  rw [documentText_eq, Json.objectText, laterMembers, List.flatMap_cons]
  simp only [Json.Member.written, Json.Member.ofString, Json.quoted, List.length_cons,
    List.length_append]
  omega

/-- **The document is written whole or not at all**, for every input, buffer and
size: if it fits with its terminator, the call returns its length, as a 32-bit
`int`, and leaves it in the buffer; otherwise the call returns -1 and leaves the
empty string. No byte at or past the size is touched. -/
theorem buildTelemetryJson_all_or_nothing (buf : ℕ → UInt8) (outSize : ℕ) (h : 1 ≤ outSize)
    (input : TelemetryInput) :
    ∃ mem n, buildTelemetryJson (some buf) outSize input = (some mem, n) ∧
      (∀ i, outSize ≤ i → mem i = buf i) ∧
      0 ∉ documentText input ∧
      ((documentText input).length < outSize →
        n = (BitVec.ofNat 32 (documentText input).length).toInt ∧
          ((documentText input).length < 2 ^ 31 → n = (documentText input).length) ∧
          (∀ i < (documentText input).length, mem i = (documentText input).getD i 0) ∧
          mem (documentText input).length = 0) ∧
      (outSize ≤ (documentText input).length → n = -1 ∧ mem 0 = 0) := by
  have h0 : 0 ∉ documentText input :=
    ((Writer.start buf outSize).writes_documentText input).zero_not_mem
  by_cases hfits : (documentText input).length < outSize
  · have hholds := Writer.holds_document buf hfits
    refine ⟨_, _, buildTelemetryJson_of_fits buf hfits, ?_, h0, ?_, fun hlong => by omega⟩
    · exact fun i hi => buf_document_of_size_le buf h input hi
    · intro _
      refine ⟨rfl, ?_, fun i hi => hholds.buf i hi.le, ?_⟩
      · intro hsmall
        rw [BitVec.toInt_eq_toNat_of_lt, BitVec.toNat_ofNat, Nat.mod_eq_of_lt (by omega)]
        rw [BitVec.toNat_ofNat, Nat.mod_eq_of_lt (by omega)]
        omega
      · rw [hholds.buf _ (le_refl _)]
        exact List.getD_eq_default _ _ (le_refl _)
  · have hlong : outSize ≤ (documentText input).length := by omega
    refine ⟨_, _, buildTelemetryJson_of_too_long buf h hlong, ?_, h0, fun hlt => by omega,
      fun _ => ⟨rfl, rfl⟩⟩
    intro i hi
    rw [memcpy_zero_of_pos _ (by omega)]
    exact buf_document_of_size_le buf h input hi

/-- Five bytes do not hold a document: the first is NUL, the sixth untouched. -/
theorem buildTelemetryJson_five_bytes :
    ∃ mem n, buildTelemetryJson (some fun _ => 7) 5 oddInput = (some mem, n) ∧
      mem 5 = 7 ∧ n = -1 ∧ mem 0 = 0 := by
  obtain ⟨mem, n, hbuild, hframe, -, -, hlong⟩ :=
    buildTelemetryJson_all_or_nothing (fun _ => 7) 5 (by decide) oddInput
  have hid : 5 ≤ (oddInput.deviceId.getD .empty).1.length := by decide
  exact ⟨mem, n, hbuild, hframe 5 (le_refl _), hlong (hid.trans (length_deviceId_le oddInput))⟩

/-! ## Lengths past the range of `int` -/

/-- The result for a document of 2 GiB or more is not its length. -/
theorem result_ne_length_of_long (buf : ℕ → UInt8) {input : TelemetryInput}
    (hlong : 2 ^ 31 ≤ (documentText input).length) :
    (buildTelemetryJson (some buf) ((documentText input).length + 1) input).2
      ≠ (documentText input).length := by
  rw [buildTelemetryJson_of_fits buf (Nat.lt_add_one (documentText input).length)]
  intro heq
  have hrange := BitVec.two_mul_toInt_lt (x := BitVec.ofNat 32 (documentText input).length)
  dsimp only at heq
  rw [heq] at hrange
  omega

/-- A device ID of 2 GiB. -/
def hugeInput : TelemetryInput :=
  { oddInput with
    deviceId := some ⟨List.replicate (2 ^ 31) 'a'.toUInt8, fun h => by
      have hzero := List.eq_of_mem_replicate h
      exact absurd hzero (by decide)⟩ }

/-- **The returned `int` wraps**: with room for the whole document, the result is
not its length. -/
theorem buildTelemetryJson_length_wraps :
    (documentText hugeInput).length < (documentText hugeInput).length + 1 ∧
      (buildTelemetryJson (some fun _ => 0) ((documentText hugeInput).length + 1) hugeInput).2
        ≠ (documentText hugeInput).length := by
  have hid : (hugeInput.deviceId.getD .empty).1.length = 2 ^ 31 := List.length_replicate
  refine ⟨Nat.lt_add_one (documentText hugeInput).length, result_ne_length_of_long _ ?_⟩
  rw [← hid]
  exact length_deviceId_le hugeInput

end EnergyController
