/-
EnergyController.Telemetry.TelemetryJsonTheorems — the telemetry document
decodes back to its input.

Every operation of the writer is a sequence of `raw` calls, `appends`; as long
as `ok` holds, the buffer `Holds` what they appended. `writes_document` is the
text of the whole document, an object of 22 members, and `telemetry_decodes`
reads it with the JSON parser. The six numeric fields of a built measurement
are bounded, so that none is written as `null` or cut by its buffer (`numText`
is what is written for any float).
-/
import EnergyController.Lib.Json
import EnergyController.Measurement.CoreTheorems
import EnergyController.Telemetry.TelemetryJson

namespace EnergyController

/-! ## Numeric members -/

/-- What is written for a float: its decimal text, cut by the buffer of `num`,
or `null`. -/
def numText (decimals : ℕ) (v : Float32) : List UInt8 :=
  if v.isFinite then (FloatValue.decimalText decimals v).take 31 else ascii "null"

/-- A text without NUL that fits the buffer of `snprintf`. -/
theorem snprintf_of_fits {size : ℕ} {text : List UInt8} (h0 : 0 ∉ text)
    (hsize : text.length ≤ size - 1) : (snprintf size text).1 = text := by
  rw [snprintf, List.take_of_length_le hsize, CString.ofBytes_val h0]

/-- The buffers of the source for an escape and for a number: six bytes fit in eight,
and a number is cut behind 31. -/
theorem snprintf_unicode {c : UInt8} (hcontrol : c < 0x20) :
    (snprintf 8 (ascii "\\u" ++ Decimal.hexPlaces 4 c.toNat)).1
      = ascii "\\u" ++ Decimal.hexPlaces 4 c.toNat := by
  have hplaces : ∀ n < 32, 0 ∉ ascii "\\u" ++ Decimal.hexPlaces 4 n := by decide
  exact snprintf_of_fits (hplaces _ (UInt8.lt_iff_toNat_lt.mp hcontrol))
    (by simp [ascii, Decimal.hexPlaces])

theorem snprintf_decimalText (decimals : ℕ) (v : Float32) :
    (snprintf 32 (FloatValue.decimalText decimals v)).1
      = (FloatValue.decimalText decimals v).take 31 := by
  have h0 : 0 ∉ (FloatValue.decimalText decimals v).take 31 := fun h =>
    FloatValue.zero_not_mem_decimalText decimals v (List.mem_of_mem_take h)
  rw [snprintf, CString.ofBytes_val h0]

/-- The text of a bounded float is not cut. -/
theorem numText_of_below {v : Float32} (h : FloatValue.Below 0 v.toModel.unpack) {decimals : ℕ}
    (hd : decimals ≤ 3) : numText decimals v = FloatValue.decimalText decimals v := by
  have hlength := FloatValue.length_decimalText_le h hd
  unfold numText
  rw [if_pos h.isFinite, List.take_of_length_le (by omega)]

/-- A numeric field with its decimals. -/
def fixedMember (k : List UInt8) (decimals : ℕ) (v : Float32) : Json.Member where
  key := k
  text := numText decimals v
  value := .number (FloatValue.roundedValue decimals v.toModel.unpack)

/-- A number with decimals that is not cut is a JSON number, and its value is the
rounded one. -/
theorem written_decimalText {v : Float32} (h : v.isFinite = true) {decimals : ℕ}
    (hd : 0 < decimals) :
    Json.Written (FloatValue.decimalText decimals v)
      (.number (FloatValue.roundedValue decimals v.toModel.unpack)) := by
  obtain ⟨neg, k, htext, hvalue⟩ := FloatValue.decimalText_of_isFinite h decimals
  rw [htext, hvalue]
  exact Json.written_fixedText hd neg k

/-- Below `2^24` nothing is cut: a measurement that `buildMeasurement` has made is far
below that. -/
theorem written_fixedMember (k : List UInt8) {v : Float32}
    (h : FloatValue.Below 0 v.toModel.unpack) (decimals : ℕ) (hpos : 0 < decimals)
    (hd : decimals ≤ 3) :
    Json.Written (fixedMember k decimals v).text (fixedMember k decimals v).value := by
  show Json.Written (numText decimals v) _
  rw [numText_of_below h hd]
  exact written_decimalText h.isFinite hpos

/-! ## The writer -/

namespace Writer

/-- The buffer holds the text `R` with its terminator, and its length is known. -/
structure Holds (w : Writer) (R : List UInt8) : Prop where
  len : w.len = R.length
  fits : R.length < w.size
  buf : ∀ i ≤ R.length, w.buf i = R.getD i 0

/-- Several `raw` calls. -/
def appends (w : Writer) (pieces : List CString) : Writer := pieces.foldl raw w

def textOf (pieces : List CString) : List UInt8 := pieces.flatMap (·.1)

@[simp] theorem textOf_append (ps qs : List CString) :
    textOf (ps ++ qs) = textOf ps ++ textOf qs := List.flatMap_append

variable {w : Writer} {R : List UInt8}

/-- An append that succeeds had room for the text and its terminator. -/
theorem ok_of_raw {s : CString} (h : (w.raw s).ok = true) :
    w.ok = true ∧ w.len + s.1.length < w.size ∧ w.raw s =
      { w with buf := memcpy w.buf w.len (s.1 ++ [0]), len := w.len + s.1.length } := by
  unfold raw at h ⊢
  dsimp only at h ⊢
  split at h
  · cases h
  · rename_i hfit
    rw [if_neg hfit]
    simp only [Bool.or_eq_true, decide_eq_true_eq, not_or] at hfit
    exact ⟨h, by omega, rfl⟩

theorem size_raw (w : Writer) (s : CString) : (w.raw s).size = w.size := by
  unfold raw
  dsimp only
  split <;> rfl

theorem size_appends (w : Writer) (pieces : List CString) : (w.appends pieces).size = w.size := by
  induction pieces generalizing w with
  | nil => rfl
  | cons s pieces ih => exact (ih (w.raw s)).trans (size_raw w s)

/-- It puts the text where the terminator was. -/
theorem Holds.raw (h : w.Holds R) {s : CString} (hok : (w.raw s).ok = true) :
    (w.raw s).Holds (R ++ s.1) := by
  obtain ⟨-, hfit, hraw⟩ := ok_of_raw hok
  rw [hraw]
  refine ⟨by simp [h.len], by rw [List.length_append, ← h.len]; exact hfit, ?_⟩
  intro i hi
  rw [List.length_append] at hi
  show memcpy w.buf w.len (s.1 ++ [0]) i = _
  unfold memcpy
  by_cases hlow : i < R.length
  · rw [if_neg (by rw [h.len]; omega), h.buf i (by omega), List.getD_append _ _ _ _ hlow]
  · have hpast : (R ++ s.1).getD i 0 = s.1.getD (i - R.length) 0 :=
      List.getD_append_right _ _ _ _ (by omega)
    rw [h.len, if_pos ⟨by omega, by rw [List.length_append, List.length_singleton]; omega⟩, hpast]
    rcases Nat.lt_or_eq_of_le (show i - R.length ≤ s.1.length by omega) with hlt | heq
    · exact List.getD_append _ _ _ _ hlt
    · rw [heq, List.getD_append_right _ _ _ _ (le_refl _), Nat.sub_self,
        List.getD_eq_default _ _ (le_refl _)]
      rfl

/-- A failure stays: what succeeds in the end has not failed before. -/
theorem ok_of_appends {pieces : List CString} (h : (w.appends pieces).ok = true) :
    w.ok = true := by
  induction pieces generalizing w with
  | nil => exact h
  | cons s pieces ih => exact (ok_of_raw (ih h)).1

/-- What was appended is in the buffer, if all of it fitted. -/
theorem Holds.appends (h : w.Holds R) {pieces : List CString}
    (hok : (w.appends pieces).ok = true) : (w.appends pieces).Holds (R ++ textOf pieces) := by
  induction pieces generalizing w R with
  | nil => simpa [textOf, Writer.appends] using h
  | cons s pieces ih =>
    have hraw := h.raw (ok_of_appends (w := w.raw s) hok)
    have := ih hraw hok
    rwa [List.append_assoc] at this

@[simp] theorem appends_appends (w : Writer) (ps qs : List CString) :
    (w.appends ps).appends qs = w.appends (ps ++ qs) := (List.foldl_append).symm

/-! ### What each operation writes -/

/-- `w'` is `w` after `raw` calls that append `t`. -/
def Writes (w w' : Writer) (t : List UInt8) : Prop :=
  ∃ pieces, w' = w.appends pieces ∧ textOf pieces = t

/-! `Writes` composes, so that a text is put together from its parts. -/

theorem Writes.refl (w : Writer) : Writes w w [] := ⟨[], rfl, rfl⟩

theorem Writes.trans {w₁ w₂ w₃ : Writer} {t t' : List UInt8} (h : Writes w₁ w₂ t)
    (h' : Writes w₂ w₃ t') : Writes w₁ w₃ (t ++ t') := by
  obtain ⟨ps, rfl, rfl⟩ := h
  obtain ⟨qs, rfl, rfl⟩ := h'
  exact ⟨ps ++ qs, appends_appends _ _ _, textOf_append _ _⟩

/-- Only C strings are appended. -/
theorem Writes.zero_not_mem {w' : Writer} {t : List UInt8} (h : Writes w w' t) : 0 ∉ t := by
  obtain ⟨ps, -, rfl⟩ := h
  intro h0
  obtain ⟨s, -, hs⟩ := List.mem_flatMap.mp h0
  exact s.2 hs

theorem Writes.size {w' : Writer} {t : List UInt8} (h : Writes w w' t) : w'.size = w.size := by
  obtain ⟨ps, rfl, -⟩ := h
  exact size_appends w ps

theorem Writes.congr {w' : Writer} {t t' : List UInt8} (h : Writes w w' t) (ht : t = t') :
    Writes w w' t' := ht ▸ h

/-- What was written is in the buffer, if all of it fitted. -/
theorem Writes.holds {w' : Writer} {t : List UInt8} (h : Writes w w' t) (hw : w.Holds R)
    (hok : w'.ok = true) : w'.Holds (R ++ t) := by
  obtain ⟨ps, rfl, rfl⟩ := h
  exact hw.appends hok

/-! ### What each function of the writer writes

Each is a sequence of appends, whatever comes of them; the text is that of
`Lib.Json`, which says how it is read back. -/

theorem writes_raw (w : Writer) (s : CString) : Writes w (w.raw s) s.1 :=
  ⟨[s], rfl, List.flatMap_singleton _ _⟩

theorem writes_ch (w : Writer) {c : UInt8} (hc : c ≠ 0) : Writes w (w.ch c) [c] := by
  have h := writes_raw w (.ofBytes [c])
  rwa [CString.ofBytes_val (by simpa using hc.symm)] at h

theorem writes_snprintf (w : Writer) {size : ℕ} {text : List UInt8} (h0 : 0 ∉ text)
    (hsize : text.length ≤ size - 1) : Writes w (w.raw (snprintf size text)) text := by
  have h := writes_raw w (snprintf size text)
  rwa [snprintf_of_fits h0 hsize] at h

/-- The escapes of the writer are those of JSON. -/
theorem writes_strCh (w : Writer) {c : UInt8} (hc : c ≠ 0) :
    Writes w (w.strCh c) (Json.escape c) := by
  unfold strCh Json.escape
  split
  · exact (writes_ch w (by decide)).trans (writes_ch _ hc)
  split
  · rename_i hcontrol
    have h := writes_raw w (snprintf 8 (ascii "\\u" ++ Decimal.hexPlaces 4 c.toNat))
    rwa [snprintf_unicode hcontrol] at h
  · exact writes_ch w hc

theorem writes_str (w : Writer) (s : Option CString) :
    Writes w (w.str s) (Json.quoted (s.getD .empty).1) := by
  have hloop : ∀ (l : List UInt8) (w : Writer), 0 ∉ l →
      Writes w (l.foldl strCh w) (l.flatMap Json.escape) := by
    intro l
    induction l with
    | nil => exact fun w _ => Writes.refl w
    | cons c l ih =>
      intro w h
      rw [List.mem_cons, not_or] at h
      exact (writes_strCh w (Ne.symm h.1)).trans (ih _ h.2)
  have hquote : '"'.toUInt8 ≠ 0 := by decide
  exact (writes_ch w hquote).trans ((hloop _ _ (s.getD .empty).2).trans (writes_ch _ hquote))

theorem writes_key_first (w : Writer) (k : CString) :
    Writes w (w.key k true) (Json.quoted k.1 ++ [':'.toUInt8]) :=
  (writes_str w (some k)).trans (writes_ch _ (by decide))

theorem writes_key (w : Writer) (k : CString) :
    Writes w (w.key k false) (','.toUInt8 :: (Json.quoted k.1 ++ [':'.toUInt8])) :=
  (writes_ch w (by decide)).trans ((writes_str _ (some k)).trans (writes_ch _ (by decide)))

theorem writes_u32 (w : Writer) (v : Millis) :
    Writes w (w.u32 v) (Decimal.natText v.toNat) := by
  apply writes_snprintf w (Decimal.zero_not_mem_natText _)
  have hlt : v.toNat < 10 ^ 10 := lt_trans v.isLt (by norm_num)
  have := Decimal.length_natText_le (by decide) hlt
  omega

theorem writes_boolean (w : Writer) (v : Bool) :
    Writes w (w.boolean v) (ascii (if v then "true" else "false")) := by
  cases v with
  | true => exact writes_raw w (.lit "true")
  | false => exact writes_raw w (.lit "false")

theorem writes_num (w : Writer) (v : Float32) (decimals : ℕ) :
    Writes w (w.num v decimals) (numText decimals v) := by
  unfold num numText
  cases v.isFinite with
  | false => exact writes_raw w (.lit "null")
  | true =>
    rw [if_pos rfl, ← snprintf_decimalText]
    exact writes_raw w _

/-- A member after the first: its key, and what writes its value. -/
theorem writes_member (w : Writer) {k : CString} {w' : Writer} {m : Json.Member}
    (h : Writes (w.key k false) w' m.text) (hkey : m.key = k.1) :
    Writes w w' (','.toUInt8 :: m.written) := by
  have hmember := (writes_key w k).trans h
  unfold Json.Member.written
  rw [hkey]
  simpa using hmember

/-! A key and a value are a member. -/

theorem writes_stringMember (w : Writer) (k : CString) (s : Option CString) :
    Writes w ((w.key k false).str s)
      (','.toUInt8 :: (Json.Member.ofString k.1 (s.getD .empty).1).written) :=
  writes_member w (writes_str _ s) rfl

theorem writes_boolMember (w : Writer) (k : CString) (v : Bool) :
    Writes w ((w.key k false).boolean v) (','.toUInt8 :: (Json.Member.ofBool k.1 v).written) :=
  writes_member w (writes_boolean _ v) rfl

theorem writes_natMember (w : Writer) (k : CString) (v : Millis) :
    Writes w ((w.key k false).u32 v) (','.toUInt8 :: (Json.Member.ofNat k.1 v.toNat).written) :=
  writes_member w (writes_u32 _ v) rfl

theorem writes_fixedMember (w : Writer) (k : CString) (v : Float32) (decimals : ℕ) :
    Writes w ((w.key k false).num v decimals)
      (','.toUInt8 :: (fixedMember k.1 decimals v).written) :=
  writes_member w (writes_num _ v decimals) rfl

/-- The writer on a buffer that holds the empty string. -/
def start (buf : ℕ → UInt8) (size : ℕ) : Writer where
  buf := memcpy buf 0 [0]
  size := size
  len := 0
  ok := true

/-- An empty buffer with its terminator. -/
theorem holds_start (buf : ℕ → UInt8) {size : ℕ} (h : 1 ≤ size) : (start buf size).Holds [] := by
  refine ⟨rfl, h, ?_⟩
  intro i hi
  obtain rfl : i = 0 := Nat.le_zero.mp hi
  rfl

end Writer

/-! ## Built measurements -/

/-- No numeric field reaches 2^24. -/
structure MeasurementObject.Bounded (m : MeasurementObject) : Prop where
  voltage : FloatValue.Below 0 m.voltage.toModel.unpack
  current : FloatValue.Below 0 m.current.toModel.unpack
  power : FloatValue.Below 0 m.power.toModel.unpack
  energy : FloatValue.Below 0 m.energy.toModel.unpack
  apparentPower : FloatValue.Below 0 m.apparentPower.toModel.unpack
  powerFactor : FloatValue.Below 0 m.powerFactor.toModel.unpack

/-! The two kinds of measurement that are published: the one that no reading has been
stored in yet, and those that `buildMeasurement` makes. -/

theorem below_zero (b : ℤ) : FloatValue.Below b (0.0 : Float32).toModel.unpack := by
  have hzero : (0.0 : Float32).toModel.unpack = .zero .positive := by rfl
  rw [hzero]
  trivial

theorem bounded_zeroInitialised : Measurement.zeroInitialised.object.Bounded :=
  ⟨below_zero 0, below_zero 0, below_zero 0, below_zero 0, below_zero 0, below_zero 0⟩

theorem bounded_buildMeasurement (raw : RawPzemReading) (source : MeasurementSource)
    (t : Millis) : (buildMeasurement raw source t defaultMeasurementLimits).object.Bounded := by
  cases hvalid : (buildMeasurement raw source t defaultMeasurementLimits).valid with
  | false =>
    obtain ⟨status, heq⟩ := buildMeasurement_of_invalid hvalid
    rw [heq]
    exact ⟨below_zero 0, below_zero 0, below_zero 0, below_zero 0, below_zero 0, below_zero 0⟩
  | true =>
    obtain ⟨h, heq⟩ := buildMeasurement_of_valid hvalid
    rw [heq]
    have hvoltage : FloatValue.Below (-15) raw.voltage.toModel.unpack :=
      FloatValue.below_of_le 9830400 (by decide) h.voltage_range.1 h.voltage_range.2
        (by rfl)
    have hcurrent : FloatValue.Below (-17) raw.current.toModel.unpack :=
      FloatValue.below_of_le 13107200 (by decide) h.current_range.1
        h.current_range.2 (by rfl)
    have hpower : FloatValue.Below (-9) raw.power.toModel.unpack :=
      FloatValue.below_of_le 12800000 (by decide) h.power_range.1 h.power_range.2
        (by rfl)
    have henergy : FloatValue.Below (-10) raw.energy.toModel.unpack :=
      FloatValue.below_of_le 10240000 (by decide) h.energy_range.1 h.energy_range.2
        (by rfl)
    have hfactor : FloatValue.Below (-23) raw.powerFactor.toModel.unpack :=
      FloatValue.below_of_le 8388608 (by decide) h.powerFactor_range.1
        h.powerFactor_range.2 (by rfl)
    exact {
      voltage := hvoltage.mono (by decide)
      current := hcurrent.mono (by decide)
      power := hpower.mono (by decide)
      energy := henergy.mono (by decide)
      apparentPower := (FloatValue.below_mul hvoltage hcurrent (by decide) (by decide)).mono
        (by decide)
      powerFactor := hfactor.mono (by decide) }

/-! ## The document -/

/-- The members after the first, in order. -/
def laterMembers (input : TelemetryInput) : List Json.Member :=
  let m := input.measurement
  let p := input.protection
  [.ofString (ascii "device_id") (input.deviceId.getD .empty).1,
    .ofString (ascii "firmware_version") (input.firmwareVersion.getD .empty).1,
    .ofString (ascii "source") (measurementSourceName m.source).1,
    .ofBool (ascii "simulated") (m.source = MeasurementSource.simulation),
    .ofNat (ascii "uptime_ms") input.uptimeMs.toNat,
    .ofBool (ascii "valid") m.valid,
    .ofString (ascii "measurement_status") (measurementStatusName m.status).1,
    .ofNat (ascii "measurement_age_ms") input.measurementAgeMs.toNat,
    fixedMember (ascii "voltage") 2 m.voltage,
    fixedMember (ascii "current") 3 m.current,
    fixedMember (ascii "power") 2 m.power,
    fixedMember (ascii "energy") 3 m.energy,
    fixedMember (ascii "apparent_power") 2 m.apparentPower,
    fixedMember (ascii "power_factor") 3 m.powerFactor,
    .ofString (ascii "state") (systemStateName p.state).1,
    .ofString (ascii "fault") (faultCodeName p.fault.activeFault).1,
    .ofBool (ascii "fault_active") p.fault.active,
    .ofBool (ascii "fault_acknowledged") p.fault.acknowledged,
    .ofString (ascii "last_reset_result") (resetResultName p.lastResetResult).1,
    .ofBool (ascii "relay_commanded_on") input.relayCommandedOn,
    .ofBool (ascii "relay_output_enabled") input.relayOutputEnabled]

def schemaMember : Json.Member := .ofNat (ascii "schema_version") 2

/-- **The text of the document.** -/
theorem writes_document (input : TelemetryInput) (w : Writer) :
    Writer.Writes w (w.document input) (Json.objectText schemaMember (laterMembers input)) := by
  have hbrace : '\x7b'.toUInt8 ≠ 0 := by decide
  have hbrace' : '\x7d'.toUInt8 ≠ 0 := by decide
  have hall := ((w.writes_ch hbrace).trans (Writer.writes_key_first _ (.lit "schema_version")))
    |>.trans (Writer.writes_u32 _ telemetrySchemaVersion)
    |>.trans (Writer.writes_stringMember _ (.lit "device_id") input.deviceId)
    |>.trans (Writer.writes_stringMember _ (.lit "firmware_version") input.firmwareVersion)
    |>.trans (Writer.writes_stringMember _ (.lit "source")
      (measurementSourceName input.measurement.source))
    |>.trans (Writer.writes_boolMember _ (.lit "simulated")
      (input.measurement.source = MeasurementSource.simulation))
    |>.trans (Writer.writes_natMember _ (.lit "uptime_ms") input.uptimeMs)
    |>.trans (Writer.writes_boolMember _ (.lit "valid") input.measurement.valid)
    |>.trans (Writer.writes_stringMember _ (.lit "measurement_status")
      (measurementStatusName input.measurement.status))
    |>.trans (Writer.writes_natMember _ (.lit "measurement_age_ms") input.measurementAgeMs)
    |>.trans (Writer.writes_fixedMember _ (.lit "voltage") input.measurement.voltage 2)
    |>.trans (Writer.writes_fixedMember _ (.lit "current") input.measurement.current 3)
    |>.trans (Writer.writes_fixedMember _ (.lit "power") input.measurement.power 2)
    |>.trans (Writer.writes_fixedMember _ (.lit "energy") input.measurement.energy 3)
    |>.trans (Writer.writes_fixedMember _ (.lit "apparent_power") input.measurement.apparentPower 2)
    |>.trans (Writer.writes_fixedMember _ (.lit "power_factor") input.measurement.powerFactor 3)
    |>.trans (Writer.writes_stringMember _ (.lit "state")
      (systemStateName input.protection.state))
    |>.trans (Writer.writes_stringMember _ (.lit "fault")
      (faultCodeName input.protection.fault.activeFault))
    |>.trans (Writer.writes_boolMember _ (.lit "fault_active") input.protection.fault.active)
    |>.trans (Writer.writes_boolMember _ (.lit "fault_acknowledged")
      input.protection.fault.acknowledged)
    |>.trans (Writer.writes_stringMember _ (.lit "last_reset_result")
      (resetResultName input.protection.lastResetResult))
    |>.trans (Writer.writes_boolMember _ (.lit "relay_commanded_on") input.relayCommandedOn)
    |>.trans (Writer.writes_boolMember _ (.lit "relay_output_enabled") input.relayOutputEnabled)
    |>.trans (Writer.writes_ch _ hbrace')
  refine hall.congr ?_
  simp only [Json.objectText, laterMembers, List.flatMap_cons, List.flatMap_nil, List.append_assoc,
    List.cons_append, List.nil_append]
  rfl

/-- Every member of the document is written as JSON. -/
theorem written_members {input : TelemetryInput} (h : input.measurement.Bounded) :
    ∀ m ∈ schemaMember :: laterMembers input, Json.Written m.text m.value := by
  have hfixed := fun (k : List UInt8) {v : Float32} (hv : FloatValue.Below 0 v.toModel.unpack) =>
    And.intro (written_fixedMember k hv 2 (by decide) (by decide))
      (written_fixedMember k hv 3 (by decide) (by decide))
  simp only [laterMembers, List.forall_mem_cons]
  exact ⟨Json.written_natText 2, Json.written_quoted _, Json.written_quoted _,
    Json.written_quoted _, Json.written_bool _, Json.written_natText _, Json.written_bool _,
    Json.written_quoted _, Json.written_natText _, (hfixed _ h.voltage).1, (hfixed _ h.current).2,
    (hfixed _ h.power).1, (hfixed _ h.energy).2, (hfixed _ h.apparentPower).1,
    (hfixed _ h.powerFactor).2, Json.written_quoted _, Json.written_quoted _, Json.written_bool _,
    Json.written_bool _, Json.written_quoted _, Json.written_bool _, Json.written_bool _, nofun⟩

/-- The source, read with the writer of the model: either all of it fits, or nothing. -/
theorem buildTelemetryJson_eq (buf : ℕ → UInt8) {outSize : ℕ} (h : 1 ≤ outSize)
    (input : TelemetryInput) :
    let w := (Writer.start buf outSize).document input
    buildTelemetryJson (some buf) outSize input
      = if w.ok then (some w.buf, (BitVec.ofNat 32 w.len).toInt)
        else (some (memcpy w.buf 0 [0]), -1) := by
  intro w
  unfold buildTelemetryJson
  dsimp only
  rw [if_neg (by omega)]
  change (if !w.ok then _ else _) = _
  cases w.ok <;> rfl

/-- A call that returns a length leaves the document behind. -/
theorem buildTelemetryJson_holds {out : Option (ℕ → UInt8)} {outSize : ℕ} {input : TelemetryInput}
    (hn : 0 ≤ (buildTelemetryJson out outSize input).2) :
    ∃ mem text, (buildTelemetryJson out outSize input).1 = some mem ∧ HoldsString mem text ∧
      text.1.length < outSize ∧
      text.1 = Json.objectText schemaMember (laterMembers input) := by
  have hneg : ¬ (0 : ℤ) ≤ -1 := by decide
  cases out with
  | none => exact absurd hn hneg
  | some buf =>
    rcases Nat.eq_zero_or_pos outSize with rfl | hsize
    · exact absurd hn hneg
    rw [buildTelemetryJson_eq buf hsize] at hn ⊢
    split at hn
    · rename_i hok
      rw [if_pos hok]
      have hwrites := writes_document input (.start buf outSize)
      have hholds := hwrites.holds (Writer.holds_start buf hsize) hok
      have hfits : (Json.objectText schemaMember (laterMembers input)).length < outSize :=
        hholds.fits.trans_eq hwrites.size
      exact ⟨_, ⟨_, hwrites.zero_not_mem⟩, rfl, hholds.buf, hfits, rfl⟩
    · exact absurd hn hneg

/-- **Telemetry decodes back to its input.** For every measurement that
`buildMeasurement` can produce, and the zero-initialised one: whenever a length is
returned, the text in the buffer is one JSON object with the 22 members in
order, which carry the input strings, names, flags and counts exactly and the
six numeric fields rounded to their decimals. -/
theorem telemetry_decodes (out : Option (ℕ → UInt8)) (outSize : ℕ) (input : TelemetryInput)
    (hm : input.measurement = Measurement.zeroInitialised ∨ ∃ raw source t,
      input.measurement = buildMeasurement raw source t defaultMeasurementLimits)
    (hn : 0 ≤ (buildTelemetryJson out outSize input).2) :
    ∃ mem text, (buildTelemetryJson out outSize input).1 = some mem ∧ HoldsString mem text ∧
      ∃ voltage current power energy apparentPower powerFactor : ℚ,
        Decimal.RoundedTo 2 (FloatValue.value input.measurement.voltage) voltage ∧
        Decimal.RoundedTo 3 (FloatValue.value input.measurement.current) current ∧
        Decimal.RoundedTo 2 (FloatValue.value input.measurement.power) power ∧
        Decimal.RoundedTo 3 (FloatValue.value input.measurement.energy) energy ∧
        Decimal.RoundedTo 2 (FloatValue.value input.measurement.apparentPower) apparentPower ∧
        Decimal.RoundedTo 3 (FloatValue.value input.measurement.powerFactor) powerFactor ∧
        Json.parse text.1 = some (.object [
          (ascii "schema_version", .number 2),
          (ascii "device_id", .string (input.deviceId.getD .empty).1),
          (ascii "firmware_version", .string (input.firmwareVersion.getD .empty).1),
          (ascii "source", .string (measurementSourceName input.measurement.source).1),
          (ascii "simulated", .bool (input.measurement.source = MeasurementSource.simulation)),
          (ascii "uptime_ms", .number input.uptimeMs.toNat),
          (ascii "valid", .bool input.measurement.valid),
          (ascii "measurement_status",
            .string (measurementStatusName input.measurement.status).1),
          (ascii "measurement_age_ms", .number input.measurementAgeMs.toNat),
          (ascii "voltage", .number voltage),
          (ascii "current", .number current),
          (ascii "power", .number power),
          (ascii "energy", .number energy),
          (ascii "apparent_power", .number apparentPower),
          (ascii "power_factor", .number powerFactor),
          (ascii "state", .string (systemStateName input.protection.state).1),
          (ascii "fault", .string (faultCodeName input.protection.fault.activeFault).1),
          (ascii "fault_active", .bool input.protection.fault.active),
          (ascii "fault_acknowledged", .bool input.protection.fault.acknowledged),
          (ascii "last_reset_result",
            .string (resetResultName input.protection.lastResetResult).1),
          (ascii "relay_commanded_on", .bool input.relayCommandedOn),
          (ascii "relay_output_enabled", .bool input.relayOutputEnabled)]) := by
  have h : input.measurement.Bounded := by
    rcases hm with hzero | ⟨raw, source, t, hbuilt⟩
    · rw [hzero]
      exact bounded_zeroInitialised
    · rw [hbuilt]
      exact bounded_buildMeasurement raw source t
  obtain ⟨mem, text, hmem, hholds, -, htext⟩ := buildTelemetryJson_holds hn
  have hparse := Json.parse_objectText schemaMember (laterMembers input) (written_members h)
  rw [← htext] at hparse
  exact ⟨mem, text, hmem, hholds, _, _, _, _, _, _, FloatValue.roundedTo_value 2 _,
    FloatValue.roundedTo_value 3 _, FloatValue.roundedTo_value 2 _, FloatValue.roundedTo_value 3 _,
    FloatValue.roundedTo_value 2 _, FloatValue.roundedTo_value 3 _, hparse⟩

/-- A sample at 230 V and 100 W of a device whose ID has a quote and a tab in it. -/
def oddInput : TelemetryInput where
  deviceId := some ⟨ascii "dev\t\"1", by decide⟩
  firmwareVersion := none
  measurement := meterSample 230.0 100.0 1000
  protection := (ProtectionCore.new exampleConfig).snapshot 0
  uptimeMs := 1040
  measurementAgeMs := 40
  relayCommandedOn := false
  relayOutputEnabled := true

/-- The quote and the tab come back. -/
theorem telemetry_decodes_odd :
    ∃ mem text members, (buildTelemetryJson (some fun _ => 0) 768 oddInput).1 = some mem ∧
      HoldsString mem text ∧ Json.parse text.1 = some (.object members) ∧
      members.length = 22 ∧ (ascii "device_id", Json.string (ascii "dev\t\"1")) ∈ members := by
  have hbuilt : oddInput.measurement
      = buildMeasurement
          { voltage := 230.0, current := 3.0, power := 100.0, energy := 1.0, powerFactor := 0.95 }
          .pzem 1000 defaultMeasurementLimits := rfl
  obtain ⟨mem, text, hmem, hholds, _, _, _, _, _, _, -, -, -, -, -, -, hparse⟩ :=
    telemetry_decodes (some fun _ => 0) 768 oddInput (.inr ⟨_, _, _, hbuilt⟩) (by decide +kernel)
  exact ⟨mem, text, _, hmem, hholds, hparse, rfl, .tail _ (.head _)⟩

end EnergyController
