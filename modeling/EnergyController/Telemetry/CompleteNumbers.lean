/-
EnergyController.Telemetry.CompleteNumbers — which floats the telemetry writes
in full.

`num` renders a float into 32 bytes, so 31 characters of it are written. A float
with a positive exponent is a whole number `X` (`IsWhole`), and what is left of
its text depends on how many characters the sign and the digits of `X` take
(`IsWhole.width`): up to 29, and some decimals are left, all zero; 30, and the
text ends in a bare point, which is no JSON; from 31 on there is no point, and
from 32 on the last digits are missing. Floats with other exponents are far from
the limit. `writtenInFull_iff` puts the two together.
-/
import EnergyController.Telemetry.AllOrNothing

namespace EnergyController

/-- The text is one JSON number, the float rounded to its decimals. -/
def WrittenInFull (decimals : ℕ) (v : Float32) : Prop :=
  ∃ q, Json.readNumber (numText decimals v) = some (q, []) ∧
    Decimal.RoundedTo decimals (FloatValue.value v) q

/-- The sign and the whole digits take at most 29 characters, or exactly 31; a
sign counts like one more digit. -/
def FitsScratch (v : Float32) : Prop :=
  let y := max (FloatValue.value v) (-10 * FloatValue.value v)
  y < 10 ^ 29 ∨ 10 ^ 30 ≤ y ∧ y < 10 ^ 31

/-! ## Small floats -/

section

variable {v : Float32} {decimals : ℕ}

theorem writtenInFull_of_below (h : FloatValue.Below 0 v.toModel.unpack) (hpos : 0 < decimals)
    (hd : decimals ≤ 3) : WrittenInFull decimals v := by
  obtain ⟨neg, k, htext, hvalue⟩ := FloatValue.decimalText_of_isFinite h.isFinite decimals
  have hread := Json.readNumber_fixedText hpos neg k (.inl rfl)
  rw [List.append_nil, ← hvalue] at hread
  refine ⟨FloatValue.roundedValue decimals v.toModel.unpack, ?_, FloatValue.roundedTo_value _ v⟩
  rw [numText_of_below h hd, htext, hread]

theorem abs_value_lt_of_below (h : FloatValue.Below 0 v.toModel.unpack) :
    |FloatValue.value v| < 2 ^ 24 := by
  unfold FloatValue.value
  cases hu : v.toModel.unpack with
  | infinity s => simp [FloatValue.unpackedValue]
  | notANumber => simp [FloatValue.unpackedValue]
  | zero s => simp [FloatValue.unpackedValue]
  | finite s m e hm =>
    rw [hu] at h
    have he : e ≤ 0 := h
    have hm24 : (m : ℚ) < 2 ^ 24 := by exact_mod_cast FloatValue.mantissa_lt hu
    have hpow : (2 : ℚ) ^ e ≤ 1 := zpow_le_one_of_nonpos₀ (by norm_num) he
    have hpos : (0 : ℚ) ≤ m * 2 ^ e := by positivity
    have hle : (m : ℚ) * 2 ^ e ≤ m := mul_le_of_le_one_right (by positivity) hpow
    cases s with
    | positive =>
      rw [FloatValue.unpackedValue, FloatValue.signed, abs_of_nonneg hpos]
      exact lt_of_le_of_lt hle hm24
    | negative =>
      rw [FloatValue.unpackedValue, FloatValue.signed, abs_neg, abs_of_nonneg hpos]
      exact lt_of_le_of_lt hle hm24

theorem fitsScratch_of_below (h : FloatValue.Below 0 v.toModel.unpack) : FitsScratch v := by
  obtain ⟨hlow, hhigh⟩ := abs_lt.mp (abs_value_lt_of_below h)
  refine .inl (max_lt ?_ ?_)
  · exact hhigh.trans (by norm_num)
  · linarith

end

/-! ## Large floats -/

/-- The float has a positive exponent, so its value is the whole number `X`
with the sign `s`. -/
structure IsWhole (v : Float32) (s : Float.Model.UnpackedFloat.Sign) (X : ℕ) : Prop where
  finite : v.isFinite = true
  value : FloatValue.value v = FloatValue.signed s X
  text : ∀ d, FloatValue.decimalText d v
    = Decimal.fixedText d (FloatValue.isNegative s) (X * 10 ^ d)
  pos : 0 < X

theorem isWhole_of_unpack {v : Float32} {s : Float.Model.UnpackedFloat.Sign} {m : ℕ} {e : ℤ}
    {hm : 0 < m} (hu : v.toModel.unpack = .finite s m e hm) (he : 0 < e) :
    IsWhole v s (m * 2 ^ e.toNat) := by
  refine ⟨?_, ?_, ?_, by positivity⟩
  · rw [FloatValue.isFinite_eq, hu]
    rfl
  · have hpow : (2 : ℚ) ^ e = 2 ^ e.toNat := by
      rw [← zpow_natCast, Int.toNat_of_nonneg he.le]
    rw [FloatValue.value, hu, FloatValue.unpackedValue, hpow]
    push_cast
    rfl
  · intro d
    have hscaled : FloatValue.scaled m e d = m * 2 ^ e.toNat * 10 ^ d := by
      rw [FloatValue.scaled, Int.toNat_of_nonpos (show -e ≤ 0 by omega), pow_zero]
      simp only [Decimal.roundDiv, Nat.div_one, Nat.mod_one]
      rw [if_pos (by decide)]
      ring
    rw [FloatValue.decimalText, hu, FloatValue.unpackedText, hscaled]

namespace IsWhole

variable {v : Float32} {s : Float.Model.UnpackedFloat.Sign} {X : ℕ}

/-- How many characters the sign and the digits take. -/
def width (s : Float.Model.UnpackedFloat.Sign) (X : ℕ) : ℕ :=
  (Decimal.sign (FloatValue.isNegative s)).length + (Decimal.natText X).length

theorem signed_eq (s : Float.Model.UnpackedFloat.Sign) (q : ℚ) :
    FloatValue.signed s q = if FloatValue.isNegative s then -q else q := by
  cases s <;> rfl

theorem numText_eq (h : IsWhole v s X) (d : ℕ) :
    numText d v = (Decimal.fixedText d (FloatValue.isNegative s) (X * 10 ^ d)).take 31 := by
  rw [numText, if_pos h.finite, h.text]

theorem mul_pow_div_pow (X a b : ℕ) : X * 10 ^ (a + b) / 10 ^ b = X * 10 ^ a := by
  rw [pow_add, ← Nat.mul_assoc, Nat.mul_div_cancel _ (by positivity)]

/-- At most 29 characters: decimals are left, and nothing is lost. -/
theorem readNumber_of_narrow (h : IsWhole v s X) {d : ℕ} (hd : 0 < d) (hn : width s X ≤ 29) :
    Json.readNumber (numText d v) = some (FloatValue.signed s X, []) := by
  have hwhole : ∀ a, X * 10 ^ a / 10 ^ a = X := fun a => Nat.mul_div_cancel _ (by positivity)
  -- the decimals that are left
  obtain ⟨a, b, rfl, ha, htext⟩ : ∃ a b, d = a + b ∧ 0 < a ∧ numText d v
      = Decimal.sign (FloatValue.isNegative s) ++
        (Decimal.natText X ++ (ascii "." ++ Decimal.places a (X * 10 ^ a) ++ [])) := by
    by_cases hfull : width s X + 1 + d ≤ 31
    · refine ⟨d, 0, rfl, hd, ?_⟩
      rw [h.numText_eq, List.take_of_length_le, Decimal.fixedText, hwhole]
      · simp [Decimal.sign]
      · simp only [Decimal.fixedText, List.length_append, Decimal.length_places, hwhole]
        have hdot : (ascii ".").length = 1 := rfl
        simp only [width, Decimal.sign] at hfull
        omega
    · obtain ⟨b, hb⟩ := Nat.exists_eq_add_of_le (show 30 - width s X ≤ d by omega)
      refine ⟨30 - width s X, b, hb, by omega, ?_⟩
      have htake := Decimal.take_fixedText (30 - width s X) b (FloatValue.isNegative s) (X * 10 ^ d)
      rw [← hb, hwhole] at htake
      have hlength : (Decimal.sign (FloatValue.isNegative s)).length + (Decimal.natText X).length
          + 1 + (30 - width s X) = 31 := by
        rw [width] at hn ⊢
        omega
      rw [hlength] at htake
      rw [h.numText_eq, htake, hb, mul_pow_div_pow, List.append_nil]
  have hread := Json.readNumber_places ha (FloatValue.isNegative s) (X * 10 ^ a) (.inl rfl)
  rw [hwhole] at hread
  have hvalue : ((X * 10 ^ a : ℕ) : ℚ) / 10 ^ a = X := by
    push_cast
    field_simp
  rw [htext, hread, hvalue, signed_eq]

/-- 30 characters: the text ends in a bare point. -/
theorem readNumber_of_barePoint (h : IsWhole v s X) (d : ℕ) (hn : width s X = 30) :
    Json.readNumber (numText d v) = none := by
  have htake := Decimal.take_fixedText 0 d (FloatValue.isNegative s) (X * 10 ^ d)
  rw [Nat.zero_add, Nat.mul_div_cancel _ (by positivity : 0 < 10 ^ d)] at htake
  have hlength : (Decimal.sign (FloatValue.isNegative s)).length + (Decimal.natText X).length
      + 1 + 0 = 31 := by
    rw [width] at hn
    omega
  rw [hlength] at htake
  rw [h.numText_eq, htake]
  exact Json.readNumber_barePoint _ _

/-- 31 characters or more: the leading digits, and no point. -/
theorem readNumber_of_wide (h : IsWhole v s X) (d : ℕ) {b : ℕ} (hn : width s X = 31 + b) :
    Json.readNumber (numText d v) = some (FloatValue.signed s ((X / 10 ^ b : ℕ) : ℚ), []) := by
  have hsign : (Decimal.sign (FloatValue.isNegative s)).length ≤ 1 := by
    cases FloatValue.isNegative s <;> simp [Decimal.sign, ascii]
  obtain ⟨a, ha⟩ := Nat.exists_eq_add_of_le (show
    (Decimal.sign (FloatValue.isNegative s)).length ≤ 31 by omega)
  have hlength : (Decimal.natText X).length = a + b := by
    rw [width] at hn
    omega
  have htext : numText d v = Decimal.sign (FloatValue.isNegative s) ++
      (Decimal.natText (X / 10 ^ b) ++ []) := by
    have hfront : a ≤ (Decimal.natText X).length := by omega
    rw [h.numText_eq, List.append_nil, ha, ← Decimal.take_natText (by omega) hlength]
    show (Decimal.sign _ ++ (Decimal.natText (X * 10 ^ d / 10 ^ d) ++ ascii "." ++ _)).take _ = _
    rw [List.take_length_add_append, Nat.mul_div_cancel _ (by positivity), List.append_assoc,
      List.take_append_of_le_length hfront]
  rw [htext, Json.readNumber_natText _ _ (.inl rfl), signed_eq]

/-- Missing digits are worth more than the rounding. -/
theorem not_roundedTo_of_cut (s : Float.Model.UnpackedFloat.Sign) {X b : ℕ} (hX : 0 < X)
    (hb : 0 < b) (d : ℕ) :
    ¬ Decimal.RoundedTo d (FloatValue.signed s X) (FloatValue.signed s ((X / 10 ^ b : ℕ) : ℚ)) := by
  intro hround
  have hless : X / 10 ^ b < X := Nat.div_lt_self hX (Nat.one_lt_pow hb.ne' (by decide))
  have hgap : (1 : ℚ) ≤ X - (X / 10 ^ b : ℕ) := by
    have hcast : ((X / 10 ^ b + 1 : ℕ) : ℚ) ≤ X := by exact_mod_cast hless
    push_cast at hcast ⊢
    linarith
  have hdist : |FloatValue.signed s (X : ℚ) - FloatValue.signed s ((X / 10 ^ b : ℕ) : ℚ)|
      = X - (X / 10 ^ b : ℕ) := by
    cases s with
    | positive =>
      rw [FloatValue.signed, FloatValue.signed, abs_of_nonneg]
      linarith
    | negative =>
      rw [FloatValue.signed, FloatValue.signed, ← abs_neg, abs_of_nonneg] <;> linarith
  have hclose := hround.abs_sub_le
  rw [hdist] at hclose
  linarith

/-- **What is written of a whole number.** -/
theorem writtenInFull_iff (h : IsWhole v s X) {d : ℕ} (hd : 0 < d) :
    WrittenInFull d v ↔ width s X ≤ 29 ∨ width s X = 31 := by
  have hexact : Decimal.RoundedTo d (FloatValue.signed s X) (FloatValue.signed s X) :=
    FloatValue.roundedTo_signed s (by exact_mod_cast Decimal.roundedTo_intCast d X)
  unfold WrittenInFull
  rw [h.value]
  rcases Nat.lt_or_ge (width s X) 30 with hn | hn
  · exact iff_of_true ⟨_, h.readNumber_of_narrow hd (by omega), hexact⟩ (.inl (by omega))
  rcases Nat.eq_or_lt_of_le hn with hn | hn
  · rw [h.readNumber_of_barePoint d hn.symm]
    simp
    omega
  obtain ⟨b, hb⟩ := Nat.exists_eq_add_of_le (show 31 ≤ width s X by omega)
  rw [h.readNumber_of_wide d hb]
  rcases Nat.eq_zero_or_pos b with rfl | hpos
  · rw [pow_zero, Nat.div_one]
    exact iff_of_true ⟨_, rfl, hexact⟩ (.inr hb)
  · refine iff_of_false ?_ (by omega)
    rintro ⟨q, hq, hround⟩
    obtain rfl := (Prod.mk.inj (Option.some.inj hq)).1
    exact not_roundedTo_of_cut s h.pos hpos d hround

theorem fitsScratch_iff (h : IsWhole v s X) :
    FitsScratch v ↔ width s X ≤ 29 ∨ width s X = 31 := by
  have hdigits : ∀ n, 0 < n → ((X : ℚ) < 10 ^ n ↔ (Decimal.natText X).length ≤ n) := by
    intro n hn
    rw [Decimal.length_natText_le_iff hn]
    exact_mod_cast Iff.rfl
  have hX : (0 : ℚ) ≤ X := by positivity
  unfold FitsScratch
  rw [h.value]
  cases s with
  | positive =>
    have hy : max (FloatValue.signed .positive (X : ℚ)) (-10 * FloatValue.signed .positive (X : ℚ))
        = X := max_eq_left (by show -10 * (X : ℚ) ≤ X; linarith)
    have hwidth : width .positive X = (Decimal.natText X).length := by
      simp [width, FloatValue.isNegative, Decimal.sign]
    dsimp only
    rw [hy, hwidth, ← not_lt, hdigits 29 (by decide), hdigits 30 (by decide),
      hdigits 31 (by decide)]
    omega
  | negative =>
    have hy : max (FloatValue.signed .negative (X : ℚ)) (-10 * FloatValue.signed .negative (X : ℚ))
        = X * 10 := by
      show max (-(X : ℚ)) (-10 * -X) = X * 10
      rw [max_eq_right (by linarith)]
      ring
    have hwidth : width .negative X = (Decimal.natText X).length + 1 := by
      simp [width, FloatValue.isNegative, Decimal.sign, ascii, Nat.add_comm]
    have hscale : ∀ n : ℕ, ((X : ℚ) * 10 < 10 ^ (n + 1) ↔ (X : ℚ) < 10 ^ n) := by
      intro n
      rw [pow_succ]
      exact mul_lt_mul_iff_left₀ (by norm_num)
    dsimp only
    rw [hy, hwidth, ← not_lt, hscale 28, hscale 29, hscale 30, hdigits 28 (by decide),
      hdigits 29 (by decide), hdigits 30 (by decide)]
    omega

end IsWhole

/-! ## Every float -/

/-- **A finite float is written in full exactly if it fits.** -/
theorem writtenInFull_iff {v : Float32} (hv : v.isFinite = true) {decimals : ℕ}
    (hpos : 0 < decimals) (hd : decimals ≤ 3) : WrittenInFull decimals v ↔ FitsScratch v := by
  cases hu : v.toModel.unpack with
  | infinity s => rw [FloatValue.isFinite_eq, hu] at hv; cases hv
  | notANumber => rw [FloatValue.isFinite_eq, hu] at hv; cases hv
  | zero s =>
    have hbelow : FloatValue.Below 0 v.toModel.unpack := by rw [hu]; trivial
    exact iff_of_true (writtenInFull_of_below hbelow hpos hd) (fitsScratch_of_below hbelow)
  | finite s m e hm =>
    rcases le_or_gt e 0 with he | he
    · have hbelow : FloatValue.Below 0 v.toModel.unpack := by rw [hu]; exact he
      exact iff_of_true (writtenInFull_of_below hbelow hpos hd) (fitsScratch_of_below hbelow)
    · have hwhole := isWhole_of_unpack hu he
      exact (hwhole.writtenInFull_iff hpos).trans hwhole.fitsScratch_iff.symm

/-- `null` stands for the floats that are not finite. -/
theorem numText_eq_null_iff (decimals : ℕ) (v : Float32) :
    numText decimals v = ascii "null" ↔ v.isFinite = false := by
  unfold numText
  cases hv : v.isFinite with
  | false => exact iff_of_true rfl rfl
  | true =>
    refine iff_of_false ?_ (by simp)
    intro hnull
    obtain ⟨neg, k, htext, -⟩ := FloatValue.decimalText_of_isFinite hv decimals
    rw [if_pos rfl, htext] at hnull
    have hmem : 'n'.toUInt8 ∈ (Decimal.fixedText decimals neg k).take 31 := by
      rw [hnull]
      decide
    exact Decimal.not_mem_fixedText (by decide) (by decide) _ _ _ (List.mem_of_mem_take hmem)

/-! ## The numeric fields -/

/-- The numeric fields of a measurement: the key, the decimals and the value. -/
def numericFields (m : MeasurementObject) : List (List UInt8 × ℕ × Float32) :=
  [(ascii "voltage", 2, m.voltage), (ascii "current", 3, m.current), (ascii "power", 2, m.power),
    (ascii "energy", 3, m.energy), (ascii "apparent_power", 2, m.apparentPower),
    (ascii "power_factor", 3, m.powerFactor)]

theorem fixedMember_mem {input : TelemetryInput} {key : List UInt8} {decimals : ℕ} {v : Float32}
    (h : (key, decimals, v) ∈ numericFields input.measurement) :
    fixedMember key decimals v ∈ laterMembers input := by
  have hfront : (numericFields input.measurement).map (fun f => fixedMember f.1 f.2.1 f.2.2)
      <+: (laterMembers input).drop 8 := ⟨_, rfl⟩
  have hmem := List.mem_map_of_mem (f := fun f => fixedMember f.1 f.2.1 f.2.2) h
  exact List.mem_of_mem_drop (hfront.subset hmem)

theorem decimals_of_mem {m : MeasurementObject} {key : List UInt8} {decimals : ℕ} {v : Float32}
    (h : (key, decimals, v) ∈ numericFields m) : 0 < decimals ∧ decimals ≤ 3 := by
  have hall : ∀ f ∈ numericFields m, 0 < f.2.1 ∧ f.2.1 ≤ 3 := by
    simp [numericFields]
  exact hall _ h

/-- **Which numbers are complete**: the document is an object whose members
include the six numeric fields, in every buffer that holds it; a finite field is
written as one JSON number with its decimals exactly if it fits the scratch
buffer, and `null` is written exactly for a field that is not finite. -/
theorem buildTelemetryJson_complete_numbers (input : TelemetryInput) :
    documentText input = Json.objectText schemaMember (laterMembers input) ∧
    (∀ buf outSize, (documentText input).length < outSize →
      ∃ mem n, buildTelemetryJson (some buf) outSize input = (some mem, n) ∧
        ∀ i < (documentText input).length, mem i = (documentText input).getD i 0) ∧
    ∀ key decimals v, (key, decimals, v) ∈ numericFields input.measurement →
      fixedMember key decimals v ∈ laterMembers input ∧
      (v.isFinite = true → (WrittenInFull decimals v ↔ FitsScratch v)) ∧
      (numText decimals v = ascii "null" ↔ v.isFinite = false) := by
  refine ⟨documentText_eq input, ?_, ?_⟩
  · intro buf outSize hfits
    refine ⟨_, _, buildTelemetryJson_of_fits buf hfits, ?_⟩
    intro i hi
    exact (Writer.holds_document buf hfits).buf i hi.le
  · intro key decimals v hfield
    obtain ⟨hpos, hd⟩ := decimals_of_mem hfield
    exact ⟨fixedMember_mem hfield, fun hv => writtenInFull_iff hv hpos hd,
      numText_eq_null_iff decimals v⟩

/-- 2·10^29 has 30 digits: the power is cut behind its point. -/
theorem cut_number_is_no_json :
    ¬ ∀ m : MeasurementObject, ∀ key decimals v, (key, decimals, v) ∈ numericFields m →
      v.isFinite = true → WrittenInFull decimals v := by
  intro hall
  have hread : Json.readNumber (numText 2 2.0e29) = none := by decide +kernel
  obtain ⟨q, hq, -⟩ := hall
    { (meterSample 230.0 600.0 1000).object with power := 2.0e29 } (ascii "power") 2
    2.0e29 (.tail _ (.tail _ (.head _))) (by decide +kernel)
  rw [hread] at hq
  cases hq

end EnergyController
