/-
EnergyController.Lib.FloatBounds — the order of binary32 floats is the order of
their values, and what that says of decimal texts.

A float above the subnormals has a mantissa of full length, so that exponent and
mantissa compare lexicographically as the magnitudes do (`magnitude_lt`).
With `le_iff_value_le` a bound that a program checks with `≤` is a bound on the
value, hence on the digits that `printf` writes (`printfText_of_range`).
-/
import EnergyController.Lib.FloatValue

namespace FloatValue

open Float.Model
open Float.Model.UnpackedFloat (Sign)

/-! ## The order of values -/

/-- Below the exponent of the subnormals there is nothing, and above it every
mantissa is full. -/
theorem mantissa_full {x : Float32} {s : Sign} {m : ℕ} {e : ℤ} {hm : 0 < m}
    (h : x.toModel.unpack = .finite s m e hm) : e = -149 ∨ -149 < e ∧ 2 ^ 23 ≤ m := by
  have hbias : (Format.binary32.exponentBias : ℤ) = 127 := by decide
  unfold Float32.Model.unpack UnpackedFloat.unpack at h
  dsimp only at h
  split at h
  · split at h <;> cases h
  split at h
  · next hexponent =>
    split at h
    · cases h
    · obtain ⟨-, -, rfl⟩ := UnpackedFloat.finite.inj h
      left
      rw [hexponent, hbias]
      rfl
  · next hexponent =>
    obtain ⟨-, rfl, rfl⟩ := UnpackedFloat.finite.inj h
    have hpos : (@UnpackedFloat.unpackExponent .binary32 x.toModel.toBits.toBitVec).toNat ≠ 0 :=
      fun hzero => hexponent (BitVec.eq_of_toNat_eq hzero)
    have hmantissa : 2 ^ 23 ≤
        (1#1 ++ @UnpackedFloat.unpackMantissa .binary32 x.toModel.toBits.toBitVec).toNat := by
      rw [BitVec.toNat_append]
      exact Nat.left_le_or
    rw [hbias]
    push_cast
    omega

/-- Magnitudes compare as exponent and mantissa do. -/
theorem magnitude_lt {x y : Float32} {s t : Sign} {m n : ℕ} {e f : ℤ} {hm : 0 < m} {hn : 0 < n}
    (hx : x.toModel.unpack = .finite s m e hm) (hy : y.toModel.unpack = .finite t n f hn)
    (h : e < f ∨ e = f ∧ m < n) : (m * 2 ^ e : ℚ) < n * 2 ^ f := by
  rcases h with hlt | ⟨rfl, hlt⟩
  · have hfull : 2 ^ 23 ≤ n := by
      rcases mantissa_full hx with hlow | ⟨hlow, -⟩ <;>
        rcases mantissa_full hy with hlow' | ⟨-, hfull⟩ <;> omega
    have hm24 : (m : ℚ) < 2 ^ 24 := by exact_mod_cast mantissa_lt hx
    have hn23 : (2 ^ 23 : ℚ) ≤ n := by exact_mod_cast hfull
    calc (m * 2 ^ e : ℚ) < 2 ^ 24 * 2 ^ e := by gcongr
      _ = 2 ^ 23 * 2 ^ (e + 1) := by rw [zpow_add₀ (by norm_num)]; ring
      _ ≤ 2 ^ 23 * 2 ^ f := by gcongr <;> first | omega | norm_num
      _ ≤ n * 2 ^ f := by gcongr
  · have hlt : (m : ℚ) < n := by exact_mod_cast hlt
    gcongr

theorem magnitude_pos {m : ℕ} (hm : 0 < m) (e : ℤ) : (0 : ℚ) < m * 2 ^ e := by
  have : (0 : ℚ) < m := by exact_mod_cast hm
  positivity

/-- A finite float has one of three forms. -/
theorem unpack_of_isFinite {x : Float32} (hx : x.isFinite = true) :
    (∃ s, x.toModel.unpack = .zero s ∧ value x = 0) ∨
      (∃ m e hm, x.toModel.unpack = .finite .positive m e hm ∧ value x = m * 2 ^ e) ∨
      (∃ m e hm, x.toModel.unpack = .finite .negative m e hm ∧ value x = -(m * 2 ^ e)) := by
  rw [isFinite_eq] at hx
  unfold value
  cases hu : x.toModel.unpack with
  | infinity s => rw [hu] at hx; cases hx
  | notANumber => rw [hu] at hx; cases hx
  | zero s => exact .inl ⟨s, rfl, rfl⟩
  | finite s m e hm =>
    cases s with
    | positive => exact .inr (.inl ⟨m, e, hm, rfl, rfl⟩)
    | negative => exact .inr (.inr ⟨m, e, hm, rfl, rfl⟩)

/-- The comparison of the model is by rank: sign, then exponent, then mantissa. Full
mantissas make the rank the order of the values. -/
theorem value_lt_value {x y : Float32} (hx : x.isFinite = true) (hy : y.isFinite = true)
    (h : x < y) : value x < value y := by
  obtain ⟨a, ha, b, hb, hab⟩ := (FloatOrder.lt_iff_rank x y).mp h
  obtain ⟨s, hu, hval⟩ | ⟨m, e, hm, hu, hval⟩ | ⟨m, e, hm, hu, hval⟩ := unpack_of_isFinite hx <;>
    obtain ⟨t, hv, hval'⟩ | ⟨n, f, hn, hv, hval'⟩ | ⟨n, f, hn, hv, hval'⟩ :=
      unpack_of_isFinite hy <;>
    rw [hu] at ha <;> rw [hv] at hb <;> obtain rfl := Option.some.inj ha <;>
    obtain rfl := Option.some.inj hb <;> rw [hval, hval']
  case inl.inl => simp at hab
  case inl.inr.inl => exact magnitude_pos hn f
  case inl.inr.inr => simp [Prod.Lex.toLex_lt_toLex] at hab
  case inr.inl.inl => simp [Prod.Lex.toLex_lt_toLex] at hab
  case inr.inl.inr.inl =>
    simp only [Prod.Lex.toLex_lt_toLex, lt_self_iff_false, false_or, true_and] at hab
    exact magnitude_lt hu hv (by omega)
  case inr.inl.inr.inr => simp [Prod.Lex.toLex_lt_toLex] at hab
  case inr.inr.inl => exact neg_neg_of_pos (magnitude_pos hm e)
  case inr.inr.inr.inl =>
    exact (neg_neg_of_pos (magnitude_pos hm e)).trans (magnitude_pos hn f)
  case inr.inr.inr.inr =>
    simp only [Prod.Lex.toLex_lt_toLex, lt_self_iff_false, false_or, true_and] at hab
    exact neg_lt_neg (magnitude_lt hv hu (by omega))

/-- Equal in rank is equal in value: the two zeros are. -/
theorem value_eq_of_rank {x y : Float32} (hx : x.isFinite = true) (hy : y.isFinite = true)
    (h : FloatOrder.rank x.toModel.unpack = FloatOrder.rank y.toModel.unpack) :
    value x = value y := by
  obtain ⟨s, hu, hval⟩ | ⟨m, e, hm, hu, hval⟩ | ⟨m, e, hm, hu, hval⟩ := unpack_of_isFinite hx <;>
    obtain ⟨t, hv, hval'⟩ | ⟨n, f, hn, hv, hval'⟩ | ⟨n, f, hn, hv, hval'⟩ :=
      unpack_of_isFinite hy <;>
    rw [hu, hv] at h <;> simp [FloatOrder.rank] at h <;> rw [hval, hval']
  case inr.inl.inr.inl => rw [h.1, h.2]
  case inr.inr.inr.inr => rw [h.1, h.2]

/-- **The comparison of floats compares their values.** -/
theorem le_iff_value_le {x y : Float32} (hx : x.isFinite = true) (hy : y.isFinite = true) :
    x ≤ y ↔ value x ≤ value y := by
  have hxn := FloatOrder.isNaN_of_isFinite hx
  have hyn := FloatOrder.isNaN_of_isFinite hy
  constructor
  · intro h
    obtain ⟨a, ha, b, hb, hab⟩ := (FloatOrder.le_iff_rank x y).mp h
    rcases hab.lt_or_eq with hlt | rfl
    · exact (value_lt_value hx hy ((FloatOrder.lt_iff_rank x y).mpr ⟨a, ha, b, hb, hlt⟩)).le
    · exact (value_eq_of_rank hx hy (ha.trans hb.symm)).le
  · intro h
    by_contra hle
    exact absurd (value_lt_value hy hx (FloatOrder.lt_of_not_le hxn hyn hle)) (not_lt.mpr h)

/-- **Finite floats compare as their values.** -/
theorem lt_iff_value_lt {x y : Float32} (hx : x.isFinite = true) (hy : y.isFinite = true) :
    x < y ↔ value x < value y := by
  rw [FloatOrder.lt_iff_not_le (FloatOrder.isNaN_of_isFinite hy) (FloatOrder.isNaN_of_isFinite hx),
    le_iff_value_le hy hx, not_le]

/-! ## Text -/

/-- `k / 10^d` as `%.df` writes it: without decimals there is no point. -/
def pointText (d : ℕ) (neg : Bool) (k : ℕ) : List UInt8 :=
  Decimal.sign neg ++ Decimal.natText (k / 10 ^ d) ++
    (if d = 0 then [] else ascii "." ++ Decimal.places d k)

/-- What `printf` writes for `%.df`, also without decimals. -/
def printfText (d : ℕ) (x : Float32) : List UInt8 :=
  match x.toModel.unpack with
  | .finite s m e _ => pointText d (isNegative s) (scaled m e d)
  | .zero s => pointText d (isNegative s) 0
  | .infinity s => Decimal.sign (isNegative s) ++ ascii "inf"
  | .notANumber => ascii "nan"

/-- The minimum width of a conversion. -/
def padLeft (width : ℕ) (text : List UInt8) : List UInt8 :=
  List.replicate (width - text.length) ' '.toUInt8 ++ text

theorem length_padLeft (width : ℕ) (text : List UInt8) :
    (padLeft width text).length = max width text.length := by
  rw [padLeft, List.length_append, List.length_replicate]
  omega

/-- Rounding to digits does not pass a number that has no more digits. -/
theorem scaled_le {m : ℕ} {e : ℤ} {d n : ℕ} (h : (m * 2 ^ e : ℚ) ≤ n / 10 ^ d) :
    scaled m e d ≤ n := by
  obtain ⟨k, hk, hnear, -⟩ := roundedTo_scaled m e d
  have hpow : (0 : ℚ) < 10 ^ d := by positivity
  have hscaled : (scaled m e d : ℚ) = k := by
    field_simp at hk
    exact hk
  have hupper : (m * 2 ^ e * 10 ^ d : ℚ) ≤ n := by
    rwa [le_div_iff₀ hpow] at h
  have hlt : (scaled m e d : ℚ) < (n + 1 : ℕ) := by
    rw [hscaled]
    push_cast
    have := (abs_le.mp hnear).1
    linarith
  exact Nat.lt_succ_iff.mp (by exact_mod_cast hlt)

/-- A float that a program has found to be between zero and a bound is written
as its rounded value, which is within the bound; a minus sign is that of -0. -/
theorem printfText_of_range {x c : Float32} {d n : ℕ} (hx : x.isFinite = true)
    (hc : c.isFinite = true) (hrange : 0.0 ≤ x ∧ x ≤ c) (hbound : value c ≤ n / 10 ^ d) :
    ∃ neg k, printfText d x = pointText d neg k ∧ k ≤ n ∧ (neg = true → k = 0) ∧
      Decimal.RoundedTo d (value x) (k / 10 ^ d) := by
  have hround := roundedTo_value d x
  have hlow := (le_iff_value_le (by decide) hx).mp hrange.1
  have hhigh := ((le_iff_value_le hx hc).mp hrange.2).trans hbound
  have hzero : value 0.0 = 0 := rfl
  rw [isFinite_eq] at hx
  unfold value at hround hlow hhigh hzero
  unfold value printfText
  cases hu : x.toModel.unpack with
  | infinity s => rw [hu] at hx; cases hx
  | notANumber => rw [hu] at hx; cases hx
  | zero s =>
    rw [hu] at hround
    refine ⟨isNegative s, 0, rfl, Nat.zero_le n, fun _ => rfl, ?_⟩
    rw [Nat.cast_zero, zero_div]
    exact hround
  | finite s m e hm =>
    rw [hu] at hround hlow hhigh
    rw [hzero] at hlow
    cases s with
    | negative =>
      have := magnitude_pos hm e
      have hlow : (0 : ℚ) ≤ -(m * 2 ^ e) := hlow
      linarith
    | positive => exact ⟨false, scaled m e d, rfl, scaled_le hhigh, nofun, hround⟩

theorem length_pointText_le {d n w k : ℕ} {neg : Bool} (hw : 0 < w) (hn : n / 10 ^ d < 10 ^ w)
    (hk : k ≤ n) (hneg : neg = true → k = 0) :
    (pointText d neg k).length ≤ max 2 w + (if d = 0 then 0 else 1 + d) := by
  have hfraction : (if d = 0 then [] else ascii "." ++ Decimal.places d k).length
      ≤ if d = 0 then 0 else 1 + d := by
    split
    · exact Nat.le_refl 0
    · rw [List.length_append, Decimal.length_places]
      exact Nat.le_refl _
  have hwhole : (Decimal.sign neg ++ Decimal.natText (k / 10 ^ d)).length ≤ max 2 w := by
    cases neg with
    | true =>
      rw [hneg rfl, Nat.zero_div]
      exact Nat.le_max_left 2 w
    | false =>
      refine le_trans ?_ (Nat.le_max_right 2 w)
      exact Decimal.length_natText_le hw (lt_of_le_of_lt (Nat.div_le_div_right hk) hn)
  rw [pointText, List.length_append]
  omega

/-- Digits, a point and a sign: no other byte. -/
theorem not_mem_pointText {c : UInt8} (hdigit : Decimal.isDigit c = false)
    (hother : c ∉ ascii "-" ++ ascii ".") (d : ℕ) (neg : Bool) (k : ℕ) :
    c ∉ pointText d neg k := by
  intro h
  rcases List.mem_append.mp h with h | h
  · rcases List.mem_append.mp h with h | h
    · cases neg with
      | true => exact hother (List.mem_append_left _ h)
      | false => cases h
    · rw [Decimal.isDigit_of_mem_natText h] at hdigit
      cases hdigit
  · split at h
    · cases h
    · rcases List.mem_append.mp h with h | h
      · exact hother (List.mem_append_right _ h)
      · rw [Decimal.isDigit_of_mem_places h] at hdigit
        cases hdigit

end FloatValue
