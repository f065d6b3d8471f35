/-
EnergyController.Lib.FloatValue — the number that a binary32 float stands
for, and its decimal text.

`value` is the exact rational of a finite float. `decimalText d` is what
`printf` writes for it with `%.nf`: the value rounded to `d` decimals, as
`roundedTo_value` states. `Below b` bounds the exponent, hence the magnitude and
the length of the text; it holds below a constant, and `below_mul` carries it
through a product, where overflow is excluded on the way.
-/
import EnergyController.Lib.Decimal
import EnergyController.Lib.FloatOrder

namespace FloatValue

open Float.Model
open Float.Model.UnpackedFloat (Sign ExtendedMantissa Accuracy)

/-! ## Value and text -/

def signed (s : Sign) (x : ℚ) : ℚ :=
  match s with
  | .negative => -x
  | .positive => x

def isNegative : Sign → Bool
  | .negative => true
  | .positive => false

/-- The value of a finite float; 0 for the others. -/
def unpackedValue : UnpackedFloat → ℚ
  | .finite s m e _ => signed s (m * 2 ^ e)
  | _ => 0

def value (x : Float32) : ℚ := unpackedValue x.toModel.unpack

/-- `m * 2^e * 10^d`, rounded to the nearest, ties to even. -/
def scaled (m : ℕ) (e : ℤ) (d : ℕ) : ℕ :=
  Decimal.roundDiv (m * 10 ^ d * 2 ^ e.toNat) (2 ^ (-e).toNat)

def unpackedText (d : ℕ) : UnpackedFloat → List UInt8
  | .finite s m e _ => Decimal.fixedText d (isNegative s) (scaled m e d)
  | .zero s => Decimal.fixedText d (isNegative s) 0
  | .infinity s => (if isNegative s then ascii "-" else []) ++ ascii "inf"
  | .notANumber => ascii "nan"

/-- What `printf` writes for `%.df`, in full. -/
def decimalText (d : ℕ) (x : Float32) : List UInt8 := unpackedText d x.toModel.unpack

/-- The number that `unpackedText` stands for. -/
def roundedValue (d : ℕ) : UnpackedFloat → ℚ
  | .finite s m e _ => signed s (scaled m e d / 10 ^ d)
  | _ => 0

/-- The sign makes no difference to how near two numbers are. -/
theorem roundedTo_signed {d : ℕ} {x v : ℚ} (s : Sign) (h : Decimal.RoundedTo d x v) :
    Decimal.RoundedTo d (signed s x) (signed s v) := by
  cases s with
  | negative => exact h.neg
  | positive => exact h

/-- The digits that are printed are those of the number rounded to them: `scaled`
rounds the exact quotient, and a tie goes to the even digit. -/
theorem roundedTo_scaled (m : ℕ) (e : ℤ) (d : ℕ) :
    Decimal.RoundedTo d (m * 2 ^ e) (scaled m e d / 10 ^ d) := by
  have h := Decimal.roundedTo_roundDiv d (m * 10 ^ d * 2 ^ e.toNat) (2 ^ (-e).toNat) (by positivity)
  have hpow : (2 : ℚ) ^ e = 2 ^ e.toNat / 2 ^ (-e).toNat := by
    rw [← zpow_natCast, ← zpow_natCast, ← zpow_sub₀ (by norm_num)]
    congr 1
    omega
  have hvalue : ((m * 10 ^ d * 2 ^ e.toNat : ℕ) : ℚ) / (2 ^ (-e).toNat : ℕ) / 10 ^ d
      = m * 2 ^ e := by
    rw [hpow]
    push_cast
    field_simp
  rw [hvalue] at h
  exact h

/-- **Correct rounding.** -/
theorem roundedTo_value (d : ℕ) (x : Float32) :
    Decimal.RoundedTo d (value x) (roundedValue d x.toModel.unpack) := by
  unfold value
  cases x.toModel.unpack with
  | finite s m e hm => exact roundedTo_signed s (roundedTo_scaled m e d)
  | zero s => exact Decimal.roundedTo_zero d
  | infinity s => exact Decimal.roundedTo_zero d
  | notANumber => exact Decimal.roundedTo_zero d

/-! ## Exponent bounds -/

/-- Zero, or finite with an exponent of at most `b`. -/
def Below (b : ℤ) : UnpackedFloat → Prop
  | .finite _ _ e _ => e ≤ b
  | .zero _ => True
  | .infinity _ => False
  | .notANumber => False

theorem isFinite_eq (x : Float32) : x.isFinite = x.toModel.unpack.isFinite := rfl

/-- A bound on the exponent leaves out what is not finite. -/
theorem Below.isFinite {b : ℤ} {x : Float32} (h : Below b x.toModel.unpack) :
    x.isFinite = true := by
  rw [isFinite_eq]
  cases hx : x.toModel.unpack <;> rw [hx] at h
  · exact h.elim
  · exact h.elim
  · rfl
  · rfl

theorem Below.mono {b b' : ℤ} {f : UnpackedFloat} (h : Below b f) (hb : b ≤ b') : Below b' f := by
  cases f with
  | finite s m e hm => exact Int.le_trans h hb
  | zero s => trivial
  | infinity s => exact h
  | notANumber => exact h

/-- Between zero and a constant. -/
theorem below_of_le {x c : Float32} {e : ℤ} (m : ℕ) (hm : 0 < m) (h0 : 0.0 ≤ x) (hx : x ≤ c)
    (hc : c.toModel.unpack = .finite .positive m e hm) : Below e x.toModel.unpack := by
  obtain ⟨a, ha, b, hb, hab⟩ := (FloatOrder.le_iff_rank _ _).mp h0
  obtain ⟨b', hb', r, hr, hbr⟩ := (FloatOrder.le_iff_rank _ _).mp hx
  rw [hc] at hr
  obtain rfl : b = b' := Option.mem_unique hb hb'
  obtain rfl : toLex (1, toLex (e, (m : ℤ))) = r := Option.some.inj hr
  obtain rfl : toLex (0, toLex (0, 0)) = a := Option.some.inj ha
  cases hu : x.toModel.unpack with
  | zero s => trivial
  | notANumber =>
    rw [hu] at hb
    cases hb
  | infinity s =>
    rw [hu] at hb
    cases s <;> obtain rfl := Option.some.inj hb
    · simp [Prod.Lex.toLex_le_toLex] at hab
    · simp [Prod.Lex.toLex_le_toLex] at hbr
  | finite s m' e' hm' =>
    rw [hu] at hb
    cases s <;> obtain rfl := Option.some.inj hb
    · simp [Prod.Lex.toLex_le_toLex] at hab
    · simp only [Prod.Lex.toLex_le_toLex, lt_self_iff_false, false_or, true_and] at hbr
      show e' ≤ e
      omega

/-! ## Products -/

/-! ### Shifts of the model

A shift drops bits and keeps two of them for the rounding; the mantissa is divided,
and the exponent goes up to the target, where the mantissa has 24 bits. -/

theorem mantissa_shiftRight (em : ExtendedMantissa) (n : ℕ) :
    (em >>> n).mantissa = em.mantissa / 2 ^ n := by
  show (n.repeat ExtendedMantissa.shiftRightOne em).mantissa = _
  induction n with
  | zero => simp [Nat.repeat]
  | succ n ih =>
    show (n.repeat ExtendedMantissa.shiftRightOne em).mantissa / 2 = _
    rw [ih, Nat.div_div_eq_div_mul, ← pow_succ]

theorem mantissa_ofMantissaAndAccuracy (m : ℕ) (acc : Accuracy) :
    (ExtendedMantissa.ofMantissaAndAccuracy m acc).mantissa = m := by
  rcases acc with _ | (_ | _ | _) <;> rfl

/-- Rounding adds one at most. -/
theorem roundedMantissa_le (em : ExtendedMantissa) : em.roundedMantissa ≤ em.mantissa + 1 := by
  rcases em with ⟨m, _ | _, _ | _⟩
  · exact Nat.le_succ m
  · exact Nat.le_succ m
  · show m + m % 2 ≤ m + 1
    omega
  · exact le_refl _

theorem exponent_shiftToTargetExponent (m : ℕ) (e : ℤ) (acc : Accuracy) :
    (UnpackedFloat.shiftToTargetExponent Format.binary32 m e acc).2
      = max e (max (m.log2 + 1 + e - 24) (-149)) := by
  have hmin : Format.binary32.minExponent = -149 := by decide
  have hbits : Format.binary32.mantissaBits = 24 := rfl
  simp only [UnpackedFloat.shiftToTargetExponent, UnpackedFloat.shiftToExponent,
    Format.targetExponent, totalExponent, hmin, hbits]
  omega

/-- A shifted mantissa has at most 24 bits. -/
theorem mantissa_shiftToTargetExponent_lt (m : ℕ) (e : ℤ) (acc : Accuracy) :
    (UnpackedFloat.shiftToTargetExponent Format.binary32 m e acc).1.mantissa < 2 ^ 24 := by
  have hbits : Format.binary32.mantissaBits = 24 := rfl
  simp only [UnpackedFloat.shiftToTargetExponent, UnpackedFloat.shiftToExponent,
    mantissa_shiftRight, mantissa_ofMantissaAndAccuracy]
  rw [Nat.div_lt_iff_lt_mul (by positivity), ← pow_add]
  refine lt_of_lt_of_le Nat.lt_log2_self (Nat.pow_le_pow_right (by decide) ?_)
  simp only [Format.targetExponent, totalExponent, hbits]
  omega

/-- Rounding a mantissa of `n` bits to binary32 raises the exponent by `n - 24`,
and by one more if the rounding carries. -/
theorem below_roundWithAccuracy {n m : ℕ} {e : ℤ} (hm : m < 2 ^ n) (hn : 24 ≤ n) (s : Sign)
    (acc : Accuracy) :
    Below (max (e + n - 24) (-149) + 1)
      (UnpackedFloat.roundWithAccuracy Format.binary32 s m e acc) := by
  set first := UnpackedFloat.shiftToTargetExponent Format.binary32 m e acc with hfirst
  set last := UnpackedFloat.shiftToTargetExponent Format.binary32 first.1.roundedMantissa first.2
    .exact with hlast
  have hround : UnpackedFloat.roundWithAccuracy Format.binary32 s m e acc
      = if h : last.1.mantissa = 0 then .zero s
        else .finite s last.1.mantissa last.2 (Nat.pos_of_ne_zero h) := rfl
  have hlog : m.log2 + 1 ≤ n := by
    rcases Nat.eq_zero_or_pos m with rfl | hpos
    · rw [Nat.log2_zero]
      omega
    · exact (Nat.log2_lt (by omega)).mpr hm
  have hfirstExp : first.2 = max e (max (m.log2 + 1 + e - 24) (-149)) :=
    exponent_shiftToTargetExponent m e acc
  -- the rounding can carry into a 25th bit
  have hlog' : first.1.roundedMantissa.log2 ≤ 24 := by
    have hsmall : first.1.mantissa < 2 ^ 24 := mantissa_shiftToTargetExponent_lt m e acc
    have hle := roundedMantissa_le first.1
    rcases Nat.eq_zero_or_pos first.1.roundedMantissa with h0 | hpos
    · rw [h0, Nat.log2_zero]
      omega
    · have hlt : first.1.roundedMantissa < 2 ^ 25 := by omega
      exact Nat.le_of_lt_succ ((Nat.log2_lt (by omega)).mpr hlt)
  have hlastExp : last.2
      = max first.2 (max (first.1.roundedMantissa.log2 + 1 + first.2 - 24) (-149)) :=
    exponent_shiftToTargetExponent _ _ _
  rw [hround]
  split
  · trivial
  · show last.2 ≤ _
    omega

/-- A float with a moderate exponent survives packing. -/
theorem below_pack {b : ℤ} {f : UnpackedFloat} (h : Below b f) (hb : b ≤ 104) (hlow : -149 ≤ b) :
    Below b (Float32.Model.pack f).unpack := by
  unfold Float32.Model.unpack Float32.Model.pack
  cases f with
  | infinity s => exact h.elim
  | notANumber => exact h.elim
  | zero s => simp [UnpackedFloat.pack, UnpackedFloat.unpack, UnpackedFloat.packedZero, Below]
  | finite s m e hm =>
    have he : e ≤ b := h
    have hbias : Format.binary32.exponentBias = 127 := by decide
    have hbiased : ((e + 127 + 23).toNat : ℤ) ≤ b + 150 := by omega
    simp only [UnpackedFloat.pack, hbias]
    rw [if_neg (by show ¬ 2 ^ 8 ≤ (e + (127 : ℕ) + (23 : ℕ)).toNat + 1; omega)]
    split
    · simp only [UnpackedFloat.unpack, UnpackedFloat.unpackExponent_packComponents, hbias]
      split
      · rename_i hones
        have := congrArg BitVec.toNat hones
        rw [BitVec.toNat_ofNat, show (-1#8 : BitVec 8).toNat = 255 from rfl] at this
        rw [Nat.mod_eq_of_lt (by omega)] at this
        omega
      split
      · split
        · trivial
        · show ((BitVec.ofNat 8 _).toNat : ℤ) - _ + 1 ≤ b
          rename_i hzero _
          rw [hzero]
          show (0 : ℤ) - (127 + 23) + 1 ≤ b
          omega
      · show ((BitVec.ofNat 8 _).toNat : ℤ) - (127 + 23) ≤ b
        rw [BitVec.toNat_ofNat]
        have := Nat.mod_le (e + (127 : ℕ) + (23 : ℕ)).toNat (2 ^ 8)
        omega
    · simp only [UnpackedFloat.unpack, UnpackedFloat.unpackExponent_packComponents, hbias]
      rw [if_neg (by decide), if_pos trivial]
      split
      · trivial
      · show (0 : ℤ) - (127 + 23) + 1 ≤ b
        omega

/-- Binary32 mantissas have 24 bits. -/
theorem mantissa_lt {x : Float32} {s : Sign} {m : ℕ} {e : ℤ} {hm : 0 < m}
    (h : x.toModel.unpack = .finite s m e hm) : m < 2 ^ 24 := by
  unfold Float32.Model.unpack UnpackedFloat.unpack at h
  dsimp only at h
  split at h
  · split at h <;> cases h
  split at h
  · split at h
    · cases h
    · obtain ⟨-, rfl, -⟩ := UnpackedFloat.finite.inj h
      exact lt_trans (BitVec.isLt _) (by decide)
  · obtain ⟨-, rfl, -⟩ := UnpackedFloat.finite.inj h
    exact BitVec.isLt _

/-- **Products of bounded floats.** -/
theorem below_mul {x y : Float32} {b c : ℤ} (hx : Below b x.toModel.unpack)
    (hy : Below c y.toModel.unpack) (hhigh : b + c + 25 ≤ 104) (hlow : -173 ≤ b + c) :
    Below (b + c + 25) (x * y).toModel.unpack := by
  refine below_pack ?_ hhigh (by omega)
  cases hu : x.toModel.unpack with
  | infinity s => rw [hu] at hx; exact hx.elim
  | notANumber => rw [hu] at hx; exact hx.elim
  | zero s =>
    cases hv : y.toModel.unpack with
    | infinity t => rw [hv] at hy; exact hy.elim
    | notANumber => rw [hv] at hy; exact hy.elim
    | zero t => trivial
    | finite t m e hm => trivial
  | finite s m e hm =>
    cases hv : y.toModel.unpack with
    | infinity t => rw [hv] at hy; exact hy.elim
    | notANumber => rw [hv] at hy; exact hy.elim
    | zero t => trivial
    | finite t m' e' hm' =>
      rw [hu] at hx
      rw [hv] at hy
      have he : e ≤ b := hx
      have he' : e' ≤ c := hy
      have hprod : m * m' < 2 ^ 48 :=
        calc m * m' < 2 ^ 24 * 2 ^ 24 := Nat.mul_lt_mul'' (mantissa_lt hu) (mantissa_lt hv)
          _ = 2 ^ 48 := by norm_num
      refine (below_roundWithAccuracy hprod (by decide) (s * t) .exact).mono ?_
      push_cast
      omega

/-! ## The text of a bounded float -/

theorem zero_not_mem_decimalText (d : ℕ) (x : Float32) : 0 ∉ decimalText d x := by
  unfold decimalText
  cases x.toModel.unpack with
  | infinity s =>
    have h : ∀ neg : Bool, 0 ∉ (if neg then ascii "-" else []) ++ ascii "inf" := by decide
    exact h (isNegative s)
  | notANumber =>
    show 0 ∉ ascii "nan"
    decide
  | zero s => exact Decimal.zero_not_mem_fixedText d _ _
  | finite s m e hm => exact Decimal.zero_not_mem_fixedText d _ _

/-- The text of a finite float is that of its rounded value. -/
theorem decimalText_of_isFinite {x : Float32} (h : x.isFinite = true) (d : ℕ) :
    ∃ neg k, decimalText d x = Decimal.fixedText d neg k ∧
      roundedValue d x.toModel.unpack = if neg then -((k : ℚ) / 10 ^ d) else (k : ℚ) / 10 ^ d := by
  rw [isFinite_eq] at h
  unfold decimalText
  cases hu : x.toModel.unpack with
  | infinity s => rw [hu] at h; cases h
  | notANumber => rw [hu] at h; cases h
  | zero s => exact ⟨_, 0, rfl, by simp [roundedValue]⟩
  | finite s m e hm => exact ⟨_, scaled m e d, rfl, by cases s <;> rfl⟩

/-- How long a number can get that is printed with three decimals at most: eight
digits, a point, the decimals and a sign. -/
theorem length_decimalText_le {d : ℕ} {x : Float32} (h : Below 0 x.toModel.unpack) (hd : d ≤ 3) :
    (decimalText d x).length ≤ 16 := by
  unfold decimalText
  cases hu : x.toModel.unpack with
  | infinity s => rw [hu] at h; exact h.elim
  | notANumber => rw [hu] at h; exact h.elim
  | zero s =>
    have := Decimal.length_fixedText_le (d := d) (k := 0) (n := 11) (isNegative s) (by decide)
      (by decide)
    show (Decimal.fixedText d (isNegative s) 0).length ≤ 16
    omega
  | finite s m e hm =>
    rw [hu] at h
    have he : e ≤ 0 := h
    have hk : scaled m e d < 10 ^ 11 := by
      have hle := Decimal.roundDiv_le (m * 10 ^ d * 2 ^ e.toNat) (2 ^ (-e).toNat)
      have hdiv := Nat.div_le_self (m * 10 ^ d * 2 ^ e.toNat) (2 ^ (-e).toNat)
      have hpow : 10 ^ d ≤ 10 ^ 3 := Nat.pow_le_pow_right (by decide) hd
      have hmul : m * 10 ^ d ≤ 2 ^ 24 * 10 ^ 3 := Nat.mul_le_mul (mantissa_lt hu).le hpow
      rw [Int.toNat_of_nonpos he, pow_zero, mul_one] at hle hdiv
      unfold scaled
      rw [Int.toNat_of_nonpos he, pow_zero, mul_one]
      omega
    have := Decimal.length_fixedText_le (d := d) (isNegative s) (by decide) hk
    show (Decimal.fixedText d (isNegative s) (scaled m e d)).length ≤ 16
    omega

end FloatValue
