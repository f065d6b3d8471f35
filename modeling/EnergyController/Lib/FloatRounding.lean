/-
EnergyController.Lib.FloatRounding — what binary32 products and sums of
magnitudes are, against exact arithmetic.

`Rounds v r` says that `r` stands for `v` up to one unit in the last place, or
one unit of the subnormals. The operations drop bits of an exact mantissa,
round, and pack the result; `rounds_mul` and `rounds_add` follow them
through, below the overflow, subnormals included. The way there:

* `rounds_of_grid` — in exact arithmetic: what is cut off at a grid that is fine
  enough for it, and then left or put up by one, is rounded;
* `rounds_roundWithAccuracy` — the rounding of the model is of this kind, the
  carry into the next exponent included;
* `unpack_pack` — packing loses nothing of what it gives (`Canonical`), as long
  as the exponent is in range (`Canonical.below`);
* `rounds_of_pack` — so an operation that rounds and packs an exact mantissa is
  rounded. For products the mantissas are multiplied, for sums (`add_finite`)
  both are brought to the finer of their grids before.

The bound is twice that of rounding to nearest: which of the two neighbours is
taken does not matter here.
-/
import EnergyController.Lib.FloatBounds

namespace FloatValue

open Float.Model
open Float.Model.UnpackedFloat (Sign ExtendedMantissa Accuracy)

/-! ## Rounding, in exact arithmetic -/

/-- One unit of the last place is at most `v / 2 ^ 23` for a normal number, and
`1 / 2 ^ 149` for a subnormal one. -/
def Rounds (v r : ℚ) : Prop := |r - v| ≤ v / 2 ^ 23 + 1 / 2 ^ 149

theorem Rounds.refl {v : ℚ} (hv : 0 ≤ v) : Rounds v v := by
  unfold Rounds
  rw [sub_self, abs_zero]
  positivity

/-- `q * 2^g` is `v` cut off at the grid `2^g`, and `r` is `q` or the next. The grid
is fine enough for `v`: either it is that of the subnormals, or `q` has 24 bits. -/
theorem rounds_of_grid {v : ℚ} {q r : ℕ} {g : ℤ} (hv : 0 ≤ v) (hlow : (q * 2 ^ g : ℚ) ≤ v)
    (hhigh : v < (q + 1) * 2 ^ g) (hr : r = q ∨ r = q + 1)
    (hfine : g = -149 ∨ 2 ^ 23 ≤ q) : Rounds v (r * 2 ^ g) := by
  have hpos : (0 : ℚ) < 2 ^ g := by positivity
  have hle : (q : ℚ) ≤ r := by rcases hr with rfl | rfl <;> simp
  have hsucc : (r : ℚ) ≤ q + 1 := by rcases hr with rfl | rfl <;> simp
  have hunit : |(r * 2 ^ g : ℚ) - v| ≤ 2 ^ g := by
    rw [abs_le]
    constructor <;> nlinarith
  -- so the error is at most a step of the grid; it remains to say how small that is
  refine hunit.trans ?_
  rcases hfine with rfl | hfull
  · have hsmall : (2 : ℚ) ^ (-149 : ℤ) = 1 / 2 ^ 149 := by
      rw [zpow_neg, one_div]
      norm_cast
    rw [hsmall]
    have : 0 ≤ v / 2 ^ 23 := by positivity
    linarith
  · have hq23 : (2 ^ 23 : ℚ) ≤ q := by exact_mod_cast hfull
    have hgrid : (2 : ℚ) ^ g ≤ v / 2 ^ 23 := by
      rw [le_div_iff₀ (by positivity), mul_comm]
      exact (mul_le_mul_of_nonneg_right hq23 hpos.le).trans hlow
    have : (0 : ℚ) ≤ 1 / 2 ^ 149 := by positivity
    linarith

/-! ## The rounding of the model -/

/-- An exact mantissa from which bits are only dropped: it is on the grid of the
subnormals or below it, or has all the bits that binary32 can store. -/
def WellPlaced (m : ℕ) (e : ℤ) : Prop := e ≤ -149 ∨ 2 ^ 23 ≤ m

/-- A float as binary32 stores it, but for the upper end of the exponents. -/
def Canonical : UnpackedFloat → Prop
  | .zero _ => True
  | .finite _ m e _ => m < 2 ^ 24 ∧ -149 ≤ e ∧ (e = -149 ∨ 2 ^ 23 ≤ m)
  | .infinity _ => False
  | .notANumber => False

/-- Rounding puts the mantissa up, if it changes it. -/
theorem mantissa_le_roundedMantissa (em : ExtendedMantissa) :
    em.mantissa ≤ em.roundedMantissa := by
  rcases em with ⟨m, _ | _, _ | _⟩
  · exact Nat.le_refl m
  · exact Nat.le_refl m
  · exact Nat.le_add_right m _
  · exact Nat.le_succ m

/-- The shift to the target exponent divides the mantissa, and what it loses is
only kept as two bits for the rounding. -/
theorem mantissa_shiftToTargetExponent (m : ℕ) (e : ℤ) (acc : Accuracy) :
    (UnpackedFloat.shiftToTargetExponent Format.binary32 m e acc).1.mantissa
      = m / 2 ^ ((UnpackedFloat.shiftToTargetExponent Format.binary32 m e acc).2 - e).toNat := by
  simp only [UnpackedFloat.shiftToTargetExponent, UnpackedFloat.shiftToExponent,
    mantissa_shiftRight, mantissa_ofMantissaAndAccuracy]
  congr 2
  omega

/-- A rounded mantissa, shifted once more if the rounding carried. -/
theorem shift_rounded {r : ℕ} {g : ℤ} (hr : r ≤ 2 ^ 24) (hg : -149 ≤ g) :
    let last := UnpackedFloat.shiftToTargetExponent Format.binary32 r g .exact
    (r < 2 ^ 24 ∧ last.2 = g ∧ last.1.mantissa = r) ∨
      (r = 2 ^ 24 ∧ last.2 = g + 1 ∧ last.1.mantissa = 2 ^ 23) := by
  intro last
  have hexp : last.2 = max g (max (r.log2 + 1 + g - 24) (-149)) :=
    exponent_shiftToTargetExponent _ _ _
  have hmant : last.1.mantissa = r / 2 ^ (last.2 - g).toNat := mantissa_shiftToTargetExponent _ _ _
  rcases hr.lt_or_eq with hlt | rfl
  · have hlog : r.log2 < 24 := by
      rcases Nat.eq_zero_or_pos r with rfl | hpos
      · rw [Nat.log2_zero]
        decide
      · exact (Nat.log2_lt (by omega)).mpr hlt
    have hlast : last.2 = g := by omega
    exact .inl ⟨hlt, hlast, by simp [hmant, hlast]⟩
  · -- the carry: 2^24 has one bit too many
    rw [Nat.log2_two_pow] at hexp
    have hlast : last.2 = g + 1 := by omega
    exact .inr ⟨rfl, hlast, by simp [hmant, hlast]⟩

/-- The grid that a mantissa is cut off at is fine enough: unless it is that of
the subnormals, 24 bits are left above it. -/
theorem fine_shiftToTargetExponent {m : ℕ} {e : ℤ} (hplaced : WellPlaced m e) :
    let first := UnpackedFloat.shiftToTargetExponent Format.binary32 m e .exact
    first.2 = -149 ∨ 2 ^ 23 ≤ first.1.mantissa := by
  intro first
  have hg : first.2 = max e (max (m.log2 + 1 + e - 24) (-149)) :=
    exponent_shiftToTargetExponent _ _ _
  have hq : first.1.mantissa = m / 2 ^ (first.2 - e).toNat := mantissa_shiftToTargetExponent _ _ _
  by_cases hlow : first.2 = -149
  · exact .inl hlow
  have hm : m ≠ 0 := by
    rintro rfl
    rw [Nat.log2_zero] at hg
    rcases hplaced with hplaced | hplaced <;> omega
  have hshift : (first.2 - e).toNat + 23 = m.log2 := by
    rcases hplaced with hplaced | hplaced
    · omega
    · have hlog : 23 ≤ m.log2 := (Nat.le_log2 hm).mpr hplaced
      omega
  right
  rw [hq, Nat.le_div_iff_mul_le (by positivity), ← pow_add, add_comm, hshift]
  exact Nat.log2_self_le hm

/-- Dropping the bits below `2 ^ g` cuts off at the grid `2 ^ g`. -/
theorem cut_at_grid (m : ℕ) {e g : ℤ} (hg : e ≤ g) :
    ((m / 2 ^ (g - e).toNat : ℕ) * 2 ^ g : ℚ) ≤ m * 2 ^ e ∧
      (m * 2 ^ e : ℚ) < ((m / 2 ^ (g - e).toNat : ℕ) + 1) * 2 ^ g := by
  have hexp : (2 : ℚ) ^ g = 2 ^ (g - e).toNat * 2 ^ e := by
    have hg : g = ((g - e).toNat : ℤ) + e := by omega
    conv_lhs => rw [hg, zpow_add₀ (by norm_num), zpow_natCast]
  have hpos : (0 : ℚ) < 2 ^ e := by positivity
  rw [hexp, ← mul_assoc, ← mul_assoc, mul_le_mul_iff_left₀ hpos, mul_lt_mul_iff_left₀ hpos]
  constructor
  · exact_mod_cast Nat.div_mul_le_self m _
  · rw [mul_comm]
    exact_mod_cast Nat.lt_mul_div_succ m (Nat.two_pow_pos _)

/-- **The model rounds.** Of an exact mantissa that is well placed, its rounding
gives a float that is stored as it is (`Canonical`), and stands for a rounding of
the exact value. The mantissa is shifted twice: to the target exponent, and again
after the rounding, which may have carried. -/
theorem rounds_roundWithAccuracy {m : ℕ} {e : ℤ} (s : Sign) (hplaced : WellPlaced m e) :
    ∃ r : ℚ, 0 ≤ r ∧ Rounds (m * 2 ^ e) r ∧
      unpackedValue (UnpackedFloat.roundWithAccuracy Format.binary32 s m e .exact) = signed s r ∧
      Canonical (UnpackedFloat.roundWithAccuracy Format.binary32 s m e .exact) := by
  set first := UnpackedFloat.shiftToTargetExponent Format.binary32 m e .exact with hfirst
  set last := UnpackedFloat.shiftToTargetExponent Format.binary32 first.1.roundedMantissa first.2
    .exact with hlast
  have hround : UnpackedFloat.roundWithAccuracy Format.binary32 s m e .exact
      = if h : last.1.mantissa = 0 then .zero s
        else .finite s last.1.mantissa last.2 (Nat.pos_of_ne_zero h) := rfl
  have hg : first.2 = max e (max (m.log2 + 1 + e - 24) (-149)) :=
    exponent_shiftToTargetExponent _ _ _
  have hq : first.1.mantissa = m / 2 ^ (first.2 - e).toNat := mantissa_shiftToTargetExponent _ _ _
  have hq24 : first.1.mantissa < 2 ^ 24 := mantissa_shiftToTargetExponent_lt m e .exact
  have hup := mantissa_le_roundedMantissa first.1
  have hdown := roundedMantissa_le first.1
  have hfine := fine_shiftToTargetExponent hplaced
  have hcut := cut_at_grid m (g := first.2) (show e ≤ first.2 by omega)
  rw [← hq] at hcut
  refine ⟨first.1.roundedMantissa * 2 ^ first.2, by positivity, ?_, ?_⟩
  · exact rounds_of_grid (by positivity) hcut.1 hcut.2 (by omega) hfine
  · rw [hround]
    rcases shift_rounded (r := first.1.roundedMantissa) (g := first.2) (by omega) (by omega) with
      ⟨hlt, hexp, hmant⟩ | ⟨hcarry, hexp, hmant⟩
    · split
      · rename_i hzero
        have hr0 : first.1.roundedMantissa = 0 := hmant.symm.trans hzero
        refine ⟨?_, trivial⟩
        rw [hr0]
        cases s <;> simp [unpackedValue, signed]
      · refine ⟨?_, ?_⟩
        · show signed s (last.1.mantissa * 2 ^ last.2) = _
          rw [show last.1.mantissa = _ from hmant, show last.2 = _ from hexp]
        · show last.1.mantissa < _ ∧ _ ≤ last.2 ∧ (last.2 = _ ∨ _ ≤ last.1.mantissa)
          rw [show last.1.mantissa = _ from hmant, show last.2 = _ from hexp]
          exact ⟨hlt, by omega, hfine.imp id fun h => h.trans hup⟩
    · rw [dif_neg (by rw [show last.1.mantissa = _ from hmant]; decide)]
      refine ⟨?_, ?_⟩
      · show signed s (last.1.mantissa * 2 ^ last.2) = _
        rw [show last.1.mantissa = _ from hmant, show last.2 = _ from hexp, hcarry,
          zpow_add₀ (by norm_num)]
        congr 1
        push_cast
        ring
      · show last.1.mantissa < _ ∧ _ ≤ last.2 ∧ (last.2 = _ ∨ _ ≤ last.1.mantissa)
        rw [show last.1.mantissa = _ from hmant, show last.2 = _ from hexp]
        exact ⟨by decide, by omega, .inr (Nat.le_refl _)⟩

/-! ## Packing -/

/-! The fields of a packed float are read back; those of exponent and mantissa are
core lemmas. -/

theorem unpackSign_packComponents {spec : Format} (s : Sign) (e : BitVec spec.exponentBits)
    (m : BitVec spec.mantissaBitsWithoutImplicit) :
    UnpackedFloat.unpackSign (UnpackedFloat.packComponents spec s e m) = s.toBitVec := by
  ext i hi
  obtain rfl : i = 0 := by omega
  simp [UnpackedFloat.unpackSign, UnpackedFloat.packComponents, BitVec.getLsbD_append,
    BitVec.getElem_append]

theorem ofBitVec_toBitVec (s : Sign) : Sign.ofBitVec s.toBitVec = s := by cases s <;> rfl

theorem finite_congr {s : Sign} {m n : ℕ} {e f : ℤ} {hm : 0 < m} {hn : 0 < n} (hmn : m = n)
    (hef : e = f) : UnpackedFloat.finite s m e hm = .finite s n f hn := by
  subst hmn hef
  rfl

/-- A full mantissa loses its first bit, and gets it back. -/
theorem unpack_normal {s : Sign} {m : ℕ} {e : ℤ} (hm : 0 < m) (hlow : 2 ^ 23 ≤ m)
    (hhigh : m < 2 ^ 24) (he : -149 ≤ e) (he' : e ≤ 104) :
    UnpackedFloat.unpack Format.binary32 (UnpackedFloat.packComponents .binary32 s
      (BitVec.ofNat 8 (e + (127 : ℕ) + (23 : ℕ)).toNat) (BitVec.ofNat 23 m))
        = .finite s m e hm := by
  have hbias : Format.binary32.exponentBias = 127 := by decide
  set biased := BitVec.ofNat 8 (e + (127 : ℕ) + (23 : ℕ)).toNat with hbiased
  have hexp : biased.toNat = (e + 150).toNat := by
    rw [hbiased, BitVec.toNat_ofNat]
    omega
  have hones : biased ≠ -1#8 := by
    intro hones
    rw [hones] at hexp
    have hexp : 255 = (e + 150).toNat := hexp
    omega
  have hzero : biased ≠ 0#8 := by
    intro hzero
    rw [hzero] at hexp
    have hexp : 0 = (e + 150).toNat := hexp
    omega
  simp only [UnpackedFloat.unpack, UnpackedFloat.unpackExponent_packComponents,
    UnpackedFloat.unpackMantissa_packComponents, unpackSign_packComponents, ofBitVec_toBitVec,
    hbias]
  rw [if_neg hones, if_neg hzero]
  refine finite_congr ?_ ?_
  · rw [BitVec.toNat_append, BitVec.toNat_ofNat]
    show 1 <<< 23 ||| m % 2 ^ 23 = m
    rw [← Nat.shiftLeft_add_eq_or_of_lt (Nat.mod_lt _ (by decide)), Nat.shiftLeft_eq]
    omega
  · rw [hexp]
    show (((e + 150).toNat : ℕ) : ℤ) - ((127 : ℕ) + (23 : ℕ)) = e
    omega

/-- A subnormal mantissa has no first bit to lose, and the exponent field 0. -/
theorem unpack_subnormal {s : Sign} {m : ℕ} (hm : 0 < m) (hhigh : m < 2 ^ 23) :
    UnpackedFloat.unpack Format.binary32 (UnpackedFloat.packComponents .binary32 s 0#8
      (BitVec.ofNat 23 m)) = .finite s m (-149) hm := by
  have hbias : Format.binary32.exponentBias = 127 := by decide
  have hmant : (BitVec.ofNat 23 m).toNat = m := by
    rw [BitVec.toNat_ofNat]
    exact Nat.mod_eq_of_lt hhigh
  have hzero : BitVec.ofNat 23 m ≠ 0#23 := by
    intro hzero
    rw [hzero] at hmant
    have hmant : 0 = m := hmant
    omega
  simp only [UnpackedFloat.unpack, UnpackedFloat.unpackExponent_packComponents,
    UnpackedFloat.unpackMantissa_packComponents, unpackSign_packComponents, ofBitVec_toBitVec,
    hbias]
  rw [if_neg (by decide), if_pos trivial, dif_neg hzero]
  exact finite_congr hmant rfl

/-- **What binary32 can store is stored**: packing a canonical float whose exponent
is in range, and unpacking it, gives the float back. -/
theorem unpack_pack {f : UnpackedFloat} (hf : Canonical f) (h : Below 104 f) :
    (Float32.Model.pack f).unpack = f := by
  have hbias : Format.binary32.exponentBias = 127 := by decide
  unfold Float32.Model.unpack Float32.Model.pack
  cases f with
  | infinity s => exact hf.elim
  | notANumber => exact hf.elim
  | zero s =>
    simp only [UnpackedFloat.pack, UnpackedFloat.unpack, UnpackedFloat.packedZero,
      UnpackedFloat.unpackExponent_packComponents, UnpackedFloat.unpackMantissa_packComponents,
      unpackSign_packComponents, ofBitVec_toBitVec]
    rfl
  | finite s m e hm =>
    obtain ⟨hm24, he, hfull⟩ := hf
    have he' : e ≤ 104 := h
    simp only [UnpackedFloat.pack, hbias]
    rw [if_neg (by show ¬ 2 ^ 8 ≤ (e + (127 : ℕ) + (23 : ℕ)).toNat + 1; omega)]
    by_cases h23 : 2 ^ 23 ≤ m
    · have hlog : m.log2 = 23 := (Nat.log2_eq_iff (by omega)).mpr ⟨h23, hm24⟩
      rw [if_pos (by rw [hlog]; rfl)]
      exact unpack_normal hm h23 hm24 he he'
    · obtain rfl : e = -149 := hfull.resolve_right h23
      have hlog : m.log2 < 23 := (Nat.log2_lt (by omega)).mpr (by omega)
      rw [if_neg (by show ¬ m.log2 + 1 = 24; omega)]
      exact unpack_subnormal hm (by omega)

/-! ## Operations -/

/-- A finite float that is not below zero; it may be -0. -/
structure Nonnegative (x : Float32) : Prop where
  isFinite : x.isFinite = true
  value_nonneg : 0 ≤ value x

/-- It is a zero, of either sign, or a mantissa with a positive sign. -/
theorem Nonnegative.unpack {x : Float32} (h : Nonnegative x) :
    (∃ s, x.toModel.unpack = .zero s ∧ value x = 0) ∨
      (∃ m e hm, x.toModel.unpack = .finite .positive m e hm ∧ value x = m * 2 ^ e) := by
  obtain hzero | hpos | ⟨m, e, hm, -, hval⟩ := unpack_of_isFinite h.isFinite
  · exact .inl hzero
  · exact .inr hpos
  · have := h.value_nonneg
    have := magnitude_pos hm e
    linarith

/-- A finite float is canonical: its mantissa is full, or it is subnormal. -/
theorem canonical_unpack {x : Float32} (h : x.isFinite = true) : Canonical x.toModel.unpack := by
  obtain ⟨s, hu, -⟩ | ⟨m, e, hm, hu, -⟩ | ⟨m, e, hm, hu, -⟩ := unpack_of_isFinite h <;> rw [hu]
  · trivial
  · exact ⟨mantissa_lt hu, by have := mantissa_full hu; omega, (mantissa_full hu).imp id And.right⟩
  · exact ⟨mantissa_lt hu, by have := mantissa_full hu; omega, (mantissa_full hu).imp id And.right⟩

theorem Canonical.isFinite {f : UnpackedFloat} (hf : Canonical f) : f.isFinite = true := by
  cases f with
  | infinity s => exact hf.elim
  | notANumber => exact hf.elim
  | zero s => rfl
  | finite s m e hm => rfl

/-- Below the overflow the exponent is in range, as a full mantissa with the next
one would be `2 ^ 128` at least. -/
theorem Canonical.below {f : UnpackedFloat} (hf : Canonical f) (h : |unpackedValue f| < 2 ^ 128) :
    Below 104 f := by
  cases f with
  | infinity s => exact hf.elim
  | notANumber => exact hf.elim
  | zero s => trivial
  | finite s m e hm =>
    obtain ⟨-, -, hfull⟩ := hf
    show e ≤ 104
    by_contra hhigh
    have hm23 : (2 ^ 23 : ℚ) ≤ m := by exact_mod_cast hfull.resolve_left (by omega)
    have habs : |unpackedValue (.finite s m e hm)| = m * 2 ^ e := by
      cases s
      · exact (abs_neg _).trans (abs_of_pos (magnitude_pos hm e))
      · exact abs_of_pos (magnitude_pos hm e)
    rw [habs] at h
    have : (2 ^ 128 : ℚ) ≤ m * 2 ^ e :=
      calc (2 ^ 128 : ℚ) = 2 ^ 23 * 2 ^ (105 : ℤ) := by norm_num
        _ ≤ m * 2 ^ e := by gcongr <;> first | omega | norm_num
    linarith

/-- The zero that an operation gives for a zero operand. -/
theorem nonnegative_of_pack_zero {z : Float32} {s : Sign}
    (hz : z.toModel = Float32.Model.pack (.zero s)) : Nonnegative z ∧ value z = 0 := by
  have hu : z.toModel.unpack = .zero s := by
    rw [hz, unpack_pack (f := .zero s) trivial trivial]
  have hval : value z = 0 := by rw [value, hu]; rfl
  exact ⟨⟨by rw [isFinite_eq, hu]; rfl, hval.ge⟩, hval⟩

/-- An operation that gives an operand back, as a sum with zero does. -/
theorem nonnegative_of_pack_unpack {y z : Float32} (hy : Nonnegative y)
    (hbound : value y < 2 ^ 127) (hz : z.toModel = Float32.Model.pack y.toModel.unpack) :
    Nonnegative z ∧ value z = value y := by
  have hbelow : Below 104 y.toModel.unpack := (canonical_unpack hy.isFinite).below (by
    show |value y| < _
    rw [abs_of_nonneg hy.value_nonneg]
    linarith)
  have hu : z.toModel.unpack = y.toModel.unpack := by
    rw [hz, unpack_pack (canonical_unpack hy.isFinite) hbelow]
  have hval : value z = value y := by rw [value, hu, value]
  exact ⟨⟨by rw [isFinite_eq, hu]; exact hy.isFinite, hval ▸ hy.value_nonneg⟩, hval⟩

/-- What the operations do with an exact mantissa: they round and pack it. Below
`2 ^ 127` the rounded value is below the overflow, so that nothing is lost. -/
theorem rounds_of_pack {z : Float32} {m : ℕ} {e : ℤ} (hplaced : WellPlaced m e)
    (hbound : (m * 2 ^ e : ℚ) < 2 ^ 127)
    (hz : z.toModel = Float32.Model.pack
      (UnpackedFloat.roundWithAccuracy Format.binary32 .positive m e .exact)) :
    Nonnegative z ∧ Rounds (m * 2 ^ e) (value z) := by
  obtain ⟨r, hr0, hr, hval, hcanonical⟩ := rounds_roundWithAccuracy .positive hplaced
  have hlt : |r| < 2 ^ 128 := by
    have hupper := (abs_le.mp hr).2
    rw [abs_of_nonneg hr0]
    linarith
  have hu : z.toModel.unpack
      = UnpackedFloat.roundWithAccuracy Format.binary32 .positive m e .exact := by
    rw [hz]
    exact unpack_pack hcanonical (hcanonical.below (by rw [hval]; exact hlt))
  have hz : value z = r := by
    rw [value, hu, hval]
    rfl
  rw [hz]
  exact ⟨⟨by rw [isFinite_eq, hu]; exact hcanonical.isFinite, hz ▸ hr0⟩, hr⟩

/-- The exact product of two mantissas has bits enough: it is as long as either,
and two subnormals are far below the grid. -/
theorem wellPlaced_mul {m n : ℕ} {e f : ℤ} (hm : 0 < m) (hn : 0 < n) (he : e = -149 ∨ 2 ^ 23 ≤ m)
    (hf : f = -149 ∨ 2 ^ 23 ≤ n) : WellPlaced (m * n) (e + f) := by
  rcases he with rfl | hm23
  · rcases hf with rfl | hn23
    · exact .inl (by decide)
    · exact .inr (hn23.trans (Nat.le_mul_of_pos_left n hm))
  · exact .inr (hm23.trans (Nat.le_mul_of_pos_right m hn))

/-- **Products are rounded.** -/
theorem rounds_mul {x y : Float32} (hx : Nonnegative x) (hy : Nonnegative y)
    (hbound : value x * value y < 2 ^ 127) :
    Nonnegative (x * y) ∧ Rounds (value x * value y) (value (x * y)) := by
  have hz : (x * y).toModel = Float32.Model.pack
      (UnpackedFloat.mul Format.binary32 x.toModel.unpack y.toModel.unpack) := rfl
  have hzero : ∀ s, (x * y).toModel = Float32.Model.pack (.zero s) → value x * value y = 0 →
      Nonnegative (x * y) ∧ Rounds (value x * value y) (value (x * y)) := by
    intro s hs hprod
    obtain ⟨hnonneg, hval⟩ := nonnegative_of_pack_zero hs
    rw [hprod, hval]
    exact ⟨hnonneg, .refl (le_refl 0)⟩
  obtain ⟨s, hu, hval⟩ | ⟨m, e, hm, hu, hval⟩ := hx.unpack <;>
    obtain ⟨t, hv, hval'⟩ | ⟨n, f, hn, hv, hval'⟩ := hy.unpack <;> rw [hu, hv] at hz
  -- a product with a zero is a zero, and of either sign its value is 0
  case inl.inl => exact hzero _ hz (by rw [hval, zero_mul])
  case inl.inr => exact hzero _ hz (by rw [hval, zero_mul])
  case inr.inl => exact hzero _ hz (by rw [hval', mul_zero])
  case inr.inr =>
    have hexact : value x * value y = (m * n : ℕ) * 2 ^ (e + f) := by
      rw [hval, hval', zpow_add₀ (by norm_num)]
      push_cast
      ring
    rw [hexact] at hbound ⊢
    exact rounds_of_pack (wellPlaced_mul hm hn ((mantissa_full hu).imp id And.right)
      ((mantissa_full hv).imp id And.right)) hbound hz

/-- A mantissa that is lengthened stands for the same. -/
theorem value_decreaseExponent (m : ℕ) (e target : ℤ) :
    ((UnpackedFloat.decreaseExponent m e target).1 *
      2 ^ (UnpackedFloat.decreaseExponent m e target).2 : ℚ) = m * 2 ^ e := by
  show ((m <<< (e - target).toNat : ℕ) * 2 ^ (e - (e - target).toNat) : ℚ) = _
  rw [Nat.shiftLeft_eq, zpow_sub₀ (by norm_num), zpow_natCast]
  push_cast
  field_simp

/-- It is lengthened only as far as binary32 can use it. -/
theorem wellPlaced_decreaseExponent {m : ℕ} (hm : m ≠ 0) (e : ℤ) :
    let placed := UnpackedFloat.decreaseExponent m e
      (Format.binary32.targetExponent (totalExponent m e))
    WellPlaced placed.1 placed.2 := by
  have hmin : Format.binary32.minExponent = -149 := by decide
  have hbits : Format.binary32.mantissaBits = 24 := rfl
  show WellPlaced (m <<< (e - _).toNat) (e - (e - _).toNat)
  simp only [Format.targetExponent, totalExponent, hmin, hbits]
  by_cases hlow : e - (e - max (m.log2 + 1 + e - 24) (-149)).toNat ≤ -149
  · exact .inl hlow
  right
  rw [Nat.shiftLeft_eq]
  calc 2 ^ 23 ≤ 2 ^ (m.log2 + (e - max (m.log2 + 1 + e - 24) (-149)).toNat) := by
        refine Nat.pow_le_pow_right (by decide) ?_
        omega
    _ = 2 ^ m.log2 * 2 ^ (e - max (m.log2 + 1 + e - 24) (-149)).toNat := pow_add _ _ _
    _ ≤ m * 2 ^ (e - max (m.log2 + 1 + e - 24) (-149)).toNat :=
        Nat.mul_le_mul_right _ (Nat.log2_self_le hm)

/-- The sum of two magnitudes is taken on the finer of their grids. -/
theorem add_finite {m n : ℕ} {e f : ℤ} (hm : 0 < m) (hn : 0 < n) :
    ∃ total : ℕ, total ≠ 0 ∧ (total * 2 ^ min e f : ℚ) = m * 2 ^ e + n * 2 ^ f ∧
      UnpackedFloat.add Format.binary32 (.finite .positive m e hm) (.finite .positive n f hn)
        = UnpackedFloat.round Format.binary32 .positive total (min e f) := by
  set m' := (UnpackedFloat.decreaseExponent m e (min e f)).1 with hm'
  set n' := (UnpackedFloat.decreaseExponent n f (min e f)).1 with hn'
  have hpos : 0 < m' := by
    rw [hm']
    show 0 < m <<< _
    rw [Nat.shiftLeft_eq]
    positivity
  refine ⟨m' + n', by omega, ?_, ?_⟩
  · have hleft : (m' * 2 ^ min e f : ℚ) = m * 2 ^ e := by
      rw [← value_decreaseExponent m e (min e f)]
      congr 2
      show _ = e - ((e - min e f).toNat : ℤ)
      omega
    have hright : (n' * 2 ^ min e f : ℚ) = n * 2 ^ f := by
      rw [← value_decreaseExponent n f (min e f)]
      congr 2
      show _ = f - ((f - min e f).toNat : ℤ)
      omega
    rw [← hleft, ← hright]
    push_cast
    ring
  · have hcompare : compare ((m' : ℤ) + n') 0 = .gt := compare_gt_iff_gt.mpr (by omega)
    show UnpackedFloat.normalize Format.binary32 ((m' : ℤ) + n') (min e f) .positive = _
    unfold UnpackedFloat.normalize
    rw [hcompare]
    rfl

/-- **Sums are rounded.** -/
theorem rounds_add {x y : Float32} (hx : Nonnegative x) (hy : Nonnegative y)
    (hbound : value x + value y < 2 ^ 127) :
    Nonnegative (x + y) ∧ Rounds (value x + value y) (value (x + y)) := by
  have hz : (x + y).toModel = Float32.Model.pack
      (UnpackedFloat.add Format.binary32 x.toModel.unpack y.toModel.unpack) := rfl
  obtain ⟨s, hu, hval⟩ | ⟨m, e, hm, hu, hval⟩ := hx.unpack <;>
    obtain ⟨t, hv, hval'⟩ | ⟨n, f, hn, hv, hval'⟩ := hy.unpack <;> rw [hu, hv] at hz
  case inl.inl =>
    -- two zeros: the sign of the sum depends on theirs, its value does not
    have hzero : ∃ s, (x + y).toModel = Float32.Model.pack (.zero s) := by
      rw [hz]
      unfold UnpackedFloat.add
      dsimp only
      split
      · exact ⟨_, rfl⟩
      · exact ⟨_, rfl⟩
    obtain ⟨s', hz⟩ := hzero
    obtain ⟨hnonneg, hsum⟩ := nonnegative_of_pack_zero hz
    rw [hval, hval', hsum, add_zero]
    exact ⟨hnonneg, .refl (le_refl 0)⟩
  case inl.inr =>
    rw [hval, zero_add] at hbound ⊢
    obtain ⟨hnonneg, hsum⟩ := nonnegative_of_pack_unpack hy hbound (hz.trans (by rw [hv]; rfl))
    rw [hsum]
    exact ⟨hnonneg, .refl hy.value_nonneg⟩
  case inr.inl =>
    rw [hval', add_zero] at hbound ⊢
    obtain ⟨hnonneg, hsum⟩ := nonnegative_of_pack_unpack hx hbound (hz.trans (by rw [hu]; rfl))
    rw [hsum]
    exact ⟨hnonneg, .refl hx.value_nonneg⟩
  case inr.inr =>
    -- the sum is exact on the finer grid, and lengthened before it is rounded
    obtain ⟨total, htotal, hexact, hround⟩ := add_finite (e := e) (f := f) hm hn
    rw [hround] at hz
    rw [hval, hval', ← hexact, ← value_decreaseExponent total (min e f)
      (Format.binary32.targetExponent (totalExponent total (min e f)))] at hbound ⊢
    exact rounds_of_pack (wellPlaced_decreaseExponent htotal (min e f)) hbound hz

end FloatValue
