/-
EnergyController.Lib.FloatOrder — binary32 comparisons as an order, and the
operations that cannot produce a NaN.

`Float32` carries its logical model (a bit pattern, unpacked into sign,
mantissa and exponent), but no order lemmas. This library supplies the two
groups of facts a program that only compares, multiplies and adds needs:

* every float that is not a NaN has a `rank` in a lexicographic order of
  integers, and `<` and `≤` are the comparisons of the ranks, so for
  non-NaN operands the two are complementary and transitive;
* packing an unpacked float that is not a NaN never yields a NaN, so a
  product or a sum is a NaN only through the invalid operations
  (`∞ * 0`, `∞ - ∞`, a NaN operand).

Nothing here depends on the numeric value of a float: the rank is read off
the sign, the exponent and the mantissa.
-/
import Mathlib

namespace FloatOrder

open Float.Model
open Float.Model.UnpackedFloat (Sign)

/-! ## The rank of an unpacked float -/

/-- Sign class first (−∞, negative, zero, positive, +∞), then the exponent,
then the mantissa; both are negated below zero. A NaN has no rank. -/
def rank : UnpackedFloat → Option (ℤ ×ₗ ℤ ×ₗ ℤ)
  | .notANumber => none
  | .infinity .positive => some (toLex (2, toLex (0, 0)))
  | .infinity .negative => some (toLex (-2, toLex (0, 0)))
  | .zero _ => some (toLex (0, toLex (0, 0)))
  | .finite .positive m e _ => some (toLex (1, toLex (e, (m : ℤ))))
  | .finite .negative m e _ => some (toLex (-1, toLex (-e, -(m : ℤ))))

theorem unpacked_lt_iff (x y : UnpackedFloat) :
    x.lt y = true ↔ ∃ a ∈ rank x, ∃ b ∈ rank y, a < b := by
  rcases x with (_ | _) | _ | _ | ⟨_ | _, m, e, hm⟩ <;>
    rcases y with (_ | _) | _ | _ | ⟨_ | _, m', e', hm'⟩ <;>
    simp [UnpackedFloat.lt, UnpackedFloat.compare, rank, Prod.Lex.toLex_lt_toLex,
      Ordering.then_eq_lt, Ordering.swap_eq_lt, compare_lt_iff_lt]
  · rfl
  · simp [Ordering.then_eq_gt, compare_gt_iff_gt]

theorem unpacked_le_iff (x y : UnpackedFloat) :
    x.le y = true ↔ ∃ a ∈ rank x, ∃ b ∈ rank y, a ≤ b := by
  rcases x with (_ | _) | _ | _ | ⟨_ | _, m, e, hm⟩ <;>
    rcases y with (_ | _) | _ | _ | ⟨_ | _, m', e', hm'⟩ <;>
    simp [UnpackedFloat.le, UnpackedFloat.compare, rank, Prod.Lex.toLex_le_toLex,
      Ordering.isLE_then_iff_or, compare_lt_iff_lt]
  case infinity.negative.infinity.negative => rfl
  case infinity.negative.infinity.positive => rfl
  case infinity.positive.infinity.negative => rfl
  case infinity.positive.infinity.positive => rfl
  case finite.negative.finite.negative =>
    simp only [Ordering.isGE_iff_eq_gt_or_eq_eq, Ordering.then_eq_gt, Ordering.then_eq_eq,
      compare_gt_iff_gt, compare_eq_iff_eq]
    omega
  case finite.positive.finite.positive =>
    simp only [Ordering.isLE_iff_eq_lt_or_eq_eq, compare_lt_iff_lt, compare_eq_iff_eq]
    omega

theorem rank_eq_none_iff (x : UnpackedFloat) : rank x = none ↔ x.isNaN = true := by
  rcases x with (_ | _) | _ | _ | ⟨_ | _, m, e, hm⟩ <;> simp [rank, UnpackedFloat.isNaN]

/-! ## The order of `Float32` -/

theorem lt_iff_rank (a b : Float32) :
    a < b ↔ ∃ x ∈ rank a.toModel.unpack, ∃ y ∈ rank b.toModel.unpack, x < y := by
  rw [← unpacked_lt_iff]
  exact decide_eq_true_iff

theorem le_iff_rank (a b : Float32) :
    a ≤ b ↔ ∃ x ∈ rank a.toModel.unpack, ∃ y ∈ rank b.toModel.unpack, x ≤ y := by
  rw [← unpacked_le_iff]
  exact decide_eq_true_iff

/-- A float that is not a NaN has a rank. -/
theorem exists_rank {a : Float32} (ha : a.isNaN = false) :
    ∃ x, rank a.toModel.unpack = some x := by
  rw [← Option.ne_none_iff_exists']
  intro h
  have hnan : a.isNaN = true := (rank_eq_none_iff _).mp h
  rw [ha] at hnan
  cases hnan

theorem isNaN_of_isFinite {a : Float32} (ha : a.isFinite = true) : a.isNaN = false := by
  simp only [Float32.isFinite, Float32.Model.isFinite] at ha
  simp only [Float32.isNaN, Float32.Model.isNaN]
  cases h : a.toModel.unpack <;> simp_all [UnpackedFloat.isFinite, UnpackedFloat.isNaN]

theorem not_lt_of_le {a b : Float32} (h : a ≤ b) : ¬ b < a := by
  obtain ⟨x, hx, y, hy, hxy⟩ := (le_iff_rank a b).mp h
  intro hlt
  obtain ⟨y', hy', x', hx', hyx⟩ := (lt_iff_rank b a).mp hlt
  obtain rfl : x = x' := Option.mem_unique hx hx'
  obtain rfl : y = y' := Option.mem_unique hy hy'
  exact absurd hxy (not_le.mpr hyx)

theorem le_of_not_lt {a b : Float32} (ha : a.isNaN = false) (hb : b.isNaN = false)
    (h : ¬ b < a) : a ≤ b := by
  obtain ⟨x, hx⟩ := exists_rank ha
  obtain ⟨y, hy⟩ := exists_rank hb
  refine (le_iff_rank a b).mpr ⟨x, hx, y, hy, not_lt.mp fun hyx => h ?_⟩
  exact (lt_iff_rank b a).mpr ⟨y, hy, x, hx, hyx⟩

theorem lt_of_not_le {a b : Float32} (ha : a.isNaN = false) (hb : b.isNaN = false)
    (h : ¬ a ≤ b) : b < a := by
  obtain ⟨x, hx⟩ := exists_rank ha
  obtain ⟨y, hy⟩ := exists_rank hb
  refine (lt_iff_rank b a).mpr ⟨y, hy, x, hx, not_le.mp fun hxy => h ?_⟩
  exact (le_iff_rank a b).mpr ⟨x, hx, y, hy, hxy⟩

theorem not_le_of_lt {a b : Float32} (h : a < b) : ¬ b ≤ a :=
  fun hle => not_lt_of_le hle h

theorem lt_iff_not_le {a b : Float32} (ha : a.isNaN = false) (hb : b.isNaN = false) :
    b < a ↔ ¬ a ≤ b :=
  ⟨not_le_of_lt, lt_of_not_le ha hb⟩

theorem le_iff_not_lt {a b : Float32} (ha : a.isNaN = false) (hb : b.isNaN = false) :
    a ≤ b ↔ ¬ b < a :=
  ⟨not_lt_of_le, le_of_not_lt ha hb⟩

theorem le_trans {a b c : Float32} (hab : a ≤ b) (hbc : b ≤ c) : a ≤ c := by
  obtain ⟨x, hx, y, hy, hxy⟩ := (le_iff_rank a b).mp hab
  obtain ⟨y', hy', z, hz, hyz⟩ := (le_iff_rank b c).mp hbc
  obtain rfl : y = y' := Option.mem_unique hy hy'
  exact (le_iff_rank a c).mpr ⟨x, hx, z, hz, hxy.trans hyz⟩

theorem lt_of_lt_of_le {a b c : Float32} (hab : a < b) (hbc : b ≤ c) : a < c := by
  obtain ⟨x, hx, y, hy, hxy⟩ := (lt_iff_rank a b).mp hab
  obtain ⟨y', hy', z, hz, hyz⟩ := (le_iff_rank b c).mp hbc
  obtain rfl : y = y' := Option.mem_unique hy hy'
  exact (lt_iff_rank a c).mpr ⟨x, hx, z, hz, hxy.trans_le hyz⟩

/-! ## Operations that keep clear of NaN -/

/-- Only the all-ones exponent can unpack to a NaN. -/
theorem isNaN_unpack_of_exponent {spec : Format} {b : BitVec spec.numBits}
    (h : UnpackedFloat.unpackExponent b ≠ -1#_) :
    (UnpackedFloat.unpack spec b).isNaN = false := by
  simp only [UnpackedFloat.unpack, h, if_false]
  split
  · split <;> rfl
  · rfl

/-- Packing keeps numbers apart from NaN: a finite value overflows to an
infinity at worst. -/
theorem isNaN_pack {f : UnpackedFloat} (hf : f.isNaN = false) :
    (Float32.Model.pack f).isNaN = false := by
  simp only [Float32.Model.isNaN, Float32.Model.unpack, Float32.Model.pack]
  cases f with
  | notANumber => simp [UnpackedFloat.isNaN] at hf
  | infinity s =>
    simp [UnpackedFloat.pack, UnpackedFloat.unpack, UnpackedFloat.packedInfinity,
      UnpackedFloat.isNaN]
  | zero s =>
    refine isNaN_unpack_of_exponent ?_
    simp [UnpackedFloat.pack, UnpackedFloat.packedZero]
  | finite s m e hm =>
    simp only [UnpackedFloat.pack]
    split
    · simp [UnpackedFloat.unpack, UnpackedFloat.packedInfinity, UnpackedFloat.isNaN]
    · rename_i hsmall
      split
      · -- a normal number: its biased exponent stays below the all-ones field
        refine isNaN_unpack_of_exponent ?_
        rw [UnpackedFloat.unpackExponent_packComponents]
        intro heq
        have hnat := congrArg BitVec.toNat heq
        simp only [BitVec.toNat_ofNat] at hnat
        rw [Nat.mod_eq_of_lt (by omega)] at hnat
        have : (-1#8 : BitVec 8).toNat = 255 := rfl
        omega
      · refine isNaN_unpack_of_exponent ?_
        rw [UnpackedFloat.unpackExponent_packComponents]
        decide

theorem isNaN_roundWithAccuracy (spec : Format) (s : Sign) (m : ℕ) (e : ℤ)
    (acc : UnpackedFloat.Accuracy) :
    (UnpackedFloat.roundWithAccuracy spec s m e acc).isNaN = false := by
  simp only [UnpackedFloat.roundWithAccuracy]
  split <;> rfl

theorem isNaN_normalize (spec : Format) (m e : ℤ) (s : Sign) :
    (UnpackedFloat.normalize spec m e s).isNaN = false := by
  simp only [UnpackedFloat.normalize, UnpackedFloat.round]
  split
  · exact isNaN_roundWithAccuracy ..
  · rfl
  · exact isNaN_roundWithAccuracy ..

/-- The product of two finite floats is not a NaN. -/
theorem isNaN_mul_of_isFinite {a b : Float32} (ha : a.isFinite = true)
    (hb : b.isFinite = true) : (a * b).isNaN = false := by
  simp only [Float32.isFinite, Float32.Model.isFinite] at ha hb
  refine isNaN_pack ?_
  cases hx : a.toModel.unpack <;> cases hy : b.toModel.unpack <;>
    simp_all [UnpackedFloat.isFinite, UnpackedFloat.mul, UnpackedFloat.isNaN]
  exact isNaN_roundWithAccuracy ..

/-- Scaling by a finite float other than zero keeps clear of `∞ * 0`. -/
theorem isNaN_mul_of_finite {a b : Float32} {s : Sign} {m : ℕ} {e : ℤ} {hm : 0 < m}
    (ha : a.isNaN = false) (hb : b.toModel.unpack = .finite s m e hm) :
    (a * b).isNaN = false := by
  simp only [Float32.isNaN, Float32.Model.isNaN] at ha
  refine isNaN_pack ?_
  rw [hb]
  cases hx : a.toModel.unpack <;>
    simp_all [UnpackedFloat.mul, UnpackedFloat.isNaN]
  exact isNaN_roundWithAccuracy ..

theorem isNaN_add {x y : UnpackedFloat} (spec : Format) (hx : x.isNaN = false)
    (hy : y.isFinite = true) : (UnpackedFloat.add spec x y).isNaN = false := by
  cases x with
  | notANumber => simp [UnpackedFloat.isNaN] at hx
  | infinity s =>
    cases y <;> simp_all [UnpackedFloat.add, UnpackedFloat.isFinite, UnpackedFloat.isNaN]
  | zero s =>
    cases y with
    | zero t =>
      simp only [UnpackedFloat.add]
      split <;> rfl
    | finite t m e hm => rfl
    | infinity t => simp [UnpackedFloat.isFinite] at hy
    | notANumber => simp [UnpackedFloat.isFinite] at hy
  | finite s m e hm =>
    cases y with
    | zero t => rfl
    | finite t m' e' hm' => exact isNaN_normalize ..
    | infinity t => simp [UnpackedFloat.isFinite] at hy
    | notANumber => simp [UnpackedFloat.isFinite] at hy

/-- Adding a finite float keeps clear of `∞ - ∞`. -/
theorem isNaN_add_of_isFinite {a b : Float32} (ha : a.isNaN = false)
    (hb : b.isFinite = true) : (a + b).isNaN = false :=
  isNaN_pack (isNaN_add _ ha hb)

end FloatOrder
