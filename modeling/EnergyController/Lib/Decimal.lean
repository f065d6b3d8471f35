/-
EnergyController.Lib.Decimal — numbers as decimal text.

`natText` writes a natural number without leading zeros, `fixedText` one
that stands for `k / 10^d` with `d` decimals. Both are built from `places`, the
lowest decimal places of a number, so that one lemma, `digitsValue_places`,
reads either of them back.

`roundDiv` is division rounded to the nearest, ties to even; `RoundedTo` says
the same of rationals, by what the result must satisfy.
-/
import EnergyController.Lib.CString
import Mathlib.Algebra.Order.Field.Basic
import Mathlib.Algebra.Order.Field.Rat
import Mathlib.Data.Nat.Log
import Mathlib.Tactic.FieldSimp
import Mathlib.Tactic.Linarith
import Mathlib.Tactic.Positivity
import Mathlib.Tactic.Ring

namespace Decimal

/-! ## Digits -/

/-- The ASCII digit of a value below 10. -/
def digit (n : ℕ) : UInt8 := UInt8.ofNat (48 + n)

def isDigit (c : UInt8) : Bool := 48 ≤ c && c ≤ 57

/-- The number that a run of digits stands for. -/
def digitsValue (t : List UInt8) : ℕ := t.foldl (fun n c => 10 * n + (c.toNat - 48)) 0

theorem digit_toNat {n : ℕ} (h : n < 10) : (digit n).toNat = 48 + n := by
  unfold digit
  rw [UInt8.toNat_ofNat']
  exact Nat.mod_eq_of_lt (by omega)

theorem isDigit_digit {n : ℕ} (h : n < 10) : isDigit (digit n) = true := by
  unfold isDigit
  rw [Bool.and_eq_true, decide_eq_true_iff, decide_eq_true_iff, UInt8.le_iff_toNat_le,
    UInt8.le_iff_toNat_le, digit_toNat h]
  exact ⟨Nat.le_add_right 48 n, show 48 + n ≤ 57 by omega⟩

theorem digit_eq_zero_iff {n : ℕ} (h : n < 10) : digit n = 48 ↔ n = 0 := by
  rw [← UInt8.toNat_inj, digit_toNat h]
  show 48 + n = 48 ↔ _
  omega

theorem digitsValue_append_digit (t : List UInt8) {n : ℕ} (h : n < 10) :
    digitsValue (t ++ [digit n]) = 10 * digitsValue t + n := by
  simp [digitsValue, digit_toNat h]

/-! ## The lowest places of a number -/

/-- The lowest `d` decimal places of `k`. -/
def places : ℕ → ℕ → List UInt8
  | 0, _ => []
  | d + 1, k => places d (k / 10) ++ [digit (k % 10)]

@[simp] theorem length_places (d k : ℕ) : (places d k).length = d := by
  induction d generalizing k with
  | zero => rfl
  | succ d ih => simp [places, ih]

theorem isDigit_of_mem_places {d k : ℕ} {c : UInt8} (h : c ∈ places d k) : isDigit c = true := by
  induction d generalizing k with
  | zero => cases h
  | succ d ih =>
    rcases List.mem_append.mp h with h | h
    · exact ih h
    · rw [List.mem_singleton.mp h]
      exact isDigit_digit (Nat.mod_lt _ (by decide))

theorem digitsValue_places (d k : ℕ) : digitsValue (places d k) = k % 10 ^ d := by
  induction d generalizing k with
  | zero => rw [pow_zero, Nat.mod_one]; rfl
  | succ d ih =>
    have hsplit : k % 10 ^ (d + 1) = k % 10 + 10 * (k / 10 % 10 ^ d) := by
      rw [pow_succ', Nat.mod_mul]
    rw [places, digitsValue_append_digit _ (Nat.mod_lt _ (by decide)), ih, hsplit]
    omega

/-- The first place of several. -/
theorem places_succ (d k : ℕ) : places (d + 1) k = digit (k / 10 ^ d % 10) :: places d k := by
  induction d generalizing k with
  | zero => simp [places]
  | succ d ih =>
    rw [places, ih, places, Nat.div_div_eq_div_mul, ← pow_succ']
    rfl

/-- The higher ones of several places. -/
theorem take_places (a b k : ℕ) : (places (a + b) k).take a = places a (k / 10 ^ b) := by
  induction b generalizing k with
  | zero => simp [List.take_of_length_le]
  | succ b ih =>
    have hlength : a ≤ (places (a + b) (k / 10)).length := by simp
    rw [← Nat.add_assoc, places, List.take_append_of_le_length hlength, ih,
      Nat.div_div_eq_div_mul, pow_succ']

/-! ## Whole numbers -/

/-- `n` in decimal. -/
def natText (n : ℕ) : List UInt8 := places (Nat.log 10 n + 1) n

theorem isDigit_of_mem_natText {n : ℕ} {c : UInt8} (h : c ∈ natText n) : isDigit c = true :=
  isDigit_of_mem_places h

theorem digitsValue_natText (n : ℕ) : digitsValue (natText n) = n := by
  unfold natText
  rw [digitsValue_places]
  exact Nat.mod_eq_of_lt (Nat.lt_pow_succ_log_self (by decide) n)

theorem length_natText_le {n d : ℕ} (hd : 0 < d) (h : n < 10 ^ d) : (natText n).length ≤ d := by
  unfold natText
  rw [length_places]
  exact Nat.log_lt_of_lt_pow' (by omega) h

theorem length_natText_le_iff {n d : ℕ} (hd : 0 < d) : (natText n).length ≤ d ↔ n < 10 ^ d := by
  refine ⟨fun h => ?_, length_natText_le hd⟩
  rw [natText, length_places] at h
  exact lt_of_lt_of_le (Nat.lt_pow_succ_log_self (by decide) n)
    (Nat.pow_le_pow_right (by decide) h)

theorem log_div_pow (n b : ℕ) : Nat.log 10 (n / 10 ^ b) = Nat.log 10 n - b := by
  induction b with
  | zero => simp
  | succ b ih =>
    rw [pow_succ, ← Nat.div_div_eq_div_mul, Nat.log_div_base, ih]
    omega

/-- The leading digits of a number are a number. -/
theorem take_natText {n a b : ℕ} (ha : 0 < a) (h : (natText n).length = a + b) :
    (natText n).take a = natText (n / 10 ^ b) := by
  have hlog : Nat.log 10 n + 1 = a + b := by rwa [natText, length_places] at h
  rw [natText, hlog, take_places, natText, log_div_pow, show Nat.log 10 n - b + 1 = a by omega]

/-- There is no leading zero, except for 0 itself. -/
theorem natText_head (n : ℕ) :
    ∃ c rest, natText n = c :: rest ∧ (c = 48 → rest = []) := by
  refine ⟨_, _, places_succ _ _, ?_⟩
  intro h
  have hlow : n / 10 ^ Nat.log 10 n < 10 := by
    rw [Nat.div_lt_iff_lt_mul (by positivity), ← pow_succ']
    exact Nat.lt_pow_succ_log_self (by decide) n
  rw [Nat.mod_eq_of_lt hlow, digit_eq_zero_iff hlow] at h
  have hn : n = 0 := by
    by_contra hne
    have hle := Nat.pow_log_le_self 10 hne
    rw [Nat.div_eq_zero_iff] at h
    have hpos : 0 < 10 ^ Nat.log 10 n := by positivity
    omega
  rw [hn, Nat.log_zero_right]
  rfl

/-! ## Hexadecimal -/

def hexDigit (n : ℕ) : UInt8 := .ofNat (if n < 10 then 48 + n else 87 + n)

/-- The lowest `d` hexadecimal places of `k`. -/
def hexPlaces : ℕ → ℕ → List UInt8
  | 0, _ => []
  | d + 1, k => hexPlaces d (k / 16) ++ [hexDigit (k % 16)]

/-- The capital letters. -/
def upperHexDigit (n : ℕ) : UInt8 := .ofNat (if n < 10 then 48 + n else 55 + n)

def upperHexPlaces : ℕ → ℕ → List UInt8
  | 0, _ => []
  | d + 1, k => upperHexPlaces d (k / 16) ++ [upperHexDigit (k % 16)]

@[simp] theorem length_upperHexPlaces (d k : ℕ) : (upperHexPlaces d k).length = d := by
  induction d generalizing k with
  | zero => rfl
  | succ d ih => simp [upperHexPlaces, ih]

theorem upperHexDigit_injective :
    ∀ m < 16, ∀ n < 16, upperHexDigit m = upperHexDigit n → m = n := by
  decide

/-- Enough places tell two numbers apart. -/
theorem upperHexPlaces_injective {d k k' : ℕ} (hk : k < 16 ^ d) (hk' : k' < 16 ^ d)
    (h : upperHexPlaces d k = upperHexPlaces d k') : k = k' := by
  induction d generalizing k k' with
  | zero => rw [pow_zero] at hk hk'; omega
  | succ d ih =>
    obtain ⟨hhigh, hlow⟩ := List.append_inj' h rfl
    rw [pow_succ'] at hk hk'
    have hdiv := ih (Nat.div_lt_of_lt_mul hk) (Nat.div_lt_of_lt_mul hk') hhigh
    have hmod := upperHexDigit_injective _ (Nat.mod_lt k (by decide)) _
      (Nat.mod_lt k' (by decide)) (List.singleton_inj.mp hlow)
    omega

theorem upperHexDigit_ne_zero : ∀ n < 16, upperHexDigit n ≠ 0 := by
  decide

theorem zero_not_mem_upperHexPlaces (d k : ℕ) : 0 ∉ upperHexPlaces d k := by
  induction d generalizing k with
  | zero => exact List.not_mem_nil
  | succ d ih =>
    intro h
    rcases List.mem_append.mp h with h | h
    · exact ih _ h
    · exact upperHexDigit_ne_zero _ (Nat.mod_lt k (by decide)) (List.mem_singleton.mp h).symm

/-! ## Rounding -/

/-- `n / d`, rounded to the nearest, ties to even. -/
def roundDiv (n d : ℕ) : ℕ :=
  let q := n / d
  let r := n % d
  if 2 * r < d then q else if d < 2 * r then q + 1 else q + q % 2

theorem roundDiv_le (n d : ℕ) : roundDiv n d ≤ n / d + 1 := by
  unfold roundDiv
  dsimp only
  split
  · omega
  · split <;> omega

/-- `v` is `x` rounded to `d` decimals: no multiple of `10^-d` is nearer, and
of two equally near ones it is the even one. -/
def RoundedTo (d : ℕ) (x v : ℚ) : Prop :=
  ∃ k : ℤ, v = k / 10 ^ d ∧ |x * 10 ^ d - k| ≤ 1 / 2 ∧ (|x * 10 ^ d - k| = 1 / 2 → Even k)

theorem roundedTo_zero (d : ℕ) : RoundedTo d 0 0 := ⟨0, by simp, by simp, by simp⟩

theorem RoundedTo.neg {d : ℕ} {x v : ℚ} (h : RoundedTo d x v) : RoundedTo d (-x) (-v) := by
  obtain ⟨k, hv, hle, heven⟩ := h
  have habs : |-x * 10 ^ d - ((-k : ℤ) : ℚ)| = |x * 10 ^ d - k| := by
    rw [← abs_neg]
    congr 1
    push_cast
    ring
  refine ⟨-k, ?_, ?_, ?_⟩
  · rw [hv]
    push_cast
    ring
  · rwa [habs]
  · rw [habs]
    exact fun h => (heven h).neg

/-- `roundDiv` rounds as `RoundedTo` asks. -/
theorem roundedTo_roundDiv (d n den : ℕ) (hden : 0 < den) :
    RoundedTo d (n / den / 10 ^ d) (roundDiv n den / 10 ^ d) := by
  have hscaled : (n / den / 10 ^ d : ℚ) * 10 ^ d = n / den := by
    field_simp
  have hdenQ : (0 : ℚ) < den := by exact_mod_cast hden
  have hsplit : (n : ℚ) = den * (n / den : ℕ) + (n % den : ℕ) := by
    exact_mod_cast (Nat.div_add_mod n den).symm
  set q := n / den
  set r := n % den
  have hr : (r : ℚ) < den := by exact_mod_cast Nat.mod_lt n hden
  have hquot : (n / den : ℚ) = q + r / den := by
    rw [hsplit]
    field_simp
  have hfrac : (0 : ℚ) ≤ r / den := by positivity
  refine ⟨roundDiv n den, by push_cast; rfl, ?_⟩
  rw [hscaled, hquot]
  unfold roundDiv
  dsimp only
  -- below, above and on the tie
  split
  · rename_i hlow
    have hlow : (r : ℚ) / den < 1 / 2 := by
      rw [div_lt_div_iff₀ hdenQ (by norm_num)]
      have : (2 * r : ℚ) < den := by exact_mod_cast hlow
      linarith
    have habs : |(q + r / den : ℚ) - ((q : ℤ) : ℚ)| = r / den := by
      rw [show (q + r / den : ℚ) - ((q : ℤ) : ℚ) = r / den by push_cast; ring, abs_of_nonneg hfrac]
    rw [habs]
    exact ⟨hlow.le, fun h => absurd h hlow.ne⟩
  · split
    · rename_i hhigh
      have hhigh : (1 / 2 : ℚ) < r / den := by
        rw [div_lt_div_iff₀ (by norm_num) hdenQ]
        have : (den : ℚ) < 2 * r := by exact_mod_cast hhigh
        linarith
      have hone : (r : ℚ) / den < 1 := by rwa [div_lt_one hdenQ]
      have habs : |(q + r / den : ℚ) - (((q + 1 : ℕ) : ℤ) : ℚ)| = 1 - r / den := by
        rw [← abs_neg, show -((q + r / den : ℚ) - (((q + 1 : ℕ) : ℤ) : ℚ)) = 1 - r / den by
          push_cast; ring, abs_of_nonneg (by linarith)]
      rw [habs]
      exact ⟨by linarith, fun h => absurd h (by linarith)⟩
    · rename_i hlow hhigh
      have htie : (r : ℚ) / den = 1 / 2 := by
        rw [div_eq_div_iff hdenQ.ne' (by norm_num)]
        have : (2 * r : ℚ) = den := by exact_mod_cast (by omega : 2 * r = den)
        linarith
      rw [htie]
      rcases Nat.mod_two_eq_zero_or_one q with heven | hodd
      · rw [heven, show (q + 1 / 2 : ℚ) - (((q + 0 : ℕ) : ℤ) : ℚ) = 1 / 2 by push_cast; ring,
          abs_of_nonneg (by norm_num)]
        exact ⟨le_refl _, fun _ => by exact_mod_cast (Nat.even_iff.mpr (by omega) : Even (q + 0))⟩
      · rw [hodd, show (q + 1 / 2 : ℚ) - (((q + 1 : ℕ) : ℤ) : ℚ) = -(1 / 2) by push_cast; ring,
          abs_neg, abs_of_nonneg (by norm_num)]
        exact ⟨le_refl _, fun _ => by exact_mod_cast (Nat.even_iff.mpr (by omega) : Even (q + 1))⟩

/-- A multiple of `10^-d` is its own rounding. -/
theorem roundedTo_intCast (d : ℕ) (x : ℤ) : RoundedTo d x x := by
  have hzero : (x : ℚ) * 10 ^ d - ((x * 10 ^ d : ℤ) : ℚ) = 0 := by
    push_cast
    ring
  refine ⟨x * 10 ^ d, ?_, ?_, ?_⟩
  · push_cast
    field_simp
  · rw [hzero, abs_zero]
    norm_num
  · rw [hzero, abs_zero]
    intro h
    norm_num at h

/-- Rounding moves a number by half at most. -/
theorem RoundedTo.abs_sub_le {d : ℕ} {x v : ℚ} (h : RoundedTo d x v) : |x - v| ≤ 1 / 2 := by
  obtain ⟨k, rfl, hle, -⟩ := h
  have hpow : (1 : ℚ) ≤ 10 ^ d := one_le_pow₀ (by norm_num)
  have hscaled : x - k / 10 ^ d = (x * 10 ^ d - k) / 10 ^ d := by field_simp
  rw [hscaled, abs_div, abs_of_pos (by positivity : (0 : ℚ) < 10 ^ d)]
  exact (div_le_self (abs_nonneg _) hpow).trans hle

/-! ## Fixed decimals -/

/-- The sign of a number in front of its digits. -/
def sign (neg : Bool) : List UInt8 := if neg then ascii "-" else []

/-- `k / 10^d` with `d` decimals, and a sign if it is negative. -/
def fixedText (d : ℕ) (neg : Bool) (k : ℕ) : List UInt8 :=
  (if neg then ascii "-" else []) ++ (natText (k / 10 ^ d) ++ ascii "." ++ places d k)

theorem zero_not_mem_natText (n : ℕ) : 0 ∉ natText n := by
  intro h
  exact absurd (isDigit_of_mem_natText h) (by decide)

/-- Digits, a point and a sign: no other byte. -/
theorem not_mem_fixedText {c : UInt8} (hdigit : isDigit c = false)
    (hother : c ∉ ascii "-" ++ ascii ".") (d : ℕ) (neg : Bool) (k : ℕ) : c ∉ fixedText d neg k := by
  have hnat : ∀ n, c ∉ natText n := fun n h => by
    rw [isDigit_of_mem_natText h] at hdigit
    cases hdigit
  have hplaces : c ∉ places d k := fun h => by
    rw [isDigit_of_mem_places h] at hdigit
    cases hdigit
  have hminus : c ∉ ascii "-" := fun h => hother (List.mem_append_left _ h)
  have hdot : c ∉ ascii "." := fun h => hother (List.mem_append_right _ h)
  have hsign : c ∉ if neg then ascii "-" else [] := by
    cases neg
    · exact List.not_mem_nil
    · exact hminus
  unfold fixedText
  simp only [List.mem_append, hsign, hnat, hdot, hplaces, or_self, not_false_eq_true]

theorem zero_not_mem_fixedText (d : ℕ) (neg : Bool) (k : ℕ) : 0 ∉ fixedText d neg k :=
  not_mem_fixedText (by decide) (by decide) d neg k

/-- A fixed text with fewer decimals is the front of one with more. -/
theorem take_fixedText (a b : ℕ) (neg : Bool) (k : ℕ) :
    (fixedText (a + b) neg k).take ((sign neg).length + (natText (k / 10 ^ (a + b))).length + 1 + a)
      = sign neg ++ (natText (k / 10 ^ (a + b)) ++ (ascii "." ++ places a (k / 10 ^ b))) := by
  have hdot : (ascii ".").length = 1 := rfl
  show (sign neg ++ (natText (k / 10 ^ (a + b)) ++ ascii "." ++ places (a + b) k)).take _ = _
  rw [Nat.add_assoc, Nat.add_assoc, List.take_length_add_append, List.append_assoc,
    List.take_length_add_append, ← hdot, List.take_length_add_append, take_places]

theorem length_fixedText_le {d k n : ℕ} (neg : Bool) (hn : 0 < n) (h : k < 10 ^ n) :
    (fixedText d neg k).length ≤ 1 + (n + 1 + d) := by
  have hint : (natText (k / 10 ^ d)).length ≤ n :=
    length_natText_le hn (lt_of_le_of_lt (Nat.div_le_self _ _) h)
  have hsign : (if neg then ascii "-" else []).length ≤ 1 := by
    cases neg <;> simp [ascii]
  have hdot : (ascii ".").length = 1 := rfl
  unfold fixedText
  rw [List.length_append, List.length_append, List.length_append, length_places, hdot]
  omega

end Decimal
