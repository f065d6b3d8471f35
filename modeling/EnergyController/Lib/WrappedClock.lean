/-
EnergyController.Lib.WrappedClock — a `w`-bit counter read against true time.

True time is a natural number of ticks; `reading w t` is what a counter of
`w` bits shows at time `t`. Software on such a counter subtracts two readings
and compares the difference, either unsigned (an age) or signed (before or
after). The lemmas say what the difference is in true time:

* unsigned, from the earlier to the later time: the true distance modulo
  `2 ^ w`, hence the true distance as long as it is below `2 ^ w`;
* unsigned, the other way round: the complement to `2 ^ w`;
* signed: negative exactly when the distance modulo `2 ^ w` has reached the
  half range, whichever of the two times really is the later one.
-/
import Mathlib.Data.BitVec

namespace WrappedClock

variable {w : ℕ}

/-- What a `w`-bit counter shows at true time `t`. -/
def reading (w t : ℕ) : BitVec w := BitVec.ofNat w t

theorem toNat_reading (t : ℕ) : (reading w t).toNat = t % 2 ^ w := by
  simp [reading]

/-- The difference of two readings is the reading of the difference. -/
theorem sub_reading {s t : ℕ} (h : s ≤ t) : reading w t - reading w s = reading w (t - s) := by
  have hsplit : reading w t = reading w (t - s) + reading w s := by
    simp only [reading, ← BitVec.ofNat_add]
    rw [Nat.sub_add_cancel h]
  rw [hsplit, BitVec.add_sub_cancel]

theorem toNat_sub_reading {s t : ℕ} (h : s ≤ t) :
    (reading w t - reading w s).toNat = (t - s) % 2 ^ w := by
  rw [sub_reading h, toNat_reading]

/-- Within one turn of the counter, an age is the true age. -/
theorem toNat_sub_reading_of_lt {s t : ℕ} (h : s ≤ t) (hlt : t - s < 2 ^ w) :
    (reading w t - reading w s).toNat = t - s := by
  rw [toNat_sub_reading h, Nat.mod_eq_of_lt hlt]

theorem sub_reading_le_iff {s t : ℕ} (h : s ≤ t) (hlt : t - s < 2 ^ w) (limit : BitVec w) :
    reading w t - reading w s ≤ limit ↔ t - s ≤ limit.toNat := by
  rw [BitVec.le_def, toNat_sub_reading_of_lt h hlt]

theorem le_sub_reading_iff {s t : ℕ} (h : s ≤ t) (hlt : t - s < 2 ^ w) (limit : BitVec w) :
    limit ≤ reading w t - reading w s ↔ limit.toNat ≤ t - s := by
  rw [BitVec.le_def, toNat_sub_reading_of_lt h hlt]

/-- The age of any stamp grows with true time, until it wraps. -/
theorem toNat_sub_of_later {s : BitVec w} {p t : ℕ} (h : p ≤ t)
    (hlt : (reading w p - s).toNat + (t - p) < 2 ^ w) :
    (reading w t - s).toNat = (reading w p - s).toNat + (t - p) := by
  have hsplit : reading w t - s = (reading w p - s) + reading w (t - p) := by
    rw [← sub_reading h, add_comm, sub_add_sub_cancel]
  rw [hsplit, BitVec.toNat_add, toNat_reading, Nat.add_mod_mod, Nat.mod_eq_of_lt hlt]

/-- An age taken from a clock value read BEFORE the stamp: the complement. -/
theorem toNat_sub_reading_of_gt {s t : ℕ} (h : t < s) :
    (reading w t - reading w s).toNat = (2 ^ w - (s - t) % 2 ^ w) % 2 ^ w := by
  have hneg : reading w t - reading w s = -(reading w (s - t)) := by
    rw [← sub_reading h.le, BitVec.neg_sub, BitVec.sub_eq_add_neg, BitVec.add_comm]
  rw [hneg, BitVec.toNat_neg, toNat_reading]

/-- Such an age is within a limit only if the clock was overtaken by a multiple
of its turn, or by almost one. -/
theorem sub_reading_le_iff_of_gt {s t : ℕ} (h : t < s) (limit : BitVec w) :
    reading w t - reading w s ≤ limit ↔
      (s - t) % 2 ^ w = 0 ∨ 2 ^ w ≤ (s - t) % 2 ^ w + limit.toNat := by
  rw [BitVec.le_def, toNat_sub_reading_of_gt h]
  have hlt : (s - t) % 2 ^ w < 2 ^ w := Nat.mod_lt _ (Nat.two_pow_pos w)
  generalize (s - t) % 2 ^ w = d at hlt ⊢
  rcases Nat.eq_zero_or_pos d with rfl | hd
  · simp
  · rw [Nat.mod_eq_of_lt (by omega)]
    omega

/-- The signed comparison of two readings, in true time. -/
theorem toInt_sub_reading_neg_iff {s t : ℕ} (h : s ≤ t) :
    (reading w t - reading w s).toInt < 0 ↔ 2 ^ w ≤ 2 * ((t - s) % 2 ^ w) := by
  rw [BitVec.toInt_eq_toNat_cond, toNat_sub_reading h]
  have hlt : (t - s) % 2 ^ w < 2 ^ w := Nat.mod_lt _ (Nat.two_pow_pos w)
  generalize (t - s) % 2 ^ w = d at hlt ⊢
  have hcast : ((2 ^ w : ℕ) : ℤ) = (2 : ℤ) ^ w := by push_cast; rfl
  split <;> omega

/-- The other way round, up to half a turn: always negative. -/
theorem toInt_sub_reading_neg_of_gt {s t : ℕ} (h : t < s) (hle : 2 * (s - t) ≤ 2 ^ w) :
    (reading w t - reading w s).toInt < 0 := by
  have hlt : s - t < 2 ^ w := by omega
  rw [BitVec.toInt_eq_toNat_cond, toNat_sub_reading_of_gt h, Nat.mod_eq_of_lt hlt,
    Nat.mod_eq_of_lt (by omega)]
  have hcast : ((2 ^ w : ℕ) : ℤ) = (2 : ℤ) ^ w := by push_cast; rfl
  split <;> omega

end WrappedClock
