/-
EnergyController.Measurement.Exact — `buildMeasurement` in exact arithmetic.

The source validates a reading with binary32 comparisons, two products and a
sum. `buildMeasurement_exact` says what that amounts to for the numbers that the
readings are: the range tests are exact, and the consistency test is that of
`P ≤ 1.1 V I + 2`, but for a millionth.

Comparisons of finite floats are those of their values (`within_iff`), so the
range tests need only the values of the limits (`inRange_iff`). The bound of the
consistency test is rounded three times, and the ratio of the source is not 1.1
but a binary32 number next to it; `powerBound_bounds` follows the roundings with
the rules of `Lib.FloatRounding`. `outcome_buildMeasurement` has the tests in the
order of the source, and the theorem goes through its cases.
-/
import EnergyController.Lib.FloatRounding
import EnergyController.Measurement.CoreTheorems

namespace EnergyController

open FloatValue (value Nonnegative)

/-- Every field passes `std::isfinite`. -/
structure RawPzemReading.Finite (raw : RawPzemReading) : Prop where
  voltage : raw.voltage.isFinite = true
  current : raw.current.isFinite = true
  power : raw.power.isFinite = true
  energy : raw.energy.isFinite = true
  powerFactor : raw.powerFactor.isFinite = true

/-- The readings as numbers, within the limits. -/
structure RawPzemReading.InRange (raw : RawPzemReading) : Prop where
  voltage : 0 ≤ value raw.voltage ∧ value raw.voltage ≤ 300
  current : 0 ≤ value raw.current ∧ value raw.current ≤ 100
  power : 0 ≤ value raw.power ∧ value raw.power ≤ 25000
  energy : 0 ≤ value raw.energy ∧ value raw.energy ≤ 10000
  powerFactor : 0 ≤ value raw.powerFactor ∧ value raw.powerFactor ≤ 1

/-- The product that the source takes for the apparent power. -/
def RawPzemReading.apparent (raw : RawPzemReading) : ℚ := value raw.voltage * value raw.current

/-- The value of a constant is read off its mantissa and exponent. -/
theorem value_of_unpack {x : Float32} {q : ℚ} (m : ℕ) (e : ℤ) (hm : 0 < m)
    (hu : x.toModel.unpack = .finite .positive m e hm) (hq : (m * 2 ^ e : ℚ) = q) :
    value x = q := by
  rw [value, hu]
  exact hq

/-- A range test of the source is a test of the number. A reading of -0 passes it,
as `x < 0.0` is false of it and its value is 0. -/
theorem within_iff {x max : Float32} {limit : ℚ} (hx : x.isFinite = true)
    (hmax : max.isFinite = true) (hlimit : value max = limit) :
    ¬ x < 0.0 ∧ ¬ max < x ↔ 0 ≤ value x ∧ value x ≤ limit := by
  rw [FloatValue.lt_iff_value_lt hx (by decide), FloatValue.lt_iff_value_lt hmax hx, not_lt, not_lt,
    hlimit]
  rfl

/-- The right-hand side of the consistency test, two products and a sum later, and
the first product, which is also the apparent power that is stored. The ratio is
`9227469 / 2^23`, a little more than 1.1; within the ranges no product comes near
the overflow, and the three relative errors of `2^-23` stay below a millionth. -/
theorem powerBound_bounds {raw : RawPzemReading} (hfinite : raw.Finite) (hrange : raw.InRange) :
    let bound := raw.powerBound defaultMeasurementLimits
    bound.isFinite = true ∧
      (11 / 10 - 1 / 10 ^ 6) * raw.apparent + 2 - 1 / 10 ^ 6 ≤ value bound ∧
      value bound ≤ (11 / 10 + 1 / 10 ^ 6) * raw.apparent + 2 + 1 / 10 ^ 6 ∧
      |value (raw.voltage * raw.current) - raw.apparent| ≤ raw.apparent / 2 ^ 23 + 1 / 2 ^ 149 := by
  have hc : value (1.0 + defaultMeasurementLimits.powerOverApparentRatio) = 9227469 / 2 ^ 23 :=
    value_of_unpack 9227469 (-23) (by decide) rfl (by norm_num)
  have hw : value defaultMeasurementLimits.powerOverApparentMarginW = 2 :=
    value_of_unpack 8388608 (-22) (by decide) rfl (by norm_num)
  have hscale : Nonnegative (1.0 + defaultMeasurementLimits.powerOverApparentRatio) :=
    ⟨by decide, by rw [hc]; norm_num⟩
  have hmargin : Nonnegative defaultMeasurementLimits.powerOverApparentMarginW :=
    ⟨by decide, by rw [hw]; norm_num⟩
  have hproduct0 : 0 ≤ raw.apparent := mul_nonneg hrange.voltage.1 hrange.current.1
  have hproduct : raw.apparent ≤ 30000 :=
    calc raw.apparent ≤ 300 * 100 :=
          mul_le_mul hrange.voltage.2 hrange.current.2 hrange.current.1 (by norm_num)
      _ = 30000 := by norm_num
  -- V I, then the ratio, then the margin: each rounding is bounded by the last
  obtain ⟨hva, ha⟩ := FloatValue.rounds_mul ⟨hfinite.voltage, hrange.voltage.1⟩
    ⟨hfinite.current, hrange.current.1⟩ (by
      show raw.apparent < _
      linarith)
  have ha : |value (raw.voltage * raw.current) - raw.apparent|
      ≤ raw.apparent / 2 ^ 23 + 1 / 2 ^ 149 := ha
  obtain ⟨ha1, ha2⟩ := abs_le.mp ha
  have ha0 := hva.value_nonneg
  obtain ⟨hvs, hs⟩ := FloatValue.rounds_mul hva hscale (by
    rw [hc]
    linarith)
  rw [hc] at hs
  obtain ⟨hs1, hs2⟩ := abs_le.mp hs
  have hs0 := hvs.value_nonneg
  obtain ⟨hvt, ht⟩ := FloatValue.rounds_add hvs hmargin (by
    rw [hw]
    linarith)
  rw [hw] at ht
  obtain ⟨ht1, ht2⟩ := abs_le.mp ht
  refine ⟨hvt.isFinite, ?_, ?_, ha⟩
  · show _ ≤ value (raw.voltage * raw.current * _ + _)
    linarith
  · show value (raw.voltage * raw.current * _ + _) ≤ _
    linarith

/-- The first test of the source. -/
theorem finite_iff (raw : RawPzemReading) :
    raw.Finite ↔ (!raw.voltage.isFinite || !raw.current.isFinite || !raw.power.isFinite ||
      !raw.energy.isFinite || !raw.powerFactor.isFinite) = false := by
  simp only [Bool.or_eq_false_iff, Bool.not_eq_false']
  exact ⟨fun ⟨h1, h2, h3, h4, h5⟩ => ⟨⟨⟨⟨h1, h2⟩, h3⟩, h4⟩, h5⟩,
    fun ⟨⟨⟨⟨h1, h2⟩, h3⟩, h4⟩, h5⟩ => ⟨h1, h2, h3, h4, h5⟩⟩

/-- The second test of the source. Its limits are whole numbers, which binary32
has exactly, so that the tests are those of the numbers. -/
theorem inRange_iff {raw : RawPzemReading} (h : raw.Finite) :
    raw.InRange ↔ (raw.voltage < 0.0 || raw.voltage > defaultMeasurementLimits.maxVoltage ||
      raw.current < 0.0 || raw.current > defaultMeasurementLimits.maxCurrent ||
      raw.power < 0.0 || raw.power > defaultMeasurementLimits.maxPower ||
      raw.energy < 0.0 || raw.energy > defaultMeasurementLimits.maxEnergyKwh ||
      raw.powerFactor < 0.0 || raw.powerFactor > 1.0 : Bool) = false := by
  have hv : value defaultMeasurementLimits.maxVoltage = 300 :=
    value_of_unpack 9830400 (-15) (by decide) rfl (by norm_num)
  have hi : value defaultMeasurementLimits.maxCurrent = 100 :=
    value_of_unpack 13107200 (-17) (by decide) rfl (by norm_num)
  have hp : value defaultMeasurementLimits.maxPower = 25000 :=
    value_of_unpack 12800000 (-9) (by decide) rfl (by norm_num)
  have he : value defaultMeasurementLimits.maxEnergyKwh = 10000 :=
    value_of_unpack 10240000 (-10) (by decide) rfl (by norm_num)
  have hf : value 1.0 = 1 :=
    value_of_unpack 8388608 (-23) (by decide) rfl (by norm_num)
  have hv := within_iff h.voltage (by decide) hv
  have hi := within_iff h.current (by decide) hi
  have hp := within_iff h.power (by decide) hp
  have he := within_iff h.energy (by decide) he
  have hf := within_iff h.powerFactor (by decide) hf
  simp only [Bool.or_eq_false_iff, decide_eq_false_iff_not, gt_iff_lt]
  constructor
  · intro hrange
    have hv := hv.mpr hrange.voltage
    have hi := hi.mpr hrange.current
    have hp := hp.mpr hrange.power
    have he := he.mpr hrange.energy
    have hf := hf.mpr hrange.powerFactor
    exact ⟨⟨⟨⟨⟨⟨⟨⟨⟨hv.1, hv.2⟩, hi.1⟩, hi.2⟩, hp.1⟩, hp.2⟩, he.1⟩, he.2⟩, hf.1⟩, hf.2⟩
  · intro ⟨⟨⟨⟨⟨⟨⟨⟨⟨hv0, hv1⟩, hi0⟩, hi1⟩, hp0⟩, hp1⟩, he0⟩, he1⟩, hf0⟩, hf1⟩
    exact ⟨hv.mp ⟨hv0, hv1⟩, hi.mp ⟨hi0, hi1⟩, hp.mp ⟨hp0, hp1⟩, he.mp ⟨he0, he1⟩,
      hf.mp ⟨hf0, hf1⟩⟩

/-- The tests of `buildMeasurement`, in its order: what is known of the reading
when it leaves the function at each of the four places, and what it leaves with. -/
inductive Outcome (raw : RawPzemReading) (m : Measurement) : Prop where
  | sensorError (hfinite : ¬ raw.Finite) (hstatus : m.status = .sensorError)
      (hvalid : m.valid = false)
  | outOfRange (hfinite : raw.Finite) (hrange : ¬ raw.InRange) (hstatus : m.status = .outOfRange)
      (hvalid : m.valid = false)
  | inconsistent (hfinite : raw.Finite) (hrange : raw.InRange)
      (hpower : raw.powerBound defaultMeasurementLimits < raw.power)
      (hstatus : m.status = .inconsistent) (hvalid : m.valid = false)
  | ok (hfinite : raw.Finite) (hrange : raw.InRange)
      (hpower : ¬ raw.powerBound defaultMeasurementLimits < raw.power) (hstatus : m.status = .ok)
      (hvalid : m.valid = true) (happarent : m.apparentPower = raw.voltage * raw.current)

/-- The source, read as its outcomes; every `return` is one of them. -/
theorem outcome_buildMeasurement (raw : RawPzemReading) (source : MeasurementSource) (t : Millis) :
    Outcome raw (buildMeasurement raw source t defaultMeasurementLimits) := by
  unfold buildMeasurement
  split
  · rename_i htest
    exact .sensorError (fun h => by simp [(finite_iff raw).mp h] at htest) rfl rfl
  rename_i htest
  have hfinite := (finite_iff raw).mpr (Bool.eq_false_iff.mpr htest)
  split
  · rename_i htest
    exact .outOfRange hfinite (fun h => by simp [(inRange_iff hfinite).mp h] at htest) rfl rfl
  rename_i htest
  have hrange := (inRange_iff hfinite).mpr (Bool.eq_false_iff.mpr htest)
  dsimp only
  split
  · rename_i hpower
    exact .inconsistent hfinite hrange hpower rfl rfl
  · rename_i hpower
    exact .ok hfinite hrange hpower rfl rfl rfl

/-- **What `buildMeasurement` accepts, in exact arithmetic.** The first two tests
are exact. Of a reading that passes them, the third accepts every power up to
`1.1 V I + 2` and rejects every greater one, where the two may be off by a
millionth of `V I` and a millionth of a watt; in between, either may happen. The
apparent power of a valid measurement is the exact one, rounded. -/
theorem buildMeasurement_exact (raw : RawPzemReading) (source : MeasurementSource) (t : Millis) :
    let m := buildMeasurement raw source t defaultMeasurementLimits
    (m.status = .sensorError ↔ ¬ raw.Finite) ∧
      (m.status = .outOfRange ↔ raw.Finite ∧ ¬ raw.InRange) ∧
      (raw.Finite → raw.InRange →
        (value raw.power ≤ (11 / 10 - 1 / 10 ^ 6) * raw.apparent + 2 - 1 / 10 ^ 6 →
          m.valid = true) ∧
        ((11 / 10 + 1 / 10 ^ 6) * raw.apparent + 2 + 1 / 10 ^ 6 < value raw.power →
          m.status = .inconsistent)) ∧
      (m.valid = true → m.status = .ok ∧
        |value m.apparentPower - raw.apparent| ≤ raw.apparent / 2 ^ 23 + 1 / 2 ^ 149) := by
  intro m
  cases outcome_buildMeasurement raw source t with
  | sensorError hfinite hstatus hvalid =>
    have hstatus : m.status = _ := hstatus
    have hvalid : m.valid = _ := hvalid
    simp [hstatus, hvalid, hfinite]
  | outOfRange hfinite hrange hstatus hvalid =>
    have hstatus : m.status = _ := hstatus
    have hvalid : m.valid = _ := hvalid
    simp [hstatus, hvalid, hfinite, hrange]
  | inconsistent hfinite hrange hpower hstatus hvalid =>
    have hstatus : m.status = _ := hstatus
    have hvalid : m.valid = _ := hvalid
    obtain ⟨hbound, hlow, -⟩ := powerBound_bounds hfinite hrange
    have hlt := (FloatValue.lt_iff_value_lt hbound hfinite.power).mp hpower
    refine ⟨by simp [hstatus, hfinite], by simp [hstatus, hrange],
      fun _ _ => ⟨fun h => ?_, fun _ => hstatus⟩, fun h => ?_⟩
    -- a power that the rounded bound refuses is above the lower exact one
    · linarith
    · rw [hvalid] at h
      cases h
  | ok hfinite hrange hpower hstatus hvalid happarent =>
    have hstatus : m.status = _ := hstatus
    have hvalid : m.valid = _ := hvalid
    have happarent : m.apparentPower = _ := happarent
    obtain ⟨hbound, -, hhigh, happrox⟩ := powerBound_bounds hfinite hrange
    refine ⟨by simp [hstatus, hfinite], by simp [hstatus, hrange],
      fun _ _ => ⟨fun _ => hvalid, fun h => absurd ?_ hpower⟩, fun _ => ⟨hstatus, ?_⟩⟩
    · exact (FloatValue.lt_iff_value_lt hbound hfinite.power).mpr (hhigh.trans_lt h)
    · rw [happarent]
      exact happrox

end EnergyController
