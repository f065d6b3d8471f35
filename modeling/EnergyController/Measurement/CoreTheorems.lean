/-
EnergyController.Measurement.CoreTheorems — what `buildMeasurement` accepts.

`buildMeasurement_of_valid`: a valid measurement built with the default limits is
the raw reading itself, whose five fields are finite, inside the limits, and
whose active power does not exceed the apparent power by more than the
tolerance. The source writes the last test as "reject if greater", which a
NaN on the right-hand side would pass; `isNaN_powerBound` shows that the
right-hand side is never a NaN once the fields are finite.
-/
import EnergyController.Lib.FloatOrder
import EnergyController.Measurement.Core

namespace EnergyController

/-- Every field of the sample is a finite number. -/
structure Measurement.Finite (m : Measurement) : Prop where
  voltage : m.voltage.isFinite = true
  current : m.current.isFinite = true
  power : m.power.isFinite = true
  energy : m.energy.isFinite = true
  apparentPower : m.apparentPower.isFinite = true
  powerFactor : m.powerFactor.isFinite = true

instance (m : Measurement) : Decidable m.Finite :=
  decidable_of_iff
    (m.voltage.isFinite = true ∧ m.current.isFinite = true ∧ m.power.isFinite = true ∧
      m.energy.isFinite = true ∧ m.apparentPower.isFinite = true ∧
      m.powerFactor.isFinite = true)
    ⟨fun ⟨h1, h2, h3, h4, h5, h6⟩ => ⟨h1, h2, h3, h4, h5, h6⟩,
      fun ⟨h1, h2, h3, h4, h5, h6⟩ => ⟨h1, h2, h3, h4, h5, h6⟩⟩

/-- The right-hand side of the consistency test. -/
def RawPzemReading.powerBound (raw : RawPzemReading) (limits : MeasurementLimits) : Float32 :=
  raw.voltage * raw.current * (1.0 + limits.powerOverApparentRatio) +
    limits.powerOverApparentMarginW

/-- What a raw reading must satisfy to be passed on as a valid sample. -/
structure RawPzemReading.Plausible (raw : RawPzemReading) (limits : MeasurementLimits) :
    Prop where
  voltage_finite : raw.voltage.isFinite = true
  current_finite : raw.current.isFinite = true
  power_finite : raw.power.isFinite = true
  energy_finite : raw.energy.isFinite = true
  powerFactor_finite : raw.powerFactor.isFinite = true
  voltage_range : 0.0 ≤ raw.voltage ∧ raw.voltage ≤ limits.maxVoltage
  current_range : 0.0 ≤ raw.current ∧ raw.current ≤ limits.maxCurrent
  power_range : 0.0 ≤ raw.power ∧ raw.power ≤ limits.maxPower
  energy_range : 0.0 ≤ raw.energy ∧ raw.energy ≤ limits.maxEnergyKwh
  powerFactor_range : 0.0 ≤ raw.powerFactor ∧ raw.powerFactor ≤ 1.0
  consistent : raw.power ≤ raw.powerBound limits

/-- With finite readings the consistency bound is a number or `+∞`. -/
theorem isNaN_powerBound {raw : RawPzemReading} (hv : raw.voltage.isFinite = true)
    (hi : raw.current.isFinite = true) :
    (raw.powerBound defaultMeasurementLimits).isNaN = false := by
  have hscale : (1.0 + defaultMeasurementLimits.powerOverApparentRatio).toModel.unpack
      = .finite .positive 9227469 (-23) (by decide) := by rfl
  refine FloatOrder.isNaN_add_of_isFinite ?_ (by decide)
  exact FloatOrder.isNaN_mul_of_finite (FloatOrder.isNaN_mul_of_isFinite hv hi) hscale

/-- A range test of the source, `x < 0 || x > max` refused, as a range. -/
theorem range_of_not_out {x max : Float32} (hx : x.isFinite = true)
    (hmax : max.isNaN = false) (hlow : ¬ x < 0.0) (hhigh : ¬ max < x) :
    0.0 ≤ x ∧ x ≤ max :=
  ⟨FloatOrder.le_of_not_lt (by decide) (FloatOrder.isNaN_of_isFinite hx) hlow,
    FloatOrder.le_of_not_lt (FloatOrder.isNaN_of_isFinite hx) hmax hhigh⟩

/-- A reading that is passed on as valid is plausible, and the measurement
carries it unchanged. -/
theorem buildMeasurement_of_valid {raw : RawPzemReading} {source : MeasurementSource}
    {t : Millis} (h : (buildMeasurement raw source t defaultMeasurementLimits).valid = true) :
    raw.Plausible defaultMeasurementLimits ∧
      buildMeasurement raw source t defaultMeasurementLimits
        = { voltage := raw.voltage, current := raw.current, power := raw.power,
            energy := raw.energy, apparentPower := raw.voltage * raw.current,
            powerFactor := raw.powerFactor, valid := true, status := .ok,
            source := source, timestamp := t } := by
  simp only [buildMeasurement] at h ⊢
  split at h
  · simp [makeInvalidMeasurement] at h
  rename_i hfin
  split at h
  · simp [makeInvalidMeasurement] at h
  rename_i hrange
  split at h
  · simp [makeInvalidMeasurement] at h
  rename_i hcons
  rw [if_neg hfin, if_neg hrange, if_neg hcons]
  simp only [Bool.or_eq_true, Bool.not_eq_true', not_or, Bool.not_eq_false] at hfin
  simp only [Bool.or_eq_true, decide_eq_true_eq, not_or, gt_iff_lt] at hrange hcons
  obtain ⟨⟨⟨⟨hv, hi⟩, hp⟩, he⟩, hf⟩ := hfin
  obtain ⟨⟨⟨⟨⟨⟨⟨⟨⟨hv0, hv1⟩, hi0⟩, hi1⟩, hp0⟩, hp1⟩, he0⟩, he1⟩, hf0⟩, hf1⟩ := hrange
  refine ⟨?_, rfl⟩
  exact {
    voltage_finite := hv
    current_finite := hi
    power_finite := hp
    energy_finite := he
    powerFactor_finite := hf
    voltage_range := range_of_not_out hv (by decide) hv0 hv1
    current_range := range_of_not_out hi (by decide) hi0 hi1
    power_range := range_of_not_out hp (by decide) hp0 hp1
    energy_range := range_of_not_out he (by decide) he0 he1
    powerFactor_range := range_of_not_out hf (by decide) hf0 hf1
    consistent := FloatOrder.le_of_not_lt (FloatOrder.isNaN_of_isFinite hp)
      (isNaN_powerBound hv hi) hcons }

/-- A reading that is not passed on leaves the zero measurement and a reason. -/
theorem buildMeasurement_of_invalid {raw : RawPzemReading} {source : MeasurementSource}
    {t : Millis} {limits : MeasurementLimits}
    (h : (buildMeasurement raw source t limits).valid = false) :
    ∃ status, buildMeasurement raw source t limits = makeInvalidMeasurement source status t := by
  unfold buildMeasurement at h ⊢
  split at h
  · rename_i hfin
    rw [if_pos hfin]
    exact ⟨_, rfl⟩
  rename_i hfin
  rw [if_neg hfin]
  split at h
  · rename_i hrange
    rw [if_pos hrange]
    exact ⟨_, rfl⟩
  rename_i hrange
  rw [if_neg hrange]
  dsimp only at h ⊢
  split at h
  · rename_i hcons
    rw [if_pos hcons]
    exact ⟨_, rfl⟩
  · cases h

/-- A measurement is labelled with the source it was built for. -/
theorem buildMeasurement_source (raw : RawPzemReading) (source : MeasurementSource) (t : Millis)
    (limits : MeasurementLimits) : (buildMeasurement raw source t limits).source = source := by
  unfold buildMeasurement
  split
  · rfl
  split
  · rfl
  dsimp only
  split <;> rfl

theorem MeasurementSource.byte_injective : Function.Injective MeasurementSource.byte := by
  intro a b h
  cases a <;> cases b
  · rfl
  · cases h
  · cases h
  · rfl

/-- The name of a source is no other byte's. -/
theorem measurementSourceName_eq_iff (b : UInt8) (source : MeasurementSource) :
    measurementSourceName b = measurementSourceName source ↔ b = source := by
  refine ⟨fun h => ?_, fun h => by rw [h]⟩
  by_cases hpzem : b = MeasurementSource.pzem
  · subst hpzem
    cases source with
    | pzem => rfl
    | simulation => exact absurd h (by decide)
  by_cases hsimulation : b = MeasurementSource.simulation
  · subst hsimulation
    cases source with
    | pzem => exact absurd h (by decide)
    | simulation => rfl
  · have hunknown : measurementSourceName b = unknownName := by
      rw [measurementSourceName, if_neg hpzem, if_neg hsimulation]
    rw [hunknown] at h
    cases source <;> exact absurd h (by decide)

/-- The sample of a meter that reads `voltage` and `power` at 3 A. -/
def meterSample (voltage power : Float32) (timestampMs : Millis) : Measurement :=
  buildMeasurement
    { voltage := voltage, current := 3.0, power := power, energy := 1.0, powerFactor := 0.95 }
    .pzem timestampMs defaultMeasurementLimits

end EnergyController
