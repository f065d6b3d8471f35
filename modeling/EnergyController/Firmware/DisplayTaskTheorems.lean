/-
EnergyController.Firmware.DisplayTaskTheorems — what DisplayTask prints, and where.

The texts are fitted to sixteen columns, for what a valid measurement can hold;
the mark of a simulation build shares the first row with them. `display_exact`
says that each text fits between its cursor and the edge, that no two share a
cell, and what the digits stand for.
-/
import EnergyController.Firmware.DisplayTask
import EnergyController.Firmware.LatestMeasurementTheorems

namespace EnergyController

/-- The two texts that an iteration prints. -/
def screenTexts (m : Measurement) (state : SystemState) : List UInt8 × List UInt8 :=
  if m.valid then (voltageRow m, powerRow m state) else (ascii "Sensor Error", ascii "Check PZEM")

/-- A text, and the cell that it begins in. -/
structure Placed where
  column : ℕ
  row : ℕ
  text : List UInt8

namespace Placed

def calls (p : Placed) : List LcdCall := [.setCursor p.column p.row, .print p.text]

/-- The text ends within the row. -/
def Fits (p : Placed) : Prop := p.row < lcdRows ∧ p.column + p.text.length ≤ lcdColumns

/-- Two texts in different cells. -/
def Apart (p q : Placed) : Prop :=
  p.row ≠ q.row ∨ p.column + p.text.length ≤ q.column ∨ q.column + q.text.length ≤ p.column

/-- What the text puts in a cell. -/
def cell (p : Placed) (column row : ℕ) : Option UInt8 :=
  if p.row = row ∧ p.column ≤ column then p.text[column - p.column]? else none

end Placed

/-- The texts of an iteration, in order. -/
def screen (build : MeasurementSource) (m : Measurement) (state : SystemState) : List Placed :=
  (if build = .simulation then [{ column := 15, row := 0, text := ascii "S" }] else []) ++
    [{ column := 0, row := 0, text := (screenTexts m state).1 },
      { column := 0, row := 1, text := (screenTexts m state).2 }]

/-! ## The texts fit -/

/-- A number in a row, and the text it is shown as. -/
structure ShownAs (decimals : ℕ) (x : Float32) (text : List UInt8) (bound : ℕ) : Prop where
  digits : ∃ neg k, text = FloatValue.pointText decimals neg k ∧
    Decimal.RoundedTo decimals (FloatValue.value x) (k / 10 ^ decimals) ∧ (neg = true → k = 0)
  fits : text.length ≤ bound

/-- A number that is shown within its columns. -/
theorem shownAs_of_range {x c : Float32} {decimals n w bound : ℕ} (hx : x.isFinite = true)
    (hc : c.isFinite = true) (hrange : 0.0 ≤ x ∧ x ≤ c)
    (hbound : FloatValue.value c ≤ n / 10 ^ decimals) (hw : 0 < w) (hn : n / 10 ^ decimals < 10 ^ w)
    (hfits : max 2 w + (if decimals = 0 then 0 else 1 + decimals) ≤ bound) :
    ShownAs decimals x (FloatValue.printfText decimals x) bound := by
  obtain ⟨neg, k, htext, hk, hneg, hround⟩ :=
    FloatValue.printfText_of_range hx hc hrange hbound
  refine ⟨⟨neg, k, htext, hround, hneg⟩, ?_⟩
  rw [htext]
  exact (FloatValue.length_pointText_le hw hn hk hneg).trans hfits

theorem value_maxVoltage : FloatValue.value 300.0 ≤ (3000 : ℕ) / 10 ^ 1 := by
  have hunpack : (300.0 : Float32).toModel.unpack = .finite .positive 9830400 (-15) (by decide) :=
    rfl
  rw [FloatValue.value, hunpack, FloatValue.unpackedValue, FloatValue.signed]
  norm_num

theorem value_maxCurrent : FloatValue.value 100.0 ≤ (10000 : ℕ) / 10 ^ 2 := by
  have hunpack : (100.0 : Float32).toModel.unpack = .finite .positive 13107200 (-17) (by decide) :=
    rfl
  rw [FloatValue.value, hunpack, FloatValue.unpackedValue, FloatValue.signed]
  norm_num

theorem value_maxPower : FloatValue.value 25000.0 ≤ (25000 : ℕ) / 10 ^ 0 := by
  have hunpack : (25000.0 : Float32).toModel.unpack = .finite .positive 12800000 (-9) (by decide) :=
    rfl
  rw [FloatValue.value, hunpack, FloatValue.unpackedValue, FloatValue.signed]
  norm_num

/-- What the numbers of a plausible reading look like. -/
structure Displayed (m : Measurement) : Prop where
  voltage : ShownAs 1 m.voltage (FloatValue.printfText 1 m.voltage) 5
  current : ShownAs 2 m.current (FloatValue.printfText 2 m.current) 6
  power : ShownAs 0 m.power (FloatValue.printfText 0 m.power) 5

theorem displayed_of_valid {raw : RawPzemReading} {source : MeasurementSource} {t : Millis}
    (h : (buildMeasurement raw source t defaultMeasurementLimits).valid = true) :
    Displayed (buildMeasurement raw source t defaultMeasurementLimits) := by
  obtain ⟨hraw, hm⟩ := buildMeasurement_of_valid h
  rw [hm]
  exact {
    voltage := shownAs_of_range hraw.voltage_finite (by decide) hraw.voltage_range
      value_maxVoltage (w := 3) (by decide) (by decide) (by decide)
    current := shownAs_of_range hraw.current_finite (by decide) hraw.current_range
      value_maxCurrent (w := 3) (by decide) (by decide) (by decide)
    power := shownAs_of_range hraw.power_finite (by decide) hraw.power_range
      value_maxPower (w := 5) (by decide) (by decide) (by decide) }

theorem length_voltageRow_le {m : Measurement} (h : Displayed m) :
    (voltageRow m).length ≤ 16 := by
  have hvoltage := h.voltage.fits
  have hcurrent := h.current.fits
  have hv : (ascii "V:").length = 2 := rfl
  have hi : (ascii " I:").length = 3 := rfl
  simp only [voltageRow, List.length_append, FloatValue.length_padLeft, hv, hi]
  omega

theorem length_powerRow_le {m : Measurement} (h : Displayed m) (state : SystemState) :
    (powerRow m state).length ≤ 16 := by
  have hpower := h.power.fits
  have hname : (systemStateName state).1.length ≤ 7 := by cases state <;> decide
  have hp : (ascii "P:").length = 2 := rfl
  have hblank : (ascii " ").length = 1 := rfl
  simp only [powerRow, List.length_append, FloatValue.length_padLeft, hp, hblank]
  omega

theorem simulationSample_current {t : Millis} (h : (simulationSample t).valid = true) :
    (simulationSample t).current ∈ [(0.20 : Float32), 2.17, 2.60] := by
  unfold simulationSample at h ⊢
  by_cases hlow : t % 15000 < 5000
  · simp only [if_pos hlow] at h ⊢
    rw [(buildMeasurement_of_valid h).2]
    simp
  · by_cases hmiddle : t % 15000 < 10000
    · simp only [if_neg hlow, if_pos hmiddle] at h ⊢
      rw [(buildMeasurement_of_valid h).2]
      simp
    · simp only [if_neg hlow, if_neg hmiddle] at h ⊢
      rw [(buildMeasurement_of_valid h).2]
      simp

/-- In a simulation build there is room for the mark. -/
theorem length_voltageRow_simulation {t : Millis} (h : (simulationSample t).valid = true) :
    (voltageRow (simulationSample t)).length ≤ 15 := by
  have hcurrent : ∀ x ∈ [(0.20 : Float32), 2.17, 2.60],
      (FloatValue.printfText 2 x).length = 4 := by
    simp only [List.forall_mem_cons]
    exact ⟨by decide +kernel, by decide +kernel, by decide +kernel, by simp⟩
  have hcurrent := hcurrent _ (simulationSample_current h)
  have hvoltage := (displayed_of_valid h).voltage.fits
  have hv : (ascii "V:").length = 2 := rfl
  have hi : (ascii " I:").length = 3 := rfl
  simp only [voltageRow, List.length_append, FloatValue.length_padLeft, hv, hi, hcurrent]
  change (FloatValue.printfText 1 (simulationSample t).voltage).length ≤ 5 at hvoltage
  omega

theorem mark_not_mem_padLeft {decimals bound width : ℕ} {x : Float32} {text : List UInt8}
    (h : ShownAs decimals x text bound) : 'S'.toUInt8 ∉ FloatValue.padLeft width text := by
  obtain ⟨neg, k, rfl, -, -⟩ := h.digits
  intro hmem
  rcases List.mem_append.mp hmem with hmem | hmem
  · exact absurd (List.eq_of_mem_replicate hmem) (by decide)
  · exact FloatValue.not_mem_pointText (by decide) (by decide) _ _ _ hmem

theorem mark_not_mem_voltageRow {m : Measurement} (h : Displayed m) :
    'S'.toUInt8 ∉ voltageRow m := by
  have hv : 'S'.toUInt8 ∉ ascii "V:" := by decide
  have hi : 'S'.toUInt8 ∉ ascii " I:" := by decide
  simp [voltageRow, hv, hi, mark_not_mem_padLeft h.voltage, mark_not_mem_padLeft h.current]

/-! ## The iteration -/

theorem displayIteration_eq (build : MeasurementSource) (m : Measurement)
    (protection : ProtectionSnapshot) :
    displayIteration build m protection
      = .clear :: (screen build m protection.state).flatMap Placed.calls := by
  cases build <;> cases hvalid : m.valid <;>
    simp [displayIteration, screen, screenTexts, Placed.calls, hvalid]

section

variable {build : MeasurementSource} {m : Measurement} {state : SystemState}

theorem fits_screen
    (hfirst : (screenTexts m state).1.length ≤ if build = .simulation then 15 else 16)
    (hsecond : (screenTexts m state).2.length ≤ 16) : ∀ p ∈ screen build m state, p.Fits := by
  have hmark : (ascii "S").length = 1 := rfl
  have hedge : (screenTexts m state).1.length ≤ 16 := hfirst.trans (by split <;> decide)
  cases build with
  | pzem => simp [screen, Placed.Fits, lcdRows, lcdColumns, hedge, hsecond]
  | simulation => simp [screen, Placed.Fits, lcdRows, lcdColumns, hmark, hedge, hsecond]

theorem apart_screen
    (hfirst : (screenTexts m state).1.length ≤ if build = .simulation then 15 else 16) :
    (screen build m state).Pairwise Placed.Apart := by
  cases build with
  | pzem => simp [screen, Placed.Apart]
  | simulation =>
    rw [if_pos rfl] at hfirst
    simp [screen, Placed.Apart, hfirst]

/-- A row that is not marked itself has no mark in its last column. -/
theorem marked_iff (hlong : 15 < (screenTexts m state).1.length →
      'S'.toUInt8 ∉ (screenTexts m state).1) :
    (∃ p ∈ screen build m state, p.cell 15 0 = some 'S'.toUInt8) ↔ build = .simulation := by
  constructor
  · rintro ⟨p, hp, hcell⟩
    cases build with
    | simulation => rfl
    | pzem =>
      rw [screen, if_neg (by decide), List.nil_append, List.mem_cons, List.mem_singleton] at hp
      rcases hp with rfl | rfl
      · have hlast : (screenTexts m state).1[15]? = some 'S'.toUInt8 := hcell
        obtain ⟨hlt, -⟩ := List.getElem?_eq_some_iff.mp hlast
        exact absurd (List.mem_of_getElem? hlast) (hlong hlt)
      · cases hcell
  · rintro rfl
    exact ⟨{ column := 15, row := 0, text := ascii "S" }, List.mem_cons_self, rfl⟩

end

/-! ## The display in a run -/

namespace Display

/-- What `latestMeasurement` can hold. -/
def Read (build : MeasurementSource) (m : Measurement) : Prop :=
  m = .zeroInitialised ∨ ∃ raw nowMs, m = readMeasurement build raw nowMs

theorem read_run (build : MeasurementSource) (steps : List DisplayStep) :
    Read build (start.run build steps).latestMeasurement := by
  refine Run.invariant (P := fun s : Display => Read build s.latestMeasurement) (.inl rfl) ?_ steps
  intro s st h
  cases st with
  | sensor raw nowMs taken =>
    cases taken with
    | true => exact .inr ⟨raw, nowMs, rfl⟩
    | false => exact h
  | display taken protection => exact h

theorem read_measurement {build : MeasurementSource} {s : Display}
    (h : Read build s.latestMeasurement) (taken : Bool) : Read build (s.measurement taken) := by
  cases taken with
  | true => exact h
  | false => exact .inl rfl

theorem Read.displayed {build : MeasurementSource} {m : Measurement} (h : Read build m)
    (hvalid : m.valid = true) : Displayed m := by
  rcases h with rfl | ⟨raw, nowMs, rfl⟩
  · cases hvalid
  · cases build with
    | pzem => exact displayed_of_valid hvalid
    | simulation => exact displayed_of_valid hvalid

/-- The lengths of what is printed. -/
theorem Read.fits {build : MeasurementSource} {m : Measurement} (h : Read build m)
    (state : SystemState) :
    (screenTexts m state).1.length ≤ (if build = .simulation then 15 else 16) ∧
      (screenTexts m state).2.length ≤ 16 := by
  cases hvalid : m.valid with
  | false =>
    rw [screenTexts, hvalid, if_neg (by decide)]
    cases build with
    | pzem => decide
    | simulation => decide
  | true =>
    rw [screenTexts, hvalid, if_pos rfl]
    refine ⟨?_, length_powerRow_le (h.displayed hvalid) state⟩
    cases build with
    | pzem => exact length_voltageRow_le (h.displayed hvalid)
    | simulation =>
      rcases h with rfl | ⟨raw, nowMs, rfl⟩
      · cases hvalid
      · exact length_voltageRow_simulation hvalid

theorem mark_not_mem_texts {build : MeasurementSource} {m : Measurement} (h : Read build m)
    (state : SystemState) (hlong : 15 < (screenTexts m state).1.length) :
    'S'.toUInt8 ∉ (screenTexts m state).1 := by
  cases hvalid : m.valid with
  | false =>
    rw [screenTexts, hvalid, if_neg (by decide)] at hlong
    exact absurd hlong (by decide)
  | true =>
    rw [screenTexts, hvalid, if_pos rfl]
    exact mark_not_mem_voltageRow (h.displayed hvalid)

/-- **DisplayTask prints what was measured.** In every run, an iteration clears the
LCD and prints the two texts of the copied measurement and the state, each from
its own cursor; every text ends within the row, and no two share a cell; the last
column of the first row is given the mark of simulated data exactly in a
simulation build; and the digits of a valid measurement are its numbers, rounded. -/
theorem display_exact (build : MeasurementSource) (steps : List DisplayStep) (taken : Bool)
    (protection : ProtectionSnapshot) :
    let s := start.run build steps
    let m := s.measurement taken
    let texts := screen build m protection.state
    (s.step build (.display taken protection)).calls = .clear :: texts.flatMap Placed.calls ∧
    (∀ p ∈ texts, p.Fits) ∧ texts.Pairwise Placed.Apart ∧
    ((∃ p ∈ texts, p.cell 15 0 = some 'S'.toUInt8) ↔ build = .simulation) ∧
    (m.valid = true → Displayed m) := by
  intro s m texts
  have hread : Read build m := read_measurement (read_run build steps) taken
  obtain ⟨hfirst, hsecond⟩ := hread.fits protection.state
  exact ⟨displayIteration_eq build m protection, fits_screen hfirst hsecond, apart_screen hfirst,
    marked_iff (mark_not_mem_texts hread protection.state), hread.displayed⟩

end Display

end EnergyController
