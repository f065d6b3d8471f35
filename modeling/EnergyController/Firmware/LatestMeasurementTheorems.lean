/-
EnergyController.Firmware.LatestMeasurementTheorems — which source the
telemetry names.

The label travels with the sample, and a measurement that was never assigned
is labelled `PZEM`, the first enumerator. `Inv` says what each published text is
labelled with; `telemetry_source_iff` compares that with the build, and
`telemetry_mislabelled` is the first message of a simulation build that comes
before its first sample.
-/
import EnergyController.Firmware.LatestMeasurement
import EnergyController.Firmware.NetworkTaskTheorems
import EnergyController.Telemetry.TelemetryJsonTheorems

namespace EnergyController

/-- The text is a JSON object that names `source` as its source. -/
def Labelled (text : CString) (source : MeasurementSource) : Prop :=
  ∃ members, Json.parse text.1 = some (.object members) ∧
    members.lookup (ascii "source") = some (.string (measurementSourceName source).1) ∧
    members.lookup (ascii "simulated") = some (.bool (source = .simulation))

/-- The document of a bounded measurement names the measurement's source, and
no other. -/
theorem labelled_iff {input : TelemetryInput} (h : input.measurement.Bounded) {text : CString}
    (htext : text.1 = Json.objectText schemaMember (laterMembers input))
    (source : MeasurementSource) : Labelled text source ↔ input.measurement.source = source := by
  have hparse := Json.parse_objectText schemaMember (laterMembers input) (written_members h)
  rw [← htext] at hparse
  constructor
  · rintro ⟨members, hmembers, hsource, -⟩
    rw [hparse] at hmembers
    obtain rfl := Json.object.inj (Option.some.inj hmembers)
    have hname : measurementSourceName input.measurement.source = measurementSourceName source :=
      Subtype.ext (Json.string.inj (Option.some.inj hsource))
    exact (measurementSourceName_eq_iff _ source).mp hname
  · intro hsource
    refine ⟨_, hparse, ?_, ?_⟩
    · show some (Json.string (measurementSourceName input.measurement.source).1) = _
      rw [hsource]
    · show some (Json.bool (input.measurement.source = MeasurementSource.simulation)) = _
      rw [hsource]
      cases source <;> rfl

/-- What a telemetry call was asked to publish names the measurement's source. -/
theorem labelled_publishTelemetry {deviceId : CString} {m : Measurement} (hm : m.object.Bounded)
    {p : ProtectionSnapshot} {on enabled : Bool} {nowMs : Millis} {stack : ℕ → UInt8}
    {client : ClientPublish} {q : Publication}
    (h : (mqttManagerPublishTelemetry deviceId m p on enabled nowMs stack client).message = some q)
    (source : MeasurementSource) : Labelled q.payload source ↔ source = m.source := by
  unfold mqttManagerPublishTelemetry at h
  split at h
  · cases h
  · cases h
  rename_i payload n _ hbuilt
  split at h
  · cases h
  rename_i hn
  have hbounded : (telemetryInput deviceId m p on enabled nowMs).measurement.Bounded := hm
  have hlength : 0 ≤ (buildTelemetryJson (some stack) 768
      (telemetryInput deviceId m p on enabled nowMs)).2 := by
    rw [hbuilt]
    exact not_lt.mp hn
  obtain ⟨mem, text, hmem, hholds, hfits, htext⟩ := buildTelemetryJson_holds hlength
  rw [hbuilt] at hmem
  obtain rfl : payload = mem := Option.some.inj hmem
  rw [message_publishMessage h]
  dsimp only
  rw [ofBytes_readBytes hholds hfits]
  have hlabel := labelled_iff hbounded htext source
  rw [hlabel]
  exact MeasurementSource.byte_injective.eq_iff.trans eq_comm

/-! ## The telemetry of an iteration -/

namespace NetworkTask

variable {cfg : NetworkConfig} {i : NetworkIteration}

/-- A published text is that of a telemetry call. -/
theorem telemetryPayload_of_mem {s : NetworkTask} {payload : CString}
    (h : payload ∈ (s.iterate cfg i).1.filterMap NetworkAction.telemetryPayload) :
    ∃ q, (mqttManagerPublishTelemetry cfg.mqttDeviceId (measurement i) i.protection
      i.relayCommandedOn i.relayOutputEnabled i.telemetryMs i.stack i.telemetry).message = some q ∧
      q.payload = payload := by
  obtain ⟨a, ha, hpayload⟩ := List.mem_filterMap.mp h
  rcases iterate_calls s a ha with haside | ⟨call, rfl⟩ | ⟨call, rfl⟩
  · cases haside with
    | publishTelemetry => exact Option.map_eq_some_iff.mp hpayload
    | _ => cases hpayload
  · cases hpayload
  · cases hpayload

end NetworkTask

namespace Sampling

variable {cfg : NetworkConfig} {build : MeasurementSource} {s : Sampling}

theorem bounded_readMeasurement (build : MeasurementSource) (raw : RawPzemReading)
    (nowMs : Millis) : (readMeasurement build raw nowMs).object.Bounded := by
  cases build with
  | pzem => exact bounded_buildMeasurement _ _ _
  | simulation => exact bounded_buildMeasurement _ _ _

theorem readMeasurement_source (build : MeasurementSource) (raw : RawPzemReading)
    (nowMs : Millis) : (readMeasurement build raw nowMs).source = build := by
  cases build with
  | pzem => exact buildMeasurement_source _ _ _ _
  | simulation => exact buildMeasurement_source _ _ _ _

/-- The source that a copy made now is labelled with. -/
def sourceIn (build : MeasurementSource) (stored : Bool) : MeasurementSource :=
  if stored then build else .pzem

structure Inv (build : MeasurementSource) (s : Sampling) : Prop where
  bounded : s.latestMeasurement.object.Bounded
  source : s.latestMeasurement.source = sourceIn build s.stored
  published : ∀ t ∈ s.published, ∀ source,
    Labelled t.payload source ↔ source = sourceIn build (t.copied && t.stored)

theorem inv_start (cfg : NetworkConfig) (wifiMs blynkMs mqttMs : Millis) :
    (start cfg wifiMs blynkMs mqttMs).Inv build where
  bounded := bounded_zeroInitialised
  source := rfl
  published := nofun

theorem Inv.network (h : s.Inv build) (i : NetworkIteration) (taken : Bool) :
    (s.step cfg build (.network i taken)).Inv build := by
  refine ⟨h.bounded, h.source, ?_⟩
  intro t ht
  rcases List.mem_append.mp ht with ht | ht
  · obtain ⟨payload, hpayload, rfl⟩ := List.mem_map.mp ht
    obtain ⟨q, hq, rfl⟩ := NetworkTask.telemetryPayload_of_mem hpayload
    intro source
    cases taken with
    | true =>
      rw [labelled_publishTelemetry h.bounded hq, Bool.true_and, ← h.source]
    | false =>
      exact labelled_publishTelemetry bounded_zeroInitialised hq source
  · exact h.published t ht

theorem Inv.step (h : s.Inv build) (st : SamplingStep) : (s.step cfg build st).Inv build := by
  cases st with
  | sensor raw nowMs taken =>
    cases taken with
    | true =>
      exact ⟨bounded_readMeasurement build raw nowMs, readMeasurement_source build raw nowMs,
        h.published⟩
    | false => exact h
  | network i taken => exact h.network i taken

theorem inv_run (cfg : NetworkConfig) (build : MeasurementSource) (wifiMs blynkMs mqttMs : Millis)
    (steps : List SamplingStep) :
    ((start cfg wifiMs blynkMs mqttMs).run cfg build steps).Inv build :=
  Run.invariant (inv_start cfg wifiMs blynkMs mqttMs) (fun _ st h => h.step st) steps

/-- **When telemetry names the source of the build.** In every run, a message
carries the source of the build exactly in a PZEM build, or if its
measurement was copied under the mutex after a sample had been stored. -/
theorem telemetry_source_iff (cfg : NetworkConfig) (build : MeasurementSource)
    (wifiMs blynkMs mqttMs : Millis) (steps : List SamplingStep) :
    ∀ t ∈ ((start cfg wifiMs blynkMs mqttMs).run cfg build steps).published,
      Labelled t.payload build ↔ build = .pzem ∨ (t.copied = true ∧ t.stored = true) := by
  intro t ht
  rw [(inv_run cfg build wifiMs blynkMs mqttMs steps).published t ht]
  unfold sourceIn
  cases hstored : t.copied && t.stored with
  | true => simp [Bool.and_eq_true_iff.mp hstored]
  | false =>
    have hnot : ¬ (t.copied = true ∧ t.stored = true) := by
      rw [← Bool.and_eq_true_iff, hstored]
      exact Bool.false_ne_true
    simp [hnot]

/-- A message after the first sample of a simulation build. -/
theorem telemetry_source_sampled :
    ∃ t ∈ ((start exampleNetwork 0 0 0).run exampleNetwork .simulation
        [.network (NetworkTask.steadyIteration 2000) true,
          .sensor
            { voltage := 0.0, current := 0.0, power := 0.0, energy := 0.0, powerFactor := 0.0 }
            1000 true]).published,
      Labelled t.payload .simulation := by
  set steps : List SamplingStep := [.network (NetworkTask.steadyIteration 2000) true,
    .sensor { voltage := 0.0, current := 0.0, power := 0.0, energy := 0.0, powerFactor := 0.0 }
      1000 true]
  have hpublished :
      ((start exampleNetwork 0 0 0).run exampleNetwork .simulation steps).published.map
        (fun t => (t.copied, t.stored)) = [(true, true)] := by
    decide +kernel
  obtain ⟨t, ht, hflags⟩ := List.mem_map.mp
    (show (true, true) ∈ _ by rw [hpublished]; exact List.mem_singleton_self _)
  exact ⟨t, ht, (telemetry_source_iff exampleNetwork .simulation 0 0 0 steps t ht).mpr
    (.inr (Prod.mk.inj hflags))⟩

/-- In a simulation build, NetworkTask comes to its first telemetry before
SensorTask has stored a sample. -/
theorem telemetry_mislabelled :
    ∃ t ∈ ((start exampleNetwork 0 0 0).run exampleNetwork .simulation
        [.network (NetworkTask.steadyIteration 2000) true]).published,
      Labelled t.payload .pzem ∧ ¬ Labelled t.payload .simulation := by
  set s := (start exampleNetwork 0 0 0).run exampleNetwork .simulation
    [.network (NetworkTask.steadyIteration 2000) true] with hs
  have hpublished : s.published.map (fun t => (t.copied, t.stored)) = [(true, false)] := by
    decide +kernel
  obtain ⟨t, ht, hflags⟩ : ∃ t ∈ s.published, (t.copied, t.stored) = (true, false) :=
    List.mem_map.mp (by rw [hpublished]; exact List.mem_singleton_self _)
  have hlabel := (inv_run exampleNetwork .simulation 0 0 0
    [.network (NetworkTask.steadyIteration 2000) true]).published t ht
  have hstored : t.stored = false := congrArg Prod.snd hflags
  refine ⟨t, ht, ?_⟩
  rw [hlabel, hlabel, hstored, Bool.and_false]
  exact ⟨rfl, by decide⟩

end Sampling

end EnergyController
