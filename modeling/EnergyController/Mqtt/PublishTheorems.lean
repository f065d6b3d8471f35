/-
EnergyController.Mqtt.PublishTheorems — the payload buffer of
`mqttManagerPublishTelemetry` holds every document.

`valueBounds` is the longest text of each of the 22 values: names from their
tables, 10 digits for a counter, 31 characters for a float, whatever it is,
because the buffer of `num` holds no more. With the keys that makes 706 bytes
(`length_documentText_le`), so that the document and its NUL fit 768.
-/
import EnergyController.Mqtt.Publish
import EnergyController.Mqtt.RemoteCommandTheorems
import EnergyController.Telemetry.AllOrNothing

namespace EnergyController

/-! ## The longest text of a value -/

/-- Nothing in a device ID needs an escape. -/
theorem escape_of_mem_segmentAlphabet {c : UInt8} (hc : c ∈ segmentAlphabet) :
    Json.escape c = [c] := by
  rw [← topicSegmentCharOk_iff] at hc
  revert c
  apply forall_byte
  decide +kernel

theorem length_quoted_of_isSegment {s : List UInt8} (h : IsSegment s) :
    (Json.quoted s).length ≤ 34 := by
  have hsame : s.flatMap Json.escape = s := by
    have heq : s.flatMap Json.escape = s.flatMap fun c => [c] :=
      List.flatMap_congr fun c hc => escape_of_mem_segmentAlphabet (h.chars c hc)
    rw [heq, List.flatMap_singleton']
  have hshort := h.short
  rw [Json.quoted, hsame, List.length_cons, List.length_append, List.length_singleton]
  omega

/-! Each table is bounded by its longest row, `UNKNOWN` included. -/

theorem length_sourceName_le (source : UInt8) :
    (Json.quoted (measurementSourceName source).1).length ≤ 12 := by
  unfold measurementSourceName
  split_ifs <;> decide

theorem length_statusName_le (status : UInt8) :
    (Json.quoted (measurementStatusName status).1).length ≤ 17 := by
  unfold measurementStatusName
  split_ifs <;> decide

theorem length_stateName_le (state : UInt8) :
    (Json.quoted (systemStateName state).1).length ≤ 9 := by
  unfold systemStateName
  split_ifs <;> decide

theorem length_faultName_le (fault : UInt8) :
    (Json.quoted (faultCodeName fault).1).length ≤ 21 := by
  unfold faultCodeName
  split_ifs <;> decide

theorem length_resetName_le (result : UInt8) :
    (Json.quoted (resetResultName result).1).length ≤ 30 := by
  unfold resetResultName
  split_ifs <;> decide

theorem length_boolText_le (b : Bool) : (ascii (if b then "true" else "false")).length ≤ 5 := by
  cases b <;> decide

theorem length_natText_toNat_le (v : Millis) : (Decimal.natText v.toNat).length ≤ 10 :=
  Decimal.length_natText_le (by decide) (lt_trans v.isLt (by norm_num))

/-- A float of any magnitude is cut to 31 characters. -/
theorem length_numText_le (decimals : ℕ) (v : Float32) : (numText decimals v).length ≤ 31 := by
  unfold numText
  split
  · exact List.length_take_le _ _
  · decide

/-! ## The longest document -/

theorem length_written (m : Json.Member) :
    m.written.length = (Json.quoted m.key).length + 1 + m.text.length := by
  rw [Json.Member.written, List.length_append, List.length_cons]
  omega

/-- What the members after the first add up to, from the lengths of their keys
and the bounds of their texts. -/
theorem length_members_le {ms : List Json.Member} {bounds : List ℕ}
    (h : List.Forall₂ (fun m b => m.text.length ≤ b) ms bounds) :
    (ms.flatMap fun m => ','.toUInt8 :: m.written).length
      ≤ ((ms.map (·.key)).map fun k => (Json.quoted k).length + 2).sum + bounds.sum := by
  induction h with
  | nil => simp
  | cons hm _ ih =>
    simp only [List.flatMap_cons, List.length_append, List.map_cons, List.sum_cons,
      List.length_cons, length_written]
    omega

/-- The longest texts of the values after the first, in order. -/
def valueBounds : List ℕ :=
  [34, 7, 12, 5, 10, 5, 17, 10, 31, 31, 31, 31, 31, 31, 9, 21, 5, 5, 30, 5, 5]

/-- The keys after the first, in order. -/
def laterKeys : List (List UInt8) :=
  ["device_id", "firmware_version", "source", "simulated", "uptime_ms", "valid",
    "measurement_status", "measurement_age_ms", "voltage", "current", "power", "energy",
    "apparent_power", "power_factor", "state", "fault", "fault_active", "fault_acknowledged",
    "last_reset_result", "relay_commanded_on", "relay_output_enabled"].map ascii

theorem keys_laterMembers (input : TelemetryInput) :
    (laterMembers input).map (·.key) = laterKeys := rfl

theorem laterMembers_bounded {input : TelemetryInput} {deviceId : CString}
    (hid : IsSegment deviceId.1) (hdevice : input.deviceId = some deviceId)
    (hversion : input.firmwareVersion = some firmwareVersion) :
    List.Forall₂ (fun m b => m.text.length ≤ b) (laterMembers input) valueBounds := by
  have hdev : (Json.quoted (input.deviceId.getD .empty).1).length ≤ 34 := by
    rw [hdevice]
    exact length_quoted_of_isSegment hid
  have hver : (Json.quoted (input.firmwareVersion.getD .empty).1).length ≤ 7 := by
    rw [hversion]
    decide
  exact .cons hdev <| .cons hver <| .cons (length_sourceName_le _) <|
    .cons (length_boolText_le _) <| .cons (length_natText_toNat_le _) <|
    .cons (length_boolText_le _) <| .cons (length_statusName_le _) <|
    .cons (length_natText_toNat_le _) <| .cons (length_numText_le _ _) <|
    .cons (length_numText_le _ _) <| .cons (length_numText_le _ _) <|
    .cons (length_numText_le _ _) <| .cons (length_numText_le _ _) <|
    .cons (length_numText_le _ _) <| .cons (length_stateName_le _) <|
    .cons (length_faultName_le _) <| .cons (length_boolText_le _) <|
    .cons (length_boolText_le _) <| .cons (length_resetName_le _) <|
    .cons (length_boolText_le _) <| .cons (length_boolText_le _) .nil

theorem length_documentText_le {input : TelemetryInput} {deviceId : CString}
    (hid : IsSegment deviceId.1) (hdevice : input.deviceId = some deviceId)
    (hversion : input.firmwareVersion = some firmwareVersion) :
    (documentText input).length ≤ 706 := by
  have hmembers := length_members_le (laterMembers_bounded hid hdevice hversion)
  have hkeys : (laterKeys.map fun k => (Json.quoted k).length + 2).sum = 320 := by decide +kernel
  have hvalues : valueBounds.sum = 366 := by decide
  have hschema : schemaMember.written.length = 18 := by decide +kernel
  rw [keys_laterMembers, hkeys, hvalues] at hmembers
  rw [documentText_eq, Json.objectText]
  simp only [List.length_cons, List.length_append, List.length_nil, hschema]
  omega

/-- **Telemetry fits the firmware's buffer**: every measurement, finite or not,
every snapshot, whatever bytes stand in their enumerations, every counter and
flag, for every device ID that names a topic level. -/
theorem telemetry_fits (buf : ℕ → UInt8) (deviceId : CString)
    (hid : topicSegmentValid deviceId = some true) (m : MeasurementObject) (p : SnapshotObject)
    (uptimeMs measurementAgeMs : Millis) (relayCommandedOn relayOutputEnabled : Bool) :
    let n := (buildTelemetryJson (some buf) 768
      { deviceId := some deviceId, firmwareVersion := some firmwareVersion, measurement := m,
        protection := p, uptimeMs := uptimeMs, measurementAgeMs := measurementAgeMs,
        relayCommandedOn := relayCommandedOn, relayOutputEnabled := relayOutputEnabled }).2
    0 ≤ n ∧ n < 768 := by
  intro n
  set input : TelemetryInput :=
    { deviceId := some deviceId, firmwareVersion := some firmwareVersion, measurement := m,
      protection := p, uptimeMs := uptimeMs, measurementAgeMs := measurementAgeMs,
      relayCommandedOn := relayCommandedOn, relayOutputEnabled := relayOutputEnabled }
  have hlength : (documentText input).length ≤ 706 :=
    length_documentText_le (isSegment_of_valid hid) rfl rfl
  have hn : n = (BitVec.ofNat 32 (documentText input).length).toInt := by
    show (buildTelemetryJson (some buf) 768 input).2 = _
    rw [buildTelemetryJson_of_fits buf (by omega)]
  have hsmall : (BitVec.ofNat 32 (documentText input).length).toNat
      = (documentText input).length := by
    rw [BitVec.toNat_ofNat, Nat.mod_eq_of_lt (by omega)]
  rw [hn, BitVec.toInt_eq_toNat_of_lt (by omega), hsmall]
  omega

/-- Floats near both ends of the range, a source and a state that are no enumerators. -/
theorem telemetry_fits_huge :
    let n := (buildTelemetryJson (some fun _ => 0) 768
      { deviceId := some (.lit "device01"), firmwareVersion := some firmwareVersion,
        measurement :=
          { (meterSample 230.0 600.0 1000).object with
            power := 3.0e38, energy := -3.0e38, source := 9 },
        protection := { ((ProtectionCore.new exampleConfig).snapshot 0).object with state := 200 },
        uptimeMs := 4294967295, measurementAgeMs := 4294966295,
        relayCommandedOn := false, relayOutputEnabled := false }).2
    0 ≤ n ∧ n < 768 := by
  have hid : topicSegmentValid (.lit "device01") = some true := by
    rw [topicSegmentValid_eq]
    decide
  exact telemetry_fits (fun _ => 0) _ hid _ _ _ _ _ _

end EnergyController
