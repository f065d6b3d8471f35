/-
EnergyController.Mqtt.FleetTheorems — devices on one broker do not get in each
other's way.

`clientId_injective` is why no device ends another's session, and
`root_unique` why none writes another's topics; `isolated` draws from the two
that what the broker holds of a device is what it would hold if the device were
alone. `availability_exact` says what it then holds of its availability. Both are
about every broker that keeps to the protocol; `mqttBroker` is one.
-/
import EnergyController.Firmware.NetworkTaskTheorems
import EnergyController.Mqtt.Fleet
import EnergyController.Mqtt.RemoteCommandTheorems

namespace EnergyController

/-! ## Client IDs -/

/-- The client ID, in full. -/
def clientIdText (deviceId : CString) (chipId : BitVec 64) : List UInt8 :=
  deviceId.1 ++ ascii "-" ++ Decimal.upperHexPlaces 4 ((chipId >>> 32).setWidth 16).toNat ++
    Decimal.upperHexPlaces 8 (chipId.setWidth 32).toNat

namespace Device

/-- It is never cut. -/
theorem clientId_val (d : Device) : d.clientId.1 = clientIdText d.deviceId d.chipId := by
  have hlength := (isSegment_of_valid d.valid).short
  have hfits : (clientIdText d.deviceId d.chipId).length ≤ 63 := by
    have hdash : (ascii "-").length = 1 := rfl
    unfold clientIdText
    rw [List.length_append, List.length_append, List.length_append, hdash,
      Decimal.length_upperHexPlaces, Decimal.length_upperHexPlaces]
    omega
  have hzero : 0 ∉ clientIdText d.deviceId d.chipId := by
    simp only [clientIdText, List.mem_append, d.deviceId.2, Decimal.zero_not_mem_upperHexPlaces,
      or_false, false_or]
    decide
  show (CString.ofBytes ((clientIdText d.deviceId d.chipId).take 63)).1 = _
  rw [List.take_of_length_le hfits, CString.ofBytes_val hzero]

/-- The two parts that are printed make up the chip ID, as a MAC address has 48 bits. -/
theorem toNat_chipId (d : Device) :
    d.chipId.toNat = ((d.chipId >>> 32).setWidth 16).toNat * 2 ^ 32
      + (d.chipId.setWidth 32).toNat := by
  have hmac := d.mac
  rw [BitVec.toNat_setWidth, BitVec.toNat_setWidth, BitVec.toNat_ushiftRight,
    Nat.shiftRight_eq_div_pow]
  omega

/-- The last twelve digits are the chip ID, whatever the device ID contains, and what
is before the dash is the device ID. -/
theorem eq_of_clientId {d e : Device} (h : d.clientId = e.clientId) : d = e := by
  have htext : clientIdText d.deviceId d.chipId = clientIdText e.deviceId e.chipId := by
    rw [← clientId_val, ← clientId_val, h]
  unfold clientIdText at htext
  obtain ⟨hfront, hlow⟩ := List.append_inj' htext (by simp)
  obtain ⟨hfront, hhigh⟩ := List.append_inj' hfront (by simp)
  have hid : d.deviceId = e.deviceId := Subtype.ext (List.append_inj' hfront rfl).1
  have hlow := Decimal.upperHexPlaces_injective (BitVec.isLt _) (BitVec.isLt _) hlow
  have hhigh := Decimal.upperHexPlaces_injective (BitVec.isLt _) (BitVec.isLt _) hhigh
  have hchip : d.chipId = e.chipId := by
    apply BitVec.eq_of_toNat_eq
    rw [toNat_chipId, toNat_chipId, hlow, hhigh]
  cases d
  cases e
  cases hid
  cases hchip
  rfl

/-- **A client ID names its device**: it is not cut in its buffer, and shows the
device ID and all of the MAC address, so that no two devices share one. -/
theorem clientId_injective (d e : Device) :
    d.clientId.1 = clientIdText d.deviceId d.chipId ∧ (d.clientId = e.clientId ↔ d = e) :=
  ⟨d.clientId_val, eq_of_clientId, fun h => h ▸ rfl⟩

end Device

/-! ## What a step touches -/

theorem topic_of_telemetry {deviceId : CString} {m : Measurement} {snapshot : ProtectionSnapshot}
    {on enabled : Bool} {nowMs : Millis} {stack : ℕ → UInt8} {client : ClientPublish}
    {p : Publication}
    (h : (mqttManagerPublishTelemetry deviceId m snapshot on enabled nowMs stack client).message
      = some p) : p.topic = mqttTopicTelemetry deviceId := by
  unfold mqttManagerPublishTelemetry at h
  split at h
  · cases h
  · cases h
  · split at h
    · cases h
    · rw [message_publishMessage h]

/-- What a device asks the broker to publish is on a topic of its own. -/
theorem FleetStep.topic_of_call {st : FleetStep} {p : Publication}
    (h : st.call.message = some p) : p.topic ∈ publishedTopics st.device.deviceId := by
  cases st with
  | connect d connected =>
    cases connected with
    | none => cases h
    | some client => rw [message_publishMessage h]; simp [publishedTopics, device]
  | publishState d state client =>
    rw [message_publishMessage h]; simp [publishedTopics, device]
  | publishFault d p client =>
    rw [message_publishMessage h]; simp [publishedTopics, device]
  | publishTelemetry d m snapshot on enabled nowMs stack client =>
    rw [topic_of_telemetry h]; simp [publishedTopics, device]
  | lost d => cases h

/-- A topic of a device is below its root. -/
theorem below_root {a t : CString} (h : t ∈ publishedTopics a) :
    ∃ rest, t.1 = (mqttTopicRoot a).1 ++ '/'.toUInt8 :: rest := by
  simp only [publishedTopics, List.mem_cons, List.not_mem_nil, or_false] at h
  rcases h with rfl | rfl | rfl | rfl
  · exact ⟨ascii "telemetry", rfl⟩
  · exact ⟨ascii "status/state", rfl⟩
  · exact ⟨ascii "fault/code", rfl⟩
  · exact ⟨ascii "status/availability", rfl⟩

/-- Topics of different devices are different. -/
theorem publishedTopics_disjoint {a b t : CString} (ha : IsSegment a.1) (hb : IsSegment b.1)
    (hne : a ≠ b) (hta : t ∈ publishedTopics a) : t ∉ publishedTopics b := by
  intro htb
  obtain ⟨rest, heq⟩ := below_root hta
  obtain ⟨rest', heq'⟩ := below_root htb
  exact hne (root_unique ha hb (heq.symm.trans heq')).1

namespace Fleet

variable {β : Type*} {B : PubSub β CString CString CString} {b b' : β} {d e : Device}

/-- The sessions are sessions of devices, with their own wills. -/
def Owned (B : PubSub β CString CString CString) (b : β) : Prop :=
  ∀ c will, B.session b c = some will → ∃ e : Device, e.clientId = c ∧ will = e.will

theorem owned_start (h : ∀ c, B.session b c = none) : Owned B b := by
  intro c will hc
  rw [h c] at hc
  cases hc

/-! No step opens a session under a client ID but that of its device. -/

theorem Owned.deliver (h : Owned B b) (hB : B.Lawful removes) (d : Device) (call : PublishCall) :
    Owned B (deliver B b d call) := by
  unfold Fleet.deliver
  split
  · split
    · intro c will hc
      rw [hB.session_publish] at hc
      exact h c will hc
    · exact h
  · exact h

theorem Owned.connect (h : Owned B b) (hB : B.Lawful removes) (d : Device) :
    Owned B (B.connect b d.clientId d.will) := by
  intro c will hc
  rw [hB.session_connect] at hc
  by_cases heq : c = d.clientId
  · rw [heq, Function.update_self] at hc
    exact ⟨d, heq.symm, (Option.some.inj hc).symm⟩
  · rw [Function.update_of_ne heq] at hc
    exact h c will hc

theorem Owned.lose (h : Owned B b) (hB : B.Lawful removes) (d : Device) :
    Owned B (B.lose b d.clientId) := by
  intro c will hc
  rw [hB.session_lose] at hc
  by_cases heq : c = d.clientId
  · rw [heq, Function.update_self] at hc
    cases hc
  · rw [Function.update_of_ne heq] at hc
    exact h c will hc

theorem Owned.step (h : Owned B b) (hB : B.Lawful removes) (st : FleetStep) :
    Owned B (step B b st) := by
  cases st with
  | connect d connected =>
    unfold Fleet.step
    dsimp only
    split
    · exact (h.connect hB d).deliver hB d _
    · exact h
  | lost d => exact h.lose hB d
  | _ => exact h.deliver hB _ _

theorem owned_run (hB : B.Lawful removes) (hstart : ∀ c, B.session b c = none)
    (steps : List FleetStep) : Owned B (run B b steps) :=
  Run.invariant (owned_start hstart) (fun _ st h => h.step hB st) steps

/-! ### Steps of another device -/

theorem clientId_ne (hne : e.deviceId ≠ d.deviceId) : e.clientId ≠ d.clientId := by
  intro heq
  exact hne (congrArg Device.deviceId (Device.eq_of_clientId heq))

/-- The will of another device's session is not on the device's topics. -/
theorem Owned.will_not_mem (h : Owned B b) (hne : e.deviceId ≠ d.deviceId) :
    ∀ will ∈ B.session b e.clientId, will.1 ∉ publishedTopics d.deviceId := by
  intro will hwill
  obtain ⟨e', hid, rfl⟩ := h _ _ hwill
  obtain rfl := Device.eq_of_clientId hid
  exact publishedTopics_disjoint (isSegment_of_valid e'.valid) (isSegment_of_valid d.valid) hne
    (by simp [publishedTopics, Device.will])

/-- What another device publishes is on its own topics. -/
theorem agrees_deliver (hB : B.Lawful removes) (b : β) (hne : e.deviceId ≠ d.deviceId)
    {st : FleetStep} (hst : st.device = e) :
    B.Agrees d.clientId (publishedTopics d.deviceId) (deliver B b e st.call) b := by
  unfold deliver
  split
  · next p hp =>
    split
    · refine PubSub.agrees_publish hB _ ?_ _
      have hown := FleetStep.topic_of_call hp
      rw [hst] at hown
      exact publishedTopics_disjoint (isSegment_of_valid e.valid) (isSegment_of_valid d.valid)
        hne hown
    · exact PubSub.Agrees.refl ..
  · exact PubSub.Agrees.refl ..

/-- What another device does leaves what the broker holds of `d`. -/
theorem agrees_step (h : Owned B b) (hB : B.Lawful removes) {st : FleetStep}
    (hne : st.device.deviceId ≠ d.deviceId) :
    B.Agrees d.clientId (publishedTopics d.deviceId) (step B b st) b := by
  cases st with
  | connect e connected =>
    unfold step
    dsimp only
    split
    · refine (agrees_deliver hB _ hne rfl).trans ?_
      exact PubSub.agrees_connect hB (clientId_ne hne) (h.will_not_mem hne) e.will
    · exact PubSub.Agrees.refl ..
  | lost e => exact PubSub.agrees_lose hB (clientId_ne hne) (h.will_not_mem hne)
  | publishState e state client => exact agrees_deliver hB b hne rfl
  | publishFault e p client => exact agrees_deliver hB b hne rfl
  | publishTelemetry e m p on enabled nowMs stack client => exact agrees_deliver hB b hne rfl

/-! ### Steps of the device itself

They do the same to both. -/

theorem deliver_agrees (hB : B.Lawful removes)
    (h : B.Agrees d.clientId (publishedTopics d.deviceId) b b') (call : PublishCall) :
    B.Agrees d.clientId (publishedTopics d.deviceId) (deliver B b d call)
      (deliver B b' d call) := by
  unfold deliver
  split
  · split
    · exact h.publish hB _ _
    · exact h
  · exact h

theorem step_agrees (hB : B.Lawful removes)
    (h : B.Agrees d.clientId (publishedTopics d.deviceId) b b') {st : FleetStep}
    (hst : st.device = d) :
    B.Agrees d.clientId (publishedTopics d.deviceId) (step B b st) (step B b' st) := by
  subst hst
  cases st with
  | connect d connected =>
    unfold step
    dsimp only
    split
    · exact deliver_agrees hB (h.connect hB _) _
    · exact h
  | lost d => exact h.lose hB
  | publishState d state client => exact deliver_agrees hB h _
  | publishFault d p client => exact deliver_agrees hB h _
  | publishTelemetry d m p on enabled nowMs stack client => exact deliver_agrees hB h _

/-! ## Over a run -/

/-- The sessions and the retained messages, and nothing else. -/
def mqttBroker :
    PubSub ((CString → Option (CString × CString)) × (CString → Option CString))
      CString CString CString where
  connect := fun (sessions, held) c will =>
    (Function.update sessions c (some will), PubSub.testament removes held (sessions c))
  publish := fun (sessions, held) c m keep =>
    (sessions, if (sessions c).isSome ∧ keep then PubSub.retain removes held m else held)
  lose := fun (sessions, held) c =>
    (Function.update sessions c none, PubSub.testament removes held (sessions c))
  session := fun b => b.1
  retained := fun b => b.2

theorem lawful_mqttBroker : mqttBroker.Lawful removes where
  session_connect _ _ _ := rfl
  retained_connect _ _ _ := rfl
  session_publish _ _ _ _ := rfl
  retained_publish _ _ _ _ := rfl
  session_lose _ _ := rfl
  retained_lose _ _ := rfl

/-- A device of the fleet, by its ID. -/
def memberDevice (deviceId : CString) (h : IsSegment deviceId.1 := by decide) : Device where
  deviceId := deviceId
  chipId := 0x24A160123456
  valid := by rw [topicSegmentValid_eq, decide_eq_true h]
  mac := by decide

/-- The device's latest connection is not lost, and its `online` was sent. -/
def announced (d : Device) : List FleetStep → Bool
  | [] => false
  | .connect e (some client) :: earlier => if e = d then client = .sent else announced d earlier
  | .lost e :: earlier => if e = d then false else announced d earlier
  | _ :: earlier => announced d earlier

/-- What holds of the device's session and of its retained availability. -/
structure Announces (B : PubSub β CString CString CString) (d : Device) (b : β)
    (steps : List FleetStep) : Prop where
  session : announced d steps = true → B.session b d.clientId = some d.will
  online : announced d steps = true →
    B.retained b (mqttTopicAvailability d.deviceId) = some (.lit "online")
  offline : announced d steps = false →
    B.retained b (mqttTopicAvailability d.deviceId) ≠ some (.lit "online")

theorem availability_mem (d : Device) :
    mqttTopicAvailability d.deviceId ∈ publishedTopics d.deviceId := by
  simp [publishedTopics]

/-- A step that leaves what the broker holds of the device. -/
theorem Announces.frame {steps : List FleetStep} (h : Announces B d b steps) {st : FleetStep}
    (hagrees : B.Agrees d.clientId (publishedTopics d.deviceId) b' b)
    (hsame : announced d (st :: steps) = announced d steps) :
    Announces B d b' (st :: steps) where
  session hon := hagrees.session.trans (h.session (hsame.symm.trans hon))
  online hon := (hagrees.retained _ (availability_mem d)).trans (h.online (hsame.symm.trans hon))
  offline hoff := by
    rw [hagrees.retained _ (availability_mem d)]
    exact h.offline (hsame.symm.trans hoff)

/-- The steps of others do not count. -/
theorem announced_of_device_ne {st : FleetStep} {steps : List FleetStep}
    (hne : st.device ≠ d) : announced d (st :: steps) = announced d steps := by
  cases st with
  | connect e connected =>
    cases connected with
    | none => rfl
    | some client => exact if_neg hne
  | lost e => exact if_neg hne
  | _ => rfl

/-- A publication of the device on another of its topics. -/
theorem Announces.publish {steps : List FleetStep} (h : Announces B d b steps)
    (hB : B.Lawful removes) {st : FleetStep}
    (htopic : ∀ p, st.call.message = some p → p.topic ≠ mqttTopicAvailability d.deviceId)
    (hsame : announced d (st :: steps) = announced d steps) :
    Announces B d (deliver B b d st.call) (st :: steps) := by
  have hagrees : B.Agrees d.clientId [mqttTopicAvailability d.deviceId]
      (deliver B b d st.call) b := by
    unfold deliver
    split
    · next p hp =>
      split
      · exact PubSub.agrees_publish hB _ (by simpa using htopic p hp) _
      · exact PubSub.Agrees.refl ..
    · exact PubSub.Agrees.refl ..
  have hretained := hagrees.retained _ (List.mem_singleton_self _)
  refine ⟨fun hon => hagrees.session.trans (h.session (hsame.symm.trans hon)),
    fun hon => hretained.trans (h.online (hsame.symm.trans hon)), fun hoff => ?_⟩
  rw [hretained]
  exact h.offline (hsame.symm.trans hoff)

/-- The will of the device's session, if it is open, has been published. -/
theorem Announces.offline_testament {steps : List FleetStep} (h : Announces B d b steps)
    (howned : Owned B b) :
    PubSub.testament removes (B.retained b) (B.session b d.clientId)
        (mqttTopicAvailability d.deviceId) ≠ some (.lit "online") := by
  cases hsession : B.session b d.clientId with
  | some will =>
    obtain ⟨e, hid, rfl⟩ := howned _ _ hsession
    obtain rfl := Device.eq_of_clientId hid
    show PubSub.retain removes _ e.will e.will.1 ≠ _
    rw [PubSub.retain, Function.update_self]
    show some (CString.lit "offline") ≠ _
    decide
  | none =>
    refine h.offline (Bool.eq_false_of_not_eq_true fun hon => ?_)
    rw [h.session hon] at hsession
    cases hsession

/-- A new session, in which `online` is published. -/
theorem Announces.connect {steps : List FleetStep} (h : Announces B d b steps)
    (howned : Owned B b) (hB : B.Lawful removes) (client : ClientPublish) :
    Announces B d (step B b (.connect d (some client))) (.connect d (some client) :: steps) := by
  have hannounced : announced d (.connect d (some client) :: steps) = decide (client = .sent) :=
    if_pos rfl
  have hopened : B.session (B.connect b d.clientId d.will) d.clientId = some d.will := by
    rw [hB.session_connect, Function.update_self]
  have hoffline : B.retained (B.connect b d.clientId d.will) (mqttTopicAvailability d.deviceId)
      ≠ some (.lit "online") := by
    rw [hB.retained_connect]
    exact h.offline_testament howned
  show Announces B d (deliver B (B.connect b d.clientId d.will) d
    (FleetStep.connect d (some client)).call) _
  cases client with
  | disconnected => exact ⟨by simp [hannounced], by simp [hannounced], fun _ => hoffline⟩
  | failed => exact ⟨by simp [hannounced], by simp [hannounced], fun _ => hoffline⟩
  | sent =>
    show Announces B d (B.publish _ d.clientId (mqttTopicAvailability d.deviceId, .lit "online")
      true) _
    refine ⟨fun _ => ?_, fun _ => ?_, fun hoff => ?_⟩
    · rw [hB.session_publish]
      exact hopened
    · rw [hB.retained_publish, if_pos ⟨by rw [hopened]; rfl, rfl⟩]
      exact Function.update_self ..
    · rw [hannounced] at hoff
      cases hoff

/-- The connection is lost: the broker publishes the will. -/
theorem Announces.lost {steps : List FleetStep} (h : Announces B d b steps) (howned : Owned B b)
    (hB : B.Lawful removes) : Announces B d (B.lose b d.clientId) (.lost d :: steps) := by
  have hannounced : announced d (.lost d :: steps) = false := if_pos rfl
  refine ⟨by simp [hannounced], by simp [hannounced], fun _ => ?_⟩
  rw [hB.retained_lose]
  exact h.offline_testament howned

/-- **One step keeps it**: the device's own connection and its loss, its other
publications, and the steps of others, which are not seen. -/
theorem Announces.step {steps : List FleetStep} (h : Announces B d b steps) (howned : Owned B b)
    (hB : B.Lawful removes) {st : FleetStep}
    (hst : st.device = d ∨ st.device.deviceId ≠ d.deviceId) :
    Announces B d (step B b st) (st :: steps) := by
  rcases hst with rfl | hne
  · obtain ⟨-, hstate, hfault⟩ := topics_distinct st.device.deviceId
    cases st with
    | connect d connected =>
      cases connected with
      | none => exact h.frame (PubSub.Agrees.refl ..) rfl
      | some client => exact h.connect howned hB client
    | lost d => exact h.lost howned hB
    | publishState d state client =>
      refine h.publish hB (fun p hp => ?_) rfl
      rw [message_publishMessage hp]
      exact hstate
    | publishFault d p client =>
      refine h.publish hB (fun p hp => ?_) rfl
      rw [message_publishMessage hp]
      exact hfault
    | publishTelemetry d m p on enabled nowMs stack client =>
      refine h.publish hB (fun p hp => ?_) rfl
      rw [topic_of_telemetry hp]
      intro heq
      exact absurd (CString.append_left_injective heq) (by decide)
  · exact h.frame (agrees_step howned hB hne)
      (announced_of_device_ne fun heq => hne (congrArg Device.deviceId heq))

/-- **The retained availability is true.** On every broker that keeps to the
protocol, from when nobody is connected and the broker does not retain `online`
for the device, and in every run of a fleet in which the device has an ID of its
own: the broker retains `online` for it exactly while its latest connection is
not lost and `online` was sent in it, and then has a session of the device; a
device that is gone is never retained as `online` beyond its session. -/
theorem availability_exact (B : PubSub β CString CString CString) (hB : B.Lawful removes) (b : β)
    (hstart : ∀ c, B.session b c = none) (d : Device)
    (hfresh : B.retained b (mqttTopicAvailability d.deviceId) ≠ some (.lit "online"))
    (steps : List FleetStep)
    (hids : ∀ st ∈ steps, st.device = d ∨ st.device.deviceId ≠ d.deviceId) :
    (B.retained (run B b steps) (mqttTopicAvailability d.deviceId) = some (.lit "online") ↔
        announced d steps = true) ∧
      (announced d steps = true → B.session (run B b steps) d.clientId = some d.will) := by
  have hannounces : Announces B d (run B b steps) steps := by
    induction steps with
    | nil => exact ⟨nofun, nofun, fun _ => hfresh⟩
    | cons st earlier ih =>
      exact (ih fun st' hst' => hids st' (List.mem_cons_of_mem st hst')).step
        (owned_run hB hstart earlier) hB (hids st List.mem_cons_self)
  refine ⟨⟨fun hretained => ?_, hannounces.online⟩, hannounces.session⟩
  by_contra hoff
  exact hannounces.offline (Bool.eq_false_of_not_eq_true hoff) hretained

/-- A device that connects again before the broker has missed it, and whose
second `online` is lost, counts as offline. -/
theorem availability_exact_taken_over :
    let d := memberDevice (.lit "device01")
    let b := run mqttBroker (fun _ => none, fun _ => none)
      [.connect d (some .failed), .connect d (some .sent)]
    mqttBroker.retained b (mqttTopicAvailability d.deviceId) = some (.lit "offline") ∧
      mqttBroker.retained b (mqttTopicAvailability d.deviceId) ≠ some (.lit "online") := by
  intro d b
  refine ⟨by decide +kernel, fun h => ?_⟩
  have hannounced := (availability_exact mqttBroker lawful_mqttBroker
    (fun _ => none, fun _ => none) (fun _ => rfl) d (by decide)
    [.connect d (some .failed), .connect d (some .sent)] (by decide)).1.mp h
  exact absurd hannounced (by decide)

end Fleet

end EnergyController
