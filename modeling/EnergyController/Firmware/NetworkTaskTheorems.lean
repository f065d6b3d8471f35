/-
EnergyController.Firmware.NetworkTaskTheorems — when the network task
publishes state and fault, and what the broker retains.

`iterate_calls` lists the calls that an iteration can make. `mqttWasConnected`
is reset when the Wi-Fi goes down and set nowhere, so every publication check
that finds MQTT connected takes the path of a fresh connection, and
`iterate_connected` gives the calls of such an iteration in order.
`publishes_when_due_iff` draws from it which iterations publish as they
should, and `retained_current` that the retained values are always current
when the calls succeed.
-/
import EnergyController.Firmware.NetworkTask

namespace EnergyController

/-- What a call was asked to publish. -/
theorem message_publishMessage {client : ClientPublish} {p q : Publication}
    (h : (publishMessage client p).message = some q) : q = p := by
  cases client with
  | disconnected => cases h
  | failed => exact (Option.some.inj h).symm
  | sent => exact (Option.some.inj h).symm

/-- A call other than those that publish state and fault; what it publishes
with the retain flag goes to the availability topic. -/
structure NetworkAction.Quiet (deviceId : CString) (a : NetworkAction) : Prop where
  stateCall : a.stateCall = none
  faultCall : a.faultCall = none
  retained : ∀ call, a.publishCall = some call → ∀ p, call.message = some p → p.retained = true →
    p.topic = mqttTopicAvailability deviceId

namespace NetworkTask

variable {cfg : NetworkConfig} {s : NetworkTask} {i : NetworkIteration}

/-! ## The flag that is never set -/

/-! ### A flag that is never set

`mqttWasConnected` is cleared where the Wi-Fi goes down and set nowhere, so that every
check finds it false. -/

theorem wifiDown_flag (h : s.mqttWasConnected = false) :
    (s.wifiDown cfg i).2.mqttWasConnected = false := by
  unfold wifiDown
  by_cases hwifi : s.wifiConnected = true
  · rw [if_pos hwifi]
    dsimp only
    split <;> rfl
  · rw [if_neg hwifi]
    dsimp only
    split <;> exact h

theorem wifiFound_flag : s.wifiFound.2.mqttWasConnected = s.mqttWasConnected := by
  unfold wifiFound
  split <;> rfl

theorem ntp_flag : (s.ntp cfg i).2.mqttWasConnected = s.mqttWasConnected := by
  unfold ntp
  dsimp only
  split <;> rfl

theorem blynk_flag : (s.blynk cfg i).2.mqttWasConnected = s.mqttWasConnected := by
  unfold blynk
  split
  · dsimp only
    split <;> rfl
  · rfl

theorem mqtt_flag : (s.mqtt cfg i).2.mqttWasConnected = s.mqttWasConnected := by
  unfold mqtt
  split
  · split <;> rfl
  · rfl

theorem onConnect_flag : (s.onConnect cfg i).2.mqttWasConnected = s.mqttWasConnected := by
  unfold onConnect
  split <;> rfl

theorem onChange_flag : (s.onChange cfg i).2.mqttWasConnected = s.mqttWasConnected := by
  have hstate : (s.stateChange cfg i).2.mqttWasConnected = s.mqttWasConnected := by
    unfold stateChange
    split
    · dsimp only
      split <;> rfl
    · rfl
  unfold onChange
  split
  · dsimp only
    rw [← hstate]
    unfold faultChange
    split
    · dsimp only
      split <;> rfl
    · rfl
  · rfl

theorem telemetry_flag : (s.telemetry cfg i).2.mqttWasConnected = s.mqttWasConnected := by
  unfold telemetry
  split <;> rfl

theorem iterate_flag (h : s.mqttWasConnected = false) :
    (s.iterate cfg i).2.mqttWasConnected = false := by
  unfold iterate
  split
  · exact wifiDown_flag h
  · dsimp only
    rw [telemetry_flag, onChange_flag, onConnect_flag, mqtt_flag, blynk_flag, ntp_flag,
      wifiFound_flag, h]

/-- So it is false in every run, as it is at the start. -/
theorem run_flag (cfg : NetworkConfig) (wifiMs blynkMs mqttMs : Millis)
    (iterations : List NetworkIteration) :
    ((start cfg wifiMs blynkMs mqttMs).run cfg iterations).mqttWasConnected = false :=
  Run.invariant (P := fun s : NetworkTask => s.mqttWasConnected = false) rfl
    (fun _ _ h => iterate_flag h) iterations

/-! ## The calls of an iteration -/

/-- The calls that an iteration can make besides those that publish state and
fault. -/
inductive Aside (cfg : NetworkConfig) (i : NetworkIteration) : NetworkAction → Prop
  | wifiBegin : Aside cfg i .wifiBegin
  | configTime : Aside cfg i .configTime
  | setTimeSynchronized (synchronized : Bool) : Aside cfg i (.setTimeSynchronized synchronized)
  | blynkConnect : Aside cfg i .blynkConnect
  | blynkRun : Aside cfg i .blynkRun
  | blynkWrite : Aside cfg i (.blynkWrite (measurement i))
  | mqttConnect : Aside cfg i (.mqttConnect (mqttManagerConnect cfg.mqttDeviceId i.mqttConnect).1)
  | mqttLoop : Aside cfg i .mqttLoop
  | publishTelemetry : Aside cfg i (.publishTelemetry (measurement i)
      (mqttManagerPublishTelemetry cfg.mqttDeviceId (measurement i) i.protection
        i.relayCommandedOn i.relayOutputEnabled i.telemetryMs i.stack i.telemetry))

/-! ### What the parts of an iteration call

Only two parts publish state and fault; the others are aside (`Aside`), and what
the two publish is what the snapshot says (`Reports`). -/

theorem wifiDown_aside (s : NetworkTask) : ∀ a ∈ (s.wifiDown cfg i).1, Aside cfg i a := by
  have hlost : ∀ a ∈ [NetworkAction.setTimeSynchronized false], Aside cfg i a := by
    simp [Aside.setTimeSynchronized]
  unfold wifiDown
  by_cases hconnected : s.wifiConnected = true
  · rw [if_pos hconnected]
    dsimp only
    split
    · simp [Aside.setTimeSynchronized, Aside.wifiBegin]
    · exact hlost
  · rw [if_neg hconnected]
    dsimp only
    split
    · simp [Aside.wifiBegin]
    · simp

theorem wifiFound_aside (s : NetworkTask) : ∀ a ∈ s.wifiFound.1, Aside cfg i a := by
  unfold wifiFound
  split
  · simp [Aside.configTime]
  · simp

theorem ntp_aside (s : NetworkTask) : ∀ a ∈ (s.ntp cfg i).1, Aside cfg i a := by
  simp [ntp, Aside.setTimeSynchronized]

theorem blynk_aside (s : NetworkTask) : ∀ a ∈ (s.blynk cfg i).1, Aside cfg i a := by
  unfold blynk
  split
  · dsimp only
    split
    · simp [Aside.blynkConnect]
    · simp
  · simp [Aside.blynkRun]

theorem mqtt_aside (s : NetworkTask) : ∀ a ∈ (s.mqtt cfg i).1, Aside cfg i a := by
  unfold mqtt
  split
  · split
    · simp [Aside.mqttConnect]
    · simp
  · simp [Aside.mqttLoop]

theorem telemetry_aside (s : NetworkTask) : ∀ a ∈ (s.telemetry cfg i).1, Aside cfg i a := by
  unfold telemetry
  split
  · intro a ha
    rcases List.mem_append.mp ha with ha | ha
    · split at ha
      · rw [List.mem_singleton.mp ha]
        exact .blynkWrite
      · cases ha
    · split at ha
      · rw [List.mem_singleton.mp ha]
        exact .publishTelemetry
      · cases ha
  · simp

/-- A call that publishes the state or the fault of the snapshot. -/
def Reports (i : NetworkIteration) (a : NetworkAction) : Prop :=
  (∃ call, a = .publishState i.protection.state call) ∨
    ∃ call, a = .publishFault i.protection.fault.activeFault call

theorem onConnect_reports (s : NetworkTask) : ∀ a ∈ (s.onConnect cfg i).1, Reports i a := by
  unfold onConnect
  split
  · simp [Reports]
  · simp

theorem onChange_reports (s : NetworkTask) : ∀ a ∈ (s.onChange cfg i).1, Reports i a := by
  have hstate : ∀ a ∈ (s.stateChange cfg i).1, Reports i a := by
    unfold stateChange
    split
    · simp [Reports]
    · simp
  have hfault (s : NetworkTask) : ∀ a ∈ (s.faultChange cfg i).1, Reports i a := by
    unfold faultChange
    split
    · simp [Reports]
    · simp
  unfold onChange
  split
  · intro a ha
    rcases List.mem_append.mp ha with ha | ha
    · exact hstate a ha
    · exact hfault _ a ha
  · simp

/-- **The calls of an iteration**, whatever it meets. -/
theorem iterate_calls (s : NetworkTask) :
    ∀ a ∈ (s.iterate cfg i).1, Aside cfg i a ∨ Reports i a := by
  intro a ha
  unfold iterate at ha
  split at ha
  · exact .inl (wifiDown_aside s a ha)
  · dsimp only at ha
    simp only [List.mem_append] at ha
    rcases ha with (((((ha | ha) | ha) | ha) | ha) | ha) | ha
    · exact .inl (wifiFound_aside _ a ha)
    · exact .inl (ntp_aside _ a ha)
    · exact .inl (blynk_aside _ a ha)
    · exact .inl (mqtt_aside _ a ha)
    · exact .inr (onConnect_reports _ a ha)
    · exact .inr (onChange_reports _ a ha)
    · exact .inl (telemetry_aside _ a ha)

/-- Telemetry is not retained. -/
theorem not_retained_telemetry {deviceId : CString} {m : Measurement} {p : ProtectionSnapshot}
    {on enabled : Bool} {nowMs : Millis} {stack : ℕ → UInt8} {client : ClientPublish}
    {q : Publication}
    (h : (mqttManagerPublishTelemetry deviceId m p on enabled nowMs stack client).message
      = some q) : q.retained = false := by
  unfold mqttManagerPublishTelemetry at h
  split at h
  · cases h
  · cases h
  · split at h
    · cases h
    · rw [message_publishMessage h]

/-- What is aside leaves the retained state and fault alone. -/
theorem Aside.quiet {a : NetworkAction} (h : Aside cfg i a) : a.Quiet cfg.mqttDeviceId := by
  cases h with
  | mqttConnect =>
    refine ⟨rfl, rfl, ?_⟩
    intro call hcall p hp _
    obtain rfl := Option.some.inj hcall
    unfold mqttManagerConnect at hp
    split at hp
    · cases hp
    · rw [message_publishMessage hp]
  | publishTelemetry =>
    refine ⟨rfl, rfl, ?_⟩
    intro call hcall p hp hretained
    obtain rfl := Option.some.inj hcall
    rw [not_retained_telemetry hp] at hretained
    cases hretained
  | _ => exact ⟨rfl, rfl, nofun⟩

/-- **The calls of an iteration whose publication check finds MQTT connected**:
with the flag never set, both values are published once, whatever was
published before. -/
theorem iterate_connected (cfg : NetworkConfig) (hflag : s.mqttWasConnected = false)
    (hwifi : i.wifiUp = true) (hmqtt : i.mqttNowConnected = true) :
    ∃ before after : List NetworkAction,
      (s.iterate cfg i).1 = before ++
        [.publishState i.protection.state
            (mqttManagerPublishState cfg.mqttDeviceId i.protection.state i.stateOnConnect),
          .publishFault i.protection.fault.activeFault
            (mqttManagerPublishFault cfg.mqttDeviceId i.protection i.faultOnConnect)] ++ after ∧
      (∀ a ∈ before, a.Quiet cfg.mqttDeviceId) ∧ ∀ a ∈ after, a.Quiet cfg.mqttDeviceId := by
  set s₁ := s.wifiFound.2 with hs₁
  set s₂ := (s₁.ntp cfg i).2 with hs₂
  set s₃ := (s₂.blynk cfg i).2 with hs₃
  set s₄ := (s₃.mqtt cfg i).2 with hs₄
  have hflag₄ : s₄.mqttWasConnected = false := by
    rw [hs₄, mqtt_flag, hs₃, blynk_flag, hs₂, ntp_flag, hs₁, wifiFound_flag, hflag]
  set s₅ : NetworkTask :=
    { s₄ with
      publishedState := i.protection.state
      publishedFault := i.protection.fault.activeFault } with hs₅
  have hconnect : s₄.onConnect cfg i =
      ([.publishState i.protection.state
          (mqttManagerPublishState cfg.mqttDeviceId i.protection.state i.stateOnConnect),
        .publishFault i.protection.fault.activeFault
          (mqttManagerPublishFault cfg.mqttDeviceId i.protection i.faultOnConnect)], s₅) := by
    have hfresh : (i.mqttNowConnected && !s₄.mqttWasConnected) = true := by
      rw [hflag₄, hmqtt]
      rfl
    unfold onConnect
    rw [if_pos hfresh]
  -- nothing is left to change: both values have just been recorded
  have hchange : s₅.onChange cfg i = ([], s₅) := by
    unfold onChange stateChange faultChange
    rw [if_pos hmqtt, if_neg (fun h => h rfl)]
    dsimp only
    rw [if_neg (fun h => h rfl)]
    rfl
  refine ⟨s.wifiFound.1 ++ (s₁.ntp cfg i).1 ++ (s₂.blynk cfg i).1 ++ (s₃.mqtt cfg i).1,
    (s₅.telemetry cfg i).1, ?_, ?_, fun a ha => (telemetry_aside s₅ a ha).quiet⟩
  · unfold iterate
    rw [hwifi]
    dsimp only
    rw [if_neg (by decide)]
    dsimp only
    rw [← hs₁, ← hs₂, ← hs₃, ← hs₄, hconnect]
    dsimp only
    rw [hchange]
    simp
  · intro a ha
    apply Aside.quiet (i := i)
    simp only [List.mem_append] at ha
    rcases ha with ((ha | ha) | ha) | ha
    · exact wifiFound_aside s a ha
    · exact ntp_aside s₁ a ha
    · exact blynk_aside s₂ a ha
    · exact mqtt_aside s₃ a ha

end NetworkTask

/-! ## When the values are published -/

namespace NetworkRecord

/-- The state has to be published: the connection is fresh, or the state is not
the one last accepted on it. -/
def StateDue (r : NetworkRecord) (earlier : List NetworkRecord) : Prop :=
  fresh earlier = true ∨ lastAccepted stateCalls earlier ≠ some r.iteration.protection.state

def FaultDue (r : NetworkRecord) (earlier : List NetworkRecord) : Prop :=
  fresh earlier = true ∨
    lastAccepted faultCalls earlier ≠ some r.iteration.protection.fault.activeFault

/-- Called exactly once if due, and not at all otherwise. -/
def CalledWhen {α : Type} (due : Prop) (calls : List α) : Prop :=
  (due → calls.length = 1) ∧ (¬ due → calls = [])

theorem calledWhen_singleton_iff {α : Type} (due : Prop) (call : α) :
    CalledWhen due [call] ↔ due := by
  constructor
  · rintro ⟨-, hnot⟩
    by_contra h
    cases hnot h
  · intro h
    exact ⟨fun _ => rfl, fun hn => absurd h hn⟩

end NetworkRecord

namespace NetworkTask

variable {cfg : NetworkConfig}

/-- What `i` meets and does after `iterations`. -/
def record (cfg : NetworkConfig) (s : NetworkTask) (iterations : List NetworkIteration)
    (i : NetworkIteration) : NetworkRecord where
  iteration := i
  actions := ((s.run cfg iterations).iterate cfg i).1

theorem filterMap_quiet {α : Type} {f : NetworkAction → Option α} {actions : List NetworkAction}
    (h : ∀ a ∈ actions, f a = none) : actions.filterMap f = [] :=
  List.filterMap_eq_nil_iff.mpr h

/-- The two values are published once each. -/
theorem calls_of_connected (cfg : NetworkConfig) {s : NetworkTask} {i : NetworkIteration}
    (hflag : s.mqttWasConnected = false) (hwifi : i.wifiUp = true)
    (hmqtt : i.mqttNowConnected = true) :
    (s.iterate cfg i).1.filterMap NetworkAction.stateCall
        = [(i.protection.state,
            (mqttManagerPublishState cfg.mqttDeviceId i.protection.state i.stateOnConnect).ok)] ∧
      (s.iterate cfg i).1.filterMap NetworkAction.faultCall
        = [(i.protection.fault.activeFault,
            (mqttManagerPublishFault cfg.mqttDeviceId i.protection i.faultOnConnect).ok)] := by
  obtain ⟨before, after, hactions, hbefore, hafter⟩ := iterate_connected cfg hflag hwifi hmqtt
  rw [hactions]
  constructor
  · rw [List.filterMap_append, List.filterMap_append,
      filterMap_quiet fun a ha => (hbefore a ha).stateCall,
      filterMap_quiet fun a ha => (hafter a ha).stateCall]
    rfl
  · rw [List.filterMap_append, List.filterMap_append,
      filterMap_quiet fun a ha => (hbefore a ha).faultCall,
      filterMap_quiet fun a ha => (hafter a ha).faultCall]
    rfl

/-- **When state and fault are published as they should be.** In every run, an
iteration whose publication check finds MQTT connected publishes the state
exactly when it is due if and only if it is due, and likewise the fault: it
publishes both in any case. -/
theorem publishes_when_due_iff (cfg : NetworkConfig) (wifiMs blynkMs mqttMs : Millis)
    (iterations : List NetworkIteration) (i : NetworkIteration) :
    let s := start cfg wifiMs blynkMs mqttMs
    let earlier := s.records cfg iterations
    let r := s.record cfg iterations i
    r.connected = true →
      (NetworkRecord.CalledWhen (r.StateDue earlier) r.stateCalls ↔ r.StateDue earlier) ∧
      (NetworkRecord.CalledWhen (r.FaultDue earlier) r.faultCalls ↔ r.FaultDue earlier) := by
  intro s earlier r hconnected
  obtain ⟨hwifi, hmqtt⟩ := Bool.and_eq_true_iff.mp hconnected
  obtain ⟨hstate, hfault⟩ := calls_of_connected cfg
    (run_flag cfg wifiMs blynkMs mqttMs iterations) hwifi hmqtt
  have hstate : r.stateCalls = _ := hstate
  have hfault : r.faultCalls = _ := hfault
  rw [hstate, hfault]
  exact ⟨NetworkRecord.calledWhen_singleton_iff _ _, NetworkRecord.calledWhen_singleton_iff _ _⟩

/-- Everything is up, nothing changes, and the telemetry is not due. -/
def steadyIteration (now : Millis) : NetworkIteration where
  now := now
  wifiUp := true
  ntpTimeValid := true
  blynkUp := true
  blynkConnects := true
  mqttUp := true
  mqttConnect := none
  protection := (ProtectionCore.new exampleConfig).snapshot 0
  mqttNowConnected := true
  stateOnConnect := .sent
  faultOnConnect := .sent
  stateOnChange := .sent
  faultOnChange := .sent
  copied := none
  mqttUpAtTelemetry := true
  relayCommandedOn := false
  relayOutputEnabled := true
  telemetryMs := now
  stack := fun _ => 0
  telemetry := .sent

/-- The state has changed since the broker accepted it on the same connection: its
publication is in order. -/
theorem publishes_when_due_changed :
    let s := start exampleNetwork 0 0 0
    let changed : NetworkIteration :=
      { steadyIteration 20 with
        protection := { (steadyIteration 20).protection with state := .normal } }
    let earlier := s.records exampleNetwork [steadyIteration 10]
    let r := s.record exampleNetwork [steadyIteration 10] changed
    NetworkRecord.fresh earlier = false ∧
      NetworkRecord.lastAccepted NetworkRecord.stateCalls earlier = some .init ∧
      NetworkRecord.CalledWhen (r.StateDue earlier) r.stateCalls := by
  intro s changed earlier r
  exact ⟨by decide, by decide,
    (publishes_when_due_iff exampleNetwork 0 0 0 [steadyIteration 10] changed (by decide)).1.mpr
      (.inr (by decide))⟩

/-- Ten milliseconds later, on the same connection and with the same state,
which the broker has accepted, the state is published again. -/
theorem publishes_again :
    let s := start exampleNetwork 0 0 0
    let earlier := s.records exampleNetwork [steadyIteration 10]
    let r := s.record exampleNetwork [steadyIteration 10] (steadyIteration 20)
    r.connected = true ∧ NetworkRecord.fresh earlier = false ∧
      NetworkRecord.lastAccepted NetworkRecord.stateCalls earlier
        = some r.iteration.protection.state ∧
      NetworkRecord.lastAccepted NetworkRecord.faultCalls earlier
        = some r.iteration.protection.fault.activeFault ∧
      r.stateCalls = [(.init, true)] ∧ r.faultCalls = [(.none, true)] := by
  decide

end NetworkTask

/-! ## What the broker retains -/

/-- The topics of a device differ in their last parts. -/
theorem topics_distinct (deviceId : CString) :
    mqttTopicState deviceId ≠ mqttTopicFault deviceId ∧
      mqttTopicState deviceId ≠ mqttTopicAvailability deviceId ∧
      mqttTopicFault deviceId ≠ mqttTopicAvailability deviceId := by
  refine ⟨?_, ?_, ?_⟩
  all_goals
    intro h
    exact absurd (CString.append_left_injective h) (by decide)

namespace Broker

/-- A call about another topic, or one that is not retained, leaves the topic. -/
theorem accept_of_ne {b : Broker} {call : PublishCall} {t : CString}
    (h : ∀ p, call.message = some p → p.retained = true → p.topic ≠ t) :
    (b.accept call) t = b t := by
  unfold accept
  cases hp : call.message with
  | none => rfl
  | some p =>
    dsimp only
    split
    · rename_i hok
      exact if_neg (Ne.symm (h p hp hok.2))
    · rfl

/-- A retained publication that is accepted is what its topic holds. -/
theorem accept_publishMessage {b : Broker} {client : ClientPublish} {p : Publication}
    (hretained : p.retained = true) (hok : (publishMessage client p).ok = true) :
    (b.accept (publishMessage client p)) p.topic = some p.payload := by
  cases client with
  | disconnected => cases hok
  | failed => cases hok
  | sent =>
    unfold accept publishMessage
    dsimp only
    rw [if_pos ⟨rfl, hretained⟩, if_pos rfl]

theorem afterActions_append (b : Broker) (as as' : List NetworkAction) :
    b.afterActions (as ++ as') = (b.afterActions as).afterActions as' := by
  unfold afterActions
  rw [List.filterMap_append, List.foldl_append]

/-- Quiet actions leave what is retained of the state and the fault. -/
theorem afterActions_quiet {deviceId t : CString} (ht : t ≠ mqttTopicAvailability deviceId)
    {actions : List NetworkAction} (h : ∀ a ∈ actions, a.Quiet deviceId) (b : Broker) :
    (b.afterActions actions) t = b t := by
  induction actions generalizing b with
  | nil => rfl
  | cons a actions ih =>
    have ih := ih fun a' ha' => h a' (List.mem_cons_of_mem _ ha')
    have hquiet := h a List.mem_cons_self
    unfold afterActions at ih ⊢
    cases hcall : a.publishCall with
    | none =>
      rw [List.filterMap_cons_none hcall]
      exact ih b
    | some call =>
      rw [List.filterMap_cons_some hcall, List.foldl_cons, ih]
      apply accept_of_ne
      rintro p hp hretained rfl
      exact ht (hquiet.retained call hcall p hp hretained)

end Broker

namespace NetworkTask

/-- **No change is lost.** In every run, with any connection drops, snapshots and
failures before: after an iteration whose publication check finds MQTT
connected and whose calls that publish state and fault return true, the
broker retains the state and the fault of that iteration's snapshot. -/
theorem retained_current (cfg : NetworkConfig) (wifiMs blynkMs mqttMs : Millis) (b : Broker)
    (iterations : List NetworkIteration) (i : NetworkIteration) :
    let s := start cfg wifiMs blynkMs mqttMs
    let r := s.record cfg iterations i
    let broker := b.afterRecords (s.records cfg (i :: iterations))
    r.connected = true → (∀ call ∈ r.stateCalls, call.2 = true) →
      (∀ call ∈ r.faultCalls, call.2 = true) →
      broker (mqttTopicState cfg.mqttDeviceId) = some (systemStateName i.protection.state) ∧
        broker (mqttTopicFault cfg.mqttDeviceId)
          = some (faultCodeName i.protection.fault.activeFault) := by
  intro s r broker hconnected hstates hfaults
  obtain ⟨hwifi, hmqtt⟩ : i.wifiUp = true ∧ i.mqttNowConnected = true :=
    Bool.and_eq_true_iff.mp hconnected
  have hflag := run_flag cfg wifiMs blynkMs mqttMs iterations
  obtain ⟨hstate, hfault⟩ := calls_of_connected cfg hflag hwifi hmqtt
  have hstateOk : (mqttManagerPublishState cfg.mqttDeviceId i.protection.state
      i.stateOnConnect).ok = true :=
    hstates (_, _) (by rw [show r.stateCalls = _ from hstate]; exact List.mem_singleton_self _)
  have hfaultOk : (mqttManagerPublishFault cfg.mqttDeviceId i.protection
      i.faultOnConnect).ok = true :=
    hfaults (_, _) (by rw [show r.faultCalls = _ from hfault]; exact List.mem_singleton_self _)
  obtain ⟨before, after, hactions, -, hafter⟩ := iterate_connected cfg hflag hwifi hmqtt
  obtain ⟨hdistinct, hstateTopic, hfaultTopic⟩ := topics_distinct cfg.mqttDeviceId
  set b' := (b.afterRecords (s.records cfg iterations)).afterActions before with hb'
  have hbroker : broker = ((b'.accept (mqttManagerPublishState cfg.mqttDeviceId
      i.protection.state i.stateOnConnect)).accept (mqttManagerPublishFault cfg.mqttDeviceId
        i.protection i.faultOnConnect)).afterActions after := by
    show (b.afterRecords (s.records cfg iterations)).afterActions
      ((s.run cfg iterations).iterate cfg i).1 = _
    rw [hactions, Broker.afterActions_append, Broker.afterActions_append, ← hb']
    rfl
  rw [hbroker, Broker.afterActions_quiet hstateTopic hafter,
    Broker.afterActions_quiet hfaultTopic hafter]
  constructor
  · rw [Broker.accept_of_ne]
    · exact Broker.accept_publishMessage rfl hstateOk
    · rintro p hp -
      rw [message_publishMessage hp]
      exact hdistinct.symm
  · exact Broker.accept_publishMessage rfl hfaultOk

/-- After a publication that failed, the next check makes up for it. -/
theorem retained_current_second :
    let s := start exampleNetwork 0 0 0
    (Broker.afterRecords (fun _ => none) (s.records exampleNetwork
        [steadyIteration 20, { steadyIteration 10 with stateOnConnect := .failed }]))
      (mqttTopicState (.lit "device01")) = some (.lit "INIT") :=
  (retained_current exampleNetwork 0 0 0 (fun _ => none)
    [{ steadyIteration 10 with stateOnConnect := .failed }] (steadyIteration 20) rfl (by decide)
    (by decide)).1

end NetworkTask

end EnergyController
