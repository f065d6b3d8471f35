/-
EnergyController.Firmware.NetworkGate — `networkTask` asks for an MQTT
connection only on a time that NTP has set.

The broker's certificate can be validated only against a valid time, and
`mqttManagerConnect` refuses to connect without one. It goes by its own copy
of the flag, which the task passes on with `mqttManagerSetTimeSynchronized`.
`flagAfter_run` says that the copy is the task's flag after every iteration;
`connects_synchronized` that at every call of `mqttManagerConnect` the copy is
set, and that a check has found the time valid since the Wi-Fi was last seen down.
-/
import EnergyController.Firmware.NetworkTiming
import EnergyController.Firmware.NetworkTaskTheorems

namespace EnergyController

/-- The flag that a call passes on to the manager. -/
def NetworkAction.synchronized? : NetworkAction → Option Bool
  | .setTimeSynchronized synchronized => some synchronized
  | _ => none

def MqttStep.synchronized? : MqttStep → Option Bool
  | .setTimeSynchronized synchronized => some synchronized
  | _ => none

/-- What the manager's flag is after `calls`, oldest first, if it was `flag`. -/
def flagAfter (flag : Bool) (calls : List NetworkAction) : Bool :=
  (calls.filterMap NetworkAction.synchronized?).getLast?.getD flag

/-- Since the Wi-Fi was last seen down, an iteration has checked the time and found
it valid. -/
def ntpFound (cfg : NetworkConfig) (s₀ : NetworkTask) : List NetworkIteration → Bool
  | [] => false
  | i :: earlier =>
    i.wifiUp && ((s₀.run cfg earlier).wifiFound.2.ntpChecked cfg i && i.ntpTimeValid ||
      ntpFound cfg s₀ earlier)

/-- The calls of a run, oldest first. -/
def callsOf : List NetworkRecord → List NetworkAction
  | [] => []
  | r :: earlier => callsOf earlier ++ r.actions

theorem MqttManager.timeSynchronized_run (cfg : MqttConfig) (s : MqttManager)
    (steps : List MqttStep) :
    (s.run cfg steps).timeSynchronized
      = (steps.filterMap MqttStep.synchronized?).head?.getD s.timeSynchronized := by
  induction steps with
  | nil => rfl
  | cons m earlier ih =>
    rw [MqttManager.run, Run.after_cons, ← MqttManager.run]
    cases m with
    | setTimeSynchronized synchronized => rfl
    | elapse ms => exact ih
    | connect wifiUp accepted =>
      rw [MqttManager.step]
      split <;> exact ih
    | subscribe =>
      rw [MqttManager.step]
      split <;> exact ih
    | arrive topic payload length =>
      rw [MqttManager.step]
      split <;> exact ih
    | loop sent =>
      rw [MqttManager.step]
      split <;> exact ih
    | disconnect => exact ih

theorem flagAfter_append (flag : Bool) (calls calls' : List NetworkAction) :
    flagAfter flag (calls ++ calls') = flagAfter (flagAfter flag calls) calls' := by
  rw [flagAfter, List.filterMap_append, List.getLast?_append]
  cases h : (calls'.filterMap NetworkAction.synchronized?).getLast? <;> simp [flagAfter, h]

/-- Every call of `mqttManagerConnect` finds the flag set. -/
def Guarded : Bool → List NetworkAction → Prop
  | _, [] => True
  | flag, a :: rest =>
    (a.throttledCall = some .mqttConnect → flag = true) ∧ Guarded (flagAfter flag [a]) rest

theorem guarded_append {flag : Bool} {calls calls' : List NetworkAction} :
    Guarded flag (calls ++ calls')
      ↔ Guarded flag calls ∧ Guarded (flagAfter flag calls) calls' := by
  induction calls generalizing flag with
  | nil => simp [Guarded, flagAfter]
  | cons a rest ih =>
    have happend : flagAfter flag (a :: rest) = flagAfter (flagAfter flag [a]) rest :=
      flagAfter_append flag [a] rest
    rw [List.cons_append, Guarded, Guarded, ih, happend, and_assoc]

theorem flagAfter_of_neutral {flag : Bool} {calls : List NetworkAction}
    (h : ∀ a ∈ calls, a.synchronized? = none) : flagAfter flag calls = flag := by
  rw [flagAfter, List.filterMap_eq_nil_iff.mpr h]
  rfl

theorem guarded_of_no_connect {flag : Bool} {calls : List NetworkAction}
    (h : ∀ a ∈ calls, a.throttledCall ≠ some .mqttConnect) : Guarded flag calls := by
  induction calls generalizing flag with
  | nil => trivial
  | cons a rest ih =>
    exact ⟨fun ha => absurd ha (h a List.mem_cons_self),
      ih fun b hb => h b (List.mem_cons_of_mem a hb)⟩

theorem guarded_of_set {flag : Bool} {calls : List NetworkAction}
    (h : ∀ a ∈ calls, a.synchronized? = none)
    (hflag : (∃ a ∈ calls, a.throttledCall = some .mqttConnect) → flag = true) :
    Guarded flag calls := by
  induction calls with
  | nil => trivial
  | cons a rest ih =>
    refine ⟨fun ha => hflag ⟨a, List.mem_cons_self, ha⟩, ?_⟩
    rw [flagAfter_of_neutral (by simpa using h a List.mem_cons_self)]
    refine ih (fun b hb => h b (List.mem_cons_of_mem a hb)) ?_
    rintro ⟨b, hb, hcall⟩
    exact hflag ⟨b, List.mem_cons_of_mem a hb, hcall⟩

namespace NetworkTask

variable {cfg : NetworkConfig} {s : NetworkTask} {i : NetworkIteration}

/-! ## The sections of the loop body -/

theorem wifiDown_synchronized :
    (s.wifiDown cfg i).1.filterMap NetworkAction.synchronized?
      = if s.wifiConnected then [false] else [] := by
  by_cases hdue : cfg.wifiReconnectIntervalMs ≤ i.now - s.lastWiFiAttempt <;>
    cases hwifi : s.wifiConnected <;>
    simp [wifiDown, hwifi, hdue, NetworkAction.synchronized?, List.filterMap_cons]

theorem blynk_neutral : ∀ a ∈ (s.blynk cfg i).1, a.synchronized? = none := by
  unfold blynk
  split
  · dsimp only
    split <;> simp [NetworkAction.synchronized?]
  · simp [NetworkAction.synchronized?]

theorem mqtt_neutral : ∀ a ∈ (s.mqtt cfg i).1, a.synchronized? = none := by
  unfold mqtt
  split
  · split <;> simp [NetworkAction.synchronized?]
  · simp [NetworkAction.synchronized?]

theorem onConnect_neutral : ∀ a ∈ (s.onConnect cfg i).1, a.synchronized? = none := by
  unfold onConnect
  split <;> simp [NetworkAction.synchronized?]

theorem onChange_neutral : ∀ a ∈ (s.onChange cfg i).1, a.synchronized? = none := by
  intro a ha
  rcases onChange_reports s a ha with ⟨call, rfl⟩ | ⟨call, rfl⟩ <;> rfl

theorem telemetry_neutral : ∀ a ∈ (s.telemetry cfg i).1, a.synchronized? = none := by
  unfold telemetry
  split
  · intro a ha
    rcases List.mem_append.mp ha with ha | ha <;>
      split at ha <;> simp_all [NetworkAction.synchronized?]
  · simp

theorem ntp_synchronized :
    (s.wifiFound.2.ntp cfg i).1 = [.setTimeSynchronized (s.synchronized cfg i)] := by
  have hntp : (s.wifiFound.2.ntp cfg i).1
      = [.setTimeSynchronized (s.wifiFound.2.ntp cfg i).2.timeSynchronized] := rfl
  rw [hntp, ntp_state]
  rfl

/-- An iteration that asks for a connection has the Wi-Fi and the time. -/
theorem synchronized_of_mqttConnect (cfg : NetworkConfig) (s : NetworkTask) {a : NetworkAction}
    (ha : a ∈ (s.iterate cfg i).1)
    (hcall : a.throttledCall = some .mqttConnect) :
    i.wifiUp = true ∧ s.synchronized cfg i = true := by
  have hmem : ThrottledCall.mqttConnect ∈ throttledCalls (s.iterate cfg i).1 :=
    List.mem_filterMap.mpr ⟨a, ha, hcall⟩
  cases hwifi : i.wifiUp with
  | false =>
    rw [iterate_down hwifi, wifiDown_calls] at hmem
    split at hmem <;> simp at hmem
  | true =>
    refine ⟨rfl, ?_⟩
    by_contra hsync
    rw [iterate_up_calls hwifi] at hmem
    simp [hsync] at hmem

/-- The calls of an iteration with Wi-Fi: the flag is passed on once, and before
that MQTT is not asked to connect. -/
theorem iterate_up_split (cfg : NetworkConfig) (s : NetworkTask) (hwifi : i.wifiUp = true) :
    ∃ after, (s.iterate cfg i).1
        = s.wifiFound.1 ++ ([.setTimeSynchronized (s.synchronized cfg i)] ++ after) ∧
      ∀ a ∈ after, a.synchronized? = none := by
  rw [iterate, hwifi]
  simp only [Bool.not_true, Bool.false_eq_true, if_false, ntp_synchronized, List.append_assoc]
  refine ⟨_, rfl, ?_⟩
  intro a ha
  simp only [List.mem_append] at ha
  rcases ha with ha | ha | ha | ha | ha
  · exact blynk_neutral a ha
  · exact mqtt_neutral a ha
  · exact onConnect_neutral a ha
  · exact onChange_neutral a ha
  · exact telemetry_neutral a ha

/-- What an iteration does to a copy of the flag, and that it asks for a
connection only while the copy is set. -/
theorem iterate_copy (cfg : NetworkConfig) (s : NetworkTask) (i : NetworkIteration) :
    flagAfter s.timeSynchronized (s.iterate cfg i).1 = (s.iterate cfg i).2.timeSynchronized ∧
      Guarded s.timeSynchronized (s.iterate cfg i).1 := by
  cases hwifi : i.wifiUp with
  | false =>
    constructor
    · rw [iterate_down hwifi, flagAfter, wifiDown_synchronized, wifiDown_state]
      cases hconnected : s.wifiConnected <;> simp
    · refine guarded_of_no_connect fun a ha hcall => ?_
      have := (synchronized_of_mqttConnect cfg s ha hcall).1
      rw [hwifi] at this
      cases this
  | true =>
    obtain ⟨after, hcalls, hafter⟩ := iterate_up_split cfg s hwifi
    obtain ⟨state, fault, hstate⟩ := iterate_up_state cfg s hwifi
    have hset : flagAfter (flagAfter s.timeSynchronized s.wifiFound.1)
        [.setTimeSynchronized (s.synchronized cfg i)] = s.synchronized cfg i := rfl
    constructor
    · rw [hcalls, flagAfter_append, flagAfter_append, hset, flagAfter_of_neutral hafter, hstate]
    · rw [hcalls, guarded_append, guarded_append, hset]
      refine ⟨guarded_of_no_connect ?_, ⟨nofun, trivial⟩, guarded_of_set hafter ?_⟩
      · unfold wifiFound
        split <;> simp [NetworkAction.throttledCall]
      · rintro ⟨a, ha, hcall⟩
        refine (synchronized_of_mqttConnect cfg s ?_ hcall).2
        rw [hcalls]
        simp [ha]

/-! ## Over a run -/

/-- The flag is set only on a Wi-Fi connection on which NTP found the time. -/
structure TimeFound (cfg : NetworkConfig) (s₀ : NetworkTask) (earlier : List NetworkIteration) :
    Prop where
  wifi : (s₀.run cfg earlier).timeSynchronized = true →
    (s₀.run cfg earlier).wifiConnected = true
  found : (s₀.run cfg earlier).timeSynchronized = true → ntpFound cfg s₀ earlier = true

theorem synchronized_found {s₀ : NetworkTask} {earlier : List NetworkIteration}
    (h : TimeFound cfg s₀ earlier) (hwifi : i.wifiUp = true)
    (hsync : (s₀.run cfg earlier).synchronized cfg i = true) :
    ntpFound cfg s₀ (i :: earlier) = true := by
  rw [ntpFound, hwifi, Bool.true_and, Bool.or_eq_true, Bool.and_eq_true]
  rw [synchronized] at hsync
  split at hsync
  · next hchecked => exact .inl ⟨hchecked, hsync⟩
  · rw [wifiFound_state] at hsync
    exact .inr (h.found (Bool.and_eq_true_iff.mp hsync).1)

theorem timeFound_run (cfg : NetworkConfig) (wifiMs blynkMs mqttMs : Millis)
    (iterations : List NetworkIteration) :
    TimeFound cfg (start cfg wifiMs blynkMs mqttMs) iterations := by
  induction iterations with
  | nil => exact ⟨nofun, nofun⟩
  | cons i earlier ih =>
    have hrun : (start cfg wifiMs blynkMs mqttMs).run cfg (i :: earlier)
        = (((start cfg wifiMs blynkMs mqttMs).run cfg earlier).iterate cfg i).2 := rfl
    cases hwifi : i.wifiUp with
    | false =>
      have hlost : ((start cfg wifiMs blynkMs mqttMs).run cfg (i :: earlier)
          ).timeSynchronized = false := by
        rw [hrun, iterate_down hwifi, wifiDown_state]
        cases htime : ((start cfg wifiMs blynkMs mqttMs).run cfg earlier).timeSynchronized with
        | false => rfl
        | true => simp [ih.wifi htime]
      exact ⟨by simp [hlost], by simp [hlost]⟩
    | true =>
      obtain ⟨state, fault, hstate⟩ :=
        iterate_up_state cfg ((start cfg wifiMs blynkMs mqttMs).run cfg earlier) hwifi
      refine ⟨fun _ => ?_, fun hsync => synchronized_found ih hwifi ?_⟩
      · rw [hrun, hstate]
      · rw [hrun, hstate] at hsync
        exact hsync

/-- The flag after the calls of a run is the task's. -/
theorem flagAfter_run (cfg : NetworkConfig) (wifiMs blynkMs mqttMs : Millis)
    (iterations : List NetworkIteration) :
    flagAfter false (callsOf ((start cfg wifiMs blynkMs mqttMs).records cfg iterations))
      = ((start cfg wifiMs blynkMs mqttMs).run cfg iterations).timeSynchronized := by
  induction iterations with
  | nil => rfl
  | cons i earlier ih =>
    rw [records, callsOf, flagAfter_append, ih, (iterate_copy cfg _ i).1]
    rfl

/-- A run of the manager that has seen the calls, whatever else it has seen. -/
def SeenBy (calls : List NetworkAction) (steps : List MqttStep) : Prop :=
  steps.filterMap MqttStep.synchronized?
    = (calls.filterMap NetworkAction.synchronized?).reverse

theorem flag_of_seen {calls : List NetworkAction} {steps : List MqttStep} (h : SeenBy calls steps)
    (mqtt : MqttConfig) (time : ℕ) (queue : Bool) :
    ((MqttManager.mqttManagerBegin time queue).run mqtt steps).timeSynchronized
      = flagAfter false calls := by
  rw [MqttManager.timeSynchronized_run, h, List.head?_reverse]
  rfl

/-- **MQTT is asked to connect only on a time set by NTP.** Wherever the task
calls `mqttManagerConnect`, the Wi-Fi is up, a check has found the time valid since
it was last seen down, and the manager, whatever else has happened to it, holds
the flag that lets it try. -/
theorem connects_synchronized (cfg : NetworkConfig) (wifiMs blynkMs mqttMs : Millis)
    (earlier : List NetworkIteration) (i : NetworkIteration)
    (before after : List NetworkAction) (call : PublishCall)
    (hcalls : (((start cfg wifiMs blynkMs mqttMs).run cfg earlier).iterate cfg i).1
      = before ++ .mqttConnect call :: after) :
    i.wifiUp = true ∧ ntpFound cfg (start cfg wifiMs blynkMs mqttMs) (i :: earlier) = true ∧
      ∀ (mqtt : MqttConfig) (time : ℕ) (queue : Bool) (steps : List MqttStep),
        SeenBy (callsOf ((start cfg wifiMs blynkMs mqttMs).records cfg earlier) ++ before) steps →
          ((MqttManager.mqttManagerBegin time queue).run mqtt steps).timeSynchronized = true := by
  have hfound := timeFound_run cfg wifiMs blynkMs mqttMs earlier
  obtain ⟨hwifi, hsync⟩ := synchronized_of_mqttConnect cfg
    ((start cfg wifiMs blynkMs mqttMs).run cfg earlier) (i := i) (a := .mqttConnect call)
    (by simp [hcalls]) rfl
  refine ⟨hwifi, synchronized_found hfound hwifi hsync, ?_⟩
  intro mqtt time queue steps hseen
  have hguarded := (iterate_copy cfg
    ((start cfg wifiMs blynkMs mqttMs).run cfg earlier) i).2
  rw [hcalls, guarded_append] at hguarded
  rw [flag_of_seen hseen, flagAfter_append, flagAfter_run]
  exact hguarded.2.1 rfl

/-- The first iteration of a task that comes up with the time already valid. -/
theorem connects_synchronized_first :
    (serversDown 2000).iteration.wifiUp = true ∧
      ntpFound exampleNetwork (start exampleNetwork 0 0 0) [(serversDown 2000).iteration] = true ∧
      ((MqttManager.mqttManagerBegin 0 true).run exampleMqtt
        [.setTimeSynchronized true, .elapse 2000]).timeSynchronized = true := by
  obtain ⟨hwifi, hfound, hmanager⟩ := connects_synchronized exampleNetwork 0 0 0 []
    (serversDown 2000).iteration [.configTime, .setTimeSynchronized true, .blynkConnect] []
    (mqttManagerConnect exampleNetwork.mqttDeviceId none).1 rfl
  exact ⟨hwifi, hfound,
    hmanager exampleMqtt 0 true [.setTimeSynchronized true, .elapse 2000] rfl⟩

end NetworkTask

end EnergyController
