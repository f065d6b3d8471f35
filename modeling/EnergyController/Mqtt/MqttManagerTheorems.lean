/-
EnergyController.Mqtt.MqttManagerTheorems — what the post-subscribe hold-off
drops.

The callback judges a message by the time it is handed over, not by the time
it reached the device, and by a 32-bit difference. `Inv` orders the four true
times of every handed message, and `holdoff_window` says for each of them when
the judgement is the one that its arrival calls for. `retained_reset_enqueued`
is a retained reset that arrives at once and waits out the hold-off in the
client.
-/
import EnergyController.Lib.Runs
import EnergyController.Mqtt.MqttManager
import EnergyController.Mqtt.RemoteCommandTheorems

namespace EnergyController

/-! ## The callback -/

/-- The callback on a well-formed command. -/
theorem mqttCallback_of_accepted {cfg : MqttConfig} {topic : Option CString} {payload : Payload}
    {length : ℕ} (h : (parsedBy cfg.mqttDeviceId topic payload length).verdict = .accepted)
    (nowMs subscribedAtMs : Millis) (sent : Bool) :
    (mqttCallback cfg topic payload length nowMs subscribedAtMs sent = .dropped ↔
      commandInHoldoff nowMs subscribedAtMs cfg.mqttCommandHoldoffMs = true) ∧
    ((∃ type, mqttCallback cfg topic payload length nowMs subscribedAtMs sent = .enqueued type) ↔
      commandInHoldoff nowMs subscribedAtMs cfg.mqttCommandHoldoffMs = false ∧ sent = true) := by
  unfold parsedBy at h
  unfold mqttCallback
  dsimp only
  rw [h]
  cases commandInHoldoff nowMs subscribedAtMs cfg.mqttCommandHoldoffMs <;> cases sent <;> simp

/-- The hold-off test, in true time. -/
theorem commandInHoldoff_iff {stamped time : ℕ} (h : stamped ≤ time) (holdoffMs : Millis) :
    commandInHoldoff (millis time) (millis stamped) holdoffMs = true ↔
      (time - stamped) % 2 ^ 32 < holdoffMs.toNat := by
  unfold commandInHoldoff
  rw [decide_eq_true_iff, BitVec.lt_def, millis, millis, WrappedClock.toNat_sub_reading h]

/-! ## Handed messages -/

namespace HandedMessage

def WellFormed (cfg : MqttConfig) (d : HandedMessage) : Prop :=
  (parsedBy cfg.mqttDeviceId (some d.message.topic) d.message.payload d.message.length).verdict
    = .accepted

/-- The message reached the device in the hold-off window. -/
def Early (cfg : MqttConfig) (d : HandedMessage) : Prop :=
  d.message.arrivedAt - d.subscribedAt < cfg.mqttCommandHoldoffMs.toNat

def Enqueued (d : HandedMessage) : Prop := ∃ type, d.outcome = .enqueued type

/-- The callback finds the stamp inside the hold-off. -/
def Held (cfg : MqttConfig) (d : HandedMessage) : Prop :=
  (d.handedAt - d.stampedAt) % 2 ^ 32 < cfg.mqttCommandHoldoffMs.toNat

structure Ok (cfg : MqttConfig) (d : HandedMessage) : Prop where
  stamped_le : d.stampedAt ≤ d.subscribedAt
  subscribed_le : d.subscribedAt ≤ d.message.arrivedAt
  arrived_le : d.message.arrivedAt ≤ d.handedAt
  outcome : d.outcome = mqttCallback cfg (some d.message.topic) d.message.payload d.message.length
    (millis d.handedAt) (millis d.stampedAt) d.sent

variable {cfg : MqttConfig} {d : HandedMessage}

theorem Ok.dropped_iff (h : d.Ok cfg) (hw : d.WellFormed cfg) :
    d.outcome = .dropped ↔ d.Held cfg := by
  have hle := h.stamped_le.trans (h.subscribed_le.trans h.arrived_le)
  rw [h.outcome, (mqttCallback_of_accepted hw _ _ _).1, commandInHoldoff_iff hle]
  rfl

theorem Ok.enqueued_iff (h : d.Ok cfg) (hw : d.WellFormed cfg) :
    d.Enqueued ↔ ¬ d.Held cfg ∧ d.sent = true := by
  have hle := h.stamped_le.trans (h.subscribed_le.trans h.arrived_le)
  unfold Enqueued Held
  rw [h.outcome, (mqttCallback_of_accepted hw _ _ _).2, ← commandInHoldoff_iff hle,
    Bool.not_eq_true]

end HandedMessage

/-! ## Runs -/

namespace MqttManager

variable {cfg : MqttConfig} {s : MqttManager}

structure Inv (cfg : MqttConfig) (s : MqttManager) : Prop where
  /-- since the connection was made, the stamp is the one of this connection -/
  stamped : s.phase ≠ .disconnected → s.subscribedAtMs = millis s.stampedAt ∧ s.stampedAt ≤ s.clock
  subscribed : s.phase = .subscribed → s.stampedAt ≤ s.subscribedAt ∧ s.subscribedAt ≤ s.clock
  waiting : s.phase = .subscribed →
    ∀ m ∈ s.waiting, s.subscribedAt ≤ m.arrivedAt ∧ m.arrivedAt ≤ s.clock
  unsubscribed : s.phase = .subscribing → s.waiting = []
  handed : ∀ d ∈ s.handed, d.Ok cfg

theorem inv_begin (time : ℕ) (commandQueue : Bool) :
    (mqttManagerBegin time commandQueue).Inv cfg where
  stamped := by simp [mqttManagerBegin]
  subscribed := nofun
  waiting := nofun
  unsubscribed := nofun
  handed := nofun

theorem Inv.elapse (h : s.Inv cfg) (ms : ℕ) : (s.step cfg (.elapse ms)).Inv cfg where
  stamped hp := by
    obtain ⟨hstamp, hle⟩ := h.stamped hp
    exact ⟨hstamp, hle.trans (Nat.le_add_right _ _)⟩
  subscribed hp := by
    obtain ⟨hle, hclock⟩ := h.subscribed hp
    exact ⟨hle, hclock.trans (Nat.le_add_right _ _)⟩
  waiting hp m hm := by
    obtain ⟨hle, hclock⟩ := h.waiting hp m hm
    exact ⟨hle, hclock.trans (Nat.le_add_right _ _)⟩
  unsubscribed := h.unsubscribed
  handed := h.handed

theorem Inv.connected (h : s.Inv cfg) :
    ({ s with phase := .subscribing, subscribedAtMs := millis s.clock, stampedAt := s.clock,
              waiting := [] } : MqttManager).Inv cfg where
  stamped _ := ⟨rfl, le_refl _⟩
  subscribed := nofun
  waiting := nofun
  unsubscribed _ := rfl
  handed := h.handed

theorem Inv.subscribe (h : s.Inv cfg) (hp : s.phase = .subscribing) :
    ({ s with phase := .subscribed, subscribedAt := s.clock } : MqttManager).Inv cfg where
  stamped _ := h.stamped (by rw [hp]; decide)
  subscribed _ := ⟨(h.stamped (by rw [hp]; decide)).2, le_refl _⟩
  waiting _ m hm := by
    have hm : m ∈ s.waiting := hm
    rw [h.unsubscribed hp] at hm
    cases hm
  unsubscribed := nofun
  handed := h.handed

theorem Inv.arrive (h : s.Inv cfg) (hp : s.phase = .subscribed) (topic : CString)
    (payload : Payload) (length : ℕ) :
    ({ s with waiting := s.waiting ++
        [{ topic := topic, payload := payload, length := length, arrivedAt := s.clock }] } :
      MqttManager).Inv cfg :=
  { h with
    waiting := by
      intro _ m hm
      rcases List.mem_append.mp hm with hm | hm
      · exact h.waiting hp m hm
      · rw [List.mem_singleton.mp hm]
        exact ⟨(h.subscribed hp).2, le_refl _⟩
    unsubscribed := by
      intro hs
      rw [show s.phase = .subscribing from hs] at hp
      cases hp }

theorem Inv.handOver (h : s.Inv cfg) (hp : s.phase = .subscribed) {m : MqttMessage}
    {rest : List MqttMessage} (hw : s.waiting = m :: rest) (sent : Bool) :
    ({ s with waiting := rest, handed := s.handOver cfg m sent :: s.handed } : MqttManager).Inv
      cfg := by
  have hwaiting := h.waiting hp
  rw [hw] at hwaiting
  obtain ⟨hsub, harrived⟩ := hwaiting m List.mem_cons_self
  refine { h with waiting := ?_, unsubscribed := ?_, handed := ?_ }
  · intro _ m' hm'
    exact hwaiting m' (List.mem_cons_of_mem _ hm')
  · intro hs
    rw [show s.phase = .subscribing from hs] at hp
    cases hp
  · intro d hd
    rcases List.mem_cons.mp hd with rfl | hd
    · refine ⟨(h.subscribed hp).1, hsub, harrived, ?_⟩
      show mqttCallback cfg (some m.topic) m.payload m.length (millis s.clock)
        s.subscribedAtMs _ = _
      rw [(h.stamped (by rw [hp]; decide)).1]
      rfl
    · exact h.handed d hd

theorem Inv.step (h : s.Inv cfg) (st : MqttStep) : (s.step cfg st).Inv cfg := by
  cases st with
  | elapse ms => exact h.elapse ms
  | setTimeSynchronized synchronized => exact { h with }
  | connect wifiUp accepted =>
    dsimp only [MqttManager.step]
    split
    · exact h.connected
    · exact h
  | subscribe =>
    dsimp only [MqttManager.step]
    split
    · rename_i hp
      exact h.subscribe hp
    · exact h
  | arrive topic payload length =>
    dsimp only [MqttManager.step]
    split
    · rename_i hp
      exact h.arrive hp topic payload length
    · exact h
  | loop sent =>
    dsimp only [MqttManager.step]
    split
    · rename_i m rest hp hw
      exact h.handOver hp hw sent
    · exact h
  | disconnect =>
    exact { h with stamped := fun hp => absurd rfl hp, subscribed := nofun, waiting := nofun,
                   unsubscribed := nofun }

theorem inv_run (time : ℕ) (commandQueue : Bool) (steps : List MqttStep) :
    ((mqttManagerBegin time commandQueue).run cfg steps).Inv cfg :=
  Run.invariant (inv_begin time commandQueue) (fun _ st h => h.step st) steps

/-- **When the hold-off does what the arrival calls for.** In every run, a
well-formed command is kept out of the queue if it reached the device inside
the window, and not held off otherwise, exactly if the queue refused it and it
was early, or the callback finds the stamp inside the hold-off precisely for an
early one. -/
theorem holdoff_window (cfg : MqttConfig) (time : ℕ) (commandQueue : Bool)
    (steps : List MqttStep) :
    ∀ d ∈ ((mqttManagerBegin time commandQueue).run cfg steps).handed,
      d.stampedAt ≤ d.subscribedAt ∧ d.subscribedAt ≤ d.message.arrivedAt ∧
        d.message.arrivedAt ≤ d.handedAt ∧
      (d.WellFormed cfg →
        (((d.Early cfg → ¬ d.Enqueued) ∧ (¬ d.Early cfg → d.outcome ≠ .dropped)) ↔
          (d.Early cfg ∧ d.sent = false) ∨ (d.Early cfg ↔ d.Held cfg))) := by
  intro d hd
  have h := (inv_run time commandQueue steps).handed d hd
  refine ⟨h.stamped_le, h.subscribed_le, h.arrived_le, ?_⟩
  intro hw
  rw [ne_eq, h.dropped_iff hw, h.enqueued_iff hw]
  by_cases he : d.Early cfg
  · by_cases hheld : d.Held cfg <;> cases d.sent <;> simp [he, hheld]
  · simp [he]

/-- The retained reset of another day is delivered as soon as the device
subscribes, and NetworkTask calls the client's loop `delay` later. -/
def retainedReset (delay : ℕ) : List MqttStep :=
  [.loop true, .elapse delay,
    .arrive (mqttTopicCmdReset exampleMqtt.mqttDeviceId) (some fun i => (ascii "reset").getD i 0) 5,
    .subscribe, .connect true true, .setTimeSynchronized true]

/-- Half a second later, the hold-off keeps it out. -/
theorem retained_reset_dropped :
    ∃ d ∈ ((mqttManagerBegin 0 true).run exampleMqtt (retainedReset 500)).handed,
      d.message.arrivedAt = d.subscribedAt ∧ ¬ d.Enqueued := by
  obtain ⟨-, -, -, hiff⟩ := holdoff_window exampleMqtt 0 true (retainedReset 500) _
    List.mem_cons_self
  refine ⟨_, List.mem_cons_self, rfl, ((hiff ?well).mpr (.inr (iff_of_true ?early ?held))).1 ?early⟩
  case well =>
    unfold HandedMessage.WellFormed
    decide
  case early =>
    unfold HandedMessage.Early
    decide
  case held =>
    unfold HandedMessage.Held
    decide

/-- Two seconds later, it goes to ControlTask. -/
theorem retained_reset_enqueued :
    ∃ d ∈ ((mqttManagerBegin 0 true).run exampleMqtt (retainedReset 2000)).handed,
      d.WellFormed exampleMqtt ∧ d.message.arrivedAt = d.subscribedAt ∧
        d.outcome = .enqueued .remoteReset := by
  refine ⟨_, List.mem_cons_self, ?_, rfl, ?_⟩
  · unfold HandedMessage.WellFormed
    decide
  · decide

end MqttManager

end EnergyController
