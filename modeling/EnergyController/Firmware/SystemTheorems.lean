/-
EnergyController.Firmware.SystemTheorems — the rules for runs of the whole
firmware, and the way of a sample through it.

`run_history` is the induction: what a step keeps of the state and the history
holds of both after every run. `act_cases` says once what a step can do, so that
an invariant is proved with one short case for each thing that can happen, and
not by unfolding `act`. The modules on commands, on exposure and on supply rest
on these two.

`SamplePath` is the first invariant proved with them: where each reading of
SensorTask is, from the meter to ControlTask. `samples_in_order` reads off it
what reaches the protection: readings, each once at most, in the order in which
they were taken, and none before its time.
-/
import EnergyController.Firmware.CliTaskTheorems
import EnergyController.Firmware.System
import EnergyController.Firmware.TasksTheorems
import EnergyController.Mqtt.MqttManagerTheorems

namespace EnergyController

/-- Only `elapse` moves the clock. -/
theorem MqttManager.clock_le_step (cfg : MqttConfig) (s : MqttManager) (st : MqttStep) :
    s.clock ≤ (s.step cfg st).clock := by
  cases st with
  | elapse ms => exact Nat.le_add_right _ _
  | connect wifiUp accepted =>
    dsimp only [MqttManager.step]
    split <;> exact Nat.le_refl _
  | subscribe =>
    dsimp only [MqttManager.step]
    split <;> exact Nat.le_refl _
  | arrive topic payload length =>
    dsimp only [MqttManager.step]
    split <;> exact Nat.le_refl _
  | loop sent =>
    dsimp only [MqttManager.step]
    split <;> exact Nat.le_refl _
  | _ => exact Nat.le_refl _

namespace System

variable {cfg : SystemConfig} {s : System cfg}

/-- What every `act` keeps, every run keeps. The step is made only while the
supervisor has not restarted the chip; from then on nothing happens, and the
invariant is kept for free. -/
theorem run_history {P : System cfg → List SystemEvent → Prop} {s₀ : System cfg} (h₀ : P s₀ [])
    (hact : ∀ s h st, s.firmware.watchdog ≠ .restarted → P s h →
      P (s.act st).1 ((s.act st).2 ++ h)) (steps : List SystemStep) :
    P (s₀.run steps) (s₀.history steps) := by
  induction steps with
  | nil => exact h₀
  | cons st earlier ih =>
    show P ((s₀.run earlier).step st) ((s₀.run earlier).events st ++ s₀.history earlier)
    unfold step events
    split
    · exact ih
    · exact hact _ _ st ‹_› ih

/-- What a byte does to CliTask, and what it says. -/
def readByte (s : System cfg) (value : UInt8) : CliTask × List CliEvent :=
  s.cli.readByte cfg.charSigned cfg.cliBufferSize
    { value := value, room := s.commandQueue.hasRoom }

/-- **What a step can do**: one case for each thing, with what it does to the
state, the events it leaves in the history and what must have been the case, and
one case for a step that is not possible. `P` speaks of the two together, so that
an invariant of state and history fits in. -/
theorem act_cases (s : System cfg) (st : SystemStep) {P : System cfg × List SystemEvent → Prop}
    (stays : P (s, []))
    (elapse : ∀ ms, P ({ s with mqtt := s.mqtt.step cfg.mqtt (.elapse ms) }, []))
    (firmware : ∀ st, st.usesQueue = false →
      P ({ s with firmware := s.firmware.step cfg.firmware st, running := s.started st }, []))
    (sensorRead : ∀ raw, s.sensor = .reading →
      P ({ s with sensor := .sending (.read cfg.measurementSource raw s.clock) },
        [.read (.read cfg.measurementSource raw s.clock)]))
    (sensorSend : ∀ sample, s.sensor = .sending sample →
      P ({ s with sensor := .reading, measurementQueue := s.measurementQueue.send sample },
        [if s.measurementQueue.hasRoom then .sent sample else .lost sample]))
    (controlPoll : ∀ locked, s.firmware.control = .receiving →
      P ({ s with
            firmware := s.firmware.step cfg.firmware
              (.controlPoll (s.measurementQueue.items.head?.map (·.measurement)) (s.lock locked))
            measurementQueue := s.measurementQueue.receive },
          [.polled s.measurementQueue.items.head? s.clock locked]))
    (controlCommand : ∀ locked type rest, s.firmware.control = .draining →
      s.commandQueue.items = type :: rest →
      P ({ s with
            firmware := s.firmware.step cfg.firmware (.controlCommand type (s.lock locked))
            commandQueue := s.commandQueue.receive },
          [.executed type s.clock locked]))
    (controlLoop : s.commandQueue.items = [] →
      P ({ s with firmware := s.firmware.step cfg.firmware .controlLoop }, []))
    (typed : ∀ value, (s.readByte value).2.findSome? CliEvent.enqueued? = none →
      P ({ s with cli := (s.readByte value).1 }, [.typed value]))
    (typedCommand : ∀ value type, (s.readByte value).2.findSome? CliEvent.enqueued? = some type →
      P ({ s with cli := (s.readByte value).1, commandQueue := s.commandQueue.send type },
        [.enqueued .typed type, .typed value]))
    (mqtt : ∀ st, st.usesSystem = false → P ({ s with mqtt := s.mqtt.step cfg.mqtt st }, []))
    (mqttLoop : s.mqtt.enqueues cfg.mqtt s.commandQueue.hasRoom = none →
      P ({ s with mqtt := s.mqtt.step cfg.mqtt (.loop s.commandQueue.hasRoom) }, []))
    (mqttCommand : ∀ message type,
      s.mqtt.enqueues cfg.mqtt s.commandQueue.hasRoom = some (message, type) →
      P ({ s with
            mqtt := s.mqtt.step cfg.mqtt (.loop s.commandQueue.hasRoom)
            commandQueue := s.commandQueue.send type },
          [.enqueued (.received message) type])) :
    P (s.act st) := by
  cases st with
  | elapse ms => exact elapse ms
  | firmware st =>
    unfold act
    dsimp only
    split
    · exact stays
    · next hst => exact firmware st (Bool.eq_false_of_not_eq_true hst)
  | sensorRead raw =>
    unfold act
    dsimp only
    split
    · exact sensorRead raw ‹_›
    · exact stays
  | sensorSend =>
    unfold act
    dsimp only
    split
    · exact sensorSend _ ‹_›
    · exact stays
  | controlPoll locked =>
    unfold act
    dsimp only
    split
    · exact controlPoll locked ‹_›
    · exact stays
  | controlCommand locked =>
    unfold act
    dsimp only
    split
    · exact controlCommand locked _ _ ‹_› ‹_›
    · exact stays
  | controlLoop =>
    unfold act
    dsimp only
    split
    · exact controlLoop ‹_›
    · exact stays
  | cliByte value =>
    unfold act
    dsimp only
    split
    · split
      · next hsome => exact typedCommand value _ hsome
      · next hnone => exact typed value hnone
    · exact stays
  | mqtt st =>
    unfold act
    dsimp only
    split
    · next hst => exact mqtt st (by simpa using (Bool.and_eq_true_iff.mp hst).2)
    · exact stays
  | mqttLoop =>
    unfold act
    dsimp only
    split
    · split
      · exact mqttCommand _ _ ‹_›
      · exact mqttLoop ‹_›
    · exact stays

/-- Time does not run backwards: the MQTT manager holds the clock of the system,
and no other step touches it. -/
theorem clock_le_act (s : System cfg) (st : SystemStep) : s.clock ≤ (s.act st).1.clock := by
  apply act_cases (P := fun r => s.clock ≤ r.1.clock) s st
  case elapse => exact fun ms => MqttManager.clock_le_step _ _ _
  case mqtt => exact fun st hst => MqttManager.clock_le_step _ _ _
  case mqttLoop => exact fun hnone => MqttManager.clock_le_step _ _ _
  case mqttCommand => exact fun message type hsome => MqttManager.clock_le_step _ _ _
  all_goals intros; exact Nat.le_refl _

/-! ## The way of a sample -/

/-- The sample that SensorTask has read and not yet sent. -/
def SensorPc.held : SensorPc → List Sample
  | .reading => []
  | .sending sample => [sample]

/-- Where the readings are: read, then sent or lost, then waiting or received.
The queue is accounted for by `BoundedQueue.Passed`; `past` and `causal` tie the
times of the readings to the clock. -/
structure SamplePath (s : System cfg) (h : List SystemEvent) : Prop where
  /-- what was sent is what was received and what waits -/
  account : s.measurementQueue.Passed (h.filterMap SystemEvent.sent?)
    (h.filterMap SystemEvent.received?)
  /-- what was read is what was sent or lost and what SensorTask still holds -/
  settled : h.filterMap SystemEvent.read?
    = SensorPc.held s.sensor ++ h.filterMap SystemEvent.settled?
  ordered : (h.filterMap SystemEvent.read?).Pairwise (fun later earlier =>
    earlier.takenAt ≤ later.takenAt)
  past : ∀ sample ∈ h.filterMap SystemEvent.read?, sample.takenAt ≤ s.clock
  causal : ∀ sample t locked, .polled (some sample) t locked ∈ h → sample.takenAt ≤ t

theorem samplePath_powerOn (cfg : SystemConfig) (a : Actuator) (readback : Int)
    (memory : ℕ → UInt8) (time : ℕ) : SamplePath (powerOn cfg a readback memory time) [] where
  account := BoundedQueue.passed_empty
  settled := rfl
  ordered := List.Pairwise.nil
  past := by simp
  causal := by simp

section

variable {h : List SystemEvent}

/-- A reading is settled by being sent or by being lost. -/
theorem sent_sublist_settled (h : List SystemEvent) :
    (h.filterMap SystemEvent.sent?).Sublist (h.filterMap SystemEvent.settled?) := by
  induction h with
  | nil => exact List.Sublist.refl []
  | cons e earlier ih =>
    cases e with
    | sent sample => exact ih.cons_cons sample
    | lost sample => exact ih.cons sample
    | _ => exact ih

/-- Only readings are sent, in the order in which they were taken. -/
theorem SamplePath.sent_sublist (hp : SamplePath s h) :
    (h.filterMap SystemEvent.sent?).Sublist (h.filterMap SystemEvent.read?) := by
  rw [hp.settled]
  exact (sent_sublist_settled h).trans (List.sublist_append_right _ _)

/-- What waits in the queue was sent, hence read. -/
theorem SamplePath.waiting_le (hp : SamplePath s h) {sample : Sample}
    (hmem : sample ∈ s.measurementQueue.items) : sample.takenAt ≤ s.clock := by
  refine hp.past sample (hp.sent_sublist.subset ?_)
  rw [hp.account]
  exact List.mem_append_left _ (List.mem_reverse.mpr hmem)

/-- A step that has to do with no sample: it leaves the queue and SensorTask as
they are, and none of its events is about a sample. -/
theorem SamplePath.frame (hp : SamplePath s h) {s' : System cfg} {es : List SystemEvent}
    (hqueue : s'.measurementQueue = s.measurementQueue) (hsensor : s'.sensor = s.sensor)
    (hclock : s.clock ≤ s'.clock)
    (hes : ∀ e ∈ es, e.read? = none ∧ e.sent? = none ∧ e.settled? = none ∧ e.received? = none) :
    SamplePath s' (es ++ h) := by
  have hread : (es ++ h).filterMap SystemEvent.read? = h.filterMap SystemEvent.read? := by
    rw [List.filterMap_append, List.filterMap_eq_nil_iff.mpr fun e he => (hes e he).1]
    rfl
  have hsent : (es ++ h).filterMap SystemEvent.sent? = h.filterMap SystemEvent.sent? := by
    rw [List.filterMap_append, List.filterMap_eq_nil_iff.mpr fun e he => (hes e he).2.1]
    rfl
  have hsettled : (es ++ h).filterMap SystemEvent.settled?
      = h.filterMap SystemEvent.settled? := by
    rw [List.filterMap_append, List.filterMap_eq_nil_iff.mpr fun e he => (hes e he).2.2.1]
    rfl
  have hreceived : (es ++ h).filterMap SystemEvent.received?
      = h.filterMap SystemEvent.received? := by
    rw [List.filterMap_append, List.filterMap_eq_nil_iff.mpr fun e he => (hes e he).2.2.2]
    rfl
  refine ⟨?_, ?_, ?_, ?_, ?_⟩
  · rw [hqueue, hsent, hreceived]
    exact hp.account
  · rw [hsensor, hread, hsettled]
    exact hp.settled
  · rw [hread]
    exact hp.ordered
  · rw [hread]
    exact fun sample hs => (hp.past sample hs).trans hclock
  · intro sample t locked hmem
    rcases List.mem_append.mp hmem with hmem | hmem
    · exact absurd (hes _ hmem).2.2.2 (by simp [SystemEvent.received?])
    · exact hp.causal sample t locked hmem

/-- A step that polls no sample cannot poll one before its time. -/
theorem SamplePath.causal_append (hp : SamplePath s h) {es : List SystemEvent}
    (hes : ∀ e ∈ es, e.received? = none) (sample : Sample) (t : ℕ) (locked : Bool)
    (hmem : .polled (some sample) t locked ∈ es ++ h) : sample.takenAt ≤ t := by
  rcases List.mem_append.mp hmem with hmem | hmem
  · exact absurd (hes _ hmem) (by simp [SystemEvent.received?])
  · exact hp.causal sample t locked hmem

/-- **Every step keeps the account.** Three steps have to do with samples: a
reading is taken, sent or lost, and polled; the others are framed off. -/
theorem SamplePath.act (hp : SamplePath s h) (st : SystemStep) :
    SamplePath (s.act st).1 ((s.act st).2 ++ h) := by
  have hsettled := hp.settled
  apply act_cases (P := fun r => SamplePath r.1 (r.2 ++ h)) s st
  case stays => exact hp
  case sensorRead =>
    -- the new reading is the latest, as all others lie in the past
    intro raw hsensor
    rw [hsensor] at hsettled
    refine ⟨hp.account, congrArg (List.cons _) hsettled, ?_, ?_, hp.causal_append ?_⟩
    · exact List.pairwise_cons.mpr ⟨hp.past, hp.ordered⟩
    · intro sample hmem
      rcases List.mem_cons.mp hmem with rfl | hmem
      · exact Nat.le_refl _
      · exact hp.past sample hmem
    · simp [SystemEvent.received?]
  case sensorSend =>
    -- `xQueueSend` puts it at the end of the queue, or gives it up
    intro sample hsensor
    rw [hsensor] at hsettled
    cases hroom : s.measurementQueue.hasRoom with
    | true =>
      exact ⟨hp.account.send hroom sample, hsettled, hp.ordered, hp.past,
        hp.causal_append (by simp [SystemEvent.received?])⟩
    | false =>
      rw [BoundedQueue.send_of_full hroom]
      exact ⟨hp.account, hsettled, hp.ordered, hp.past,
        hp.causal_append (by simp [SystemEvent.received?])⟩
  case controlPoll =>
    -- the first that waits is received, if any; a poll without one times out
    intro locked hcontrol
    cases hq : s.measurementQueue.items with
    | nil =>
      have hreceive : s.measurementQueue.receive = s.measurementQueue := by
        cases hqueue : s.measurementQueue
        simp_all [BoundedQueue.receive]
      rw [hreceive]
      exact ⟨hp.account, hp.settled, hp.ordered, hp.past,
        hp.causal_append (by simp [SystemEvent.received?])⟩
    | cons sample waiting =>
      refine ⟨hp.account.receive hq, hp.settled, hp.ordered, hp.past, ?_⟩
      intro sample' t locked' hmem
      rcases List.mem_cons.mp hmem with heq | hmem
      · cases heq
        exact hp.waiting_le (hq ▸ List.mem_cons_self)
      · exact hp.causal sample' t locked' hmem
  case elapse => exact fun ms => hp.frame rfl rfl (MqttManager.clock_le_step _ _ _) (by simp)
  case firmware => exact fun st hst => hp.frame rfl rfl (Nat.le_refl _) (by simp)
  case controlLoop => exact fun hq => hp.frame rfl rfl (Nat.le_refl _) (by simp)
  case mqtt => exact fun st hst => hp.frame rfl rfl (MqttManager.clock_le_step _ _ _) (by simp)
  case mqttLoop => exact fun hnone => hp.frame rfl rfl (MqttManager.clock_le_step _ _ _) (by simp)
  case controlCommand =>
    intro locked type waiting hcontrol hq
    exact hp.frame rfl rfl (Nat.le_refl _)
      (by simp [SystemEvent.read?, SystemEvent.sent?, SystemEvent.settled?,
        SystemEvent.received?])
  case typed =>
    intro value hnone
    exact hp.frame rfl rfl (Nat.le_refl _)
      (by simp [SystemEvent.read?, SystemEvent.sent?, SystemEvent.settled?,
        SystemEvent.received?])
  case typedCommand =>
    intro value type hsome
    exact hp.frame rfl rfl (Nat.le_refl _)
      (by simp [SystemEvent.read?, SystemEvent.sent?, SystemEvent.settled?,
        SystemEvent.received?])
  case mqttCommand =>
    intro message type hsome
    exact hp.frame rfl rfl (MqttManager.clock_le_step _ _ _)
      (by simp [SystemEvent.read?, SystemEvent.sent?, SystemEvent.settled?,
        SystemEvent.received?])

end

/-- From power-on, where the queue is empty and nothing was read. -/
theorem samplePath_run (cfg : SystemConfig) (a : Actuator) (readback : Int) (memory : ℕ → UInt8)
    (time : ℕ) (steps : List SystemStep) :
    SamplePath ((powerOn cfg a readback memory time).run steps)
      ((powerOn cfg a readback memory time).history steps) :=
  run_history (samplePath_powerOn cfg a readback memory time) (fun _ _ st _ hp => hp.act st) steps

/-- A sample is given up only where the queue is filled: the step is the end of
`xQueueSend`, when its wait is over. -/
theorem lost_of_full (s : System cfg) (st : SystemStep) {sample : Sample}
    (hlost : .lost sample ∈ s.events st) :
    s.measurementQueue.items.length = cfg.measurementQueueLength := by
  unfold events at hlost
  split at hlost
  · cases hlost
  · revert hlost
    apply act_cases (P := fun r => .lost sample ∈ r.2 →
      s.measurementQueue.items.length = cfg.measurementQueueLength) s st
    case sensorSend =>
      intro sample' hsensor hlost
      cases hroom : s.measurementQueue.hasRoom with
      | true => simp [hroom] at hlost
      | false => exact BoundedQueue.length_of_full hroom
    all_goals simp

/-- **What reaches the protection.** In every run, with the histories newest
first: SensorTask is done with every reading before it takes the next; what it
sent is what ControlTask received and behind it what still waits, and a reading
was given up only while the queue was filled. So ControlTask gets readings, each
once at most, in the order in which they were taken, and none before its time. -/
theorem samples_in_order (cfg : SystemConfig) (a : Actuator) (readback : Int)
    (memory : ℕ → UInt8) (time : ℕ) (steps : List SystemStep) :
    let s := (powerOn cfg a readback memory time).run steps
    let h := (powerOn cfg a readback memory time).history steps
    h.filterMap SystemEvent.read? = SensorPc.held s.sensor ++ h.filterMap SystemEvent.settled? ∧
      h.filterMap SystemEvent.sent?
        = s.measurementQueue.items.reverse ++ h.filterMap SystemEvent.received? ∧
      (∀ later st earlier sample, steps = later ++ st :: earlier →
        .lost sample ∈ ((powerOn cfg a readback memory time).run earlier).events st →
        ((powerOn cfg a readback memory time).run earlier).measurementQueue.items.length
          = cfg.measurementQueueLength) ∧
      (h.filterMap SystemEvent.received?).Sublist (h.filterMap SystemEvent.read?) ∧
      (h.filterMap SystemEvent.read?).Pairwise (fun later earlier =>
        earlier.takenAt ≤ later.takenAt) ∧
      ∀ sample t locked, .polled (some sample) t locked ∈ h → sample.takenAt ≤ t := by
  intro s h
  have hp : SamplePath s h := samplePath_run cfg a readback memory time steps
  refine ⟨hp.settled, hp.account, fun _ st _ _ _ hlost => lost_of_full _ st hlost, ?_,
    hp.ordered, hp.causal⟩
  refine List.Sublist.trans ?_ hp.sent_sublist
  rw [hp.account]
  exact List.sublist_append_right _ _

end System

end EnergyController
