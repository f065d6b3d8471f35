/-
EnergyController.Firmware.SystemCommands — every command that ControlTask
executes, followed back to the line that was typed or the message that was
received.

`CommandPath` is the invariant: the account of `commandQueue`, CliTask against
the reader without a limit (`TypedLine`), and the queue's remote half against
the messages handed to the callback. `commands_traced` is the result.
-/
import EnergyController.Firmware.SystemTheorems

namespace EnergyController

/-! ## The callback -/

/-- The message is the command, to the byte. -/
def MqttMessage.Asks (cfg : MqttConfig) (m : MqttMessage) (type : CommandType) : Prop :=
  ∃ text : CString, ExactPayload m.payload m.length text ∧
    ((type = .remoteReset ∧ text.1 = ascii "reset" ∧
        IsTopic (some m.topic) cfg.mqttDeviceId "/cmd/reset") ∨
      (type = .remoteAck ∧ text.1 = ascii "ack" ∧
        IsTopic (some m.topic) cfg.mqttDeviceId "/cmd/ack"))

/-- What the callback enqueues. -/
theorem mqttCallback_enqueued {cfg : MqttConfig} {topic : Option CString} {payload : Payload}
    {length : ℕ} {nowMs subscribedAtMs : Millis} {sent : Bool} {type : CommandType}
    (h : mqttCallback cfg topic payload length nowMs subscribedAtMs sent = .enqueued type) :
    (parsedBy cfg.mqttDeviceId topic payload length).verdict = .accepted ∧ sent = true ∧
      type = if (parsedBy cfg.mqttDeviceId topic payload length).type = .reset then .remoteReset
        else .remoteAck := by
  unfold mqttCallback at h
  rw [← parsedBy] at h
  dsimp only at h
  split at h
  · cases h
  · next hv =>
    split at h
    · cases h
    · split at h
      · next hsent =>
        cases h
        exact ⟨not_not.mp hv, hsent, rfl⟩
      · cases h

/-- The callback enqueues a command only for a message that is the command to the
byte, on its topic, and past the hold-off. -/
theorem asks_of_enqueued {cfg : MqttConfig} {m : MqttMessage} {nowMs subscribedAtMs : Millis}
    {sent : Bool} {type : CommandType}
    (h : mqttCallback cfg (some m.topic) m.payload m.length nowMs subscribedAtMs sent
      = .enqueued type) : m.Asks cfg type := by
  obtain ⟨hv, -, htype⟩ := mqttCallback_enqueued h
  have heq : parsedBy cfg.mqttDeviceId (some m.topic) m.payload m.length
      = { verdict := .accepted
          type := (parsedBy cfg.mqttDeviceId (some m.topic) m.payload m.length).type } := by
    rw [← hv]
  rcases (parsedBy_accepted_iff _ _ _ _ _).mp heq with ⟨hreset, hm⟩ | ⟨hack, hm⟩
  · rw [if_pos hreset] at htype
    exact ⟨_, hm.2, .inl ⟨htype, rfl, hm.1⟩⟩
  · rw [if_neg (by rw [hack]; decide)] at htype
    exact ⟨_, hm.2, .inr ⟨htype, rfl, hm.1⟩⟩

def HandedMessage.enqueued? (d : HandedMessage) : Option (MqttMessage × CommandType) :=
  match d.outcome with
  | .enqueued type => some (d.message, type)
  | _ => none

namespace MqttManager

variable {cfg : MqttConfig} {s : MqttManager}

/-- Only the client's loop hands a message over. -/
theorem handed_step (cfg : MqttConfig) (s : MqttManager) {st : MqttStep}
    (hst : ∀ sent, st ≠ .loop sent) : (s.step cfg st).handed = s.handed := by
  cases st with
  | loop sent => exact absurd rfl (hst sent)
  | connect wifiUp accepted =>
    dsimp only [step]
    split <;> rfl
  | subscribe =>
    dsimp only [step]
    split <;> rfl
  | arrive topic payload length =>
    dsimp only [step]
    split <;> rfl
  | _ => rfl

/-- One `mqttManagerLoop` adds the command it enqueued, if any, to the account. -/
theorem handed_loop (cfg : MqttConfig) (s : MqttManager) (sent : Bool) :
    (s.step cfg (.loop sent)).handed.filterMap HandedMessage.enqueued?
      = (s.enqueues cfg sent).toList ++ s.handed.filterMap HandedMessage.enqueued? := by
  cases hphase : s.phase with
  | subscribed =>
    cases hwaiting : s.waiting with
    | nil => simp only [enqueues, step, hphase, hwaiting, Option.toList_none, List.nil_append]
    | cons m rest =>
      simp only [enqueues, step, hphase, hwaiting]
      cases houtcome : (s.handOver cfg m sent).outcome with
      | enqueued type =>
        rw [List.filterMap_cons_some (by rw [HandedMessage.enqueued?, houtcome])]
        rfl
      | _ =>
        rw [List.filterMap_cons_none (by rw [HandedMessage.enqueued?, houtcome])]
        rfl
  | _ => simp only [enqueues, step, hphase, Option.toList_none, List.nil_append]

/-- The loop enqueues a command only if the queue takes it. -/
theorem sent_of_enqueues {sent : Bool} {found : MqttMessage × CommandType}
    (h : s.enqueues cfg sent = some found) : sent = true := by
  unfold enqueues at h
  split at h
  · split at h
    · next houtcome =>
      exact (Bool.and_eq_true_iff.mp (mqttCallback_enqueued houtcome).2.1).2
    · cases h
  · cases h

end MqttManager

/-! ## CliTask -/

namespace CliTask

/-- A request says whether the queue took it. -/
theorem request_room {charSigned : Bool} {size : ℕ} {t : CliTask} {b : SerialByte}
    {type : CommandType} {sent : Bool}
    (h : .request type sent ∈ (t.readByte charSigned size b).2) : sent = b.room := by
  have hexecute : ∀ line, .request type sent ∈ execute line b.room → sent = b.room := by
    intro line h
    unfold execute requestCommand at h
    dsimp only at h
    split at h <;> cases hroom : b.room <;> simp_all [CliEvent.println]
  rw [readByte_eq] at h
  split at h
  · split at h
    · cases h
    · cases hoverflow : t.overflow with
      | true => simp [endLine_of_overflow hoverflow, CliEvent.println] at h
      | false =>
        rw [endLine_of_line hoverflow] at h
        simp only [List.cons_append, List.mem_cons, List.mem_append, CliEvent.println, reduceCtorEq,
          List.not_mem_nil, or_false, false_or] at h
        exact hexecute _ h
  · split at h
    · split at h <;> simp at h
    · split at h
      · cases h
      · split at h <;> simp at h

end CliTask

/-- What the reader without a limit has answered to what was typed, oldest first. -/
def typedRequests (size : ℕ) (h : List SystemEvent) : TypedLine × List CommandType :=
  Transducer.run (TypedLine.read (size - 1) requestOf) .blank
    (h.filterMap SystemEvent.typed?).reverse

/-- The requests of the typed bytes, by the pieces between the line ends: what
`dispatches_typed_lines` says of the task, here of the reader it is compared to. -/
theorem typedRequests_eq (size : ℕ) (h : List SystemEvent) :
    (typedRequests size h).2
      = ((Transducer.pieces isLineEnd (h.filterMap SystemEvent.typed?).reverse).filterMap
          (dispatchedLine (size - 1))).filterMap requestOf :=
  TypedLine.run_outputs (size - 1) requestOf _

namespace System

variable {cfg : SystemConfig} {s : System cfg} {h : List SystemEvent}

/-- One more byte. -/
theorem typedRequests_typed (size : ℕ) (value : UInt8) (h : List SystemEvent) :
    typedRequests size (.typed value :: h)
      = (((typedRequests size h).1.read (size - 1) requestOf value).1,
          (typedRequests size h).2
            ++ ((typedRequests size h).1.read (size - 1) requestOf value).2) := by
  have htyped : (SystemEvent.typed value :: h).filterMap SystemEvent.typed?
      = value :: h.filterMap SystemEvent.typed? := rfl
  rw [typedRequests, htyped, List.reverse_cons, Transducer.run_append]
  simp [typedRequests]

/-- The command that a byte enqueues is the one command it asks for. -/
theorem findSome?_enqueued {value : UInt8} {type : CommandType}
    (hsome : (s.readByte value).2.findSome? CliEvent.enqueued? = some type) :
    s.commandQueue.hasRoom = true ∧ type ∈ (s.readByte value).2.filterMap CliEvent.requested? := by
  obtain ⟨e, hmem, he⟩ := List.exists_of_findSome?_eq_some hsome
  cases e with
  | request type' sent =>
    cases sent with
    | false => cases he
    | true =>
      cases he
      exact ⟨(CliTask.request_room hmem).symm, List.mem_filterMap.mpr ⟨_, hmem, rfl⟩⟩
  | _ => cases he

/-- Where the commands are, and where they came from: what was enqueued is what was
executed and what waits (`account`), and each was asked for by a line that was
typed (`typed`) or by a message that was handed over (`received`). -/
structure CommandPath (memory : ℕ → UInt8) (s : System cfg) (h : List SystemEvent) : Prop where
  account : s.commandQueue.Passed (h.filterMap SystemEvent.enqueued?)
    (h.filterMap SystemEvent.executed?)
  line : CliTask.Holds cfg.cliBufferSize memory s.cli (typedRequests cfg.cliBufferSize h).1
  typed : (h.filterMap SystemEvent.enqueuedTyped?).reverse.Sublist
    (typedRequests cfg.cliBufferSize h).2
  received : h.filterMap SystemEvent.enqueuedReceived?
    = s.mqtt.handed.filterMap HandedMessage.enqueued?
  mqtt : s.mqtt.Inv cfg.mqtt

/-- Nothing was typed, nothing received, and the queue is empty. -/
theorem commandPath_powerOn (cfg : SystemConfig) (a : Actuator) (readback : Int)
    (memory : ℕ → UInt8) (time : ℕ) :
    CommandPath memory (powerOn cfg a readback memory time) [] where
  account := BoundedQueue.passed_empty
  line := CliTask.holds_start cfg.cliBufferSize memory
  typed := List.Sublist.refl []
  received := rfl
  mqtt := MqttManager.inv_begin time true

variable {memory : ℕ → UInt8}

/-- One byte: the line grows or is answered with one command at most. -/
theorem CommandPath.readByte (hp : CommandPath memory s h) (value : UInt8) :
    CliTask.Holds cfg.cliBufferSize memory (s.readByte value).1
        (typedRequests cfg.cliBufferSize (.typed value :: h)).1 ∧
      (typedRequests cfg.cliBufferSize (.typed value :: h)).2
        = (typedRequests cfg.cliBufferSize h).2
          ++ (s.readByte value).2.filterMap CliEvent.requested? := by
  obtain ⟨hline, hrequested⟩ := hp.line.readByte CliTask.shows_requested cfg.charSigned
    { value := value, room := s.commandQueue.hasRoom }
  rw [typedRequests_typed]
  exact ⟨hline, congrArg _ hrequested.symm⟩

/-- **Every step keeps the account.** A command enters the queue in two of them and
leaves it in one; the others are framed off. -/
theorem CommandPath.act (hp : CommandPath memory s h) (st : SystemStep) :
    CommandPath memory (s.act st).1 ((s.act st).2 ++ h) := by
  have hmqtt (st) : (s.mqtt.step cfg.mqtt st).Inv cfg.mqtt := hp.mqtt.step st
  have hhanded {st} (hst : ∀ sent, st ≠ .loop sent) :
      h.filterMap SystemEvent.enqueuedReceived?
        = (s.mqtt.step cfg.mqtt st).handed.filterMap HandedMessage.enqueued? := by
    rw [MqttManager.handed_step cfg.mqtt s.mqtt hst]
    exact hp.received
  apply act_cases (P := fun r => CommandPath memory r.1 (r.2 ++ h)) s st
  case stays => exact hp
  case firmware => exact fun st hst => ⟨hp.account, hp.line, hp.typed, hp.received, hp.mqtt⟩
  case controlLoop => exact fun hq => ⟨hp.account, hp.line, hp.typed, hp.received, hp.mqtt⟩
  case sensorRead => exact fun raw hs => ⟨hp.account, hp.line, hp.typed, hp.received, hp.mqtt⟩
  case controlPoll => exact fun locked hc => ⟨hp.account, hp.line, hp.typed, hp.received, hp.mqtt⟩
  case sensorSend =>
    intro sample hs
    cases s.measurementQueue.hasRoom <;>
      exact ⟨hp.account, hp.line, hp.typed, hp.received, hp.mqtt⟩
  case elapse =>
    intro ms
    exact ⟨hp.account, hp.line, hp.typed, hhanded (by simp), hmqtt (.elapse ms)⟩
  case mqtt =>
    intro st hst
    refine ⟨hp.account, hp.line, hp.typed, hhanded ?_, hmqtt st⟩
    rintro sent rfl
    cases hst
  case controlCommand =>
    intro locked type rest hc hq
    exact ⟨hp.account.receive hq, hp.line, hp.typed, hp.received, hp.mqtt⟩
  case typed =>
    intro value hnone
    obtain ⟨hline, hrequested⟩ := hp.readByte value
    refine ⟨hp.account, hline, ?_, hp.received, hp.mqtt⟩
    rw [List.singleton_append, hrequested]
    exact hp.typed.trans (List.sublist_append_left _ _)
  case typedCommand =>
    intro value type hsome
    obtain ⟨hroom, hmem⟩ := findSome?_enqueued hsome
    obtain ⟨hline, hrequested⟩ := hp.readByte value
    refine ⟨hp.account.send hroom type, hline, ?_, hp.received, hp.mqtt⟩
    show ((type :: h.filterMap SystemEvent.enqueuedTyped?).reverse).Sublist
      (typedRequests cfg.cliBufferSize (.typed value :: h)).2
    rw [hrequested, List.reverse_cons]
    exact hp.typed.append (List.singleton_sublist.mpr hmem)
  case mqttLoop =>
    intro hnone
    refine ⟨hp.account, hp.line, hp.typed, ?_, hmqtt (.loop s.commandQueue.hasRoom)⟩
    rw [MqttManager.handed_loop, hnone]
    exact hp.received
  case mqttCommand =>
    intro message type hsome
    refine ⟨hp.account.send (MqttManager.sent_of_enqueues hsome) type, hp.line, hp.typed, ?_,
      hmqtt (.loop s.commandQueue.hasRoom)⟩
    rw [MqttManager.handed_loop, hsome]
    exact congrArg (List.cons _) hp.received

/-- **Where a command comes from.** In every run, with the histories newest
first: what was enqueued is what ControlTask executed and behind it what still
waits. The commands enqueued by CliTask are, in order, among those that the typed
lines ask for; the ones enqueued by NetworkTask are exactly those that the
messages handed to the callback made it enqueue, each of which is the command to
the byte, reached the device after the subscription, and is past the hold-off as
the callback reckons it. -/
theorem commands_traced (cfg : SystemConfig) (a : Actuator) (readback : Int)
    (memory : ℕ → UInt8) (time : ℕ) (steps : List SystemStep) :
    let s := (powerOn cfg a readback memory time).run steps
    let h := (powerOn cfg a readback memory time).history steps
    let stream := (h.filterMap SystemEvent.typed?).reverse
    let lines := (Transducer.pieces isLineEnd stream).filterMap
      (dispatchedLine (cfg.cliBufferSize - 1))
    h.filterMap SystemEvent.enqueued?
        = s.commandQueue.items.reverse ++ h.filterMap SystemEvent.executed? ∧
      (h.filterMap SystemEvent.enqueuedTyped?).reverse.Sublist (lines.filterMap requestOf) ∧
      h.filterMap SystemEvent.enqueuedReceived?
        = s.mqtt.handed.filterMap HandedMessage.enqueued? ∧
      ∀ d ∈ s.mqtt.handed, ∀ type, d.outcome = .enqueued type →
        d.message.Asks cfg.mqtt type ∧ d.subscribedAt ≤ d.message.arrivedAt ∧
          d.message.arrivedAt ≤ d.handedAt ∧ ¬ d.Held cfg.mqtt := by
  intro s h stream lines
  have hp : CommandPath memory s h :=
    run_history (commandPath_powerOn cfg a readback memory time)
      (fun _ _ st _ hp => hp.act st) steps
  refine ⟨hp.account, ?_, hp.received, fun d hd type houtcome => ?_⟩
  · rw [← typedRequests_eq]
    exact hp.typed
  · have hok := hp.mqtt.handed d hd
    rw [hok.outcome] at houtcome
    have hw : d.WellFormed cfg.mqtt := (mqttCallback_enqueued houtcome).1
    refine ⟨asks_of_enqueued houtcome, hok.subscribed_le, hok.arrived_le, ?_⟩
    exact ((hok.enqueued_iff hw).mp ⟨type, hok.outcome.trans houtcome⟩).1

end System

end EnergyController
