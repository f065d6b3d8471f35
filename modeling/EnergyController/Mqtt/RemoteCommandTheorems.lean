/-
EnergyController.Mqtt.RemoteCommandTheorems — what the parser accepts, and
whose commands.

* `topicSegmentValid_eq`: the scan accepts exactly the segments (`IsSegment`)
  and stays inside its string.
* `parseRemoteCommand_accepted_iff`: a command is accepted exactly for its own
  topic and its own payload, byte for byte.
* `topic_cases`: a topic that starts like one device's and ends in one of the
  six suffixes belongs to that device, because a device ID contains no `/`.
  `remote_commands` puts the three together.
-/
import EnergyController.Mqtt.RemoteCommand

namespace EnergyController

/-! ## Device IDs -/

/-- The characters a device ID may consist of. -/
def segmentAlphabet : List UInt8 :=
  ascii "ABCDEFGHIJKLMNOPQRSTUVWXYZabcdefghijklmnopqrstuvwxyz0123456789_-"

/-- Exactly one topic level: 1 to 32 characters of the alphabet. -/
structure IsSegment (s : List UInt8) : Prop where
  nonempty : 0 < s.length
  short : s.length ≤ 32
  chars : ∀ c ∈ s, c ∈ segmentAlphabet

theorem isSegment_iff (s : List UInt8) :
    IsSegment s ↔ 0 < s.length ∧ s.length ≤ 32 ∧ ∀ c ∈ s, c ∈ segmentAlphabet :=
  ⟨fun h => ⟨h.nonempty, h.short, h.chars⟩, fun ⟨nonempty, short, chars⟩ =>
    { nonempty, short, chars }⟩

instance (s : List UInt8) : Decidable (IsSegment s) :=
  haveI := List.decidableBAll (· ∈ segmentAlphabet) s
  decidable_of_iff _ (isSegment_iff s).symm

theorem topicSegmentCharOk_iff (c : UInt8) :
    topicSegmentCharOk c = true ↔ c ∈ segmentAlphabet := by
  revert c
  apply forall_byte
  decide +kernel

/-! ### The scan -/

/-- At the terminator only the length counts. -/
theorem topicSegmentValidFrom_length (s : CString) :
    topicSegmentValidFrom s s.1.length
      = some (decide (0 < s.1.length) && decide (s.1.length ≤ 32)) := by
  rw [topicSegmentValidFrom, CString.charAt_length]
  rfl

/-- Before the terminator it takes an accepted character at an index below 32. -/
theorem topicSegmentValidFrom_of_lt {s : CString} {i : ℕ} (h : i < s.1.length) :
    topicSegmentValidFrom s i
      = if i < 32 then
          if topicSegmentCharOk s.1[i] then topicSegmentValidFrom s (i + 1) else some false
        else some false := by
  rw [topicSegmentValidFrom, CString.charAt_of_lt h]
  simp [CString.getElem_ne_zero h]

/-- The scan from `i` on, once every character before `i` was accepted. The
induction is on the characters that are left. -/
theorem topicSegmentValidFrom_eq (s : CString) (n i : ℕ) (hn : i + n = s.1.length)
    (hbefore : ∀ c ∈ s.1.take i, c ∈ segmentAlphabet) :
    topicSegmentValidFrom s i = some (decide (IsSegment s.1)) := by
  induction n generalizing i with
  | zero =>
    obtain rfl : i = s.1.length := by omega
    rw [topicSegmentValidFrom_length, ← Bool.decide_and]
    congr 1
    apply decide_eq_decide.mpr
    rw [List.take_length] at hbefore
    exact ⟨fun h => ⟨h.1, h.2, hbefore⟩, fun h => ⟨h.nonempty, h.short⟩⟩
  | succ n ih =>
    have hlt : i < s.1.length := by omega
    rw [topicSegmentValidFrom_of_lt hlt]
    by_cases h32 : i < 32
    case neg =>
      have hlong : ¬ IsSegment s.1 := by
        intro h
        have := h.short
        omega
      rw [if_neg h32, decide_eq_false hlong]
    rw [if_pos h32]
    by_cases hok : topicSegmentCharOk s.1[i] = true
    · rw [if_pos hok]
      apply ih (i + 1) (by omega)
      intro c hc
      rw [List.take_add_one, List.getElem?_eq_getElem hlt, List.mem_append] at hc
      rcases hc with hc | hc
      · exact hbefore c hc
      · obtain rfl : c = s.1[i] := by simpa using hc
        exact (topicSegmentCharOk_iff _).mp hok
    · have hbad : ¬ IsSegment s.1 := by
        intro h
        exact hok ((topicSegmentCharOk_iff _).mpr (h.chars _ (List.getElem_mem hlt)))
      rw [if_neg hok, decide_eq_false hbad]

/-- The scan accepts exactly the segments, and never reads past the
terminator. -/
theorem topicSegmentValid_eq (s : CString) :
    topicSegmentValid s = some (decide (IsSegment s.1)) :=
  topicSegmentValidFrom_eq s s.1.length 0 (by omega) (by simp)

theorem isSegment_of_valid {s : CString} (h : topicSegmentValid s = some true) : IsSegment s.1 := by
  rw [topicSegmentValid_eq] at h
  exact of_decide_eq_true (Option.some.inj h)

/-- No device ID contains the separator of topic levels. -/
theorem IsSegment.no_separator {s : List UInt8} (h : IsSegment s) : '/'.toUInt8 ∉ s := by
  intro hmem
  exact absurd (h.chars _ hmem) (by decide)

/-! ## Topics -/

/-- Two topics below device roots agree only if the devices do. -/
theorem root_unique {a b : CString} (ha : IsSegment a.1) (hb : IsSegment b.1)
    {rest rest' : List UInt8}
    (h : (mqttTopicRoot a).1 ++ '/'.toUInt8 :: rest = (mqttTopicRoot b).1 ++ '/'.toUInt8 :: rest') :
    a = b ∧ rest = rest' := by
  unfold mqttTopicRoot at h
  rw [CString.append_val, CString.append_val, List.append_assoc, List.append_assoc] at h
  obtain ⟨hab, hrest⟩ :=
    split_unique ha.no_separator hb.no_separator (List.append_cancel_left h)
  exact ⟨Subtype.ext hab, hrest⟩

/-! ## The parser -/

/-- The payload is non-null and exactly the bytes of `text`. -/
def ExactPayload (payload : Payload) (length : ℕ) (text : CString) : Prop :=
  ∃ p, payload = some p ∧ length = text.1.length ∧ readBytes p length = text.1

theorem payloadEquals_iff (payload : Payload) (length : ℕ) (expected : CString) :
    payloadEquals payload length expected = true ↔ ExactPayload payload length expected := by
  unfold ExactPayload
  cases payload with
  | none => simp [payloadEquals]
  | some p =>
    simp only [payloadEquals, Bool.and_eq_true, beq_iff_eq, Option.some.injEq, exists_eq_left']
    constructor
    · rintro ⟨rfl, h⟩
      exact ⟨rfl, h⟩
    · rintro ⟨rfl, h⟩
      exact ⟨rfl, h⟩

/-- A message on neither command topic. -/
theorem parseRemoteCommand_of_ne {t resetTopic ackTopic : CString} (hr : t ≠ resetTopic)
    (hk : t ≠ ackTopic) (payload : Payload) (length : ℕ) :
    parseRemoteCommand (some t) payload length resetTopic ackTopic
      = { verdict := .rejectedTopic, type := .none } := by
  simp only [parseRemoteCommand, if_neg hr, if_neg hk]

/-- A message on the topic of one command: `verdictOn` its payload. -/
def verdictOn (type : RemoteCommandType) (expected : CString) (payload : Payload) (length : ℕ) :
    RemoteCommandResult :=
  if length > 16 then { verdict := .rejectedLength, type := .none }
  else if payloadEquals payload length expected then { verdict := .accepted, type := type }
  else { verdict := .rejectedPayload, type := .none }

theorem parseRemoteCommand_reset (resetTopic ackTopic : CString) (payload : Payload)
    (length : ℕ) :
    parseRemoteCommand (some resetTopic) payload length resetTopic ackTopic
      = verdictOn .reset (.lit "reset") payload length := by
  simp only [parseRemoteCommand, verdictOn, if_true]
  split
  · rfl
  · cases payloadEquals payload length (.lit "reset") <;> rfl

theorem parseRemoteCommand_ack {resetTopic ackTopic : CString} (hne : ackTopic ≠ resetTopic)
    (payload : Payload) (length : ℕ) :
    parseRemoteCommand (some ackTopic) payload length resetTopic ackTopic
      = verdictOn .ack (.lit "ack") payload length := by
  simp only [parseRemoteCommand, verdictOn, if_neg hne, if_true]
  split
  · rfl
  · cases payloadEquals payload length (.lit "ack") <;> rfl

/-- On its own topic a command is accepted for exactly its payload. -/
theorem verdictOn_accepted_iff (type : RemoteCommandType) {expected : CString}
    (hshort : expected.1.length ≤ 16) (payload : Payload) (length : ℕ)
    (type' : RemoteCommandType) :
    verdictOn type expected payload length = { verdict := .accepted, type := type' } ↔
      type' = type ∧ ExactPayload payload length expected := by
  unfold verdictOn
  rw [← payloadEquals_iff]
  split
  · rename_i hlong
    have hno : payloadEquals payload length expected ≠ true := by
      rw [Ne, payloadEquals_iff]
      rintro ⟨p, -, hlen, -⟩
      omega
    simp [hno]
  · cases payloadEquals payload length expected with
    | true => simp [eq_comm]
    | false => simp

theorem verdictOn_type {type : RemoteCommandType} {expected : CString} {payload : Payload}
    {length : ℕ} (h : (verdictOn type expected payload length).verdict ≠ .accepted) :
    (verdictOn type expected payload length).type = .none := by
  unfold verdictOn at h ⊢
  split at h
  · rename_i hlong
    rw [if_pos hlong]
  · rename_i hlong
    rw [if_neg hlong]
    split at h
    · exact absurd rfl h
    · rename_i hp
      rw [if_neg hp]

/-! ## One device among others -/

/-- What the device with ID `a` makes of a message. -/
def parsedBy (a : CString) (topic : Option CString) (payload : Payload) (length : ℕ) :
    RemoteCommandResult :=
  parseRemoteCommand topic payload length (mqttTopicCmdReset a) (mqttTopicCmdAck a)

/-- The topic is `energy/`, the ID, and `rest`. -/
def IsTopic (topic : Option CString) (a : CString) (rest : String) : Prop :=
  ∃ t, topic = some t ∧ t.1 = ascii "energy/" ++ a.1 ++ ascii rest

theorem isTopic_reset_iff (topic : Option CString) (a : CString) :
    IsTopic topic a "/cmd/reset" ↔ topic = some (mqttTopicCmdReset a) := by
  constructor
  · rintro ⟨t, rfl, ht⟩
    exact congrArg some (Subtype.ext ht)
  · rintro rfl
    exact ⟨_, rfl, rfl⟩

theorem isTopic_ack_iff (topic : Option CString) (a : CString) :
    IsTopic topic a "/cmd/ack" ↔ topic = some (mqttTopicCmdAck a) := by
  constructor
  · rintro ⟨t, rfl, ht⟩
    exact congrArg some (Subtype.ext ht)
  · rintro rfl
    exact ⟨_, rfl, rfl⟩

theorem cmdAck_ne_cmdReset (a : CString) : mqttTopicCmdAck a ≠ mqttTopicCmdReset a := by
  intro h
  exact absurd (CString.append_left_injective h) (by decide)

/-- The answer to every message, by its topic. -/
theorem parsedBy_cases (a : CString) (topic : Option CString) (payload : Payload) (length : ℕ) :
    (topic = some (mqttTopicCmdReset a) ∧
        parsedBy a topic payload length = verdictOn .reset (.lit "reset") payload length) ∨
      (topic = some (mqttTopicCmdAck a) ∧
        parsedBy a topic payload length = verdictOn .ack (.lit "ack") payload length) ∨
      (topic ≠ some (mqttTopicCmdReset a) ∧ topic ≠ some (mqttTopicCmdAck a) ∧
        parsedBy a topic payload length = { verdict := .rejectedTopic, type := .none }) := by
  cases topic with
  | none => exact .inr (.inr ⟨nofun, nofun, rfl⟩)
  | some t =>
    by_cases hr : t = mqttTopicCmdReset a
    · subst hr
      exact .inl ⟨rfl, parseRemoteCommand_reset _ _ _ _⟩
    by_cases hk : t = mqttTopicCmdAck a
    · subst hk
      exact .inr (.inl ⟨rfl, parseRemoteCommand_ack (cmdAck_ne_cmdReset a) _ _⟩)
    · right
      right
      exact ⟨fun h => hr (Option.some.inj h), fun h => hk (Option.some.inj h),
        parseRemoteCommand_of_ne hr hk _ _⟩

/-- Exactly when a device accepts a message, and as what. -/
theorem parsedBy_accepted_iff (a : CString) (topic : Option CString) (payload : Payload)
    (length : ℕ) (type : RemoteCommandType) :
    parsedBy a topic payload length = { verdict := .accepted, type := type } ↔
      (type = .reset ∧ IsTopic topic a "/cmd/reset" ∧ ExactPayload payload length (.lit "reset")) ∨
      (type = .ack ∧ IsTopic topic a "/cmd/ack" ∧ ExactPayload payload length (.lit "ack")) := by
  rw [isTopic_reset_iff, isTopic_ack_iff]
  have hne := cmdAck_ne_cmdReset a
  rcases parsedBy_cases a topic payload length with ⟨rfl, h⟩ | ⟨rfl, h⟩ | ⟨hr, hk, h⟩
  · rw [h, verdictOn_accepted_iff .reset (by decide)]
    simp [hne.symm]
  · rw [h, verdictOn_accepted_iff .ack (by decide)]
    simp [hne]
  · simp [h, hr, hk]

/-- A message that is not accepted passes on no command. -/
theorem parsedBy_type (a : CString) (topic : Option CString) (payload : Payload) (length : ℕ)
    (h : (parsedBy a topic payload length).verdict ≠ .accepted) :
    (parsedBy a topic payload length).type = .none := by
  rcases parsedBy_cases a topic payload length with ⟨-, heq⟩ | ⟨-, heq⟩ | ⟨-, -, heq⟩
  · rw [heq] at h ⊢
    exact verdictOn_type h
  · rw [heq] at h ⊢
    exact verdictOn_type h
  · rw [heq]

/-- A topic below another device's root is neither command topic of `a`. -/
theorem parsedBy_foreign {a b : CString} (ha : IsSegment a.1) (hb : IsSegment b.1) (hne : a ≠ b)
    {t : CString} (ht : ascii "energy/" ++ b.1 ++ ascii "/" <+: t.1) (payload : Payload)
    (length : ℕ) :
    parsedBy a (some t) payload length = { verdict := .rejectedTopic, type := .none } := by
  obtain ⟨rest, hrest⟩ := ht
  rw [List.append_assoc _ (ascii "/")] at hrest
  apply parseRemoteCommand_of_ne
  · rintro rfl
    exact hne (root_unique hb ha hrest).1.symm
  · rintro rfl
    exact hne (root_unique hb ha hrest).1.symm

/-- The topics a device publishes on. -/
def publishedTopics (a : CString) : List CString :=
  [mqttTopicTelemetry a, mqttTopicState a, mqttTopicFault a, mqttTopicAvailability a]

/-- A topic of the device itself with another suffix is no command topic. -/
theorem parsedBy_published {a t : CString} (ht : t ∈ publishedTopics a) (payload : Payload)
    (length : ℕ) :
    parsedBy a (some t) payload length = { verdict := .rejectedTopic, type := .none } := by
  simp only [publishedTopics, List.mem_cons, List.not_mem_nil, or_false] at ht
  apply parseRemoteCommand_of_ne
  · intro h
    rcases ht with rfl | rfl | rfl | rfl
    all_goals exact absurd (CString.append_left_injective h) (by decide)
  · intro h
    rcases ht with rfl | rfl | rfl | rfl
    all_goals exact absurd (CString.append_left_injective h) (by decide)

/-- **Command acceptance and device isolation.** For device IDs `a` and `b`:
`a` accepts exactly its own two messages, byte for byte, and passes on no
command otherwise; every message below another device's root, and every
message on a topic of its own that it publishes on, is refused for its topic.
The ID check accepts exactly the segments and stays inside its string. -/
theorem remote_commands (a b : CString) (ha : topicSegmentValid a = some true)
    (hb : topicSegmentValid b = some true) :
    (∀ topic payload length,
      (parsedBy a topic payload length = { verdict := .accepted, type := .reset } ↔
        IsTopic topic a "/cmd/reset" ∧ ExactPayload payload length (.lit "reset")) ∧
      (parsedBy a topic payload length = { verdict := .accepted, type := .ack } ↔
        IsTopic topic a "/cmd/ack" ∧ ExactPayload payload length (.lit "ack")) ∧
      (¬ (IsTopic topic a "/cmd/reset" ∧ ExactPayload payload length (.lit "reset")) →
        ¬ (IsTopic topic a "/cmd/ack" ∧ ExactPayload payload length (.lit "ack")) →
        (parsedBy a topic payload length).verdict ≠ .accepted ∧
          (parsedBy a topic payload length).type = .none)) ∧
    (a ≠ b → ∀ t payload length, ascii "energy/" ++ b.1 ++ ascii "/" <+: t.1 →
      parsedBy a (some t) payload length = { verdict := .rejectedTopic, type := .none }) ∧
    (∀ t ∈ publishedTopics a, ∀ payload length,
      parsedBy a (some t) payload length = { verdict := .rejectedTopic, type := .none }) ∧
    ∀ s : CString, topicSegmentValid s = some (decide (IsSegment s.1)) := by
  refine ⟨?_, ?_, ?_, topicSegmentValid_eq⟩
  · intro topic payload length
    refine ⟨by rw [parsedBy_accepted_iff]; simp, by rw [parsedBy_accepted_iff]; simp, ?_⟩
    intro hreset hack
    have hrefused : (parsedBy a topic payload length).verdict ≠ .accepted := by
      intro hv
      have heq : parsedBy a topic payload length
          = { verdict := .accepted, type := (parsedBy a topic payload length).type } := by
        rw [← hv]
      rcases (parsedBy_accepted_iff a topic payload length _).mp heq with ⟨-, h⟩ | ⟨-, h⟩
      · exact hreset h
      · exact hack h
    exact ⟨hrefused, parsedBy_type a topic payload length hrefused⟩
  · intro hne t payload length ht
    exact parsedBy_foreign (isSegment_of_valid ha) (isSegment_of_valid hb) hne ht payload length
  · intro t ht payload length
    exact parsedBy_published ht payload length

/-- An ID that is a prefix of another: `device1` refuses what is meant for
`device10`. -/
theorem remote_commands_prefix :
    parsedBy (.lit "device1") (some (mqttTopicCmdReset (.lit "device10"))) none 5
      = { verdict := .rejectedTopic, type := .none } := by
  obtain ⟨-, hforeign, -⟩ := remote_commands (.lit "device1") (.lit "device10")
    (by rw [topicSegmentValid_eq]; decide +kernel) (by rw [topicSegmentValid_eq]; decide +kernel)
  exact hforeign (by decide) _ _ _ (by decide)

end EnergyController
