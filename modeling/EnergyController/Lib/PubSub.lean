/-
EnergyController.Lib.PubSub — a broker that keeps a session for each client ID
and the last retained message of each topic, whatever broker it is.

The broker is a parameter: how it takes a connection, a publication and the loss
of a connection, and what can be seen of it, its open sessions (by their last
wills) and its retained messages. `Lawful` is what the protocol says of the two:

* a new session ends the one that is open under its ID, and a session that ends
  without a DISCONNECT publishes its will;
* a publication reaches the broker in an open session only, and is retained if
  it asks for it; with a payload that `removes`, what is retained on the topic is
  dropped instead.

`Agrees` compares two states in what they hold of one client and its topics.
What the client does keeps it (`Agrees.connect`, `Agrees.publish`,
`Agrees.lose`), and what another client does on other topics is not seen at all
(`agrees_connect`, `agrees_publish`, `agrees_lose`).
-/
import Mathlib.Logic.Function.Basic

/-- `β` are the states of the broker, `κ` the client IDs, `τ` the topics and `π`
the payloads. -/
structure PubSub (β κ τ π : Type*) where
  /-- a client connects under its ID, and leaves a last will, to be retained -/
  connect : β → κ → τ × π → β
  /-- a client publishes, to be retained or not -/
  publish : β → κ → τ × π → Bool → β
  /-- the connection of a client ends without a DISCONNECT -/
  lose : β → κ → β
  /-- the last will of the session that is open under an ID -/
  session : β → κ → Option (τ × π)
  retained : β → τ → Option π

namespace PubSub

variable {β κ τ π : Type*}

/-- Two states hold the same of the client `k` and of some topics. -/
structure Agrees (B : PubSub β κ τ π) (k : κ) (topics : List τ) (b b' : β) : Prop where
  session : B.session b k = B.session b' k
  retained : ∀ t ∈ topics, B.retained b t = B.retained b' t

variable {B : PubSub β κ τ π} {k k' : κ} {topics : List τ} {b b' b'' : β}

theorem Agrees.refl (B : PubSub β κ τ π) (k : κ) (topics : List τ) (b : β) :
    B.Agrees k topics b b := ⟨rfl, fun _ _ => rfl⟩

theorem Agrees.trans (h : B.Agrees k topics b b') (h' : B.Agrees k topics b' b'') :
    B.Agrees k topics b b'' :=
  ⟨h.session.trans h'.session, fun t ht => (h.retained t ht).trans (h'.retained t ht)⟩

/-! ## Messages and topics -/

variable [DecidableEq κ] [DecidableEq τ]

/-- A retained message takes the place of the last one on its topic, or only
removes it. -/
def retain (removes : π → Bool) (held : τ → Option π) (m : τ × π) : τ → Option π :=
  Function.update held m.1 (if removes m.2 then none else some m.2)

/-- The will of a session that ends. -/
def testament (removes : π → Bool) (held : τ → Option π) (session : Option (τ × π)) :
    τ → Option π :=
  session.elim held (retain removes held)

structure Lawful (B : PubSub β κ τ π) (removes : π → Bool) : Prop where
  session_connect : ∀ b k will,
    B.session (B.connect b k will) = Function.update (B.session b) k (some will)
  retained_connect : ∀ b k will,
    B.retained (B.connect b k will) = testament removes (B.retained b) (B.session b k)
  session_publish : ∀ b k m keep, B.session (B.publish b k m keep) = B.session b
  retained_publish : ∀ b k m keep, B.retained (B.publish b k m keep)
    = if (B.session b k).isSome ∧ keep then retain removes (B.retained b) m else B.retained b
  session_lose : ∀ b k, B.session (B.lose b k) = Function.update (B.session b) k none
  retained_lose : ∀ b k,
    B.retained (B.lose b k) = testament removes (B.retained b) (B.session b k)

variable {removes : π → Bool}

theorem retain_of_ne {held : τ → Option π} {m : τ × π} {t : τ} (h : m.1 ≠ t) :
    retain removes held m t = held t := Function.update_of_ne h.symm _ _

theorem retain_congr {held held' : τ → Option π} {t : τ} (h : held t = held' t) (m : τ × π) :
    retain removes held m t = retain removes held' m t := by
  by_cases ht : t = m.1
  · rw [retain, retain, ht, Function.update_self, Function.update_self]
  · rw [retain_of_ne (Ne.symm ht), retain_of_ne (Ne.symm ht), h]

theorem testament_of_ne {held : τ → Option π} {session : Option (τ × π)} {t : τ}
    (h : ∀ will ∈ session, will.1 ≠ t) : testament removes held session t = held t := by
  cases session with
  | none => rfl
  | some will => exact retain_of_ne (h will rfl)

theorem testament_congr {held held' : τ → Option π} {t : τ} (h : held t = held' t)
    (session : Option (τ × π)) :
    testament removes held session t = testament removes held' session t := by
  cases session with
  | none => exact h
  | some will => exact retain_congr h will

/-! ## What the client itself does -/

theorem Agrees.connect (h : B.Agrees k topics b b') (hB : B.Lawful removes) (will : τ × π) :
    B.Agrees k topics (B.connect b k will) (B.connect b' k will) where
  session := by
    rw [hB.session_connect, hB.session_connect, Function.update_self, Function.update_self]
  retained t ht := by
    rw [hB.retained_connect, hB.retained_connect, h.session]
    exact testament_congr (h.retained t ht) _

theorem Agrees.publish (h : B.Agrees k topics b b') (hB : B.Lawful removes) (m : τ × π)
    (keep : Bool) :
    B.Agrees k topics (B.publish b k m keep) (B.publish b' k m keep) where
  session := by
    rw [hB.session_publish, hB.session_publish]
    exact h.session
  retained t ht := by
    rw [hB.retained_publish, hB.retained_publish, h.session]
    split
    · exact retain_congr (h.retained t ht) m
    · exact h.retained t ht

theorem Agrees.lose (h : B.Agrees k topics b b') (hB : B.Lawful removes) :
    B.Agrees k topics (B.lose b k) (B.lose b' k) where
  session := by
    rw [hB.session_lose, hB.session_lose, Function.update_self, Function.update_self]
  retained t ht := by
    rw [hB.retained_lose, hB.retained_lose, h.session]
    exact testament_congr (h.retained t ht) _

/-! ## What another client does on other topics -/

theorem agrees_connect (hB : B.Lawful removes) (hk : k' ≠ k)
    (hwill : ∀ will ∈ B.session b k', will.1 ∉ topics) (will : τ × π) :
    B.Agrees k topics (B.connect b k' will) b where
  session := by rw [hB.session_connect, Function.update_of_ne hk.symm]
  retained t ht := by
    rw [hB.retained_connect]
    exact testament_of_ne fun will h heq => hwill will h (heq ▸ ht)

theorem agrees_publish (hB : B.Lawful removes) (k' : κ) {m : τ × π} (hm : m.1 ∉ topics)
    (keep : Bool) :
    B.Agrees k topics (B.publish b k' m keep) b where
  session := by rw [hB.session_publish]
  retained t ht := by
    rw [hB.retained_publish]
    split
    · exact retain_of_ne fun heq => hm (heq ▸ ht)
    · rfl

theorem agrees_lose (hB : B.Lawful removes) (hk : k' ≠ k)
    (hwill : ∀ will ∈ B.session b k', will.1 ∉ topics) : B.Agrees k topics (B.lose b k') b where
  session := by rw [hB.session_lose, Function.update_of_ne hk.symm]
  retained t ht := by
    rw [hB.retained_lose]
    exact testament_of_ne fun will h heq => hwill will h (heq ▸ ht)

end PubSub
