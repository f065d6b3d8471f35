/-
EnergyController.Lib.GuardedTheorems — what holds of guarded data for every
cutting of the operations and every interleaving of the threads.

* `exclusive_after` — one thread at most is between taking and giving the mutex;
* `sound_after` — the history is linearizable: the calls take effect one after
  another as if each were done at once (`Object.perform`), every answer is the
  one the call gets there, and the data is what they leave whenever nobody is
  at work;
* `agrees_since` — the same between any two moments of a run, so a call that
  returned takes effect before any call made later;
* `timed_after` — the calls take effect in the order of the times at which they
  were inside.
-/
import EnergyController.Lib.Guarded

namespace Guarded

variable {T γ φ ω ρ ℓ : Type*}

/-! ## Mutual exclusion -/

/-- The holder of the mutex is the one thread that is between taking and
giving it. -/
def Exclusive (s : State T γ φ ω ρ ℓ) : Prop :=
  ∀ t, (s.phase t).Owns ↔ s.holder = some t

/-- Two that own the data are the same. -/
theorem Exclusive.eq {s : State T γ φ ω ρ ℓ} (h : Exclusive s) {t u : T}
    (ht : (s.phase t).Owns) (hu : (s.phase u).Owns) : t = u := by
  have hholder := (h t).mp ht
  rw [(h u).mp hu] at hholder
  exact (Option.some.inj hholder).symm

theorem exclusive_initial (data : γ) (register : φ) (clock : Nat) :
    Exclusive (initial data register clock : State T γ φ ω ρ ℓ) := by
  intro t
  simp [initial, Phase.Owns]

variable [DecidableEq T] {O : Object γ φ ω ρ} {C : Cutting O ℓ}

namespace State

/-- One case for each move, and one for a move that leaves all as it is. -/
theorem move_cases {C : Cutting O ℓ} {s : State T γ φ ω ρ ℓ} {t : T} (m : Move ω)
    {P : State T γ φ ω ρ ℓ × List (Event T ω ρ) → Prop}
    (stays : P (s, []))
    (invoke : ∀ o, s.phase t = .idle → P (s.goto t (.waiting o), [.invoked t o]))
    (take : ∀ o, s.phase t = .waiting o → s.holder = none →
      P ({ s.goto t (.holding o) with holder := some t }, []))
    (giveUp : ∀ o, s.phase t = .waiting o → P (s.goto t (.refused o), []))
    (refuse : ∀ o, s.phase t = .refused o →
      P ({ s.goto t (.answered (O.refuse o s.register).1) with
            register := (O.refuse o s.register).2 }, [.effect t (o, none)]))
    (enter : ∀ o, s.phase t = .holding o → P (s.goto t (.entered o s.clock), []))
    (exchange : ∀ o now, s.phase t = .entered o now →
      P ({ s.goto t (.working o C.start (C.pieces o now s.register)) with
            register := O.exchange o s.register }, [.effect t (o, some now)]))
    (piece : ∀ o memory piece rest, s.phase t = .working o memory (piece :: rest) →
      P ({ s.goto t (.working o (piece (s.data, memory)).2 rest) with
            data := (piece (s.data, memory)).1 }, []))
    (give : ∀ o memory, s.phase t = .working o memory [] →
      P ({ s.goto t (.answered (C.answer o memory)) with holder := none }, []))
    (leave : ∀ r, s.phase t = .answered r → P (s.goto t .idle, [.returned t r])) :
    P (s.move C t m) := by
  unfold move
  split
  · exact invoke _ ‹_›
  · split
    · exact take _ ‹_› (Option.isNone_iff_eq_none.mp ‹_›)
    · exact stays
  · exact giveUp _ ‹_›
  · exact refuse _ ‹_›
  · exact enter _ ‹_›
  · exact exchange _ _ ‹_›
  · exact piece _ _ _ _ ‹_›
  · exact give _ _ ‹_›
  · exact leave _ ‹_›
  · exact stays

@[simp] theorem goto_clock (s : State T γ φ ω ρ ℓ) (t : T) (p : Phase γ ω ρ ℓ) :
    (s.goto t p).clock = s.clock := rfl

@[simp] theorem goto_data (s : State T γ φ ω ρ ℓ) (t : T) (p : Phase γ ω ρ ℓ) :
    (s.goto t p).data = s.data := rfl

@[simp] theorem goto_register (s : State T γ φ ω ρ ℓ) (t : T) (p : Phase γ ω ρ ℓ) :
    (s.goto t p).register = s.register := rfl

@[simp] theorem goto_holder (s : State T γ φ ω ρ ℓ) (t : T) (p : Phase γ ω ρ ℓ) :
    (s.goto t p).holder = s.holder := rfl

@[simp] theorem goto_phase (s : State T γ φ ω ρ ℓ) (t u : T) (p : Phase γ ω ρ ℓ) :
    (s.goto t p).phase u = if u = t then p else s.phase u := by
  simp [goto, Function.update_apply]

end State

/-- A move between two places where the thread is not the holder. -/
theorem Exclusive.goto {s : State T γ φ ω ρ ℓ} (h : Exclusive s) {t : T} {p : Phase γ ω ρ ℓ}
    (hp : p.Owns ↔ (s.phase t).Owns) : Exclusive (s.goto t p) := by
  intro u
  rw [State.goto_phase, State.goto_holder, ← h u]
  split
  · next hut => rw [hut, hp]
  · rfl

/-- **At most one thread is inside**, as the mutex is taken only when it is free. -/
theorem exclusive_step (s : State T γ φ ω ρ ℓ) (i : Step T ω) (h : Exclusive s) :
    Exclusive (s.step C i) := by
  cases i with
  | elapse d => exact h
  | move t m =>
    apply State.move_cases (P := fun r => Exclusive r.1) m
    case stays => exact h
    case invoke => exact fun o hp => h.goto (by simp [hp, Phase.Owns])
    case giveUp => exact fun o hp => h.goto (by simp [hp, Phase.Owns])
    case refuse => exact fun o hp => h.goto (by simp [hp, Phase.Owns])
    case enter => exact fun o hp => h.goto (by simp [hp, Phase.Owns])
    case exchange => exact fun o now hp => h.goto (by simp [hp, Phase.Owns])
    case piece => exact fun o l piece rest hp => h.goto (by simp [hp, Phase.Owns])
    case leave => exact fun r hp => h.goto (by simp [hp, Phase.Owns])
    case take =>
      intro o hp hfree u
      have hu := h u
      simp only [hfree, reduceCtorEq, iff_false] at hu
      by_cases hut : u = t
      · simp [hut, Phase.Owns]
      · simp [hut, hu, Ne.symm hut]
    case give =>
      intro o l hp u
      have ht := (h t).mp (by simp [hp, Phase.Owns])
      have hu := h u
      rw [ht] at hu
      by_cases hut : u = t
      · simp [hut, Phase.Owns]
      · simp [hut, hu, Ne.symm hut]

theorem exclusive_after {s : State T γ φ ω ρ ℓ} (h : Exclusive s) (steps : List (Step T ω)) :
    Exclusive (Run.after (State.step C) s steps) :=
  Run.invariant h exclusive_step steps

/-! ## Linearizability -/

namespace Phase

/-- The operation that the thread asked for and that took no effect yet. -/
def requested : Phase γ ω ρ ℓ → List ω
  | .waiting o => [o]
  | .refused o => [o]
  | .holding o => [o]
  | .entered o _ => [o]
  | _ => []

variable (C) in
/-- The answer that the thread is going to return. -/
def owed : Phase γ ω ρ ℓ → γ → List ρ
  | .working o memory rest, g => [C.answer o (work rest (g, memory)).2]
  | .answered r, _ => [r]
  | _, _ => []

/-- The data once the thread's pieces are done. -/
def finish : Phase γ ω ρ ℓ → γ → γ
  | .working _ memory rest, g => (work rest (g, memory)).1
  | _, g => g

/-- Only a thread at work owes an answer that depends on the data. -/
theorem owed_of_not_owns {p : Phase γ ω ρ ℓ} (hp : ¬ p.Owns) (g g' : γ) :
    p.owed C g = p.owed C g' := by
  cases p with
  | working o memory rest => exact absurd trivial hp
  | _ => rfl

end Phase

/-- The data once the operation that is at work on it is done. -/
def State.settled (s : State T γ φ ω ρ ℓ) : γ :=
  match s.holder with
  | none => s.data
  | some t => (s.phase t).finish s.data

omit [DecidableEq T] in
theorem State.settled_of_free {s : State T γ φ ω ρ ℓ} (h : s.holder = none) :
    s.settled = s.data := by
  simp [State.settled, h]

omit [DecidableEq T] in
theorem State.settled_of_holder {s : State T γ φ ω ρ ℓ} {t : T} (h : s.holder = some t) :
    s.settled = (s.phase t).finish s.data := by
  simp [State.settled, h]

variable (C) in
/-- What a thread asked and was told, against the calls done one after another. -/
structure Agrees (s₀ : γ × φ) (h : List (Event T ω ρ)) (g : γ) (t : T)
    (p : Phase γ ω ρ ℓ) : Prop where
  asked : ofThread t (invoked h) = p.requested ++ (ofThread t (effects h)).map Prod.fst
  told : ofThread t (answers O s₀ (effects h)) = p.owed C g ++ ofThread t (returned h)

/-- The thread that an event belongs to. -/
def Event.thread : Event T ω ρ → T
  | .invoked t _ => t
  | .effect t _ => t
  | .returned t _ => t

/-- Events of other threads do not concern a thread. -/
theorem Agrees.cons {s₀ : γ × φ} {h : List (Event T ω ρ)} {g : γ} {t : T} {p : Phase γ ω ρ ℓ}
    (hp : Agrees C s₀ h g t p) {e : Event T ω ρ} (he : e.thread ≠ t) :
    Agrees C s₀ (e :: h) g t p := by
  obtain ⟨hasked, htold⟩ := hp
  cases e with
  | invoked u o =>
    have hut : u ≠ t := he
    exact ⟨by simpa [hut] using hasked, by simpa [hut] using htold⟩
  | effect u c =>
    have hut : u ≠ t := he
    exact ⟨by simpa [hut] using hasked, by simpa [hut] using htold⟩
  | returned u r =>
    have hut : u ≠ t := he
    exact ⟨by simpa [hut] using hasked, by simpa [hut] using htold⟩

/-- A thread that owns nothing has seen nothing of the data. -/
theorem Agrees.data {s₀ : γ × φ} {h : List (Event T ω ρ)} {g : γ} {t : T} {p : Phase γ ω ρ ℓ}
    (hp : Agrees C s₀ h g t p) (howns : ¬ p.Owns) (g' : γ) : Agrees C s₀ h g' t p :=
  ⟨hp.asked, by rw [Phase.owed_of_not_owns howns g' g]; exact hp.told⟩

variable (C) in
/-- What was told so far is what the calls are told one at a time, in the order in
which they took effect, and the data is what they leave, once the holder is done. -/
structure Sound (s₀ : γ × φ) (s : State T γ φ ω ρ ℓ) (h : List (Event T ω ρ)) : Prop where
  register : s.register = (serial O s₀ (effects h)).2
  settled : s.settled = (serial O s₀ (effects h)).1
  agrees : ∀ t, Agrees C s₀ h s.data t (s.phase t)

theorem sound_initial (data : γ) (register : φ) (clock : Nat) :
    Sound C (data, register) (initial data register clock : State T γ φ ω ρ ℓ) [] where
  register := rfl
  settled := rfl
  agrees _ := ⟨rfl, rfl⟩

section Move

variable {s₀ : γ × φ} {s : State T γ φ ω ρ ℓ} {h : List (Event T ω ρ)} {t : T}

/-- The settled data where the moving thread is not the holder. -/
theorem State.settled_goto (hs : s.holder ≠ some t) (p : Phase γ ω ρ ℓ) :
    (s.goto t p).settled = s.settled := by
  cases hu : s.holder with
  | none => simp [State.settled, hu]
  | some u =>
    have hut : u ≠ t := by
      intro hut
      rw [hut] at hu
      exact hs hu
    simp [State.settled, hu, hut]

/-- A move of one thread, checked for that thread only: the others see it in
the data only, and those that do not hold the mutex owe nothing that depends
on the data. -/
theorem Sound.goto (hx : Exclusive s) (hs : Sound C s₀ s h) {es : List (Event T ω ρ)}
    (hes : ∀ e ∈ es, e.thread = t) {p : Phase γ ω ρ ℓ} {g : γ} {v : φ} {holder : Option T}
    (hdata : g = s.data ∨ s.holder = some t)
    (hregister : v = (serial O s₀ (effects (es ++ h))).2)
    (hsettled : State.settled { s.goto t p with data := g, register := v, holder := holder }
      = (serial O s₀ (effects (es ++ h))).1)
    (hat : Agrees C s₀ (es ++ h) g t p) :
    Sound C s₀ { s.goto t p with data := g, register := v, holder := holder } (es ++ h) := by
  refine ⟨hregister, hsettled, fun u => ?_⟩
  show Agrees C s₀ (es ++ h) g u ((s.goto t p).phase u)
  rw [State.goto_phase]
  split
  · next hut =>
    rw [hut]
    exact hat
  · next hut =>
    have hold : Agrees C s₀ h g u (s.phase u) := by
      rcases hdata with rfl | hholder
      · exact hs.agrees u
      · refine (hs.agrees u).data (fun hu => hut ?_) g
        exact hx.eq hu ((hx t).mpr hholder)
    have hother : ∀ e ∈ es, e.thread ≠ u := by
      intro e he
      rw [hes e he]
      exact Ne.symm hut
    clear hregister hsettled hat hes
    induction es with
    | nil => exact hold
    | cons e es ih =>
      exact (ih fun e' he' => hother e' (List.mem_cons_of_mem _ he')).cons
        (hother e List.mem_cons_self)

/-- **A move of one thread keeps it**: a call takes effect when its answer is fixed,
which is inside the mutex, or at the refusal. The cases are the phases of a call. -/
theorem sound_move (hx : Exclusive s) (hs : Sound C s₀ s h) (m : Move ω) :
    Sound C s₀ (s.move C t m).1 ((s.move C t m).2 ++ h) := by
  have hholder := hx t
  obtain ⟨hasked, htold⟩ := hs.agrees t
  have hsettled := hs.settled
  have hregister := hs.register
  apply State.move_cases (P := fun r => Sound C s₀ r.1 (r.2 ++ h)) m
  case stays => exact hs
  case invoke =>
    intro o hp
    rw [hp] at hholder hasked htold
    refine hs.goto hx (by simp [Event.thread]) (.inl rfl) hregister ?_ ⟨?_, htold⟩
    · exact (State.settled_goto (by simp [← hholder, Phase.Owns]) _).trans hsettled
    · simpa [Phase.requested] using hasked
  case take =>
    intro o hp hfree
    rw [hp] at hasked htold
    refine hs.goto hx (by simp) (.inl rfl) hregister ?_ ⟨hasked, htold⟩
    rw [State.settled_of_free hfree] at hsettled
    refine (State.settled_of_holder (t := t) rfl).trans ?_
    simpa [Phase.finish] using hsettled
  case giveUp =>
    intro o hp
    rw [hp] at hholder hasked htold
    refine hs.goto hx (by simp) (.inl rfl) hregister ?_ ⟨hasked, htold⟩
    exact (State.settled_goto (by simp [← hholder, Phase.Owns]) _).trans hsettled
  case refuse =>
    intro o hp
    rw [hp] at hholder hasked htold
    refine hs.goto hx (by simp [Event.thread]) (.inl rfl) ?_ ?_ ⟨?_, ?_⟩
    · simp [Object.perform, hregister]
    · exact (State.settled_goto (by simp [← hholder, Phase.Owns]) _).trans hsettled
    · simpa [Phase.requested] using hasked
    · simpa [Phase.owed, Object.perform, hregister] using htold
  case enter =>
    intro o hp
    rw [hp] at hholder hasked htold
    have howner := hholder.mp trivial
    refine hs.goto hx (by simp) (.inl rfl) hregister ?_ ⟨hasked, htold⟩
    rw [State.settled_of_holder howner, hp] at hsettled
    refine (State.settled_of_holder (t := t) (by exact howner)).trans ?_
    simpa [Phase.finish] using hsettled
  case exchange =>
    intro o now hp
    rw [hp] at hholder hasked htold
    have howner := hholder.mp trivial
    rw [State.settled_of_holder howner, hp] at hsettled
    -- the pieces that the thread sets out to do amount to the whole operation
    have hact := C.composes o now s.register s.data
    refine hs.goto hx (by simp [Event.thread]) (.inl rfl) ?_ ?_ ⟨?_, ?_⟩
    · simp [Object.perform, hregister]
    · refine (State.settled_of_holder (t := t) (by exact howner)).trans ?_
      simp only [State.goto_phase, if_true, Phase.finish, List.singleton_append, effects_effect,
        serial_cons, Object.perform, ← hregister, ← hsettled]
      exact (congrArg Prod.snd hact).symm
    · simpa [Phase.requested] using hasked
    · simp only [Phase.finish] at hsettled
      simp only [List.singleton_append, effects_effect, answers_cons, ofThread_cons, if_true,
        Phase.owed, returned_effect, Object.perform, ← hregister, ← hsettled, hact]
      simpa [Phase.owed] using htold
  case piece =>
    intro o memory piece rest hp
    rw [hp] at hholder hasked htold
    have howner := hholder.mp trivial
    rw [State.settled_of_holder howner, hp] at hsettled
    refine hs.goto hx (by simp) (.inr howner) hregister ?_ ⟨hasked, htold⟩
    refine (State.settled_of_holder (t := t) (by exact howner)).trans ?_
    simpa [Phase.finish] using hsettled
  case give =>
    intro o memory hp
    rw [hp] at hholder hasked htold
    have howner := hholder.mp trivial
    rw [State.settled_of_holder howner, hp] at hsettled
    refine hs.goto hx (by simp) (.inl rfl) hregister ?_ ⟨hasked, htold⟩
    refine (State.settled_of_free rfl).trans ?_
    simpa [Phase.finish] using hsettled
  case leave =>
    intro r hp
    rw [hp] at hholder hasked htold
    refine hs.goto hx (by simp [Event.thread]) (.inl rfl) hregister ?_ ⟨hasked, ?_⟩
    · exact (State.settled_goto (by simp [← hholder, Phase.Owns]) _).trans hsettled
    · simpa [Phase.owed] using htold

/-- Time passes without effect; everything else is a move. -/
theorem sound_step (i : Step T ω) (hx : Exclusive s) (hs : Sound C s₀ s h) :
    Sound C s₀ (s.step C i) (s.events C i ++ h) := by
  cases i with
  | elapse d => exact ⟨hs.register, hs.settled, hs.agrees⟩
  | move t m => exact sound_move hx hs m

end Move

/-- **Linearizability**, for every run from a state where no thread is in a call. -/
theorem sound_after (data : γ) (register : φ) (clock : Nat) (steps : List (Step T ω)) :
    Sound C (data, register) (Run.after (State.step C) (initial data register clock) steps)
      (State.history C (initial data register clock) steps) := by
  induction steps with
  | nil => exact sound_initial data register clock
  | cons i earlier ih =>
    exact sound_step i (exclusive_after (exclusive_initial data register clock) earlier) ih

/-- What a thread asked and was told since a moment when it was in no call: the
calls that took effect since, done one after another on what was there. -/
theorem agrees_since (data : γ) (register : φ) (clock : Nat) (later earlier : List (Step T ω))
    {t : T}
    (hidle : (Run.after (State.step C) (initial data register clock) earlier).phase t = .idle) :
    Agrees C
      (serial O (data, register) (effects (State.history C (initial data register clock) earlier)))
      (State.history C (Run.after (State.step C) (initial data register clock) earlier) later)
      (Run.after (State.step C) (initial data register clock) (later ++ earlier)).data t
      ((Run.after (State.step C) (initial data register clock) (later ++ earlier)).phase t) := by
  obtain ⟨hasked, htold⟩ := (sound_after (C := C) data register clock earlier).agrees t
  obtain ⟨hasked', htold'⟩ := (sound_after (C := C) data register clock (later ++ earlier)).agrees t
  rw [hidle] at hasked htold
  simp only [Phase.requested, List.nil_append, Phase.owed] at hasked htold
  rw [State.history_append, invoked_append, effects_append, ofThread_append, ofThread_append,
    hasked, List.map_append, ← List.append_assoc] at hasked'
  rw [State.history_append, effects_append, answers_append, returned_append, ofThread_append,
    ofThread_append, htold, ← List.append_assoc] at htold'
  exact ⟨List.append_cancel_right hasked', List.append_cancel_right htold'⟩

/-! ## The order of the clock -/

/-- The times at which the calls that got the mutex were inside, newest first. -/
def times (h : List (Event T ω ρ)) : List Nat := (effects h).filterMap (fun c => c.2.2)

/-- A thread that has read the clock has read a time behind all effects. -/
structure Timed (s : State T γ φ ω ρ ℓ) (h : List (Event T ω ρ)) : Prop where
  sorted : (times h).Pairwise (· ≥ ·)
  past : ∀ n ∈ times h, n ≤ s.clock
  entered : ∀ t o now, s.phase t = .entered o now → now ≤ s.clock ∧ ∀ n ∈ times h, n ≤ now

omit [DecidableEq T] in
theorem timed_initial (data : γ) (register : φ) (clock : Nat) :
    Timed (initial data register clock : State T γ φ ω ρ ℓ) [] where
  sorted := List.Pairwise.nil
  past n hn := by cases hn
  entered t o now hp := by cases hp

section Move

variable {s : State T γ φ ω ρ ℓ} {h h' : List (Event T ω ρ)} {t : T}

/-- A move that adds no time and does not read the clock. -/
theorem Timed.goto (hs : Timed s h) (hh : times h' = times h) {p : Phase γ ω ρ ℓ}
    (hp : ∀ o now, p ≠ .entered o now) {g : γ} {v : φ} {holder : Option T} :
    Timed { s.goto t p with data := g, register := v, holder := holder } h' := by
  refine ⟨by rw [hh]; exact hs.sorted, by rw [hh]; exact hs.past, fun u o now hu => ?_⟩
  rw [hh]
  have hu' : (s.goto t p).phase u = .entered o now := hu
  rw [State.goto_phase] at hu'
  split at hu'
  · exact absurd hu' (hp o now)
  · exact hs.entered u o now hu'

/-- A call reads the clock after it has got the mutex, so the readings of those that
took effect are in order. -/
theorem timed_move (hx : Exclusive s) (hs : Timed s h) (m : Move ω) :
    Timed (s.move C t m).1 ((s.move C t m).2 ++ h) := by
  apply State.move_cases (P := fun r => Timed r.1 (r.2 ++ h)) m
  case stays => exact hs
  case invoke => exact fun o hp => hs.goto (by rfl) (by simp)
  case take => exact fun o hp hfree => hs.goto rfl (by simp)
  case giveUp => exact fun o hp => hs.goto rfl (by simp)
  case refuse => exact fun o hp => hs.goto (by rfl) (by simp)
  case piece => exact fun o memory piece rest hp => hs.goto rfl (by simp)
  case give => exact fun o memory hp => hs.goto rfl (by simp)
  case leave => exact fun r hp => hs.goto (by rfl) (by simp)
  case enter =>
    intro o hp
    refine ⟨hs.sorted, hs.past, fun u o' now hu => ?_⟩
    rw [State.goto_phase] at hu
    split at hu
    · cases hu
      exact ⟨Nat.le_refl _, hs.past⟩
    · exact hs.entered u o' now hu
  case exchange =>
    intro o now hp
    obtain ⟨hclock, hbehind⟩ := hs.entered t o now hp
    have htimes : times ([.effect t (o, some now)] ++ h) = now :: times h := rfl
    refine ⟨?_, ?_, fun u o' now' hu => ?_⟩
    · rw [htimes]
      exact List.pairwise_cons.mpr ⟨hbehind, hs.sorted⟩
    · rw [htimes]
      intro n hn
      rcases List.mem_cons.mp hn with rfl | hn
      · exact hclock
      · exact hs.past n hn
    · -- two threads that have read the clock would both hold the mutex
      have hu' : (s.goto t (.working o C.start (C.pieces o now s.register))).phase u
          = .entered o' now' := hu
      rw [State.goto_phase] at hu'
      split at hu'
      · cases hu'
      · next hut =>
        refine absurd (hx.eq (t := u) (u := t) ?_ ?_) hut
        · rw [hu']
          trivial
        · rw [hp]
          trivial

theorem timed_step (i : Step T ω) (hx : Exclusive s) (hs : Timed s h) :
    Timed (s.step C i) (s.events C i ++ h) := by
  cases i with
  | move t m => exact timed_move hx hs m
  | elapse d =>
    refine ⟨hs.sorted, fun n hn => Nat.le_add_right_of_le (hs.past n hn), fun t o now hp => ?_⟩
    obtain ⟨hclock, hbehind⟩ := hs.entered t o now hp
    exact ⟨Nat.le_add_right_of_le hclock, hbehind⟩

end Move

theorem timed_after (data : γ) (register : φ) (clock : Nat) (steps : List (Step T ω)) :
    Timed (Run.after (State.step C) (initial data register clock) steps)
      (State.history C (initial data register clock) steps) := by
  induction steps with
  | nil => exact timed_initial data register clock
  | cons i earlier ih =>
    exact timed_step i (exclusive_after (exclusive_initial data register clock) earlier) ih

end Guarded
