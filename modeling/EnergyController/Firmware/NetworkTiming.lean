/-
EnergyController.Firmware.NetworkTiming — how often `networkTask` makes the
calls that it limits: `WiFi.begin`, `Blynk.connect`, `mqttManagerConnect` and
the periodic telemetry.

The loop reads `millis()` once in each iteration and compares it with the
reading at the last attempt; the calls come later, since those before them may
block. `calls_throttled` is the upper bound, on the iterations and on the calls,
in true time and across the wraps of the clock; `calls_prompt` is the lower one:
a call that the iterations of a stretch of time have reason to make is made,
where MQTT first has to wait for a valid NTP time.
-/
import EnergyController.Firmware.NetworkTask
import EnergyController.Lib.Throttle

namespace EnergyController

/-- The calls that the loop limits. -/
inductive ThrottledCall where
  | wifiBegin
  | blynkConnect
  | mqttConnect
  | blynkWrite
  | publishTelemetry
  deriving DecidableEq

/-- An iteration of the loop, the true time at which it reads the clock, and
those of the calls, if it makes them. -/
structure TimedIteration where
  time : ℕ
  iteration : NetworkIteration
  read : iteration.now = millis time
  calledAt : ThrottledCall → ℕ
  time_le_calledAt : ∀ call, time ≤ calledAt call

/-- The calls that the task limits. -/
def NetworkAction.throttledCall : NetworkAction → Option ThrottledCall
  | .wifiBegin => some .wifiBegin
  | .blynkConnect => some .blynkConnect
  | .mqttConnect _ => some .mqttConnect
  | .blynkWrite _ => some .blynkWrite
  | .publishTelemetry _ _ => some .publishTelemetry
  | _ => none

/-- The limited calls among `actions`, in order. -/
def throttledCalls (actions : List NetworkAction) : List ThrottledCall :=
  actions.filterMap NetworkAction.throttledCall

namespace ThrottledCall

def interval (cfg : NetworkConfig) : ThrottledCall → Millis
  | .wifiBegin => cfg.wifiReconnectIntervalMs
  | .blynkConnect => cfg.blynkReconnectIntervalMs
  | .mqttConnect => cfg.mqttReconnectIntervalMs
  | .blynkWrite => cfg.telemetryPeriodMs
  | .publishTelemetry => cfg.telemetryPeriodMs

/-- The variable that holds the reading at the last attempt. -/
def last (s : NetworkTask) : ThrottledCall → Millis
  | .wifiBegin => s.lastWiFiAttempt
  | .blynkConnect => s.lastBlynkAttempt
  | .mqttConnect => s.lastMqttAttempt
  | .blynkWrite => s.lastTelemetry
  | .publishTelemetry => s.lastTelemetry

/-- What an iteration has to meet to have reason for the call. -/
def wanted (i : NetworkIteration) : ThrottledCall → Bool
  | .wifiBegin => !i.wifiUp
  | .blynkConnect => i.wifiUp && !i.blynkUp
  | .mqttConnect => i.wifiUp && !i.mqttUp && i.ntpTimeValid
  | .blynkWrite => i.wifiUp && i.blynkUp && (NetworkTask.measurement i).valid
  | .publishTelemetry => i.wifiUp && i.mqttUpAtTelemetry

/-- How long a stretch of such iterations, `gap` apart at most, can be without
the call. -/
def delay (cfg : NetworkConfig) (gap : ℕ) : ThrottledCall → ℕ
  | .mqttConnect =>
    cfg.ntpCheckIntervalMs.toNat + gap + cfg.mqttReconnectIntervalMs.toNat
  | call => (call.interval cfg).toNat

end ThrottledCall

namespace NetworkTask

def step (cfg : NetworkConfig) (s : NetworkTask) (i : TimedIteration) : NetworkTask :=
  (s.iterate cfg i.iteration).2

/-- The iterations that make the call, once for each call. -/
def callers (cfg : NetworkConfig) (call : ThrottledCall) (s : NetworkTask)
    (iterations : List TimedIteration) : List TimedIteration :=
  Run.observed (step cfg)
    (fun s i => ((throttledCalls (s.iterate cfg i.iteration).1).filter (· = call)).map fun _ => i)
    s iterations

/-- When the calls are made. -/
def callTimes (cfg : NetworkConfig) (call : ThrottledCall) (s : NetworkTask)
    (iterations : List TimedIteration) : List ℕ :=
  (callers cfg call s iterations).map fun i => i.calledAt call

/-- The loop is sequential: a call of an iteration comes before the next ones. -/
def Sequential (call : ThrottledCall) (iterations : List TimedIteration) : Prop :=
  iterations.Pairwise fun later earlier => earlier.calledAt call ≤ later.time

instance (call : ThrottledCall) (iterations : List TimedIteration) :
    Decidable (Sequential call iterations) :=
  inferInstanceAs (Decidable (iterations.Pairwise _))

variable {cfg : NetworkConfig} {s : NetworkTask} {i : NetworkIteration}

/-! ## The sections of the loop body -/

/-- `now - last ≥ interval` -/
def due (i : NetworkIteration) (last interval : Millis) : Bool := i.now - last ≥ interval

/-- The interval check of NTP passes. -/
def ntpChecked (cfg : NetworkConfig) (i : NetworkIteration) (s : NetworkTask) : Bool :=
  !s.timeSynchronized && due i s.lastNtpCheck cfg.ntpCheckIntervalMs

/-- `timeSynchronized` past the NTP section. -/
def synchronized (cfg : NetworkConfig) (i : NetworkIteration) (s : NetworkTask) : Bool :=
  if s.wifiFound.2.ntpChecked cfg i then i.ntpTimeValid else s.wifiFound.2.timeSynchronized

/-! ### What each part of an iteration does to the variables

An iteration is a sequence of parts, each with a condition of its own. These
lemmas say of each part what it leaves in the variables, so that what a whole
iteration leaves (`iterate_up_state`) is read off them in order, without unfolding
the parts again. -/

theorem wifiDown_state :
    (s.wifiDown cfg i).2 = { s with
      wifiConnected := false
      blynkConnected := s.blynkConnected && !s.wifiConnected
      timeSynchronized := s.timeSynchronized && !s.wifiConnected
      mqttWasConnected := s.mqttWasConnected && !s.wifiConnected
      lastWiFiAttempt :=
        if due i s.lastWiFiAttempt cfg.wifiReconnectIntervalMs then i.now
        else s.lastWiFiAttempt } := by
  obtain ⟨wifi, _, _, lastWiFiAttempt, _, _, _, _, _, _, _⟩ := s
  by_cases hdue : cfg.wifiReconnectIntervalMs ≤ i.now - lastWiFiAttempt <;>
    cases wifi <;> simp [wifiDown, due, hdue]

theorem wifiFound_state :
    s.wifiFound.2 = { s with
      wifiConnected := true
      timeSynchronized := s.timeSynchronized && s.wifiConnected } := by
  obtain ⟨wifi, _, _, _, _, _, _, _, _, _, _⟩ := s
  cases wifi <;> simp [wifiFound]

theorem ntp_state :
    (s.ntp cfg i).2 = { s with
      timeSynchronized := if s.ntpChecked cfg i then i.ntpTimeValid else s.timeSynchronized
      lastNtpCheck := if s.ntpChecked cfg i then i.now else s.lastNtpCheck } := by
  simp only [ntp, ntpChecked, due, ge_iff_le]
  split <;> rfl

theorem blynk_state :
    (s.blynk cfg i).2 = { s with
      blynkConnected :=
        if !i.blynkUp then
          due i s.lastBlynkAttempt cfg.blynkReconnectIntervalMs && i.blynkConnects
        else true
      lastBlynkAttempt :=
        if !i.blynkUp && due i s.lastBlynkAttempt cfg.blynkReconnectIntervalMs then i.now
        else s.lastBlynkAttempt } := by
  by_cases hdue : cfg.blynkReconnectIntervalMs ≤ i.now - s.lastBlynkAttempt <;>
    cases hup : i.blynkUp <;> simp [blynk, due, hup, hdue]

theorem mqtt_state :
    (s.mqtt cfg i).2 = { s with
      lastMqttAttempt :=
        if !i.mqttUp && s.timeSynchronized &&
          due i s.lastMqttAttempt cfg.mqttReconnectIntervalMs then i.now
        else s.lastMqttAttempt } := by
  cases hup : i.mqttUp <;> simp [mqtt, due, hup]
  split <;> rfl

/-- The publications on connection and on change touch the published state and
fault only, whatever comes of them. -/
theorem onConnect_state (cfg : NetworkConfig) (s : NetworkTask) (i : NetworkIteration) :
    ∃ state fault, (s.onConnect cfg i).2 =
      { s with publishedState := state, publishedFault := fault } := by
  unfold onConnect
  split
  · exact ⟨_, _, rfl⟩
  · exact ⟨s.publishedState, s.publishedFault, rfl⟩

theorem stateChange_state (cfg : NetworkConfig) (s : NetworkTask) (i : NetworkIteration) :
    ∃ state, (s.stateChange cfg i).2 = { s with publishedState := state } := by
  unfold stateChange
  split
  · dsimp only
    split
    · exact ⟨_, rfl⟩
    · exact ⟨s.publishedState, rfl⟩
  · exact ⟨s.publishedState, rfl⟩

theorem faultChange_state (cfg : NetworkConfig) (s : NetworkTask) (i : NetworkIteration) :
    ∃ fault, (s.faultChange cfg i).2 = { s with publishedFault := fault } := by
  unfold faultChange
  split
  · dsimp only
    split
    · exact ⟨_, rfl⟩
    · exact ⟨s.publishedFault, rfl⟩
  · exact ⟨s.publishedFault, rfl⟩

theorem onChange_state (cfg : NetworkConfig) (s : NetworkTask) (i : NetworkIteration) :
    ∃ state fault, (s.onChange cfg i).2 =
      { s with publishedState := state, publishedFault := fault } := by
  unfold onChange
  split
  · dsimp only
    obtain ⟨state, hstate⟩ := stateChange_state cfg s i
    obtain ⟨fault, hfault⟩ := faultChange_state cfg (s.stateChange cfg i).2 i
    exact ⟨state, fault, by rw [hfault, hstate]⟩
  · exact ⟨s.publishedState, s.publishedFault, rfl⟩

theorem telemetry_state :
    (s.telemetry cfg i).2 = { s with
      lastTelemetry :=
        if due i s.lastTelemetry cfg.telemetryPeriodMs then i.now else s.lastTelemetry } := by
  simp only [telemetry, due, decide_eq_true_eq, ge_iff_le]
  split <;> rfl

/-! ## One iteration -/

/-- Without Wi-Fi an iteration is its first part. -/
theorem iterate_down (hwifi : i.wifiUp = false) : s.iterate cfg i = s.wifiDown cfg i := by
  simp [iterate, hwifi]

/-- With Wi-Fi up, the parts one after the other. -/
theorem iterate_up_state (cfg : NetworkConfig) (s : NetworkTask) (hwifi : i.wifiUp = true) :
    ∃ state fault, (s.iterate cfg i).2 = { s with
      wifiConnected := true
      timeSynchronized := s.synchronized cfg i
      lastNtpCheck := if s.wifiFound.2.ntpChecked cfg i then i.now else s.lastNtpCheck
      blynkConnected :=
        if !i.blynkUp then
          due i s.lastBlynkAttempt cfg.blynkReconnectIntervalMs && i.blynkConnects
        else true
      lastBlynkAttempt :=
        if !i.blynkUp && due i s.lastBlynkAttempt cfg.blynkReconnectIntervalMs then i.now
        else s.lastBlynkAttempt
      lastMqttAttempt :=
        if !i.mqttUp && s.synchronized cfg i &&
          due i s.lastMqttAttempt cfg.mqttReconnectIntervalMs then i.now
        else s.lastMqttAttempt
      lastTelemetry :=
        if due i s.lastTelemetry cfg.telemetryPeriodMs then i.now else s.lastTelemetry
      publishedState := state
      publishedFault := fault } := by
  simp only [iterate, hwifi, Bool.not_true, Bool.false_eq_true, if_false]
  rw [telemetry_state]
  obtain ⟨state, fault, hchange⟩ := onChange_state cfg
    ((((s.wifiFound.2.ntp cfg i).2.blynk cfg i).2.mqtt cfg i).2.onConnect cfg i).2 i
  obtain ⟨state', fault', hconnect⟩ := onConnect_state cfg
    (((s.wifiFound.2.ntp cfg i).2.blynk cfg i).2.mqtt cfg i).2 i
  rw [hchange, hconnect, mqtt_state, blynk_state, ntp_state]
  exact ⟨state, fault, by simp only [synchronized, wifiFound_state]⟩

/-! ### Which limited calls each part makes -/

theorem wifiDown_calls :
    throttledCalls (s.wifiDown cfg i).1
      = if due i s.lastWiFiAttempt cfg.wifiReconnectIntervalMs then [.wifiBegin] else [] := by
  by_cases hdue : cfg.wifiReconnectIntervalMs ≤ i.now - s.lastWiFiAttempt <;>
    cases hwifi : s.wifiConnected <;>
    simp [wifiDown, due, hwifi, hdue, throttledCalls, NetworkAction.throttledCall,
      List.filterMap_cons]

theorem wifiFound_calls : throttledCalls s.wifiFound.1 = [] := by
  unfold wifiFound
  split <;> rfl

theorem ntp_calls : throttledCalls (s.ntp cfg i).1 = [] := by
  simp [ntp, throttledCalls, NetworkAction.throttledCall]

theorem blynk_calls :
    throttledCalls (s.blynk cfg i).1
      = if !i.blynkUp && due i s.lastBlynkAttempt cfg.blynkReconnectIntervalMs then
          [.blynkConnect]
        else [] := by
  by_cases hdue : cfg.blynkReconnectIntervalMs ≤ i.now - s.lastBlynkAttempt <;>
    cases hup : i.blynkUp <;>
    simp [blynk, due, hup, hdue, throttledCalls, NetworkAction.throttledCall]

theorem mqtt_calls :
    throttledCalls (s.mqtt cfg i).1
      = if !i.mqttUp && s.timeSynchronized &&
          due i s.lastMqttAttempt cfg.mqttReconnectIntervalMs then [.mqttConnect]
        else [] := by
  by_cases hdue : cfg.mqttReconnectIntervalMs ≤ i.now - s.lastMqttAttempt <;>
    cases hup : i.mqttUp <;> cases htime : s.timeSynchronized <;>
    simp [mqtt, due, hup, htime, hdue, throttledCalls, NetworkAction.throttledCall]

theorem onConnect_calls : throttledCalls (s.onConnect cfg i).1 = [] := by
  unfold onConnect
  split <;> rfl

theorem onChange_calls : throttledCalls (s.onChange cfg i).1 = [] := by
  have hstate : throttledCalls (s.stateChange cfg i).1 = [] := by
    unfold stateChange
    split <;> rfl
  have hfault (s : NetworkTask) : throttledCalls (s.faultChange cfg i).1 = [] := by
    unfold faultChange
    split <;> rfl
  unfold onChange
  split
  · simp only [throttledCalls, List.filterMap_append] at *
    rw [hstate, hfault]
    rfl
  · rfl

theorem telemetry_calls :
    throttledCalls (s.telemetry cfg i).1
      = if due i s.lastTelemetry cfg.telemetryPeriodMs then
          (if s.blynkConnected && (measurement i).valid then [.blynkWrite] else [])
            ++ (if i.mqttUpAtTelemetry then [.publishTelemetry] else [])
        else [] := by
  simp only [telemetry, due, decide_eq_true_eq, ge_iff_le]
  split
  · simp only [throttledCalls, List.filterMap_append]
    congr 1
    · split <;> rfl
    · split <;> rfl
  · rfl

/-- With Wi-Fi up, in the order of the source: Blynk, MQTT, and the telemetry with
its two receivers. -/
theorem iterate_up_calls (hwifi : i.wifiUp = true) :
    throttledCalls (s.iterate cfg i).1
      = (if !i.blynkUp && due i s.lastBlynkAttempt cfg.blynkReconnectIntervalMs then
          [.blynkConnect]
        else [])
      ++ (if !i.mqttUp && s.synchronized cfg i &&
          due i s.lastMqttAttempt cfg.mqttReconnectIntervalMs then [.mqttConnect]
        else [])
      ++ (if due i s.lastTelemetry cfg.telemetryPeriodMs then
          (if (if !i.blynkUp then
                due i s.lastBlynkAttempt cfg.blynkReconnectIntervalMs && i.blynkConnects
              else true) && (measurement i).valid then [.blynkWrite] else [])
            ++ (if i.mqttUpAtTelemetry then [.publishTelemetry] else [])
        else []) := by
  obtain ⟨state, fault, hchange⟩ := onChange_state cfg
    ((((s.wifiFound.2.ntp cfg i).2.blynk cfg i).2.mqtt cfg i).2.onConnect cfg i).2 i
  obtain ⟨state', fault', hconnect⟩ := onConnect_state cfg
    (((s.wifiFound.2.ntp cfg i).2.blynk cfg i).2.mqtt cfg i).2 i
  have happend (a b : List NetworkAction) :
      throttledCalls (a ++ b) = throttledCalls a ++ throttledCalls b := List.filterMap_append
  simp only [iterate, hwifi, Bool.not_true, Bool.false_eq_true, if_false, happend,
    wifiFound_calls, ntp_calls, blynk_calls, mqtt_calls, onConnect_calls, onChange_calls,
    telemetry_calls, List.nil_append, List.append_nil]
  rw [hchange, hconnect, mqtt_state, blynk_state, ntp_state]
  simp only [synchronized, wifiFound_state]

/-! ## The interval checks -/

/-- The iteration gets to the interval check of the call. -/
def reached (cfg : NetworkConfig) (i : NetworkIteration) (s : NetworkTask) : ThrottledCall → Bool
  | .wifiBegin => !i.wifiUp
  | .blynkConnect => i.wifiUp && !i.blynkUp
  | .mqttConnect => i.wifiUp && !i.mqttUp && s.synchronized cfg i
  | .blynkWrite => i.wifiUp
  | .publishTelemetry => i.wifiUp

/-- The check is reached, and passes. -/
def passes (cfg : NetworkConfig) (call : ThrottledCall) (s : NetworkTask) (i : TimedIteration) :
    Bool :=
  s.reached cfg i.iteration call && due i.iteration (call.last s) (call.interval cfg)

/-- The variable of a call holds the reading of the latest iteration in which the
call was due and its place was reached. For the telemetry that is so whether
anything was sent or not. -/
theorem iterate_last (s : NetworkTask) (i : NetworkIteration) (call : ThrottledCall) :
    call.last (s.iterate cfg i).2
      = if s.reached cfg i call && due i (call.last s) (call.interval cfg) then i.now
        else call.last s := by
  cases hwifi : i.wifiUp with
  | false =>
    rw [iterate_down hwifi, wifiDown_state]
    cases call <;> simp [ThrottledCall.last, ThrottledCall.interval, reached, hwifi]
  | true =>
    obtain ⟨state, fault, hstate⟩ := iterate_up_state cfg s hwifi
    rw [hstate]
    cases call <;> simp [ThrottledCall.last, ThrottledCall.interval, reached, hwifi]

/-- **Every kind of call is throttled**, in the sense of `Lib.Throttle`: it is made
only when its interval has passed by the clock, its variable is then set to the
reading, and nothing else changes it. -/
theorem throttled (cfg : NetworkConfig) (call : ThrottledCall) :
    Throttle.Throttled (step cfg) TimedIteration.time call.last (passes cfg call)
      (call.interval cfg) where
  due s i h := by
    have hdue := (Bool.and_eq_true_iff.mp h).2
    rw [due, i.read] at hdue
    exact of_decide_eq_true hdue
  stamped s i h := by
    rw [step, iterate_last, show WrappedClock.reading 32 i.time = i.iteration.now from i.read.symm]
    exact if_pos h
  kept s i h := by
    rw [step, iterate_last]
    exact if_neg (by simpa [passes] using h)

/-- Past its check, the call is made. -/
def made (cfg : NetworkConfig) (i : NetworkIteration) (s : NetworkTask) : ThrottledCall → Bool
  | .blynkWrite =>
    (if !i.blynkUp then
      due i s.lastBlynkAttempt cfg.blynkReconnectIntervalMs && i.blynkConnects
    else true) && (measurement i).valid
  | .publishTelemetry => i.mqttUpAtTelemetry
  | _ => true

/-- An iteration makes the call at most once, and past its check only. -/
theorem filter_calls (s : NetworkTask) (i : TimedIteration) (call : ThrottledCall) :
    (throttledCalls (s.iterate cfg i.iteration).1).filter (· = call)
      = if passes cfg call s i && s.made cfg i.iteration call then [call] else [] := by
  cases hwifi : i.iteration.wifiUp with
  | false =>
    rw [iterate_down hwifi, wifiDown_calls]
    cases call <;>
      simp [passes, made, ThrottledCall.last, ThrottledCall.interval, reached, hwifi,
        apply_ite (List.filter _)]
  | true =>
    rw [iterate_up_calls hwifi, List.filter_append, List.filter_append]
    cases call <;>
      simp [passes, made, ThrottledCall.last, ThrottledCall.interval, reached, hwifi,
        apply_ite (List.filter _), ite_and]

/-- One iteration makes a kind of call at most once. -/
theorem callers_cons (call : ThrottledCall) (s : NetworkTask) (i : TimedIteration)
    (earlier : List TimedIteration) :
    callers cfg call s (i :: earlier)
      = (if passes cfg call (Run.after (step cfg) s earlier) i &&
          (Run.after (step cfg) s earlier).made cfg i.iteration call then [i] else [])
        ++ callers cfg call s earlier := by
  rw [callers, Run.observed_cons, filter_calls]
  congr 1
  split <;> rfl

/-- The calls are made by iterations of the run, in their order. -/
theorem callers_sublist (call : ThrottledCall) (s : NetworkTask)
    (iterations : List TimedIteration) :
    (callers cfg call s iterations).Sublist iterations := by
  induction iterations with
  | nil => exact .slnil
  | cons i earlier ih =>
    rw [callers_cons]
    split
    · exact ih.cons_cons i
    · exact ih.cons i

/-- A call is made only where the throttle lets it pass; where it passes and there
is no connection to write to, the reading is stamped without a call. -/
theorem readings_sublist (call : ThrottledCall) (s : NetworkTask)
    (iterations : List TimedIteration) :
    ((callers cfg call s iterations).map TimedIteration.time).Sublist
      (Throttle.fireTimes (step cfg) TimedIteration.time (passes cfg call) s iterations) := by
  induction iterations with
  | nil => exact .slnil
  | cons i earlier ih =>
    rw [callers_cons, List.map_append, Throttle.fireTimes_cons]
    refine List.Sublist.append ?_ ih
    cases passes cfg call _ i with
    | false => simp
    | true => split <;> simp

/-- **The calls are limited.** Of a run of the task at known times, `n`
intervals of true time hold at most `n` readings of the clock that lead to a call
of a kind, and at most `n + 1` of the calls themselves, however long each takes
to come, wherever the intervals begin and however often `millis()` has wrapped. -/
theorem calls_throttled (cfg : NetworkConfig) (call : ThrottledCall)
    (wifiMs blynkMs mqttMs : Millis) (iterations : List TimedIteration)
    (hseq : Sequential call iterations) (t₀ n : ℕ) :
    let s := NetworkTask.start cfg wifiMs blynkMs mqttMs
    let window := n * (call.interval cfg).toNat
    (((callers cfg call s iterations).map TimedIteration.time).filter fun t =>
        t₀ ≤ t ∧ t < t₀ + window).length ≤ n ∧
      ((callTimes cfg call s iterations).filter fun t =>
        t₀ ≤ t ∧ t < t₀ + window).length ≤ n + 1 := by
  intro s window
  have horder : Throttle.Chronological TimedIteration.time iterations :=
    hseq.imp fun {later earlier} h => (earlier.time_le_calledAt call).trans h
  have hspaced :=
    ((throttled cfg call).spaced s horder).sublist (readings_sublist call s iterations)
  constructor
  · refine Throttle.length_le_of_spaced t₀ (hspaced.sublist List.filter_sublist) ?_
    intro t ht
    simpa using (List.mem_filter.mp ht).2
  · rw [callTimes, List.filter_map, List.length_map]
    have hcalls :=
      (List.pairwise_map.mp hspaced).and (hseq.sublist (callers_sublist call s iterations))
    refine Throttle.length_le_of_delayed TimedIteration.time (fun i => i.calledAt call) t₀
      (hcalls.sublist List.filter_sublist) ?_ ?_
    · exact fun i _ => i.time_le_calledAt call
    · intro i hi
      simpa using (List.mem_filter.mp hi).2

/-- The Wi-Fi is up and the time valid, but neither server can be reached:
`Blynk.connect` blocks for 700 ms. -/
def serversDown (t : ℕ) : TimedIteration where
  time := t
  iteration :=
    { now := millis t
      wifiUp := true
      ntpTimeValid := true
      blynkUp := false
      blynkConnects := false
      mqttUp := false
      mqttConnect := none
      protection := (ProtectionCore.new exampleConfig).snapshot 0
      mqttNowConnected := false
      stateOnConnect := .disconnected
      faultOnConnect := .disconnected
      stateOnChange := .disconnected
      faultOnChange := .disconnected
      copied := none
      mqttUpAtTelemetry := false
      relayCommandedOn := false
      relayOutputEnabled := true
      telemetryMs := millis t
      stack := fun _ => 0
      telemetry := .disconnected }
  read := rfl
  calledAt := fun call => if call = .mqttConnect then t + 700 else t
  time_le_calledAt := fun call => by split <;> omega

/-- Iterations a second apart, from `t` on. -/
def serversDownSince (t : ℕ) : ℕ → List TimedIteration
  | 0 => [serversDown t]
  | n + 1 => serversDown (t + (n + 1) * 1000) :: serversDownSince t n

/-- Ten seconds before the clock wraps to ten seconds after: MQTT is tried
every five seconds, and twice in any ten. -/
theorem calls_throttled_wrap :
    callTimes exampleNetwork .mqttConnect (.start exampleNetwork 0 0 0)
        (serversDownSince (2 ^ 32 - 10000) 20)
      = [2 ^ 32 + 10700, 2 ^ 32 + 5700, 2 ^ 32 + 700, 2 ^ 32 - 4300, 2 ^ 32 - 9300] ∧
    ((callTimes exampleNetwork .mqttConnect (.start exampleNetwork 0 0 0)
        (serversDownSince (2 ^ 32 - 10000) 20)).filter fun t =>
      2 ^ 32 - 3000 ≤ t ∧ t < 2 ^ 32 - 3000
        + 2 * (ThrottledCall.mqttConnect.interval exampleNetwork).toNat).length ≤ 3 :=
  ⟨by decide +kernel,
    (calls_throttled exampleNetwork .mqttConnect 0 0 0 (serversDownSince (2 ^ 32 - 10000) 20)
      (by decide +kernel) (2 ^ 32 - 3000) 2).2⟩

/-! ## The calls are made -/

/-- Nothing is reset while the Wi-Fi stays up. -/
theorem wifiFound_synchronized (hwifi : s.wifiConnected = true) :
    s.wifiFound.2 = s := by
  obtain ⟨_, _, _, _, _, _, _, _, _, _, _⟩ := s
  simp_all [wifiFound]

/-- With Wi-Fi and a valid NTP time, a synchronized task stays so. -/
theorem synchronized_of_synchronized (cfg : NetworkConfig) (hvalid : i.ntpTimeValid = true)
    (hwifi : s.wifiConnected = true) (hsynced : s.timeSynchronized = true) :
    s.synchronized cfg i = true := by
  rw [synchronized, wifiFound_synchronized hwifi]
  split
  · exact hvalid
  · exact hsynced

/-- The task has seen the Wi-Fi up, and NTP synchronized since. -/
def Synced (s : NetworkTask) : Prop := s.wifiConnected = true ∧ s.timeSynchronized = true

/-- An iteration with Wi-Fi and a valid NTP time. -/
def NtpReady (i : TimedIteration) : Prop :=
  i.iteration.wifiUp = true ∧ i.iteration.ntpTimeValid = true

/-! While NTP answers, an iteration leaves the task connected, and synchronized once
it has checked. -/

theorem step_wifiConnected {i : TimedIteration} (h : NtpReady i) :
    (step cfg s i).wifiConnected = true := by
  obtain ⟨state, fault, hstate⟩ := iterate_up_state cfg s h.1
  rw [step, hstate]

theorem step_timeSynchronized {i : TimedIteration} (h : NtpReady i) :
    (step cfg s i).timeSynchronized = s.synchronized cfg i.iteration := by
  obtain ⟨state, fault, hstate⟩ := iterate_up_state cfg s h.1
  rw [step, hstate]

theorem step_synced {i : TimedIteration} (h : NtpReady i) (hsynced : s.Synced) :
    (step cfg s i).Synced :=
  ⟨step_wifiConnected h, (step_timeSynchronized h).trans
    (synchronized_of_synchronized cfg h.2 hsynced.1 hsynced.2)⟩

/-- The NTP section checks the time at most once in its interval. -/
theorem ntp_throttled (cfg : NetworkConfig) :
    Throttle.Throttled (step cfg) TimedIteration.time NetworkTask.lastNtpCheck
      (fun s i => i.iteration.wifiUp && s.wifiFound.2.ntpChecked cfg i.iteration)
      cfg.ntpCheckIntervalMs where
  due s i h := by
    have hdue := (Bool.and_eq_true_iff.mp (Bool.and_eq_true_iff.mp h).2).2
    rw [wifiFound_state, due, i.read] at hdue
    exact of_decide_eq_true hdue
  stamped s i h := by
    obtain ⟨hwifi, hchecked⟩ := Bool.and_eq_true_iff.mp h
    obtain ⟨state, fault, hstate⟩ := iterate_up_state cfg s hwifi
    rw [step, hstate, show WrappedClock.reading 32 i.time = i.iteration.now from i.read.symm]
    exact if_pos hchecked
  kept s i h := by
    cases hwifi : i.iteration.wifiUp with
    | false => rw [step, iterate_down hwifi, wifiDown_state]
    | true =>
      obtain ⟨state, fault, hstate⟩ := iterate_up_state cfg s hwifi
      rw [step, hstate]
      exact if_neg (by simpa [hwifi] using h)

/-- Within an NTP interval of such iterations the task is synchronized. -/
theorem synced_within {gap : ℕ} (hroom : cfg.ntpCheckIntervalMs.toNat + gap ≤ 2 ^ 32)
    {iterations : List TimedIteration} (hne : iterations ≠ [])
    (hpolled : Throttle.Polled TimedIteration.time gap iterations)
    (hready : ∀ i ∈ iterations, NtpReady i)
    (hlong : cfg.ntpCheckIntervalMs.toNat
      ≤ Throttle.elapsed TimedIteration.time iterations) :
    (Run.after (step cfg) s iterations).Synced := by
  by_contra hnever
  -- what is never synchronized wants the check throughout, and the check
  -- synchronizes
  have hstays (l : List TimedIteration) (hready : ∀ i ∈ l, NtpReady i)
      (hnever : ¬ (Run.after (step cfg) s l).Synced) :
      Run.Meets (step cfg)
          (fun s i => s.wifiFound.2.timeSynchronized = false ∧ i.iteration.wifiUp = true) s l ∧
        Throttle.fireTimes (step cfg) TimedIteration.time
          (fun s i => i.iteration.wifiUp && s.wifiFound.2.ntpChecked cfg i.iteration) s l = [] := by
    induction l with
    | nil => exact ⟨trivial, rfl⟩
    | cons i earlier ih =>
      have hi := hready i List.mem_cons_self
      obtain ⟨hmeets, hsilent⟩ := ih (fun j hj => hready j (List.mem_cons_of_mem i hj))
        (fun hsynced => hnever (step_synced hi hsynced))
      have hstep : ¬ ((Run.after (step cfg) s earlier).synchronized cfg i.iteration = true) :=
        fun h => hnever ⟨step_wifiConnected hi, (step_timeSynchronized hi).trans h⟩
      have hchecked : (Run.after (step cfg) s earlier).wifiFound.2.ntpChecked cfg i.iteration
          = false := by
        by_contra hchecked
        exact hstep (by rw [synchronized, if_pos (by simpa using hchecked)]; exact hi.2)
      have hsync : (Run.after (step cfg) s earlier).wifiFound.2.timeSynchronized = false := by
        rw [synchronized, if_neg (by simp [hchecked])] at hstep
        simpa using hstep
      exact ⟨⟨⟨hsync, hi.1⟩, hmeets⟩, by simp [Throttle.fireTimes_cons, hchecked, hsilent]⟩
  obtain ⟨hwanted, hsilent⟩ := hstays iterations hready hnever
  refine (ntp_throttled cfg).fires_within hroom ?_ hpolled hne hwanted hlong hsilent
  intro s i hwanted hdue
  rw [Bool.and_eq_true_iff]
  refine ⟨hwanted.2, Bool.and_eq_true_iff.mpr ⟨by rw [hwanted.1]; rfl, ?_⟩⟩
  rw [wifiFound_state, due, i.read]
  exact decide_eq_true hdue

/-- An iteration with reason for the call makes it when the check passes. -/
theorem made_of_wanted {call : ThrottledCall} (h : call.wanted i = true) :
    s.made cfg i call = true := by
  cases call with
  | blynkWrite =>
    obtain ⟨hwifi, hvalid⟩ := Bool.and_eq_true_iff.mp h
    simp [made, (Bool.and_eq_true_iff.mp hwifi).2, hvalid]
  | publishTelemetry => exact (Bool.and_eq_true_iff.mp h).2
  | _ => rfl

/-- With reason for the call in every iteration, it is made wherever it passes. -/
theorem readings_eq_fireTimes {call : ThrottledCall} {iterations : List TimedIteration}
    (hwanted : ∀ i ∈ iterations, call.wanted i.iteration = true) :
    (callers cfg call s iterations).map TimedIteration.time
      = Throttle.fireTimes (step cfg) TimedIteration.time (passes cfg call) s iterations := by
  induction iterations with
  | nil => rfl
  | cons i earlier ih =>
    rw [callers_cons, List.map_append, Throttle.fireTimes_cons,
      made_of_wanted (hwanted i List.mem_cons_self), Bool.and_true]
    congr 1
    · split <;> rfl
    · exact ih fun j hj => hwanted j (List.mem_cons_of_mem i hj)

/-- A stretch of iterations that reach the check makes the call. -/
theorem made_within {call : ThrottledCall} {gap : ℕ}
    (hroom : (call.interval cfg).toNat + gap ≤ 2 ^ 32)
    {iterations : List TimedIteration} (hne : iterations ≠ [])
    (hpolled : Throttle.Polled TimedIteration.time gap iterations)
    (hwanted : ∀ i ∈ iterations, call.wanted i.iteration = true)
    (hreached :
      Run.Meets (step cfg) (fun s i => s.reached cfg i.iteration call = true) s iterations)
    (hlong : (call.interval cfg).toNat ≤ Throttle.elapsed TimedIteration.time iterations) :
    callTimes cfg call s iterations ≠ [] := by
  have hprompt (s : NetworkTask) (i : TimedIteration)
      (hreached : s.reached cfg i.iteration call = true)
      (hdue : call.interval cfg ≤ WrappedClock.reading 32 i.time - call.last s) :
      passes cfg call s i = true := by
    rw [passes, hreached, due, i.read]
    exact decide_eq_true hdue
  have hfired := (throttled cfg call).fires_within hroom hprompt hpolled hne hreached hlong
  intro hnone
  apply hfired
  rw [← readings_eq_fireTimes hwanted, List.map_eq_nil_iff.mp hnone, List.map_nil]

/-- Steps that reach the check whatever the state. -/
theorem meets_of_forall {ok : NetworkTask → TimedIteration → Prop}
    {iterations : List TimedIteration} (h : ∀ i ∈ iterations, ∀ s, ok s i) :
    Run.Meets (step cfg) ok s iterations := by
  induction iterations with
  | nil => exact trivial
  | cons i earlier ih =>
    exact ⟨h i List.mem_cons_self _, ih fun j hj => h j (List.mem_cons_of_mem i hj)⟩

theorem ntpReady_of_wanted {i : TimedIteration}
    (h : ThrottledCall.mqttConnect.wanted i.iteration = true) : NtpReady i := by
  obtain ⟨hup, hvalid⟩ := Bool.and_eq_true_iff.mp h
  exact ⟨(Bool.and_eq_true_iff.mp hup).1, hvalid⟩

theorem mqtt_reached {i : TimedIteration}
    (h : ThrottledCall.mqttConnect.wanted i.iteration = true)
    (hsync : s.synchronized cfg i.iteration = true) :
    s.reached cfg i.iteration .mqttConnect = true := by
  rw [reached, (Bool.and_eq_true_iff.mp h).1, hsync]
  rfl

/-- From the iteration that synchronizes the task, the check of MQTT is reached. -/
theorem mqtt_reached_since {later : List TimedIteration} {i : TimedIteration}
    (hwanted : ∀ j ∈ later ++ [i], ThrottledCall.mqttConnect.wanted j.iteration = true)
    (hsynced : (step cfg s i).Synced) :
    Run.Meets (step cfg) (fun s i => s.reached cfg i.iteration .mqttConnect = true) s
        (later ++ [i]) ∧
      (Run.after (step cfg) s (later ++ [i])).Synced := by
  induction later with
  | nil =>
    have hi := hwanted i (by simp)
    have hsync := (step_timeSynchronized (ntpReady_of_wanted hi)).symm.trans hsynced.2
    exact ⟨⟨mqtt_reached hi hsync, trivial⟩, hsynced⟩
  | cons j later ih =>
    obtain ⟨hmeets, hrec⟩ := ih fun k hk => hwanted k (List.mem_cons_of_mem j hk)
    have hj := hwanted j List.mem_cons_self
    have hready := ntpReady_of_wanted hj
    have hsync := synchronized_of_synchronized cfg hready.2 hrec.1 hrec.2
    exact ⟨⟨mqtt_reached hj hsync, hmeets⟩, step_synced hready hrec⟩

/-- The calls of a run are those of its parts. -/
theorem callTimes_append {call : ThrottledCall} {later earlier : List TimedIteration} :
    callTimes cfg call s (later ++ earlier)
      = callTimes cfg call (Run.after (step cfg) s earlier) later
        ++ callTimes cfg call s earlier := by
  rw [callTimes, callers, Run.observed_append, List.map_append]
  rfl

/-- MQTT waits for NTP first. -/
theorem mqtt_made_within {gap : ℕ}
    (hroom : ThrottledCall.mqttConnect.delay cfg gap + gap ≤ 2 ^ 32)
    {iterations : List TimedIteration} (hne : iterations ≠ [])
    (hpolled : Throttle.Polled TimedIteration.time gap iterations)
    (hwanted : ∀ i ∈ iterations, ThrottledCall.mqttConnect.wanted i.iteration = true)
    (hlong : ThrottledCall.mqttConnect.delay cfg gap
      ≤ Throttle.elapsed TimedIteration.time iterations) :
    callTimes cfg .mqttConnect s iterations ≠ [] := by
  simp only [ThrottledCall.delay] at hroom hlong
  obtain ⟨later, i, earlier, rfl, hntp, hshort⟩ :=
    Throttle.exists_prefix (d := cfg.ntpCheckIntervalMs.toNat) hpolled hne (by omega)
  have hcheck : cfg.ntpCheckIntervalMs.toNat + gap ≤ 2 ^ 32 := by omega
  have hsynced := synced_within (s := s) hcheck (by simp)
    (List.IsChain.right_of_append hpolled)
    (fun j hj => ntpReady_of_wanted (hwanted j (List.mem_append_right later hj))) hntp
  -- the rest of the stretch, from the iteration on that synchronized the task
  rw [Throttle.elapsed_append] at hlong
  rw [List.append_cons] at hwanted hpolled ⊢
  have hwanted' : ∀ j ∈ later ++ [i], ThrottledCall.mqttConnect.wanted j.iteration = true :=
    fun j hj => hwanted j (List.mem_append_left earlier hj)
  have hinterval : (ThrottledCall.mqttConnect.interval cfg).toNat + gap ≤ 2 ^ 32 := by
    simp only [ThrottledCall.interval]
    omega
  have hmade := made_within hinterval (by simp)
    (List.IsChain.left_of_append hpolled) hwanted'
    (mqtt_reached_since hwanted' hsynced).1 (by simp only [ThrottledCall.interval]; omega)
  intro hnone
  rw [callTimes_append, List.append_eq_nil_iff] at hnone
  exact hmade hnone.1

/-- **The calls are made.** A stretch of iterations no further apart than `gap`
that all have reason for a call and that lasts its delay contains the call, in
whatever state the variables were before, the clock's wrap included. As seen from
the start of the stretch, the call can come up to one gap after the delay. -/
theorem calls_prompt (cfg : NetworkConfig) (call : ThrottledCall) (s : NetworkTask) (gap : ℕ)
    (hroom : call.delay cfg gap + gap ≤ 2 ^ 32) (iterations : List TimedIteration)
    (hne : iterations ≠ []) (hpolled : Throttle.Polled TimedIteration.time gap iterations)
    (hwanted : ∀ i ∈ iterations, call.wanted i.iteration = true)
    (hlong : call.delay cfg gap ≤ Throttle.elapsed TimedIteration.time iterations) :
    callTimes cfg call s iterations ≠ [] := by
  cases call with
  | mqttConnect => exact mqtt_made_within hroom hne hpolled hwanted hlong
  | wifiBegin =>
    exact made_within (by exact hroom) hne hpolled hwanted
      (meets_of_forall fun i hi s => hwanted i hi) hlong
  | blynkConnect =>
    exact made_within (by exact hroom) hne hpolled hwanted
      (meets_of_forall fun i hi s => hwanted i hi) hlong
  | blynkWrite =>
    refine made_within (by exact hroom) hne hpolled hwanted (meets_of_forall fun i hi s => ?_) hlong
    exact (Bool.and_eq_true_iff.mp (Bool.and_eq_true_iff.mp (hwanted i hi)).1).1
  | publishTelemetry =>
    refine made_within (by exact hroom) hne hpolled hwanted (meets_of_forall fun i hi s => ?_) hlong
    exact (Bool.and_eq_true_iff.mp (hwanted i hi)).1

/-- After the task has started, seven seconds are enough for an attempt. -/
theorem calls_prompt_mqtt :
    callTimes exampleNetwork .mqttConnect (.start exampleNetwork 0 0 0) (serversDownSince 200 7)
      ≠ [] :=
  calls_prompt exampleNetwork .mqttConnect (.start exampleNetwork 0 0 0) 1000 (by decide)
    (serversDownSince 200 7) (by simp [serversDownSince])
    (by unfold Throttle.Polled; decide +kernel) (by simp [serversDownSince]; decide)
    (by decide +kernel)

end NetworkTask

end EnergyController
