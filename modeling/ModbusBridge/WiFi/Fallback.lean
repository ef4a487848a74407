import ModbusBridge.WiFi.WiFiManager

/-!
# The fallback at run time

After more than ten failed reconnections the manager starts its access point and stays there. The
counter of the failures belongs to no outage in particular: a link that comes back by itself leaves
it as it is.
-/

namespace ModbusBridge

namespace WiFiManager

/-! ## What a call comes to -/

/-- What a call of `handleConnection` comes to. -/
inductive Outcome
  | idle
  /-- It observes that the station is connected. -/
  | seen
  /-- It calls `reconnect`, which fails to connect. -/
  | failed
  /-- It calls `reconnect`, which connects. -/
  | joined
  deriving DecidableEq

variable (lib : ArduinoJson) (config : Config)

/-- A call of `reconnect` that connects, which it only tries while attempts are left. -/
def Joins (manager : WiFiManager) (air : Air) : Prop :=
  ¬ manager.reconnectAttempts + 1 > maxReconnectAttempts ∧
    config.getString lib (ascii "wifi_ssid") [] ≠ [] ∧ air.associated = true

instance (manager : WiFiManager) (air : Air) : Decidable (Joins lib config manager air) :=
  inferInstanceAs (Decidable (_ ∧ _ ∧ _))

/-- What the next call of `handleConnection` comes to. -/
def outcome (manager : WiFiManager) (air : Air) : Outcome :=
  if !manager.initialized ∨ manager.apMode then .idle
  else if air.linked then .seen
  else if air.now - manager.lastReconnectAttempt ≥ manager.reconnectInterval then
    if Joins lib config manager air then .joined else .failed
  else .idle

/-! ## Histories -/

/-- A manager with the outcomes of all calls so far, oldest first. -/
structure History where
  manager : WiFiManager
  outcomes : List Outcome

/-- The manager under its calls, with a history. -/
def remembering : StepSystem History Call where
  start := ⟨create, []⟩
  next history
    | .begin air =>
        some ⟨(begin lib config history.manager air).2.1, history.outcomes⟩
    | .handleConnection air =>
        some ⟨(handleConnection lib config history.manager air).1,
          history.outcomes ++ [outcome lib config history.manager air]⟩

/-- A success wipes out what is pending, and a failure starts it. -/
def note (pending : List Outcome) (outcome : Outcome) : List Outcome :=
  if outcome = .joined then []
  else if pending = [] ∧ outcome ≠ .failed then []
  else pending ++ [outcome]

/-- The outcomes from the first failure on that no success has wiped out. -/
def pending (outcomes : List Outcome) : List Outcome := outcomes.foldl note []

/-- The failures that are pending are more than allowed, and lie in one outage. -/
structure OneOutage (outcomes : List Outcome) : Prop where
  many : 10 < (pending outcomes).count .failed
  unlinked : .seen ∉ pending outcomes

/-- The call starts the access point. -/
def StartsAP (manager : WiFiManager) (air : Air) : Prop :=
  manager.apMode = false ∧ (handleConnection lib config manager air).1.apMode = true

/-- A call does not observe the link while failures are pending, unless there is no access point to
fall back to. -/
def Unhealed (history : History) : Call → Prop
  | .begin _ => True
  | .handleConnection air =>
      config.getBool (ascii "ap_enabled") true = true →
        outcome lib config history.manager air = .seen → pending history.outcomes = []

variable {lib config}

@[simp] theorem pending_concat (outcomes : List Outcome) (outcome : Outcome) :
    pending (outcomes ++ [outcome]) = note (pending outcomes) outcome := by
  simp [pending]

theorem count_note (pending : List Outcome) {outcome : Outcome} (apart : outcome ≠ .joined) :
    (note pending outcome).count .failed =
      pending.count .failed + if outcome = .failed then 1 else 0 := by
  rw [note]
  rw [if_neg apart]
  by_cases none : pending = [] ∧ outcome ≠ .failed
  · rw [if_pos none, none.1, if_neg none.2]
    rfl
  · rw [if_neg none, List.count_append, List.count_singleton]
    simp

theorem seen_note {pending : List Outcome} {outcome : Outcome} (unlinked : .seen ∉ pending)
    (healed : outcome = .seen → pending = []) : .seen ∉ note pending outcome := by
  rw [note]
  split_ifs with joined none
  · exact List.not_mem_nil
  · exact List.not_mem_nil
  · rw [List.mem_append, List.mem_singleton]
    rintro (before | now)
    · exact unlinked before
    · exact none ⟨healed now.symm, by simp [← now]⟩

/-! ## The counter -/

@[simp] theorem setupNTP_reconnectAttempts (manager : WiFiManager) (air : Air) :
    (manager.setupNTP air).reconnectAttempts = manager.reconnectAttempts := by
  rw [setupNTP]
  split_ifs <;> rfl

@[simp] theorem setupNTP_apMode (manager : WiFiManager) (air : Air) :
    (manager.setupNTP air).apMode = manager.apMode := by
  rw [setupNTP]
  split_ifs <;> rfl

@[simp] theorem setupNTP_initialized (manager : WiFiManager) (air : Air) :
    (manager.setupNTP air).initialized = manager.initialized := by
  rw [setupNTP]
  split_ifs <;> rfl

/-- Looking at a link that is up changes neither the counter nor the mode. -/
theorem handleConnection_linked {manager : WiFiManager} {air : Air}
    (initialized : manager.initialized = true) (station : manager.apMode = false)
    (linked : air.linked = true) :
    (handleConnection lib config manager air).1.reconnectAttempts = manager.reconnectAttempts ∧
      (handleConnection lib config manager air).1.apMode = false := by
  rw [handleConnection]
  rw [if_neg (by simp [initialized]), if_neg (by simp [station]), if_neg (by simp [linked])]
  dsimp only
  split_ifs <;> simp [station]

/-- What `connectSTA` makes of the manager. -/
theorem connectSTA_spec (manager : WiFiManager) (air : Air) :
    let joined := connectSTA lib config manager air
    (joined.1 = true ↔
        config.getString lib (ascii "wifi_ssid") [] ≠ [] ∧ air.associated = true) ∧
      joined.2.reconnectAttempts = (if joined.1 then 0 else manager.reconnectAttempts) ∧
      (manager.apMode = false → joined.2.apMode = false) ∧
      joined.2.initialized = manager.initialized := by
  rw [connectSTA]
  by_cases named : config.getString lib (ascii "wifi_ssid") [] = []
  · simp [named]
  · by_cases associated : air.associated = true <;> simp [named, associated]

/-- A call of `reconnect` clears the counter if it connects, and otherwise adds one. -/
theorem reconnect_attempts (manager : WiFiManager) (air : Air) :
    (reconnect lib config manager air).1.reconnectAttempts =
      if Joins lib config manager air then 0 else manager.reconnectAttempts + 1 := by
  rw [reconnect]
  dsimp only
  by_cases exhausted : manager.reconnectAttempts + 1 > maxReconnectAttempts
  · have fails : ¬ Joins lib config manager air := fun joins => joins.1 exhausted
    rw [if_pos exhausted, if_neg fails]
    rw [startAP]
    split_ifs <;> rfl
  · rw [if_neg exhausted]
    obtain ⟨joins, attempts, -, -⟩ := @connectSTA_spec lib config
      { manager with reconnectAttempts := manager.reconnectAttempts + 1 } air
    have same : Joins lib config manager air ↔ (connectSTA lib config
        { manager with reconnectAttempts := manager.reconnectAttempts + 1 } air).1 = true :=
      (and_iff_right exhausted).trans joins.symm
    rw [if_congr same rfl rfl, ← attempts]
    split_ifs <;> rfl

/-- A call of `reconnect` leaves an access point only when the attempts are exhausted. -/
theorem reconnect_apMode {manager : WiFiManager} {air : Air} (station : manager.apMode = false)
    (starts : (reconnect lib config manager air).1.apMode = true) :
    config.getBool (ascii "ap_enabled") true = true ∧
      manager.reconnectAttempts + 1 > maxReconnectAttempts := by
  rw [reconnect] at starts
  dsimp only at starts
  by_cases exhausted : manager.reconnectAttempts + 1 > maxReconnectAttempts
  · rw [if_pos exhausted] at starts
    refine ⟨?_, exhausted⟩
    by_contra disabled
    rw [if_neg disabled] at starts
    exact Bool.false_ne_true (station.symm.trans starts)
  · exfalso
    rw [if_neg exhausted] at starts
    obtain ⟨-, -, kept, -⟩ := @connectSTA_spec lib config
      { manager with reconnectAttempts := manager.reconnectAttempts + 1 } air
    have still := kept station
    split_ifs at starts
    · exact Bool.false_ne_true (still.symm.trans starts)
    · exact Bool.false_ne_true (still.symm.trans starts)

theorem reconnect_initialized (manager : WiFiManager) (air : Air) :
    (reconnect lib config manager air).1.initialized = manager.initialized := by
  rw [reconnect, startAP]
  obtain ⟨-, -, -, kept⟩ := @connectSTA_spec lib config
    { manager with reconnectAttempts := manager.reconnectAttempts + 1 } air
  dsimp only at kept ⊢
  split_ifs
  · rfl
  · rfl
  · rfl
  · exact kept
  · exact kept

@[simp] theorem handleConnection_initialized (manager : WiFiManager) (air : Air) :
    (handleConnection lib config manager air).1.initialized = manager.initialized := by
  rw [handleConnection]
  dsimp only
  split_ifs <;> simp [reconnect_initialized]

/-- The counter after a call, told from its outcome. -/
theorem handleConnection_attempts (manager : WiFiManager) (air : Air) :
    (handleConnection lib config manager air).1.reconnectAttempts =
      match outcome lib config manager air with
      | .idle | .seen => manager.reconnectAttempts
      | .failed => manager.reconnectAttempts + 1
      | .joined => 0 := by
  rw [outcome]
  cases initialized : manager.initialized with
  | false => simp [handleConnection, initialized]
  | true =>
      cases station : manager.apMode with
      | true => simp [handleConnection, initialized, station]
      | false =>
          cases linked : air.linked with
          | true => simpa using (handleConnection_linked initialized station linked).1
          | false =>
              by_cases elapsed : air.now - manager.lastReconnectAttempt ≥ manager.reconnectInterval
              · have attempts := @reconnect_attempts lib config manager air
                by_cases joins : Joins lib config manager air <;>
                  simpa [handleConnection, initialized, station, linked, elapsed, joins] using
                    attempts
              · simp [handleConnection, initialized, station, linked, elapsed]

/-- Only a failure beyond the allowed ones starts the access point. -/
theorem StartsAP.exhausted {manager : WiFiManager} {air : Air}
    (starts : StartsAP lib config manager air) :
    config.getBool (ascii "ap_enabled") true = true ∧
      outcome lib config manager air = .failed ∧
        manager.reconnectAttempts + 1 > maxReconnectAttempts := by
  obtain ⟨station, after⟩ := starts
  cases initialized : manager.initialized with
  | false => simp [handleConnection, initialized, station] at after
  | true =>
      cases linked : air.linked with
      | true =>
          rw [(handleConnection_linked initialized station linked).2] at after
          exact absurd after Bool.false_ne_true
      | false =>
          by_cases elapsed : air.now - manager.lastReconnectAttempt ≥ manager.reconnectInterval
          · have reconnected : (reconnect lib config manager air).1.apMode = true := by
              simpa [handleConnection, initialized, station, linked, elapsed] using after
            obtain ⟨enabled, exhausted⟩ := reconnect_apMode station reconnected
            refine ⟨enabled, ?_, exhausted⟩
            have fails : ¬ Joins lib config manager air := fun joins => joins.1 exhausted
            simp [outcome, initialized, station, linked, elapsed, fails]
          · simp [handleConnection, initialized, station, linked, elapsed] at after

/-! ## Runs -/

/-- The counter counts what is pending. -/
structure Counted (history : History) : Prop where
  attempts : history.manager.reconnectAttempts =
    Int32.ofNat ((pending history.outcomes).count .failed)
  idle : history.manager.initialized = false → history.manager.reconnectAttempts = 0

theorem many_of_exhausted {count : Nat}
    (exhausted : Int32.ofNat count + 1 > maxReconnectAttempts) : 10 < count + 1 := by
  by_contra few
  exact absurd ((ofNat_succ_gt_iff (by omega)).mp exhausted) (by omega)

theorem Counted.begin {history : History} (counted : Counted history) (air : Air) :
    Counted ⟨(begin lib config history.manager air).2.1, history.outcomes⟩ := by
  obtain ⟨-, attempts, -, -⟩ := @connectSTA_spec lib config history.manager air
  rw [WiFiManager.begin]
  cases initialized : history.manager.initialized with
  | true => exact ⟨counted.attempts, fun idle => by simp [initialized] at idle⟩
  | false =>
      have none := counted.idle initialized
      have count := counted.attempts
      rw [none] at attempts count
      rw [ite_self] at attempts
      rw [if_neg Bool.false_ne_true]
      dsimp only
      split_ifs
      · exact ⟨attempts.trans count, fun idle => (Bool.false_ne_true idle.symm).elim⟩
      · refine ⟨?_, fun idle => (Bool.false_ne_true idle.symm).elim⟩
        rw [startAP]
        split_ifs <;> exact attempts.trans count
      · exact ⟨attempts.trans count, fun idle => (Bool.false_ne_true idle.symm).elim⟩

theorem Counted.handleConnection {history : History} (counted : Counted history) (air : Air) :
    Counted ⟨(handleConnection lib config history.manager air).1,
      history.outcomes ++ [outcome lib config history.manager air]⟩ := by
  have count := counted.attempts
  constructor
  · rw [handleConnection_attempts]
    dsimp only
    rw [pending_concat]
    cases comes : outcome lib config history.manager air with
    | idle | seen | failed =>
        rw [count_note _ (by simp)]
        simp [count]
    | joined => rfl
  · intro idle
    rw [handleConnection_initialized] at idle
    simpa [WiFiManager.handleConnection, idle] using counted.idle idle

theorem Counted.reached {Allowed : History → Call → Prop} {history : History}
    (reach : (remembering lib config).Reaches Allowed history) : Counted history := by
  refine reach.invariant ⟨rfl, fun _ => rfl⟩ fun before call after counted _ moves => ?_
  cases call with
  | begin air => exact Option.some.inj moves ▸ counted.begin air
  | handleConnection air => exact Option.some.inj moves ▸ counted.handleConnection air

/-- No link has been seen while failures are pending. -/
def Unlinked (history : History) : Prop := .seen ∉ pending history.outcomes

/-- With an access point to fall back to, no link is seen while failures are pending. -/
theorem unlinked_reached (enabled : config.getBool (ascii "ap_enabled") true = true)
    {history : History} (reach : (remembering lib config).Reaches (Unhealed lib config) history) :
    .seen ∉ pending history.outcomes := by
  suffices unlinked : Unlinked history from unlinked
  refine reach.invariant List.not_mem_nil fun before call after unlinked healed moves => ?_
  cases call with
  | begin air => exact Option.some.inj moves ▸ unlinked
  | handleConnection air =>
      obtain rfl := Option.some.inj moves
      rw [Unlinked, pending_concat]
      exact seen_note unlinked (healed enabled)

/-- In a run whose calls never observe the link while failures are pending, a call that starts the
access point ends one outage with more than ten failures. -/
theorem fallback_ends_outage {history : History}
    (reach : (remembering lib config).Reaches (Unhealed lib config) history) {air : Air}
    (starts : StartsAP lib config history.manager air) :
    OneOutage (history.outcomes ++ [outcome lib config history.manager air]) := by
  obtain ⟨enabled, failed, exhausted⟩ := starts.exhausted
  rw [failed]
  constructor
  · rw [pending_concat, count_note _ (by simp)]
    rw [(Counted.reached reach).attempts] at exhausted
    simpa using many_of_exhausted exhausted
  · rw [pending_concat]
    exact seen_note (unlinked_reached enabled reach) (fun seen => by simp at seen)

instance (manager : WiFiManager) (air : Air) : Decidable (StartsAP lib config manager air) :=
  inferInstanceAs (Decidable (_ ∧ _))

instance (outcomes : List Outcome) : Decidable (OneOutage outcomes) :=
  decidable_of_iff (10 < (pending outcomes).count .failed ∧ .seen ∉ pending outcomes)
    ⟨fun ⟨many, unlinked⟩ => ⟨many, unlinked⟩, fun outage => ⟨outage.many, outage.unlinked⟩⟩

instance (history : History) (call : Call) : Decidable (Unhealed lib config history call) :=
  match call with
  | .begin _ => .isTrue trivial
  | .handleConnection _ => inferInstanceAs (Decidable (_ → _ → _))

/-- The link is down when the next attempt is due, some days after the start. -/
def downOnDay (day : Nat) : Air where
  linked := false
  now := UInt32.ofNat (86400000 * day)
  associated := false
  steady := false
  timed := false
  softAP := true
  localIP := 0

/-- The driver has restored the link a minute later. -/
def upOnDay (day : Nat) : Air :=
  { downOnDay day with linked := true, now := (downOnDay day).now + 60000, localIP := 1 }

/-- A network, and everything else as it is by default. -/
def home : Config :=
  ⟨ascii "/config.json", .object [(ascii "wifi_ssid", .string (ascii "home"))], true⟩

/-- The station connects at the start. Some outages follow, a day apart. -/
def outages (each : Nat → List Air) (days : Nat) : List Call :=
  .begin { downOnDay 0 with associated := true } ::
    ((List.range' 1 days).flatMap each).map .handleConnection

theorem fallback_ends_outage_home : ∃ history : History,
    StartsAP (flatJson []) home history.manager (downOnDay 11) ∧
      OneOutage (history.outcomes ++
        [outcome (flatJson []) home history.manager (downOnDay 11)]) := by
  have fresh : (remembering (flatJson []) home).Reaches (Unhealed (flatJson []) home) _ := .start
  obtain ⟨last, reach, starts⟩ := fresh.test (outages (fun day => [downOnDay day]) 10)
    (fun last => StartsAP (flatJson []) home last.manager (downOnDay 11)) (by decide +kernel)
  have starts := of_decide_eq_true starts
  exact ⟨last, starts, fallback_ends_outage reach starts⟩

/-- Ten outages that the driver heals after one failure each, and the next failure starts the access
point. -/
theorem healed_outages_start_ap : ∃ history,
    (remembering (flatJson []) home).Reaches (fun _ _ => True) history ∧
      history.outcomes = (List.replicate 10 [Outcome.failed, .seen]).flatten ∧
      StartsAP (flatJson []) home history.manager (downOnDay 11) ∧
      ¬ OneOutage (history.outcomes ++
        [outcome (flatJson []) home history.manager (downOnDay 11)]) := by
  have fresh : (remembering (flatJson []) home).Reaches (fun _ _ => True) _ := .start
  obtain ⟨last, reach, facts⟩ := fresh.test
    (outages (fun day => [downOnDay day, upOnDay day]) 10)
    (fun last => last.outcomes = (List.replicate 10 [Outcome.failed, .seen]).flatten ∧
      StartsAP (flatJson []) home last.manager (downOnDay 11) ∧
      ¬ OneOutage (last.outcomes ++ [outcome (flatJson []) home last.manager (downOnDay 11)]))
    (by decide +kernel)
  exact ⟨last, reach, of_decide_eq_true facts⟩

end WiFiManager

end ModbusBridge
