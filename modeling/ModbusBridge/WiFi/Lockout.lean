import ModbusBridge.WiFi.WiFiManager

/-!
# Lock-out

A manager is locked out when it neither tries to connect nor starts its access point, however long
the link is down. Whether that can happen depends on one setting.
-/

namespace ModbusBridge

namespace WiFiManager

variable (lib : ArduinoJson) (config : Config)

/-- Calls made with the link down, the interval over and a radio that would start an access point,
none of which calls `connectSTA` or leaves an access point. -/
def Silent : WiFiManager → List Air → Prop
  | _, [] => True
  | manager, air :: airs =>
      let after := handleConnection lib config manager air
      air.linked = false ∧
        air.now - manager.lastReconnectAttempt ≥ manager.reconnectInterval ∧
        air.softAP = true ∧
        .connectSTA ∉ after.2 ∧ after.1.apMode = false ∧ Silent after.1 airs

/-- Eleven silent calls in a row are possible. -/
def LockedOut (manager : WiFiManager) : Prop :=
  manager.initialized = true ∧ manager.apMode = false ∧
    ∃ airs : List Air, airs.length = 11 ∧ Silent lib config manager airs

/-! ## With the access point -/

variable {lib config}

/-- With the access point enabled, a reconnection does one or the other. -/
theorem reconnect_acts (enabled : config.getBool (ascii "ap_enabled") true = true)
    (manager : WiFiManager) {air : Air} (softAP : air.softAP = true) :
    .connectSTA ∈ (reconnect lib config manager air).2 ∨
      (reconnect lib config manager air).1.apMode = true := by
  rw [reconnect]
  dsimp only
  by_cases exhausted : manager.reconnectAttempts + 1 > maxReconnectAttempts
  · right
    simp [exhausted, enabled, startAP, softAP]
  · left
    simp [exhausted]

theorem not_silent (enabled : config.getBool (ascii "ap_enabled") true = true)
    {manager : WiFiManager} (initialized : manager.initialized = true)
    (station : manager.apMode = false) (air : Air) (airs : List Air) :
    ¬ Silent lib config manager (air :: airs) := by
  rintro ⟨down, elapsed, softAP, noConnect, noAP, -⟩
  rw [handleConnection] at noConnect noAP
  rw [if_neg (by simp [initialized]), if_neg (by simp [station]), if_pos (by simp [down]),
    if_pos elapsed] at noConnect noAP
  rcases reconnect_acts enabled manager softAP with connects | starts
  · exact noConnect connects
  · exact Bool.noConfusion (noAP.symm.trans starts)

/-! ## Without the access point -/

/-- The link is down when the interval is just over, and does not come back. -/
def outage (manager : WiFiManager) : Air where
  linked := false
  now := manager.lastReconnectAttempt + manager.reconnectInterval
  associated := false
  steady := false
  timed := false
  softAP := true
  localIP := 0

/-- An initialized station that has tried to reconnect that often. -/
structure Tried (count : Nat) (manager : WiFiManager) : Prop where
  initialized : manager.initialized = true
  station : manager.apMode = false
  attempts : manager.reconnectAttempts = Int32.ofNat count

theorem elapsed_outage (manager : WiFiManager) :
    (outage manager).now - manager.lastReconnectAttempt ≥ manager.reconnectInterval := by
  rw [outage, UInt32.add_comm, UInt32.add_sub_cancel]
  exact UInt32.le_refl _

theorem handleConnection_outage {count : Nat} {manager : WiFiManager}
    (tried : Tried count manager) :
    handleConnection lib config manager (outage manager) =
      ({ (reconnect lib config manager (outage manager)).1 with
          lastReconnectAttempt := (outage manager).now },
        (reconnect lib config manager (outage manager)).2) := by
  rw [handleConnection]
  rw [if_neg (by simp [tried.initialized]), if_neg (by simp [tried.station]),
    if_pos (by simp [outage]), if_pos (elapsed_outage manager)]

variable (lib) in
theorem connectSTA_of_not_associated (manager : WiFiManager) {air : Air}
    (fails : air.associated = false) : connectSTA lib config manager air = (false, manager) := by
  rw [connectSTA]
  simp [fails]

variable (lib) in
theorem Tried.next {count : Nat} {manager : WiFiManager} (tried : Tried count manager)
    (disabled : config.getBool (ascii "ap_enabled") true = false) (small : count + 1 < 2 ^ 31) :
    Tried (count + 1) (handleConnection lib config manager (outage manager)).1 ∧
      (10 ≤ count → (handleConnection lib config manager (outage manager)).2 = []) := by
  have next : manager.reconnectAttempts + 1 = Int32.ofNat (count + 1) := by
    rw [tried.attempts]
    exact (Int32.ofNat_add count 1).symm
  have exhausted : manager.reconnectAttempts + 1 > maxReconnectAttempts ↔ 10 ≤ count := by
    rw [tried.attempts, ofNat_succ_gt_iff small]
  rw [handleConnection_outage tried]
  rw [reconnect]
  dsimp only
  by_cases many : 10 ≤ count
  · rw [if_pos (exhausted.mpr many), if_neg (by simp [disabled])]
    exact ⟨⟨tried.initialized, tried.station, next⟩, fun _ => rfl⟩
  · rw [if_neg (mt exhausted.mp many)]
    rw [connectSTA_of_not_associated lib _ rfl]
    exact ⟨⟨tried.initialized, tried.station, next⟩, fun enough => (many enough).elim⟩

variable (lib) in
/-- Ten failures exhaust the attempts. -/
theorem exists_tried (disabled : config.getBool (ascii "ap_enabled") true = false) (count : Nat)
    (few : count ≤ 10) : ∃ manager, Reachable lib config manager ∧ Tried count manager := by
  induction count with
  | zero =>
      refine ⟨_, reachable_begin (outage create), ?_⟩
      rw [begin]
      rw [if_neg (by decide), connectSTA_of_not_associated lib _ rfl]
      simp only [disabled, Bool.false_eq_true, if_false]
      exact ⟨rfl, rfl, rfl⟩
  | succ count induction =>
      obtain ⟨manager, reachable, tried⟩ := induction (by omega)
      exact ⟨_, reachable.handleConnection (outage manager),
        (tried.next lib disabled (by omega)).1⟩

variable (lib) in
/-- After that, every call is silent. -/
theorem exists_silent (disabled : config.getBool (ascii "ap_enabled") true = false) (calls : Nat) :
    ∀ {count : Nat} {manager : WiFiManager}, Tried count manager → 10 ≤ count →
      count + calls < 2 ^ 31 → ∃ airs : List Air, airs.length = calls ∧
        Silent lib config manager airs := by
  induction calls with
  | zero => exact fun _ _ _ => ⟨[], rfl, trivial⟩
  | succ calls induction =>
      intro count manager tried exhausted small
      obtain ⟨next, quiet⟩ := tried.next lib disabled (by omega)
      obtain ⟨airs, length, silent⟩ := induction next (by omega) (by omega)
      refine ⟨outage manager :: airs, by simp [length], rfl, elapsed_outage manager, rfl, ?_,
        next.station, silent⟩
      rw [quiet exhausted]
      exact List.not_mem_nil

variable (lib) in
theorem exists_lockedOut (disabled : config.getBool (ascii "ap_enabled") true = false) :
    ∃ manager, Reachable lib config manager ∧ LockedOut lib config manager := by
  obtain ⟨manager, reachable, tried⟩ := exists_tried lib disabled 10 le_rfl
  obtain ⟨airs, length, silent⟩ := exists_silent lib disabled 11 tried le_rfl (by decide)
  exact ⟨manager, reachable, tried.initialized, tried.station, airs, length, silent⟩

/-- No reachable state is locked out if and only if the access point is enabled. -/
theorem never_lockedOut_iff (lib : ArduinoJson) (config : Config) :
    (∀ manager, Reachable lib config manager → ¬ LockedOut lib config manager) ↔
      config.getBool (ascii "ap_enabled") true = true := by
  constructor
  · intro never
    by_contra disabled
    rw [Bool.not_eq_true] at disabled
    obtain ⟨manager, reachable, lockedOut⟩ := exists_lockedOut lib disabled
    exact never manager reachable lockedOut
  · rintro enabled manager - ⟨initialized, station, airs, length, silent⟩
    cases airs with
    | nil => exact absurd length (by decide)
    | cons air airs => exact not_silent enabled initialized station air airs silent

/-- A network, and no access point to fall back to. -/
def stationOnly : Config :=
  ⟨ascii "/config.json", .object [(ascii "wifi_ssid", .string (ascii "home")),
    (ascii "ap_enabled", .boolean false)], true⟩

theorem stationOnly_lockedOut :
    stationOnly.getString (flatJson []) (ascii "wifi_ssid") [] ≠ [] ∧
      ∃ manager, Reachable (flatJson []) stationOnly manager ∧
        LockedOut (flatJson []) stationOnly manager :=
  ⟨by decide +kernel, exists_lockedOut _ (by decide +kernel)⟩

end WiFiManager

end ModbusBridge
