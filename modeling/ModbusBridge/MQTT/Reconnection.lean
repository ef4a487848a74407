import Mathlib.Algebra.Order.BigOperators.Group.List
import Mathlib.Data.List.Chain
import ModbusBridge.Library.Backoff
import ModbusBridge.MQTT.Connection

/-!
# The schedule of reconnections

The interval doubles with every failure up to five minutes, and is kept between two reconnections.
After ten failures one reconnection is spent on starting the count again.
-/

namespace ModbusBridge

namespace MQTTClient

open Backoff

variable {client : MQTTClient} {link : Link} {history : List Reconnection} {time : Nat}

/-! ## What a call does -/

theorem connect_cases (client : MQTTClient) (link : Link) :
    client.connect link =
      (true, { client with connectAttempts := 0, connectInterval := minConnectInterval }) ∨
    client.connect link = (false, client) := by
  rw [connect]
  split_ifs <;> simp

/-- What `reconnect` does: it gives up its turn, connects, or fails to. -/
theorem reconnect_cases (client : MQTTClient) (link : Link) :
    (client.connectAttempts + 1 > maxConnectAttempts ∧ client.reconnect link =
      ({ client with connectInterval := maxConnectInterval, connectAttempts := 0 }, none)) ∨
    (¬client.connectAttempts + 1 > maxConnectAttempts ∧ client.reconnect link =
      ({ client with connectAttempts := 0, connectInterval := minConnectInterval }, some true)) ∨
    (¬client.connectAttempts + 1 > maxConnectAttempts ∧ client.reconnect link =
      ({ client with connectAttempts := client.connectAttempts + 1 }.updateConnectInterval,
        some false)) := by
  rw [reconnect]
  dsimp only
  by_cases exhausted : client.connectAttempts + 1 > maxConnectAttempts
  · rw [if_pos exhausted]
    exact .inl ⟨exhausted, rfl⟩
  · rw [if_neg exhausted]
    right
    rcases connect_cases { client with connectAttempts := client.connectAttempts + 1 } link with
      connected | failed
    · rw [connected]
      exact .inl ⟨exhausted, rfl⟩
    · rw [failed]
      exact .inr ⟨exhausted, rfl⟩

/-- A call starts no reconnection and leaves the schedule, or starts one in due time. -/
theorem handleConnection_cases (client : MQTTClient) (link : Link) :
    let after := client.handleConnection link
    (client.reconnections link after.2 = [] ∧
      after.1.lastConnectAttempt = client.lastConnectAttempt ∧
      after.1.connectInterval = client.connectInterval ∧
      after.1.connectAttempts = client.connectAttempts) ∨
    (link.millis - client.lastConnectAttempt ≥ client.connectInterval ∧
      client.reconnections link after.2 =
        [⟨link.clock, client.connectInterval, (client.reconnect link).2⟩] ∧
      after.1 = { (client.reconnect link).1 with lastConnectAttempt := link.millis }) := by
  rw [handleConnection]
  split_ifs with _ _ _ _ elapsed
  all_goals first
    | exact .inl ⟨rfl, rfl, rfl, rfl⟩
    | exact .inr ⟨elapsed, rfl, rfl⟩

/-! ## Counters and clocks -/

theorem succ_gt_iff : ∀ count ≤ 10,
    Int32.ofNat count + 1 > maxConnectAttempts ↔ count = 10 := by
  decide

theorem ofNat_attempts : ∀ count ≤ 10,
    0 ≤ (Int32.ofNat count).toInt ∧ (Int32.ofNat count).toInt ≤ 10 := by
  decide

/-- The interval after one more failure. -/
theorem doubled {interval : UInt32} {failures : Nat}
    (waits : interval.toNat = wait 5000 300000 failures) :
    (min (interval * 2) maxConnectInterval).toNat = wait 5000 300000 (failures + 1) := by
  have bounded : interval.toNat ≤ 300000 := waits ▸ wait_le 5000 300000 failures
  have product : (interval * 2).toNat = interval.toNat * 2 := by
    rw [UInt32.toNat_mul]
    exact Nat.mod_eq_of_lt (show interval.toNat * 2 < 2 ^ 32 by omega)
  have cap : maxConnectInterval.toNat = 300000 := rfl
  rw [wait_succ, ← waits, ← product, ← cap]
  by_cases small : interval * 2 ≤ maxConnectInterval
  · have least : min (interval * 2) maxConnectInterval = interval * 2 := if_pos small
    rw [least, Nat.min_eq_left (UInt32.le_iff_toNat_le.mp small)]
  · have least : min (interval * 2) maxConnectInterval = maxConnectInterval := if_neg small
    rw [UInt32.le_iff_toNat_le] at small
    rw [least, Nat.min_eq_right (by omega)]

/-- What the wrapping clock measures has passed. -/
theorem elapsed_le {earlier later : Nat} (ordered : earlier ≤ later) {interval : UInt32}
    (elapsed : UInt32.ofNat later - UInt32.ofNat earlier ≥ interval) :
    earlier + interval.toNat ≤ later := by
  have difference : UInt32.ofNat later - UInt32.ofNat earlier = UInt32.ofNat (later - earlier) :=
    (UInt32.ofNat_sub ordered).symm
  rw [difference, ge_iff_le, UInt32.le_iff_toNat_le, UInt32.toNat_ofNat'] at elapsed
  have passed := elapsed.trans (Nat.mod_le _ _)
  omega

/-! ## Runs -/

/-- Each reconnection begins at least the interval of that time after the one before it. -/
def Spaced (history : List Reconnection) : Prop :=
  history.IsChain fun earlier later => earlier.clock + later.connectInterval.toNat ≤ later.clock

/-- A client after a run that ended at that time, told from the reconnections of the run. -/
structure Follows (time : Nat) (client : MQTTClient) (history : List Reconnection) : Prop where
  interval : client.connectInterval.toNat = wait 5000 300000 (streak (connections history))
  /-- The attempts counted are failures, and the last reconnections without exception. -/
  attempts : ∃ recent, recent <:+ history ∧ recent.length ≤ 10 ∧
    client.connectAttempts = Int32.ofNat recent.length ∧
    recent.length ≤ streak (connections history) ∧
    ∀ reconnection ∈ recent, reconnection.connects.isNone = false
  spaced : Spaced history
  apart : Apart (fun reconnection => reconnection.connects.isNone) 11 history
  last : ∀ last ∈ history.getLast?,
    client.lastConnectAttempt = UInt32.ofNat last.clock ∧ last.clock ≤ time

theorem follows_start (time : Nat) {client : MQTTClient}
    (interval : client.connectInterval = minConnectInterval)
    (attempts : client.connectAttempts = 0) : Follows time client [] where
  interval := by
    rw [interval]
    exact (wait_zero (show 5000 ≤ 300000 by decide)).symm
  attempts := ⟨[], List.suffix_rfl, by simp, by rw [attempts]; rfl, by simp, by simp⟩
  spaced := .nil
  apart := apart_nil _ _
  last := by simp

/-- The reconnection that a call starts in due time. -/
theorem Follows.spaced_concat (follows : Follows time client history) (ordered : time ≤ link.clock)
    (elapsed : link.millis - client.lastConnectAttempt ≥ client.connectInterval)
    (connects : Option Bool) :
    Spaced (history ++ [⟨link.clock, client.connectInterval, connects⟩]) := by
  refine List.IsChain.append follows.spaced (.singleton _) ?_
  rintro last ends next ⟨⟩
  obtain ⟨started, before⟩ := follows.last last ends
  rw [started] at elapsed
  exact elapsed_le (before.trans ordered) elapsed

theorem last_concat (history : List Reconnection) (last : Reconnection) :
    ∀ ends ∈ (history ++ [last]).getLast?,
      UInt32.ofNat last.clock = UInt32.ofNat ends.clock ∧ ends.clock ≤ last.clock := by
  rw [List.getLast?_concat]
  rintro ends ⟨⟩
  exact ⟨rfl, le_rfl⟩

/-- A pause leaves the streak of failures, a connection ends it, and a failure is one more. -/
theorem streak_connections_concat (history : List Reconnection) (last : Reconnection) :
    streak (connections (history ++ [last])) =
      match last.connects with
      | none => streak (connections history)
      | some true => 0
      | some false => streak (connections history) + 1 := by
  obtain ⟨clock, interval, connects⟩ := last
  rcases connects with - | connects
  · simp [connections_concat]
  · cases connects <;> simp [connections_concat, streak_concat]

/-- One more failure is counted behind the others. -/
theorem attempts_concat {recent : List Reconnection} {last : Reconnection}
    (ends : recent <:+ history) (few : recent.length < 10)
    (counted : client.connectAttempts = Int32.ofNat recent.length)
    (failed : recent.length ≤ streak (connections history))
    (called : ∀ reconnection ∈ recent, reconnection.connects.isNone = false)
    (lost : last.connects = some false) :
    ∃ recent, recent <:+ history ++ [last] ∧ recent.length ≤ 10 ∧
      client.connectAttempts + 1 = Int32.ofNat recent.length ∧
      recent.length ≤ streak (connections (history ++ [last])) ∧
      ∀ reconnection ∈ recent, reconnection.connects.isNone = false := by
  refine ⟨recent ++ [last], List.suffix_append_self_iff.mpr ends, ?_, ?_, ?_, ?_⟩
  · rw [List.length_append, List.length_singleton]
    omega
  · rw [counted, List.length_append]
    exact (Int32.ofNat_add recent.length 1).symm
  · rw [streak_connections_concat, lost, List.length_append, List.length_singleton]
    exact Nat.succ_le_succ failed
  · intro reconnection member
    rcases List.mem_append.mp member with earlier | now
    · exact called reconnection earlier
    · rw [List.mem_singleton.mp now, lost]
      rfl

variable (link) in
theorem Follows.reconnect (follows : Follows time client history) (ordered : time ≤ link.clock)
    (elapsed : link.millis - client.lastConnectAttempt ≥ client.connectInterval) :
    Follows link.clock { (client.reconnect link).1 with lastConnectAttempt := link.millis }
      (history ++ [⟨link.clock, client.connectInterval, (client.reconnect link).2⟩]) := by
  obtain ⟨recent, ends, few, counted, failed, called⟩ := follows.attempts
  have spaced := follows.spaced_concat ordered elapsed (client.reconnect link).2
  rcases reconnect_cases client link with ⟨exhausted, same⟩ | ⟨tried, same⟩ | ⟨tried, same⟩
  · rw [counted, succ_gt_iff _ few] at exhausted
    rw [same] at spaced ⊢
    refine ⟨?_, ?_, spaced, ?_, last_concat _ _⟩
    · rw [streak_connections_concat,
        wait_eq_cap (show 300000 ≤ 5000 * 2 ^ 10 by decide) (exhausted ▸ failed)]
      rfl
    · exact ⟨[], List.nil_suffix, by simp, rfl, by simp, by simp⟩
    · exact follows.apart.concat_rest ends (by omega) called
  · rw [same] at spaced ⊢
    refine ⟨?_, ?_, spaced, ?_, last_concat _ _⟩
    · rw [streak_connections_concat]
      exact (wait_zero (show 5000 ≤ 300000 by decide)).symm
    · exact ⟨[], List.nil_suffix, by simp, rfl, by simp, by simp⟩
    · exact follows.apart.concat_busy rfl
  · rw [counted, succ_gt_iff _ few] at tried
    rw [same] at spaced ⊢
    refine ⟨?_, ?_, spaced, ?_, last_concat _ _⟩
    · rw [streak_connections_concat]
      exact doubled follows.interval
    · exact attempts_concat ends (by omega) counted failed called rfl
    · exact follows.apart.concat_busy rfl

variable (link) in
theorem Follows.next (follows : Follows time client history) (ordered : time ≤ link.clock) :
    Follows link.clock (client.handleConnection link).1
      (history ++ client.reconnections link (client.handleConnection link).2) := by
  rcases handleConnection_cases client link with ⟨none, last, interval, attempts⟩ |
    ⟨elapsed, one, same⟩
  · rw [none, List.append_nil]
    refine ⟨?_, ?_, follows.spaced, follows.apart, ?_⟩
    · rw [interval, follows.interval]
    · rw [attempts]
      exact follows.attempts
    · rw [last]
      exact fun ends member => (follows.last ends member).imp_right ordered.trans'
  · rw [one, same]
    exact follows.reconnect link ordered elapsed

theorem Follows.later {later : Nat} (follows : Follows time client history)
    (ordered : time ≤ later) : Follows later client history :=
  { follows with last := fun ends member => (follows.last ends member).imp_right ordered.trans' }

theorem Follows.run (start : ∀ time, Follows time client []) (links : List Link)
    (ordered : links.Pairwise fun earlier later => earlier.clock ≤ later.clock) :
    ∀ time, (∀ link ∈ links, link.clock ≤ time) →
      Follows time (client.run links).1 (client.run links).2 := by
  induction links using List.reverseRecOn with
  | nil => exact fun time _ => start time
  | append_singleton links link induction =>
      intro time bounded
      obtain ⟨before, -, last⟩ := List.pairwise_append.mp ordered
      have follows := induction before link.clock fun earlier member =>
        last earlier member link (List.mem_singleton_self link)
      rw [run_concat]
      exact (follows.next link le_rfl).later (bounded link (by simp))

/-- Reconnection follows its schedule, whatever the links and the brokers do. -/
theorem reconnection_schedule (lib : ArduinoJson) (config : Config) (links : List Link)
    (ordered : links.Pairwise fun earlier later => earlier.clock ≤ later.clock) :
    let after := (begin lib config create).2.run links
    after.1.connectInterval.toNat =
      min (5000 * 2 ^ streak (connections after.2)) 300000 ∧
    0 ≤ after.1.connectAttempts.toInt ∧ after.1.connectAttempts.toInt ≤ 10 ∧
    Spaced after.2 ∧
    ∀ part, part <:+: after.2 → part.length = 11 →
      10 ≤ part.countP fun reconnection => reconnection.connects.isSome := by
  have start : ∀ time, Follows time (begin lib config create).2 [] := by
    intro time
    rw [begin]
    split_ifs <;> exact follows_start time rfl rfl
  have bounded : ∀ link ∈ links, link.clock ≤ (links.map Link.clock).sum :=
    fun link member => List.le_sum_of_mem (List.mem_map_of_mem member)
  have follows := Follows.run start links ordered _ bounded
  obtain ⟨recent, -, few, counted, -⟩ := follows.attempts
  dsimp only
  rw [counted]
  obtain ⟨nonneg, small⟩ := ofNat_attempts _ few
  refine ⟨follows.interval, nonneg, small, follows.spaced, ?_⟩
  intro part inside eleven
  have rests := follows.apart part inside eleven.le
  have none : part.countP (fun reconnection => decide ¬reconnection.connects.isSome = true) =
      part.countP fun reconnection => reconnection.connects.isNone :=
    List.countP_congr (by simp)
  have all := part.length_eq_countP_add_countP fun reconnection => reconnection.connects.isSome
  omega

/-- A link over which no broker is reached. -/
def unreachable (clock : Nat) : Link where
  connected := true
  apMode := false
  clock := clock
  session := false
  stillConnected := true
  stillAPMode := false
  reachable := false
  simple := false
  withWill := false

/-- Two failures, across the wrap of the clock. -/
theorem reconnection_schedule_wrap :
    let after := (begin (flatJson []) ⟨ascii "/config.json",
      .object [(ascii "mqtt_broker", .string (ascii "broker.lan"))], true⟩ create).2.run
        [unreachable 4294967000, unreachable 4294977000]
    after.1.connectInterval.toNat =
      min (5000 * 2 ^ streak (connections after.2)) 300000 ∧
    0 ≤ after.1.connectAttempts.toInt ∧ after.1.connectAttempts.toInt ≤ 10 ∧
    Spaced after.2 ∧
    ∀ part, part <:+: after.2 → part.length = 11 →
      10 ≤ part.countP fun reconnection => reconnection.connects.isSome :=
  reconnection_schedule (flatJson []) ⟨ascii "/config.json",
    .object [(ascii "mqtt_broker", .string (ascii "broker.lan"))], true⟩
    [unreachable 4294967000, unreachable 4294977000] (by simp [unreachable])

end MQTTClient

end ModbusBridge
