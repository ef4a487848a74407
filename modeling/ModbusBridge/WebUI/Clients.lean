import Mathlib.Data.Fintype.Card
import ModbusBridge.Library.StepSystem
import ModbusBridge.Text

/-!
# The table of WebSocket clients

Events of the WebSocket library add clients to a table of three slots and remove them. A client that
connects replaces the older one from its address, which the library is asked to disconnect: the end
of that connection is an event as well, in the middle of the handler or later.

The handlers log lines, which are broadcast to the clients. A broadcast may find that connections
have ended, and the library tells each end at once, again in the middle of a handler. It tells the
end of a connection before its number is used again.
-/

namespace ModbusBridge

namespace WebUI

/-! ## The table -/

/-- `MAX_WEBSOCKET_CLIENTS`. -/
def maxWebSocketClients : Nat := 3

/-- The number of a slot. -/
abbrev Slot := Fin maxWebSocketClients

/-- `WebUI::WebSocketClient`. -/
structure WebSocketClient where
  id : UInt8
  connected : Bool
  lastPing : UInt32
  remoteIP : UInt32
  connectTime : UInt32
  messageCount : UInt32

/-- The clients of `WebUI`. -/
structure ClientTable where
  wsClients : Slot → WebSocketClient
  connectedClients : Int

namespace ClientTable

/-- The table after the constructor of `WebUI`. -/
def initial : ClientTable where
  wsClients _ := ⟨255, false, 0, 0, 0, 0⟩
  connectedClients := 0

/-- The first slot whose client passes a test. -/
def first (table : ClientTable) (passes : WebSocketClient → Bool) : Option Slot :=
  (List.finRange maxWebSocketClients).find? fun i => passes (table.wsClients i)

/-- `addWebSocketClient`. -/
def addWebSocketClient (table : ClientTable) (clientId : UInt8) (ip now : UInt32) : ClientTable :=
  match table.first fun client => !client.connected with
  | none => table
  | some i =>
      { wsClients := Function.update table.wsClients i ⟨clientId, true, now, ip, now, 0⟩
        connectedClients := table.connectedClients + 1 }

/-- `removeWebSocketClient`. -/
def removeWebSocketClient (table : ClientTable) (clientId : UInt8) : ClientTable :=
  match table.first fun client => client.id == clientId && client.connected with
  | none => table
  | some i =>
      let removed := { table.wsClients i with connected := false, id := 255 }
      { wsClients := Function.update table.wsClients i removed
        connectedClients := table.connectedClients - 1 }

/-- The first slot of a connected client is changed. -/
def modifyClient (table : ClientTable) (num : UInt8)
    (change : WebSocketClient → WebSocketClient) : ClientTable :=
  match table.first fun client => client.id == num && client.connected with
  | none => table
  | some i =>
      { table with wsClients := Function.update table.wsClients i (change (table.wsClients i)) }

/-- `cleanupDisconnectedClients`. -/
def cleanupDisconnectedClients (table : ClientTable) (now : UInt32) : ClientTable :=
  { table with
    wsClients := fun i =>
      let client := table.wsClients i
      if client.connected ∧ now - client.lastPing > 3600000 then
        { client with lastPing := now, messageCount := 0 }
      else client }

end ClientTable

/-! ## Ends of connections -/

/-- The table, and what the library has told. -/
structure ClientState where
  table : ClientTable
  /-- The connections whose end has not been told yet. -/
  live : UInt8 → Bool
  /-- The address of a client that has just been entered, while older ones may still have it. -/
  connecting : Option UInt32
  /-- The tables after the events in the middle of a handler. With an end that a broadcast has told
  stands the address of the client that was connecting. -/
  told : List (Option UInt32 × ClientTable)

namespace ClientState

/-- A log line. It is broadcast if there are clients. -/
def logLine (broadcast : ClientState → ClientState) (state : ClientState) : ClientState :=
  if state.table.connectedClients = 0 then state else broadcast state

/-- `removeWebSocketClient`, with the broadcast of its line. -/
def removeClient (num : UInt8) (removed : ClientState → ClientState) (state : ClientState) :
    ClientState :=
  let after := { state with table := state.table.removeWebSocketClient num }
  match state.table.first fun client => client.id == num && client.connected with
  | none => after
  | some _ => after.logLine removed

/-- The event `WStype_DISCONNECTED`, with the broadcasts of its two lines. -/
def disconnected (num : UInt8) (line removed : ClientState → ClientState) (state : ClientState) :
    ClientState :=
  let ended := { state with live := Function.update state.live num false }
  (ended.logLine line).removeClient num removed

end ClientState

/-- Ends that the library tells in the middle of a handler, one after another. The two lines of each
may bring others. -/
inductive Ends
  | nothing
  | ended (num : UInt8) (line removed later : Ends)

/-- The ends are told. -/
def Ends.tell : Ends → ClientState → ClientState
  | nothing, state => state
  | ended num line removed later, state =>
      let after := state.disconnected num line.tell removed.tell
      later.tell { after with told := (after.connecting, after.table) :: after.told }

/-! ## Events -/

/-- What the library tells while an older client is disconnected. -/
structure Eviction where
  line : Ends
  /-- The lines of the event that `wsServer.disconnect` brings at once, if it does. -/
  atOnce : Option (Ends × Ends)
  removed : Ends

/-- What the library tells while a client connects. -/
structure Connecting where
  /-- In the handler's first line. -/
  line : Ends
  /-- The lines of the event that `wsServer.disconnect` brings at once to a client that is
  refused. -/
  atOnce : Option (Ends × Ends)
  /-- In the line of `addWebSocketClient`. -/
  added : Ends
  /-- For each slot. -/
  evictions : Slot → Eviction
  /-- In the messages to the new client. -/
  greeting : Ends

/-- The library tells nothing. -/
def Connecting.quiet : Connecting :=
  ⟨.nothing, none, .nothing, fun _ => ⟨.nothing, none, .nothing⟩, .nothing⟩

/-- The clients in the table from an address. -/
def ClientTable.connectionsFromIP (table : ClientTable) (ip : UInt32) : Nat :=
  (List.finRange maxWebSocketClients).countP fun i =>
    (table.wsClients i).connected && (table.wsClients i).remoteIP == ip

namespace ClientState

/-- `wsServer.disconnect`: the event may come at once. -/
def disconnect (atOnce : Option (Ends × Ends)) (num : UInt8) (state : ClientState) : ClientState :=
  match atOnce with
  | none => state
  | some (line, removed) =>
      let after := state.disconnected num line.tell removed.tell
      { after with told := (none, after.table) :: after.told }

/-- The library has accepted a connection. -/
def opened (num : UInt8) (state : ClientState) : ClientState :=
  { state with live := Function.update state.live num true }

/-- `addWebSocketClient`, with the broadcast of its line. -/
def addClient (num : UInt8) (ip now : UInt32) (added : Ends) (state : ClientState) : ClientState :=
  let after :=
    { state with
      table := state.table.addWebSocketClient num ip now
      connecting := some ip }
  match state.table.first fun client => !client.connected with
  | none => after
  | some _ => after.logLine added.tell

/-- What the handler of a new client does to the client in a slot. -/
def evict (num : UInt8) (ip : UInt32) (evictions : Slot → Eviction) (state : ClientState)
    (i : Slot) : ClientState :=
  let client := state.table.wsClients i
  if client.connected ∧ client.remoteIP = ip ∧ client.id ≠ num then
    let logged := state.logLine (evictions i).line.tell
    let asked := logged.disconnect (evictions i).atOnce (logged.table.wsClients i).id
    asked.removeClient (asked.table.wsClients i).id (evictions i).removed.tell
  else state

/-- The event `WStype_CONNECTED`. -/
def connected (num : UInt8) (ip now : UInt32) (inside : Connecting) (state : ClientState) :
    ClientState :=
  let opened := state.opened num
  let logged := opened.logLine inside.line.tell
  if opened.table.connectionsFromIP ip ≥ 3 then logged.disconnect inside.atOnce num
  else if opened.table.connectedClients ≥ (maxWebSocketClients : Int) then
    logged.disconnect inside.atOnce num
  else
    let evicted := (List.finRange maxWebSocketClients).foldl (evict num ip inside.evictions)
      (logged.addClient num ip now inside.added)
    inside.greeting.tell { evicted with connecting := none }

end ClientState

/-- The events of the WebSocket library, and the clean-up that `WebUI` makes now and then. Each
comes with the ends that are told during it. -/
inductive WebSocketEvent
  | connected (num : UInt8) (ip now : UInt32) (inside : Connecting)
  | disconnected (num : UInt8) (line removed : Ends)
  | error (num : UInt8) (line removed : Ends)
  /-- The answer to a ping may bring ends, too. -/
  | text (num : UInt8) (payload : Bytes) (now : UInt32) (line answer : Ends)
  | pong (num : UInt8) (now : UInt32) (line : Ends)
  | fragment (num : UInt8) (line : Ends)
  | cleanup (now : UInt32)

/-- `onWebSocketEvent`. Connections have numbers below 255, and a number is not used again before
the end of its last connection has been told. -/
def onWebSocketEvent (state : ClientState) : WebSocketEvent → Option ClientState
  | .connected num ip now inside =>
      if num < 255 ∧ state.live num = false then some (state.connected num ip now inside) else none
  | .disconnected num line removed => some (state.disconnected num line.tell removed.tell)
  | .error num line removed => some ((state.logLine line.tell).removeClient num removed.tell)
  | .text num payload now line answer =>
      let logged := state.logLine line.tell
      if untilNul payload = ascii "ping" then
        let answered := answer.tell logged
        some
          { answered with
            table := answered.table.modifyClient num fun client =>
              { client with lastPing := now, messageCount := client.messageCount + 1 } }
      else some logged
  | .pong num now line =>
      let logged := state.logLine line.tell
      some
        { logged with
          table := logged.table.modifyClient num fun client => { client with lastPing := now } }
  | .fragment _ line => some (state.logLine line.tell)
  | .cleanup now => some { state with table := state.table.cleanupDisconnectedClients now }

/-- The console's connections. -/
def webSocket : StepSystem ClientState WebSocketEvent where
  start := ⟨.initial, fun _ => false, none, []⟩
  next := onWebSocketEvent

/-- A client that is not refused has not ended when the handler enters it in the table. -/
def EntersLive (state : ClientState) : WebSocketEvent → Prop
  | .connected num ip _ inside =>
      state.table.connectionsFromIP ip < 3 → state.table.connectedClients < maxWebSocketClients →
        ((state.opened num).logLine inside.line.tell).live num = true
  | _ => True

instance (state : ClientState) : (event : WebSocketEvent) → Decidable (EntersLive state event)
  | .connected _ _ _ _ => inferInstanceAs (Decidable (_ < _ → _ < _ → _ = true))
  | .disconnected .. | .error .. | .text .. | .pong .. | .fragment .. | .cleanup .. =>
      .isTrue trivial

/-! ## What the table keeps -/

namespace ClientTable

variable {table before after : ClientTable} {i j : Slot} {num clientId : UInt8}
  {ip now : UInt32} {alive : UInt8 → Prop}

/-- The slots with a client. -/
def connectedSlots (clients : Slot → WebSocketClient) : Finset Slot :=
  Finset.univ.filter fun i => (clients i).connected = true

/-- The clients in the table are counted, have numbers of their own, and are alive. -/
structure Tracks (table : ClientTable) (alive : UInt8 → Prop) : Prop where
  count : table.connectedClients = (connectedSlots table.wsClients).card
  ids : ∀ i j, (table.wsClients i).connected = true → (table.wsClients j).connected = true →
    (table.wsClients i).id = (table.wsClients j).id → i = j
  alive : ∀ i, (table.wsClients i).connected = true →
    (table.wsClients i).id ≠ 255 ∧ alive (table.wsClients i).id

/-- Two clients do not share an address, unless it is exempt. -/
def Apart (table : ClientTable) (exempt : UInt32 → Prop) : Prop :=
  ∀ i j, (table.wsClients i).connected = true → (table.wsClients j).connected = true →
    (table.wsClients i).remoteIP = (table.wsClients j).remoteIP →
    ¬exempt (table.wsClients i).remoteIP → i = j

/-- Clients may have been removed, and nothing else. -/
def Shrinks (before after : ClientTable) : Prop :=
  ∀ i, (after.wsClients i).connected = true → after.wsClients i = before.wsClients i

theorem Shrinks.refl (table : ClientTable) : Shrinks table table := fun _ _ => rfl

theorem Shrinks.trans {between : ClientTable} (early : Shrinks before between)
    (late : Shrinks between after) : Shrinks before after := by
  intro i connected
  have same := late i connected
  rw [same] at connected
  rw [same, early i connected]

theorem Shrinks.apart {exempt : UInt32 → Prop} (shrinks : Shrinks before after)
    (apart : before.Apart exempt) : after.Apart exempt := by
  intro i j first second
  have same := shrinks i first
  have same' := shrinks j second
  rw [same] at first
  rw [same'] at second
  rw [same, same']
  exact apart i j first second

/-- No client in the table has the number. -/
def Absent (table : ClientTable) (num : UInt8) : Prop :=
  ∀ i, (table.wsClients i).connected = true → (table.wsClients i).id ≠ num

theorem Shrinks.absent (shrinks : Shrinks before after) (absent : before.Absent num) :
    after.Absent num := by
  intro i connected
  have same := shrinks i connected
  rw [same] at connected ⊢
  exact absent i connected

/-- A slot is empty when the number that it had is not there any more. -/
theorem Shrinks.gone (shrinks : Shrinks before after)
    (absent : after.Absent (before.wsClients i).id) : ¬(after.wsClients i).connected = true := by
  intro still
  have other := absent i still
  rw [shrinks i still] at other
  exact other rfl

theorem Tracks.shrink (tracks : Tracks before alive) (shrinks : Shrinks before after)
    (count : after.connectedClients = (connectedSlots after.wsClients).card) :
    Tracks after alive := by
  refine ⟨count, fun i j first second => ?_, fun i connected => ?_⟩
  · have same := shrinks i first
    have same' := shrinks j second
    rw [same] at first
    rw [same'] at second
    rw [same, same']
    exact tracks.ids i j first second
  · have same := shrinks i connected
    rw [same] at connected ⊢
    exact tracks.alive i connected

theorem first_eq_some {passes : WebSocketClient → Bool} (found : table.first passes = some i) :
    passes (table.wsClients i) = true := by
  have this := List.find?_some found
  exact this

theorem first_eq_none {passes : WebSocketClient → Bool} (none : table.first passes = none)
    (i : Slot) : passes (table.wsClients i) = false := by
  simpa using List.find?_eq_none.mp none i (List.mem_finRange i)

theorem connectedSlots_on {client : WebSocketClient} (on : client.connected = true)
    (clients : Slot → WebSocketClient) (i : Slot) :
    connectedSlots (Function.update clients i client) = insert i (connectedSlots clients) := by
  ext j
  by_cases same : j = i
  · subst same
    simp [connectedSlots, on]
  · simp [connectedSlots, same]

theorem connectedSlots_off {client : WebSocketClient} (off : client.connected = false)
    (clients : Slot → WebSocketClient) (i : Slot) :
    connectedSlots (Function.update clients i client) = (connectedSlots clients).erase i := by
  ext j
  by_cases same : j = i
  · subst same
    simp [connectedSlots, off]
  · simp [connectedSlots, same]

/-! ## Removing -/

theorem removeWebSocketClient_shrinks (table : ClientTable) (clientId : UInt8) :
    Shrinks table (table.removeWebSocketClient clientId) := by
  rw [removeWebSocketClient]
  split
  next => exact .refl table
  next i found =>
      intro j connected
      by_cases same : j = i
      · subst same
        simp at connected
      · simp [same]

/-- The client that is removed is not there any more. -/
theorem removeWebSocketClient_absent (tracks : Tracks table alive) (clientId : UInt8) :
    (table.removeWebSocketClient clientId).Absent clientId := by
  intro j connected
  have same := removeWebSocketClient_shrinks table clientId j connected
  rw [same] at connected ⊢
  intro found
  rw [removeWebSocketClient] at same
  split at same
  next none =>
      have missing := first_eq_none none j
      simp [found, connected] at missing
  next i some =>
      have here := first_eq_some some
      simp only [Bool.and_eq_true, beq_iff_eq] at here
      obtain rfl := tracks.ids i j here.2 connected (here.1.trans found.symm)
      have off := congrArg WebSocketClient.connected same
      simp [connected] at off

theorem Tracks.removeWebSocketClient (tracks : Tracks table alive) (clientId : UInt8) :
    Tracks (table.removeWebSocketClient clientId) alive := by
  refine tracks.shrink (removeWebSocketClient_shrinks table clientId) ?_
  rw [ClientTable.removeWebSocketClient]
  split
  next => exact tracks.count
  next i found =>
      have here := first_eq_some found
      simp only [Bool.and_eq_true] at here
      have member : i ∈ connectedSlots table.wsClients := by simp [connectedSlots, here.2]
      have positive := Finset.card_pos.mpr ⟨i, member⟩
      dsimp only
      rw [connectedSlots_off rfl, Finset.card_erase_of_mem member, tracks.count]
      omega

/-! ## Adding -/

/-- What stands in a slot was there, or is the new client. -/
theorem addWebSocketClient_cases (table : ClientTable) (num : UInt8) (ip now : UInt32) (j : Slot) :
    (table.addWebSocketClient num ip now).wsClients j = table.wsClients j ∨
      (table.first (fun client => !client.connected) = some j ∧
        (table.addWebSocketClient num ip now).wsClients j = ⟨num, true, now, ip, now, 0⟩) := by
  rw [addWebSocketClient]
  split
  next => exact .inl rfl
  next i free =>
      by_cases same : j = i
      · subst same
        exact .inr ⟨free, Function.update_self ..⟩
      · exact .inl (Function.update_of_ne same ..)

/-- A client with a new number is counted. -/
theorem Tracks.addWebSocketClient (tracks : Tracks table alive) (small : num ≠ 255)
    (fresh : table.Absent num) (known : alive num) (ip now : UInt32) :
    Tracks (table.addWebSocketClient num ip now) alive := by
  refine ⟨?_, fun j k first second same => ?_, fun j connected => ?_⟩
  · rw [ClientTable.addWebSocketClient]
    split
    next => exact tracks.count
    next i free =>
        have off := first_eq_some free
        have outside : i ∉ connectedSlots table.wsClients := by
          simpa [connectedSlots] using off
        dsimp only
        rw [connectedSlots_on rfl, Finset.card_insert_of_notMem outside, tracks.count]
        rfl
  · rcases table.addWebSocketClient_cases num ip now j with old | ⟨free, new⟩ <;>
      rcases table.addWebSocketClient_cases num ip now k with old' | ⟨free', new'⟩
    · rw [old] at first same
      rw [old'] at second same
      exact tracks.ids j k first second same
    · rw [old] at first same
      rw [new'] at same
      exact absurd same (fresh j first)
    · rw [old'] at second same
      rw [new] at same
      exact absurd same.symm (fresh k second)
    · exact Option.some.inj (free.symm.trans free')
  · rcases table.addWebSocketClient_cases num ip now j with old | ⟨-, new⟩
    · rw [old] at connected ⊢
      exact tracks.alive j connected
    · rw [new]
      exact ⟨small, known⟩

/-- Only the address of the new client may be there twice. -/
theorem Apart.addWebSocketClient (apart : table.Apart fun _ => False) (num : UInt8)
    (ip now : UInt32) : (table.addWebSocketClient num ip now).Apart (· = ip) := by
  intro j k first second same other
  rcases table.addWebSocketClient_cases num ip now j with old | ⟨-, new⟩
  · rcases table.addWebSocketClient_cases num ip now k with old' | ⟨-, new'⟩
    · rw [old] at first same
      rw [old'] at second same
      exact apart j k first second same id
    · rw [same, new'] at other
      exact absurd rfl other
  · rw [new] at other
    exact absurd rfl other

/-! ## Clients that stay -/

/-- The clients are the same, with another history. -/
def SameClients (before after : ClientTable) : Prop :=
  after.connectedClients = before.connectedClients ∧
    ∀ i, (after.wsClients i).id = (before.wsClients i).id ∧
      (after.wsClients i).connected = (before.wsClients i).connected ∧
      (after.wsClients i).remoteIP = (before.wsClients i).remoteIP

theorem SameClients.tracks (same : SameClients before after) (tracks : Tracks before alive) :
    Tracks after alive := by
  obtain ⟨count, same⟩ := same
  have slots : connectedSlots after.wsClients = connectedSlots before.wsClients :=
    Finset.filter_congr fun i _ => by rw [(same i).2.1]
  refine ⟨by rw [count, slots, tracks.count], fun i j => ?_, fun i => ?_⟩
  · rw [(same i).1, (same j).1, (same i).2.1, (same j).2.1]
    exact tracks.ids i j
  · rw [(same i).1, (same i).2.1]
    exact tracks.alive i

theorem SameClients.apart {exempt : UInt32 → Prop} (same : SameClients before after)
    (apart : before.Apart exempt) : after.Apart exempt := by
  intro i j
  rw [(same.2 i).2.1, (same.2 j).2.1, (same.2 i).2.2, (same.2 j).2.2]
  exact apart i j

theorem modifyClient_same {change : WebSocketClient → WebSocketClient}
    (keeps : ∀ client, (change client).id = client.id ∧
      (change client).connected = client.connected ∧ (change client).remoteIP = client.remoteIP)
    (table : ClientTable) (num : UInt8) : SameClients table (table.modifyClient num change) := by
  rw [modifyClient]
  split
  next => exact ⟨rfl, fun _ => ⟨rfl, rfl, rfl⟩⟩
  next i _ =>
      refine ⟨rfl, fun j => ?_⟩
      by_cases same : j = i
      · subst same
        simpa using keeps (table.wsClients j)
      · simp [same]

theorem cleanup_same (table : ClientTable) (now : UInt32) :
    SameClients table (table.cleanupDisconnectedClients now) := by
  refine ⟨rfl, fun i => ?_⟩
  rw [cleanupDisconnectedClients]
  dsimp only
  split <;> exact ⟨rfl, rfl, rfl⟩

end ClientTable

/-- The connected clients are counted and are at most three, with numbers and addresses of their
own. Only the address of a client that is connecting may still be that of an older one. -/
structure TableConsistent (table : ClientTable) (connecting : Option UInt32) : Prop where
  count : table.connectedClients =
    (Finset.univ.filter fun i => (table.wsClients i).connected = true).card
  few : table.connectedClients ≤ 3
  ids : ∀ i j, (table.wsClients i).connected = true → (table.wsClients j).connected = true →
    i ≠ j → (table.wsClients i).id ≠ (table.wsClients j).id
  addresses : ∀ i j, (table.wsClients i).connected = true →
    (table.wsClients j).connected = true → i ≠ j →
    (table.wsClients i).remoteIP = (table.wsClients j).remoteIP →
    connecting = some (table.wsClients i).remoteIP

theorem ClientTable.Tracks.consistent {table : ClientTable} {alive : UInt8 → Prop}
    {connecting : Option UInt32} (tracks : table.Tracks alive)
    (apart : table.Apart fun ip => connecting = some ip) : TableConsistent table connecting := by
  refine ⟨tracks.count, ?_, fun i j first second other same => ?_,
    fun i j first second other same => ?_⟩
  · have few := Finset.card_le_univ (ClientTable.connectedSlots table.wsClients)
    rw [tracks.count]
    exact Int.ofNat_le.mpr few
  · exact other (tracks.ids i j first second same)
  · by_contra exempt
    exact other (apart i j first second same exempt)

/-! ## What the events keep -/

namespace ClientState

open ClientTable

variable {state before between after : ClientState} {pending : UInt8 → Prop} {num : UInt8}
  {ip now : UInt32} {i : Slot} {broadcast line removed : ClientState → ClientState}

/-- The table is right as far as the library has told. Ends that are pending have been told, and
their clients are not removed yet. -/
structure Right (pending : UInt8 → Prop) (state : ClientState) : Prop where
  tracks : Tracks state.table fun num => state.live num = true ∨ pending num
  apart : state.table.Apart fun ip => state.connecting = some ip
  told : ∀ inside ∈ state.told, TableConsistent inside.2 inside.1

/-- Clients may have been removed, and the table is right again. -/
structure Settles (pending : UInt8 → Prop) (before after : ClientState) : Prop where
  right : Right pending after
  shrinks : Shrinks before.table after.table
  connecting : after.connecting = before.connecting

/-- A broadcast leaves the table right, whatever ends are pending. -/
def Settling (broadcast : ClientState → ClientState) : Prop :=
  ∀ pending state, Right pending state → Settles pending state (broadcast state)

theorem Right.settles (right : Right pending state) : Settles pending state state :=
  ⟨right, .refl _, rfl⟩

theorem Settles.trans (early : Settles pending before between)
    (late : Settles pending between after) : Settles pending before after :=
  ⟨late.right, early.shrinks.trans late.shrinks, late.connecting.trans early.connecting⟩

/-- One more end is pending. -/
theorem Right.pend (right : Right pending state) (num : UInt8) :
    Right (fun other => other = num ∨ pending other) state := by
  refine ⟨⟨right.tracks.count, right.tracks.ids, fun i connected => ?_⟩, right.apart, right.told⟩
  obtain ⟨used, alive | waits⟩ := right.tracks.alive i connected
  · exact ⟨used, .inl alive⟩
  · exact ⟨used, .inr (.inr waits)⟩

theorem Right.logLine (right : Right pending state) (settling : Settling broadcast) :
    Settles pending state (state.logLine broadcast) := by
  rw [ClientState.logLine]
  split
  next => exact right.settles
  next => exact settling _ _ right

/-- The end is not pending any more, since the client is not there any more. -/
theorem Right.removeClient (right : Right (fun other => other = num ∨ pending other) state)
    (settling : Settling removed) :
    Settles pending state (state.removeClient num removed) ∧
      (state.removeClient num removed).table.Absent num := by
  have tracks := right.tracks.removeWebSocketClient num
  have shrinks := removeWebSocketClient_shrinks state.table num
  have absent := removeWebSocketClient_absent right.tracks num
  have settles : Settles pending state
      { state with table := state.table.removeWebSocketClient num } := by
    refine ⟨⟨⟨tracks.count, tracks.ids, fun i connected => ?_⟩, shrinks.apart right.apart,
      right.told⟩, shrinks, rfl⟩
    obtain ⟨used, alive | same | waits⟩ := tracks.alive i connected
    · exact ⟨used, .inl alive⟩
    · exact absurd same (absent i connected)
    · exact ⟨used, .inr waits⟩
  rw [ClientState.removeClient]
  split
  next => exact ⟨settles, absent⟩
  next =>
      have logged := settles.right.logLine settling
      exact ⟨settles.trans logged, logged.shrinks.absent absent⟩

/-- After the event, its client is not there any more. -/
theorem Right.disconnected (right : Right pending state) (num : UInt8) (first : Settling line)
    (second : Settling removed) :
    Settles pending state (state.disconnected num line removed) ∧
      (state.disconnected num line removed).table.Absent num := by
  have ended : Right (fun other => other = num ∨ pending other)
      { state with live := Function.update state.live num false } := by
    refine ⟨⟨right.tracks.count, right.tracks.ids, fun i connected => ?_⟩, right.apart, right.told⟩
    obtain ⟨used, alive⟩ := (right.pend num).tracks.alive i connected
    refine ⟨used, ?_⟩
    by_cases same : (state.table.wsClients i).id = num
    · exact .inr (.inl same)
    · simpa [Function.update_of_ne same] using alive
  have logged := ended.logLine first
  obtain ⟨settled, absent⟩ := logged.right.removeClient second
  exact ⟨⟨settled.right, logged.shrinks.trans settled.shrinks,
    settled.connecting.trans logged.connecting⟩, absent⟩

/-- The table after an event in the middle of a handler is noted. -/
theorem Settles.note (settles : Settles pending before after) {connecting : Option UInt32}
    (consistent : TableConsistent after.table connecting) :
    Settles pending before { after with told := (connecting, after.table) :: after.told } :=
  ⟨⟨settles.right.tracks, settles.right.apart,
    List.forall_mem_cons.mpr ⟨consistent, settles.right.told⟩⟩, settles.shrinks,
    settles.connecting⟩

/-- The ends that are told in the middle of a handler leave the table right, each of them. -/
theorem tell_settling (ends : Ends) : Settling ends.tell := by
  induction ends with
  | nothing => exact fun _ _ right => right.settles
  | ended num line removed later first second induction =>
      intro pending state right
      obtain ⟨settled, -⟩ := right.disconnected num first second
      have told := settled.note (settled.right.tracks.consistent settled.right.apart)
      exact told.trans (induction _ _ told.right)

/-- `wsServer.disconnect`, where no address is shared any more without the client. -/
theorem Right.disconnect (right : Right pending state) (atOnce : Option (Ends × Ends))
    (num : UInt8) (apart : ∀ after, Settles pending state after →
      after.table.Absent num → after.table.Apart fun _ => False) :
    Settles pending state (state.disconnect atOnce num) := by
  cases atOnce with
  | none => exact right.settles
  | some lines =>
      obtain ⟨settled, absent⟩ :=
        right.disconnected num (tell_settling lines.1) (tell_settling lines.2)
      have alone := apart _ settled absent
      refine settled.note (settled.right.tracks.consistent ?_)
      simpa only [reduceCtorEq] using alone

/-! ## The loop over older clients -/

/-- The client in the slot is an older one from the address. -/
def Older (num : UInt8) (ip : UInt32) (table : ClientTable) (i : Slot) : Prop :=
  (table.wsClients i).connected = true ∧ (table.wsClients i).remoteIP = ip ∧
    (table.wsClients i).id ≠ num

/-- In the loop, at most one older client has the address. -/
structure Evicting (num : UInt8) (ip : UInt32) (state : ClientState) : Prop where
  right : Right (fun _ => False) state
  connecting : state.connecting = some ip
  single : ∀ i j, Older num ip state.table i → Older num ip state.table j → i = j

theorem older_of_shrinks {before after : ClientTable} (shrinks : Shrinks before after)
    (older : Older num ip after i) : Older num ip before i := by
  obtain ⟨connected, address, other⟩ := older
  have same := shrinks i connected
  rw [same] at connected address other
  exact ⟨connected, address, other⟩

theorem Evicting.settle (evicting : Evicting num ip before)
    (settles : Settles (fun _ => False) before after) : Evicting num ip after :=
  ⟨settles.right, settles.connecting.trans evicting.connecting, fun i j first second =>
    evicting.single i j (older_of_shrinks settles.shrinks first)
      (older_of_shrinks settles.shrinks second)⟩

/-- Without older clients, no address is exempt. -/
theorem apart_of_no_older {table : ClientTable} {alive : UInt8 → Prop} (tracks : Tracks table alive)
    (apart : table.Apart (· = ip)) (none : ∀ i, ¬Older num ip table i) :
    table.Apart fun _ => False := by
  intro i j first second same _
  by_cases address : (table.wsClients i).remoteIP = ip
  · have newest : (table.wsClients i).id = num := by
      by_contra other
      exact none i ⟨first, address, other⟩
    have newest' : (table.wsClients j).id = num := by
      by_contra other
      exact none j ⟨second, same.symm.trans address, other⟩
    exact tracks.ids i j first second (newest.trans newest'.symm)
  · exact apart i j first second same address

theorem Evicting.alone (evicting : Evicting num ip state)
    (cleared : ∀ i, ¬Older num ip state.table i) : state.table.Apart fun _ => False := by
  have apart : state.table.Apart (· = ip) := fun i j first second same other =>
    evicting.right.apart i j first second same fun here =>
      other (Option.some.inj (here.symm.trans evicting.connecting))
  exact apart_of_no_older evicting.right.tracks apart cleared

/-- The older client is removed, whether or not its end is told at once. -/
theorem Evicting.evict (evicting : Evicting num ip state) (evictions : Slot → Eviction) (i : Slot) :
    Evicting num ip (state.evict num ip evictions i) ∧
      Shrinks state.table (state.evict num ip evictions i).table ∧
      ¬Older num ip (state.evict num ip evictions i).table i := by
  rw [ClientState.evict]
  dsimp only
  split_ifs with older
  · have logged := evicting.right.logLine (tell_settling (evictions i).line)
    generalize state.logLine (evictions i).line.tell = between at logged ⊢
    have alone (after : ClientState) (settles : Settles (fun _ => False) between after)
        (absent : after.table.Absent (between.table.wsClients i).id) :
        after.table.Apart fun _ => False := by
      have both := logged.trans settles
      refine (evicting.settle both).alone fun j still => ?_
      -- The client in this slot was the only older one.
      obtain rfl := evicting.single i j older (older_of_shrinks both.shrinks still)
      exact settles.shrinks.gone absent still.1
    have asked := logged.trans
      (logged.right.disconnect (evictions i).atOnce (between.table.wsClients i).id alone)
    generalize between.disconnect (evictions i).atOnce (between.table.wsClients i).id = late
      at asked ⊢
    obtain ⟨gone, absent⟩ := (asked.right.pend (late.table.wsClients i).id).removeClient
      (tell_settling (evictions i).removed)
    refine ⟨evicting.settle (asked.trans gone), asked.shrinks.trans gone.shrinks, fun still => ?_⟩
    -- The second removal finds the client that the slot still has.
    exact gone.shrinks.gone absent still.1
  · exact ⟨evicting, .refl _, older⟩

/-- After the loop over the table, no older client has the address. -/
theorem Evicting.foldl (evicting : Evicting num ip state) (evictions : Slot → Eviction)
    (slots : List Slot) :
    Evicting num ip (slots.foldl (ClientState.evict num ip evictions) state) ∧
      Shrinks state.table (slots.foldl (ClientState.evict num ip evictions) state).table ∧
      ∀ i ∈ slots,
        ¬Older num ip (slots.foldl (ClientState.evict num ip evictions) state).table i := by
  induction slots generalizing state with
  | nil => exact ⟨evicting, .refl _, fun _ member => absurd member List.not_mem_nil⟩
  | cons slot slots induction =>
      obtain ⟨evicted, gone, cleared⟩ := evicting.evict evictions slot
      obtain ⟨rest, later, all⟩ := induction evicted
      exact ⟨rest, gone.trans later,
        List.forall_mem_cons.mpr ⟨fun older => cleared (older_of_shrinks later older), all⟩⟩

/-! ## Events -/

/-- Between two events, no end is pending and no client is connecting. -/
structure Consistent (state : ClientState) : Prop where
  right : Right (fun _ => False) state
  connecting : state.connecting = none

theorem Consistent.settle (consistent : Consistent before)
    (settles : Settles (fun _ => False) before after) : Consistent after :=
  ⟨settles.right, settles.connecting.trans consistent.connecting⟩

theorem Consistent.apart (consistent : Consistent state) : state.table.Apart fun _ => False := by
  have apart := consistent.right.apart
  simpa only [consistent.connecting, reduceCtorEq] using apart

theorem Consistent.same (consistent : Consistent state) {table : ClientTable}
    (same : SameClients state.table table) : Consistent { state with table := table } :=
  ⟨⟨same.tracks consistent.right.tracks, same.apart consistent.right.apart,
    consistent.right.told⟩, consistent.connecting⟩

/-- Only one client from the address of the new one can have been there. -/
theorem single_older {table : ClientTable} (apart : table.Apart fun _ => False) (num : UInt8)
    (ip now : UInt32) (i j : Slot)
    (first : Older num ip (table.addWebSocketClient num ip now) i)
    (second : Older num ip (table.addWebSocketClient num ip now) j) : i = j := by
  have old (k : Slot) (older : Older num ip (table.addWebSocketClient num ip now) k) :
      (table.addWebSocketClient num ip now).wsClients k = table.wsClients k := by
    rcases table.addWebSocketClient_cases num ip now k with old | ⟨-, new⟩
    · exact old
    · exact absurd (congrArg WebSocketClient.id new) older.2.2
  have same := old i first
  have same' := old j second
  obtain ⟨connected, address, -⟩ := first
  obtain ⟨connected', address', -⟩ := second
  rw [same] at connected address
  rw [same'] at connected' address'
  exact apart i j connected connected' (address.trans address'.symm) id

/-- A client that is alive when it is entered is listed, and at most one older one beside it. -/
theorem Consistent.addClient (consistent : Consistent state) (small : num < 255)
    (fresh : state.table.Absent num)
    (alive : state.live num = true) (ip now : UInt32) (added : Ends) :
    Evicting num ip (state.addClient num ip now added) := by
  have invalid : num ≠ 255 := UInt8.ne_of_lt small
  have entered : Evicting num ip
      { state with table := state.table.addWebSocketClient num ip now, connecting := some ip } := by
    refine ⟨⟨consistent.right.tracks.addWebSocketClient invalid fresh (.inl alive) ip now, ?_,
      consistent.right.told⟩, rfl, single_older consistent.apart num ip now⟩
    have apart := consistent.apart.addWebSocketClient num ip now
    exact fun i j first second same other =>
      apart i j first second same fun here => other (congrArg some here.symm)
  rw [ClientState.addClient]
  split
  next => exact entered
  next => exact entered.settle (entered.right.logLine (tell_settling added))

/-- When no older client is left, the handler is through with the table. -/
theorem Evicting.finish (evicting : Evicting num ip state)
    (cleared : ∀ i, ¬Older num ip state.table i) :
    Consistent { state with connecting := none } := by
  have alone := evicting.alone cleared
  exact ⟨⟨evicting.right.tracks, fun i j first second same _ => alone i j first second same id,
    evicting.right.told⟩, rfl⟩

theorem Consistent.opened (consistent : Consistent state) (num : UInt8) :
    Consistent (state.opened num) := by
  refine ⟨⟨⟨consistent.right.tracks.count, consistent.right.tracks.ids, fun i connected => ?_⟩,
    consistent.right.apart, consistent.right.told⟩, consistent.connecting⟩
  obtain ⟨used, alive | waits⟩ := consistent.right.tracks.alive i connected
  · refine ⟨used, .inl ?_⟩
    change Function.update state.live num true (state.table.wsClients i).id = true
    by_cases same : (state.table.wsClients i).id = num
    · rw [same, Function.update_self]
    · rw [Function.update_of_ne same, alive]
  · exact waits.elim

theorem Consistent.connected (consistent : Consistent state) (small : num < 255)
    (ended : state.live num = false) {inside : Connecting}
    (live : EntersLive state (.connected num ip now inside)) :
    Consistent (state.connected num ip now inside) := by
  have logged := (consistent.opened num).right.logLine (tell_settling inside.line)
  have known := (consistent.opened num).settle logged
  have fresh : state.table.Absent num := by
    intro i connected here
    rcases (consistent.right.tracks.alive i connected).2 with alive | waits
    · rw [here, ended] at alive
      contradiction
    · exact waits
  rw [ClientState.connected]
  dsimp only
  split_ifs with many full
  · exact known.settle (known.right.disconnect _ _ fun _ settles _ => (known.settle settles).apart)
  · exact known.settle (known.right.disconnect _ _ fun _ settles _ => (known.settle settles).apart)
  · have alive := live (Nat.lt_of_not_le many) (Int.lt_of_not_ge full)
    have entered := known.addClient small (logged.shrinks.absent fresh) alive ip now inside.added
    obtain ⟨done, -, cleared⟩ := entered.foldl inside.evictions (List.finRange maxWebSocketClients)
    have finished := done.finish fun i => cleared i (List.mem_finRange i)
    exact finished.settle (tell_settling _ _ _ finished.right)

theorem Consistent.step {event : WebSocketEvent} (consistent : Consistent state)
    (live : EntersLive state event) (step : onWebSocketEvent state event = some after) :
    Consistent after := by
  have logged (line : Ends) := consistent.settle (consistent.right.logLine (tell_settling line))
  cases event with
  | connected num ip now inside =>
      rw [onWebSocketEvent] at step
      split at step
      next possible =>
          obtain rfl := Option.some.inj step
          exact consistent.connected possible.1 possible.2 live
      next => contradiction
  | disconnected num line removed =>
      obtain rfl := Option.some.inj step
      exact consistent.settle
        (consistent.right.disconnected num (tell_settling line) (tell_settling removed)).1
  | error num line removed =>
      obtain rfl := Option.some.inj step
      exact (logged line).settle
        (((logged line).right.pend num).removeClient (tell_settling removed)).1
  | text num payload now line answer =>
      rw [onWebSocketEvent] at step
      dsimp only at step
      split at step
      next =>
          obtain rfl := Option.some.inj step
          have answered := (logged line).settle (tell_settling answer _ _ (logged line).right)
          refine answered.same (modifyClient_same ?_ _ _)
          exact fun _ => ⟨rfl, rfl, rfl⟩
      next =>
          obtain rfl := Option.some.inj step
          exact logged line
  | pong num now line =>
      obtain rfl := Option.some.inj step
      refine (logged line).same (modifyClient_same ?_ _ _)
      exact fun _ => ⟨rfl, rfl, rfl⟩
  | fragment num line =>
      obtain rfl := Option.some.inj step
      exact logged line
  | cleanup now =>
      obtain rfl := Option.some.inj step
      exact consistent.same (cleanup_same _ _)

theorem consistent_start : Consistent webSocket.start :=
  ⟨⟨⟨rfl, nofun, nofun⟩, nofun, nofun⟩, rfl⟩

end ClientState

/-- If no client that is let in ends before the handler has entered it, the table is consistent
after every event, also after those that `wsServer.disconnect` brings at once. After an end that a
broadcast has told in the middle of a handler, there may still be older clients from the address of
one that is connecting. -/
theorem client_table_consistent {state : ClientState} (reach : webSocket.Reaches EntersLive state) :
    TableConsistent state.table none ∧
      ∀ inside ∈ state.told, TableConsistent inside.2 inside.1 := by
  have consistent : state.Consistent :=
    reach.invariant ClientState.consistent_start
      fun _ _ _ before live step => before.step live step
  have right := consistent.right.tracks.consistent consistent.right.apart
  rw [consistent.connecting] at right
  exact ⟨right, consistent.right.told⟩

/-- Two clients from one address: the end of the first connection is told in the middle of the
handler of the second, and the broadcast of its line tells that of a third client. -/
theorem client_table_consistent_reconnect : ∃ state,
    webSocket.Reaches EntersLive state ∧ state.table.connectedClients = 1 ∧
      state.told.length = 2 ∧ TableConsistent state.table none ∧
      ∀ inside ∈ state.told, TableConsistent inside.2 inside.1 := by
  have fresh : webSocket.Reaches EntersLive _ := .start
  obtain ⟨state, reach, facts⟩ := fresh.test
    [.connected 0 7 1 .quiet, .connected 1 8 2 .quiet,
      .connected 2 7 3
        { Connecting.quiet with
          evictions := fun _ =>
            ⟨.nothing, some (.ended 1 .nothing .nothing .nothing, .nothing), .nothing⟩ },
      .disconnected 0 .nothing .nothing]
    (fun state => state.table.connectedClients = 1 ∧ state.told.length = 2) (by decide +kernel)
  obtain ⟨one, told⟩ := of_decide_eq_true facts
  exact ⟨state, reach, one, told, client_table_consistent reach⟩

/-- A client whose end is told in the line before it is entered stays in the table. When its number
connects again, it is there twice. -/
theorem client_table_ghost : ∃ state, webSocket.Reaches (fun _ _ => True) state ∧
    ¬TableConsistent state.table none := by
  have fresh : webSocket.Reaches (fun _ _ => True) _ := .start
  obtain ⟨state, reach, facts⟩ := fresh.test
    [.connected 0 7 1 .quiet,
      .connected 1 8 2
        { Connecting.quiet with line := .ended 1 .nothing .nothing .nothing },
      .connected 1 8 3 .quiet]
    (fun state => (state.table.wsClients ⟨1, by decide⟩).connected &&
      (state.table.wsClients ⟨2, by decide⟩).connected &&
      (state.table.wsClients ⟨1, by decide⟩).id == (state.table.wsClients ⟨2, by decide⟩).id)
    (by decide +kernel)
  simp only [Bool.and_eq_true, beq_iff_eq] at facts
  obtain ⟨⟨first, second⟩, same⟩ := facts
  exact ⟨state, reach, fun consistent => consistent.ids _ _ first second (by decide) same⟩

end WebUI

end ModbusBridge
