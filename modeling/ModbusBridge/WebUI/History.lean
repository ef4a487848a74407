import ModbusBridge.Library.NestedCalls
import ModbusBridge.WebUI.Console

/-!
# The history of the console

The last log lines stay in a ring, which `handleLogsAPI` lists and a new client gets replayed. The
ring is advanced only after the broadcast, and a broadcast may log: a client that is gone is noticed
there, and its end is logged.
-/

namespace ModbusBridge

namespace WebUI

/-! ## The ring -/

/-- `LOG_BUFFER_SIZE`. -/
def logBufferSize : Nat := 20

/-- The log buffer. -/
structure LogHistory where
  logBuffer : Nat → LogEntry
  logBufferIndex : Nat
  logBufferCount : Nat

/-- An entry in static storage. -/
def LogEntry.empty : LogEntry where
  timestamp := 0
  level := .error
  message := ⟨[], by simp⟩
  fits := Nat.zero_le _

/-- The log buffer before the first line. -/
def LogHistory.initial : LogHistory := ⟨fun _ => .empty, 0, 0⟩

/-- What `logCallback` is called with, and what `time(nullptr)` returns then. -/
structure LogCall where
  level : ESPLogger.LogLevel
  message : CString
  timestamp : UInt32
  now : Int

/-- What the call stores. -/
def LogCall.entry (call : LogCall) : LogEntry :=
  logEntry call.level call.message call.timestamp call.now

/-- The entry at the index is overwritten. -/
def LogHistory.store (history : LogHistory) (entry : LogEntry) : LogHistory :=
  { history with logBuffer := Function.update history.logBuffer history.logBufferIndex entry }

/-- `WebUI::logCallback`, with what happens to the log buffer during the broadcast. -/
def logCallback (call : LogCall) (broadcast : LogHistory → LogHistory) (history : LogHistory) :
    LogHistory :=
  let sent := broadcast (history.store call.entry)
  { sent with
    logBufferIndex := (sent.logBufferIndex + 1) % logBufferSize
    logBufferCount :=
      if sent.logBufferCount < logBufferSize then sent.logBufferCount + 1
      else sent.logBufferCount }

/-- Lines that are logged one after another, each with those that its broadcast logs. -/
def logAll (calls : Calls LogCall) (history : LogHistory) : LogHistory :=
  calls.run logCallback history

/-! ## Its readers -/

/-- The entries that `handleLogsAPI` visits. -/
def logsListed (history : LogHistory) : List LogEntry :=
  let recentCount := min history.logBufferCount 20
  let startIndex :=
    if history.logBufferCount < logBufferSize then 0 else history.logBufferIndex
  let startOffset := max 0 (history.logBufferCount - recentCount)
  (List.range recentCount).map fun i =>
    history.logBuffer ((startIndex + startOffset + i) % logBufferSize)

/-- An entry in the answer of `handleLogsAPI`. -/
def logObject (entry : LogEntry) : Bytes :=
  ascii "\x7b" ++
    (ascii "\"timestamp\":" ++ decimal entry.timestamp.toNat ++ ascii ",") ++
    (ascii "\"level\":\"" ++ ESPLogger.logLevelToString entry.level ++ ascii "\",") ++
    (ascii "\"message\":\"" ++ escapeJsonString entry.message.bytes ++ ascii "\"") ++
    ascii "\x7d"

/-- `WebUI::handleLogsAPI`. -/
def handleLogsAPI (history : LogHistory) : Bytes :=
  ascii "\x7b\"logs\":[" ++
    (ascii ",").intercalate ((logsListed history).map logObject) ++
    ascii "]," ++
    (ascii "\"count\":" ++ decimal (min history.logBufferCount 20) ++ ascii ",") ++
    (ascii "\"total\":" ++ decimal history.logBufferCount ++ ascii ",") ++
    (ascii "\"bufferSize\":" ++ decimal logBufferSize ++ ascii "\x7d")

/-- The entries that a new client gets. -/
def logsReplayed (history : LogHistory) : List LogEntry :=
  let replayCount := min history.logBufferCount 10
  let firstIndex := (history.logBufferIndex + logBufferSize - replayCount) % logBufferSize
  (List.range replayCount).map fun i =>
    history.logBuffer ((firstIndex + i) % logBufferSize)

/-- The frames that a new client gets for them. -/
def replay (history : LogHistory) (now : Int) : List Bytes :=
  (logsReplayed history).map fun entry => logFrame entry now

/-! ## Runs -/

variable {calls : Calls LogCall} {history : LogHistory} {finished : Nat}

/-- The log buffer when so many calls have finished. -/
structure Counts (history : LogHistory) (finished : Nat) : Prop where
  index : history.logBufferIndex = finished % logBufferSize
  count : history.logBufferCount = min finished logBufferSize

theorem counts_initial : Counts .initial 0 := ⟨rfl, rfl⟩

theorem counts_store (counts : Counts history finished) (entry : LogEntry) :
    Counts (history.store entry) finished := ⟨counts.index, counts.count⟩

theorem counts_logCallback {call : LogCall} {broadcast : LogHistory → LogHistory}
    (sent : Counts (broadcast (history.store call.entry)) finished) :
    Counts (logCallback call broadcast history) (finished + 1) := by
  obtain ⟨index, count⟩ := sent
  rw [logCallback]
  constructor
  · dsimp only
    rw [index, Nat.mod_add_mod]
  · dsimp only
    rw [count]
    split <;> omega

/-- The index and the count go by the calls that are finished. -/
theorem counts_logAll (counts : Counts history finished) (calls : Calls LogCall) :
    Counts (logAll calls history) (finished + calls.arguments.length) := by
  induction calls generalizing history finished with
  | done => exact counts
  | call argument inside later insideInduction laterInduction =>
      have sent := insideInduction (counts_store counts argument.entry)
      have ended := laterInduction (counts_logCallback sent)
      have total : finished + (inside.arguments.length + later.arguments.length + 1) =
          finished + inside.arguments.length + 1 + later.arguments.length := by omega
      rw [Calls.arguments, List.length_cons, List.length_append, total]
      exact ended

/-- Each call writes where the calls that are finished leave the index. -/
theorem logBuffer_logAll (counts : Counts history finished) (calls : Calls LogCall) :
    (logAll calls history).logBuffer =
      Ring.writeAll logBufferSize
        ((calls.finished finished).zip (calls.arguments.map LogCall.entry))
        history.logBuffer := by
  induction calls generalizing history finished with
  | done => rfl
  | call argument inside later insideInduction laterInduction =>
      have stored := counts_store counts argument.entry
      have sent := counts_logAll stored inside
      have early := insideInduction stored
      have late := laterInduction (counts_logCallback sent)
      rw [Calls.finished, Calls.arguments, List.map_cons, List.zip_cons_cons, List.map_append,
        List.zip_append (by simp), Ring.writeAll, Ring.writeAll_append, ← counts.index]
      refine late.trans ?_
      congr 1

/-! ## What the readers find -/

/-- The last entries, oldest first. -/
def lastLogged (count : Nat) (calls : Calls LogCall) : List LogEntry :=
  (calls.arguments.map LogCall.entry).drop (calls.arguments.length - count)

/-- The log buffer holds the last lines, each once, and its readers find the last ones of them in
the order in which they were logged. -/
structure HistoryRight (calls : Calls LogCall) (history : LogHistory) : Prop where
  holds : ((List.range history.logBufferCount).map history.logBuffer).Perm (lastLogged 20 calls)
  lists : logsListed history = lastLogged 20 calls
  replays : logsReplayed history = lastLogged 10 calls

theorem logsListed_eq (counts : Counts history finished) :
    logsListed history = (List.range (min finished logBufferSize)).map fun i =>
      history.logBuffer (((if finished < 20 then 0 else finished) + i) % logBufferSize) := by
  obtain ⟨index, count⟩ := counts
  have all : min (min finished logBufferSize) 20 = min finished logBufferSize := by
    rw [logBufferSize, min_assoc, min_self]
  rw [logsListed, index, count, all, Nat.sub_self]
  refine List.map_congr_left fun i _ => congrArg history.logBuffer ?_
  rw [logBufferSize]
  split_ifs <;> omega

/-- The last entries, as the readers count them. -/
theorem lastLogged_eq (count : Nat) (calls : Calls LogCall) :
    lastLogged count calls = (calls.arguments.map LogCall.entry).drop
      ((calls.arguments.map LogCall.entry).length -
        min (calls.arguments.map LogCall.entry).length count) := by
  rw [lastLogged, List.length_map]
  congr 1
  omega

theorem logsListed_iff (counts : Counts history calls.arguments.length) :
    logsListed history = lastLogged 20 calls ↔
      Ring.Recent logBufferSize history.logBuffer (calls.arguments.map LogCall.entry) := by
  have start : (if calls.arguments.length < 20 then 0 else calls.arguments.length) %
      logBufferSize = (calls.arguments.length - min calls.arguments.length logBufferSize) %
      logBufferSize := by
    rw [logBufferSize]
    split <;> omega
  rw [logsListed_eq counts, lastLogged_eq]
  rw [← @List.length_map _ _ calls.arguments LogCall.entry] at start ⊢
  exact ⟨Ring.recent_of_read start,
    fun recent => recent.read (Nat.min_le_left ..) (Nat.min_le_right ..) start⟩

theorem logsReplayed_eq (counts : Counts history calls.arguments.length)
    (recent : Ring.Recent logBufferSize history.logBuffer
      (calls.arguments.map LogCall.entry)) :
    logsReplayed history = lastLogged 10 calls := by
  obtain ⟨index, count⟩ := counts
  have few : min (min calls.arguments.length logBufferSize) 10 = min calls.arguments.length 10 := by
    rw [logBufferSize]
    omega
  have start : (calls.arguments.length % logBufferSize + logBufferSize -
      min calls.arguments.length 10) % logBufferSize % logBufferSize =
      (calls.arguments.length - min calls.arguments.length 10) % logBufferSize := by
    rw [logBufferSize]
    omega
  rw [logsReplayed, index, count, few, lastLogged_eq]
  rw [← @List.length_map _ _ calls.arguments LogCall.entry] at start ⊢
  refine recent.read (Nat.min_le_left ..) ?_ start
  rw [logBufferSize]
  omega

/-- Both readers start where the last lines do. -/
theorem historyRight_iff (counts : Counts history calls.arguments.length) :
    HistoryRight calls history ↔
      Ring.Recent logBufferSize history.logBuffer (calls.arguments.map LogCall.entry) := by
  constructor
  · exact fun right => (logsListed_iff counts).mp right.lists
  · intro recent
    have lists := (logsListed_iff counts).mpr recent
    refine ⟨?_, lists, logsReplayed_eq counts recent⟩
    rw [← lists, logsListed_eq counts, counts.count]
    rcases Nat.lt_or_ge calls.arguments.length logBufferSize with few | full
    · rw [Nat.min_eq_left (Nat.le_of_lt few)]
      refine List.Perm.of_eq (List.map_congr_left fun i inside => congrArg _ ?_)
      have small := (List.mem_range.mp inside).trans few
      rw [logBufferSize] at few small ⊢
      rw [if_pos few, Nat.zero_add, Nat.mod_eq_of_lt small]
    · rw [Nat.min_eq_right full]
      exact (Ring.read_perm _ _).symm

/-! ## Depths -/

/-- A call that is made at a depth of a multiple of the size of the ring writes where its number
says. -/
theorem finished_mod_iff (calls : Calls LogCall) {number : Nat}
    (inside : number < (calls.finished 0).length) (inside' : number < (calls.depths 0).length) :
    (calls.finished 0)[number] % 20 = number % 20 ↔ 20 ∣ (calls.depths 0)[number] := by
  have sum := calls.finished_add_depth inside inside'
  omega

theorem mem_drop_depths {calls : Calls LogCall} {count depth : Nat} :
    depth ∈ (calls.depths 0).drop (calls.arguments.length - count) ↔
      ∃ number, ∃ inside : number < (calls.depths 0).length,
        calls.arguments.length ≤ number + count ∧ (calls.depths 0)[number] = depth := by
  rw [List.mem_drop_iff_getElem]
  constructor
  · rintro ⟨i, inside, rfl⟩
    exact ⟨calls.arguments.length - count + i, by omega, by omega, rfl⟩
  · rintro ⟨number, called, last, rfl⟩
    rw [Calls.length_depths] at called
    have split : calls.arguments.length - count + (number - (calls.arguments.length - count)) =
        number := by omega
    refine ⟨number - (calls.arguments.length - count), ?_, ?_⟩
    · rw [Calls.length_depths]
      omega
    · simp only [split]

theorem historyRight_logAll_iff (calls : Calls LogCall) :
    HistoryRight calls (logAll calls .initial) ↔
      Ring.Recent logBufferSize
        (Ring.writeAll logBufferSize
          ((calls.finished 0).zip (calls.arguments.map LogCall.entry)) fun _ => .empty)
        (calls.arguments.map LogCall.entry) := by
  have counts := counts_logAll counts_initial calls
  rw [Nat.zero_add] at counts
  rw [historyRight_iff counts, logBuffer_logAll counts_initial]
  rfl

/-- A line of the given level. -/
def LogCall.mark (level : ESPLogger.LogLevel) : LogCall := ⟨level, ⟨[], by simp⟩, 0, 0⟩

/-- A line that is marked, among lines that are not, is found only where it belongs. -/
theorem finished_mod_of_right {calls : Calls LogCall} {number : Nat}
    (right : ∀ others : Calls LogCall, others.depths 0 = calls.depths 0 →
      HistoryRight others (logAll others .initial))
    (inside : number < (calls.finished 0).length)
    (last : calls.arguments.length ≤ number + logBufferSize) :
    (calls.finished 0)[number] % logBufferSize = number % logBufferSize := by
  have marked := right
    (calls.relabel (fun i => if i = number then .mark .info else .mark .error) 0)
    (Calls.depths_relabel ..)
  have entries : (LogCall.entry ∘ fun i => if i = number then .mark .info else .mark .error) =
      fun i => if i = number then (LogCall.mark .info).entry else (LogCall.mark .error).entry :=
    funext fun i => apply_ite LogCall.entry ..
  rw [historyRight_logAll_iff, Calls.finished_relabel, Calls.arguments_relabel,
    ← List.range_eq_range', List.map_map, entries] at marked
  have unmarked (_ : Nat) : LogEntry.empty ≠ (LogCall.mark .info).entry :=
    fun same => nomatch congrArg LogEntry.level same
  have distinct : (LogCall.mark .error).entry ≠ (LogCall.mark .info).entry :=
    fun same => nomatch congrArg LogEntry.level same
  refine Ring.placed_of_recent unmarked distinct inside (by simpa using last) ?_
  rwa [Calls.length_finished]

/-- The last lines are there, whatever they are, if and only if they were logged at depths that are
multiples of the size of the ring. -/
theorem console_history_iff (calls : Calls LogCall) :
    (∀ others : Calls LogCall, others.depths 0 = calls.depths 0 →
      HistoryRight others (logAll others .initial)) ↔
      ∀ depth ∈ (calls.depths 0).drop (calls.arguments.length - 20), 20 ∣ depth := by
  constructor
  · intro right depth member
    obtain ⟨number, called, last, rfl⟩ := mem_drop_depths.mp member
    have inside : number < (calls.finished 0).length := by simpa using called
    exact (finished_mod_iff calls inside called).mp (finished_mod_of_right right inside last)
  · intro depths others same
    have length : others.arguments.length = calls.arguments.length := by
      rw [← Calls.length_depths others 0, same, Calls.length_depths]
    rw [← same, ← length] at depths
    rw [historyRight_logAll_iff]
    have recent := @Ring.recent_writeAll _ logBufferSize
      ((others.finished 0).zip (others.arguments.map LogCall.entry)) (fun _ => .empty) ?_
    · rwa [List.map_snd_zip (by simp)] at recent
    · intro number inside last
      simp only [List.length_zip, Calls.length_finished, List.length_map, min_self] at inside last
      rw [List.getElem_zip]
      have called : number < (others.depths 0).length := by simpa using inside
      exact (finished_mod_iff others (by simpa using inside) called).mpr
        (depths _ (mem_drop_depths.mpr ⟨number, called, last, rfl⟩))

/-- A line that is logged during the broadcast of another one replaces it. -/
theorem console_history_loses_line :
    ¬HistoryRight (.call (.mark .info) (.call (.mark .warn) .done .done) .done)
      (logAll (.call (.mark .info) (.call (.mark .warn) .done .done) .done) .initial) := by
  intro right
  exact absurd (congrArg (List.map LogEntry.level) right.lists) (by decide)

end WebUI

end ModbusBridge
