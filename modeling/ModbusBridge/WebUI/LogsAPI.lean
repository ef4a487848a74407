import ModbusBridge.WebUI.StatusAPI

/-!
# The logs as JSON

`handleLogsAPI` concatenates its answer like the status, and a new client gets the last lines as
frames. Whatever is logged, both can be read.
-/

namespace ModbusBridge

namespace WebUI

open JsonTree (Tree Shows Writes shows_member)

variable {calls : Calls LogCall} {history : LogHistory}

/-! ## The answer -/

theorem writes_escapeJsonString (text : Bytes) :
    Writes (JsonText.quoted (escapeJsonString text)) (.text (kept text)) := by
  rw [kept_eq_flatMap]
  refine JsonTree.writes_text fun rest => JsonText.scanQuoted_flatMap fun c _ => ?_
  rcases escapeJsonChar_cases c with escaped | ⟨same, keeps, spells⟩ | ⟨dropped, drops, -⟩
  · obtain ⟨spells, keeps, -⟩ := jsonEscapes_spell _ escaped
    exact .inr (by simpa [keeps] using spells)
  · exact .inr (by simpa [same, keeps] using spells)
  · exact .inl (by simp [dropped, drops])

/-- The members of an entry. -/
def logTexts (entry : LogEntry) : List (Bytes × Bytes) :=
  [(ascii "timestamp", decimal entry.timestamp.toNat),
    (ascii "level", JsonText.quoted (ESPLogger.logLevelToString entry.level)),
    (ascii "message", JsonText.quoted (escapeJsonString entry.message.bytes))]

/-- What is read of an entry. -/
def logTree (entry : LogEntry) : Tree :=
  .object [(ascii "timestamp", .number (decimal entry.timestamp.toNat)),
    (ascii "level", .text (ESPLogger.logLevelToString entry.level)),
    (ascii "message", .text (kept entry.message.bytes))]

theorem logObject_eq (entry : LogEntry) :
    logObject entry = JsonText.objectText (logTexts entry) := by
  simp only [logObject, JsonText.objectText, logTexts, JsonText.memberTexts, JsonText.memberText,
    JsonText.quoted, List.append_assoc, List.cons_append]
  rfl

theorem writes_logObject (entry : LogEntry) : Writes (logObject entry) (logTree entry) := by
  have shows : List.Forall₂ Shows (logTexts entry) _ :=
    .cons (shows_member (writes_decimal _)) <|
    .cons (shows_member (simple_logLevelToString _).writes) <|
    .cons (shows_member (writes_escapeJsonString _)) .nil
  rw [logObject_eq]
  exact JsonTree.writes_object shows (List.cons_ne_nil _ _)

/-- The elements of an array are joined with commas. -/
theorem elementTexts_eq_intercalate (texts : List Bytes) :
    JsonTree.elementTexts texts = (ascii ",").intercalate texts := by
  induction texts with
  | nil => rfl
  | cons text texts induction =>
      cases texts with
      | nil => simp [JsonTree.elementTexts]
      | cons next texts =>
          rw [JsonTree.elementTexts_cons_cons, induction, List.intercalate_cons_cons]
          simp [ascii]

/-- The members of the answer. -/
def logsTexts (history : LogHistory) : List (Bytes × Bytes) :=
  [(ascii "logs", JsonTree.arrayText ((logsListed history).map logObject)),
    (ascii "count", decimal (min history.logBufferCount 20)),
    (ascii "total", decimal history.logBufferCount),
    (ascii "bufferSize", decimal logBufferSize)]

/-- What is read of the answer. -/
def logsTree (entries : List LogEntry) (count : Nat) : Tree :=
  .object [(ascii "logs", .array (entries.map logTree)),
    (ascii "count", .number (decimal (min count 20))),
    (ascii "total", .number (decimal count)),
    (ascii "bufferSize", .number (decimal logBufferSize))]

theorem handleLogsAPI_eq (history : LogHistory) :
    handleLogsAPI history = JsonText.objectText (logsTexts history) := by
  simp only [handleLogsAPI, JsonText.objectText, logsTexts, JsonText.memberTexts,
    JsonText.memberText, JsonText.quoted, JsonTree.arrayText, elementTexts_eq_intercalate,
    List.append_assoc, List.cons_append]
  rfl

/-- The answer can be read, whatever the lines are. -/
theorem parse_handleLogsAPI (history : LogHistory) :
    JsonTree.parse (handleLogsAPI history) =
      some (logsTree (logsListed history) history.logBufferCount) := by
  have elements : Writes (JsonTree.arrayText ((logsListed history).map logObject))
      (.array ((logsListed history).map logTree)) := by
    refine JsonTree.writes_array ?_
    rw [List.forall₂_map_left_iff, List.forall₂_map_right_iff, List.forall₂_same]
    exact fun entry _ => writes_logObject entry
  have shows : List.Forall₂ Shows (logsTexts history) _ :=
    .cons (shows_member elements) <|
    .cons (shows_member (writes_decimal _)) <|
    .cons (shows_member (writes_decimal _)) <|
    .cons (shows_member (writes_decimal _)) .nil
  rw [handleLogsAPI_eq]
  exact JsonTree.parse_of_writes (JsonTree.writes_object shows (List.cons_ne_nil _ _))

/-! ## Runs -/

/-- Lines that are logged at multiples of the size of the ring keep the history right. -/
theorem historyRight_of_depths
    (depths : ∀ depth ∈ (calls.depths 0).drop (calls.arguments.length - 20), 20 ∣ depth) :
    HistoryRight calls (logAll calls .initial) := by
  rw [historyRight_logAll_iff]
  have recent := @Ring.recent_writeAll _ logBufferSize
    ((calls.finished 0).zip (calls.arguments.map LogCall.entry)) (fun _ => .empty) ?_
  · rwa [List.map_snd_zip (by simp)] at recent
  · intro number inside last
    simp only [List.length_zip, Calls.length_finished, List.length_map, min_self] at inside last
    rw [List.getElem_zip]
    have called : number < (calls.depths 0).length := by simpa using inside
    exact (finished_mod_iff calls (by simpa using inside) called).mpr
      (depths _ (mem_drop_depths.mpr ⟨number, called, last, rfl⟩))

/-- Whatever has been logged, also lines inside the broadcast of others, the answer is read as an
object with as many entries as it counts. Without such lines among the last twenty, the entries are
those of the last twenty lines in their order, and the frames that a new client gets are read as the
last ten. -/
theorem logs_api_lists (calls : Calls LogCall) (now : Int) :
    let history := logAll calls .initial
    ∃ entries, entries.length = min calls.arguments.length 20 ∧
      JsonTree.parse (handleLogsAPI history) =
        some (logsTree entries (min calls.arguments.length 20)) ∧
      ((∀ depth ∈ (calls.depths 0).drop (calls.arguments.length - 20), 20 ∣ depth) →
        entries = lastLogged 20 calls ∧
          (replay history now).map JsonText.parseObject =
            (lastLogged 10 calls).map fun entry => some (frameMembers entry now)) := by
  intro history
  have counts := counts_logAll counts_initial calls
  rw [Nat.zero_add] at counts
  refine ⟨logsListed history, ?_, ?_, fun depths => ?_⟩
  · rw [logsListed_eq counts, List.length_map, List.length_range, logBufferSize]
  · rw [parse_handleLogsAPI, counts.count, logBufferSize]
  · have right := historyRight_of_depths depths
    refine ⟨right.lists, ?_⟩
    rw [replay, right.replays, List.map_map]
    exact List.map_congr_left fun entry _ => parse_logFrame entry now

end WebUI

end ModbusBridge
