import ModbusBridge.LogStore.Bounds
import ModbusBridge.LogStore.Download
import ModbusBridge.WebUI.Console

/-!
# The downloaded log

`handleLogDownload` sends the log in chunks, one record at a time, while other tasks log. A chunk
without bytes ends a response, so none may be sent before the last.
-/

namespace ModbusBridge

open LogStore ESPLogger

/-! ## The response -/

/-- A response that is sent in chunks. -/
structure ChunkedResponse where
  code : Nat
  contentType : Bytes
  headers : List (Bytes × Bytes)
  chunks : List Bytes

/-- What a client receives: all chunks up to the first one without bytes. -/
def ChunkedResponse.received (response : ChunkedResponse) : Bytes :=
  (response.chunks.takeWhile fun chunk => !chunk.isEmpty).flatten

/-- What a download finds besides the log. -/
structure DumpContext where
  /-- `FIRMWARE_VERSION` and `GIT_HASH`. -/
  build : Build
  /-- `GIT_BRANCH`. -/
  gitBranch : CString
  /-- `wifiManager.getDeviceId()`. -/
  deviceId : CString
  /-- `millis()` for the name of the file, and for the preamble. -/
  filenameMillis : UInt32
  preambleMillis : UInt32
  /-- `ESP.getFreeHeap()`. -/
  freeHeap : UInt32

/-- A line that some task logs. -/
structure LoggedLine where
  level : LogLevel
  line : Line
  timestamp : UInt32

namespace LoggedLine

/-- The step of a session. -/
def step (logged : LoggedLine) : LogStore.Step := .sink logged.level logged.line logged.timestamp

/-- The effect on the store. -/
def onStore (store : Store) (logged : LoggedLine) : Store :=
  LogStore.sink store logged.level (some logged.line.text) logged.timestamp

/-- The call of `sink`. -/
def call (logged : LoggedLine) : SinkCall :=
  ⟨logged.level, some logged.line.text, logged.timestamp⟩

end LoggedLine

namespace WebUI

/-- The name under which the file is offered. -/
def dumpDisposition (context : DumpContext) (store : Store) : CString :=
  CString.snprintf 96 <|
    .literal "attachment; filename=\"modbusbridge-b" (by decide) ++
    .ofDecimal store.rtc.region.bootCount.toNat ++ .literal "-" (by decide) ++
    .ofDecimal (context.filenameMillis / 1000).toNat ++ .literal "s.log\"" (by decide)

/-- The lines of the preamble. -/
def preambleLines (context : DumpContext) (store : Store) : List CString :=
  let region := store.rtc.region
  [.literal "# Modbus Bridge log dump" (by decide),
    .literal "# firmware   : " (by decide) ++ context.build.firmwareVersion ++
      .literal " (" (by decide) ++ context.gitBranch ++ .literal ", " (by decide) ++
      context.build.gitHash ++ .literal ")" (by decide),
    .literal "# device id  : " (by decide) ++ context.deviceId,
    .literal "# boot count : " (by decide) ++ .ofDecimal region.bootCount.toNat,
    .literal "# last reset : " (by decide) ++ resetReasonName region.resetReason,
    .literal "# uptime     : " (by decide) ++
      .ofDecimal (context.preambleMillis / 1000).toNat ++ .literal " s" (by decide),
    .literal "# free heap  : " (by decide) ++ .ofDecimal context.freeHeap.toNat ++
      .literal " bytes" (by decide),
    .literal "# boot seg   : " (by decide) ++ .ofDecimal region.boot.used ++
      .literal " / " (by decide) ++ .ofDecimal bootCap ++
      .literal " bytes (this boot, protected)" (by decide),
    .literal "# rolling seg: " (by decide) ++ .ofDecimal region.roll.used ++
      .literal " / " (by decide) ++ .ofDecimal rollCap ++ .literal " bytes" (by decide),
    .literal "# dropped    : " (by decide) ++ .ofDecimal region.dropped.toNat ++
      .literal " records (cumulative, all boots)" (by decide),
    .literal "# timestamps are milliseconds since boot, not wall clock" (by decide),
    .literal "# sections are NOT one timeline - rolling can predate boot" (by decide),
    .literal "#" (by decide)]

/-- The preamble, before it is cut to its buffer. -/
def preamble (context : DumpContext) (store : Store) : Bytes :=
  (preambleLines context store).flatMap fun line => line.bytes ++ [10]

/-- The line before the records of a segment. -/
def sectionHeader : Section → Bytes
  | .boot => ascii "# --- boot segment (this boot, protected from eviction) ---\n"
  | _ => ascii "# --- rolling segment (recent activity, may predate this boot) ---\n"

/-- The line behind the records of an incomplete download. -/
def overrunWarning : Bytes := ascii "# --- log overrun during read, older entries lost ---\n"

/-- The size of the buffer for a line. -/
def lineBuffer : Nat := logStoreMaxMsg + 64

/-- The loop: the chunks of the records, and the cursor in the end. Before each call of `next`,
other tasks log some lines. -/
def sendRecords (lines : Nat → List LoggedLine) :
    Nat → Nat → Store → Cursor → Option Section → Option (List Bytes × Cursor)
  | 0, _, _, _, _ => none
  | calls + 1, turn, store, cursor, shownSegment =>
      let store := (lines turn).foldl LoggedLine.onStore store
      match LogStore.next store cursor lineBuffer with
      | (cursor, none) => some ([], cursor)
      | (cursor, some line) =>
          let header :=
            if some cursor.recordSegment = shownSegment then []
            else [sectionHeader cursor.recordSegment]
          (sendRecords lines calls (turn + 1) store cursor (some cursor.recordSegment)).map
            fun (chunks, last) => (header ++ line :: chunks, last)

/-- `handleLogDownload`, with at most so many calls of `next`. The first of the lines are logged
while the preamble is sent. -/
def handleLogDownload (context : DumpContext) (lines : Nat → List LoggedLine) (calls : Nat)
    (store : Store) : Option ChunkedResponse :=
  let opened := (lines 0).foldl LoggedLine.onStore store
  let pre := preamble context store
  (sendRecords lines calls 1 opened (openRead opened) none).map fun (chunks, cursor) =>
    { code := 200
      contentType := ascii "text/plain"
      headers :=
        [(ascii "X-Content-Type-Options", ascii "nosniff"), (ascii "X-Frame-Options", ascii "DENY"),
          (ascii "Cache-Control", ascii "no-store"),
          (ascii "Content-Disposition", (dumpDisposition context store).bytes)]
      chunks := (if pre.length > 0 then [pre.take (512 - 1)] else []) ++ chunks ++
        (if cursor.overrun then [overrunWarning] else []) ++ [[]] }

/-! ## What `next` returns -/

section

variable {region : Region} {data : Nat → UInt8} {store : Store} {cursor after : Cursor}

/-- What a turn of the loop makes of a cursor, and what it has copied. -/
structure Copied (cursor : Cursor) (fetched : Fetched) : Prop where
  source : fetched.fromSegment = cursor.segment
  walks : cursor.segment ≠ .done
  short : fetched.body.length ≤ logStoreMaxMsg

theorem fetchStep_copies (walks : cursor.segment ≠ .done) :
    let turn := fetchStep region data cursor
    (cursor.segment ≠ .boot → turn.1.segment ≠ .boot) ∧
      ∀ fetched ∈ turn.2, Copied turn.1 fetched := by
  rw [fetchStep]
  dsimp only
  generalize (if cursor.segment = .boot then region.boot else region.roll) = r
  split_ifs with finished boot lapped tail wrapped corrupt
  · exact ⟨by simp, by simp⟩
  · exact ⟨by simp, by simp⟩
  · exact ⟨id, by simp⟩
  · exact ⟨id, by simp⟩
  · exact ⟨id, by simp⟩
  · exact ⟨id, by simp⟩
  · refine ⟨id, fun fetched taken => ?_⟩
    obtain rfl := Option.some.inj taken
    exact ⟨rfl, walks, by simpa [Memory.slice] using Nat.le_of_not_lt corrupt⟩

theorem fetchLoop_copies (region : Region) (data : Nat → UInt8) (fuel : Nat) (cursor : Cursor) :
    let turns := fetchLoop region data fuel cursor
    (cursor.segment ≠ .boot → turns.1.segment ≠ .boot) ∧
      ∀ fetched ∈ turns.2, Copied turns.1 fetched := by
  induction fuel generalizing cursor with
  | zero => exact ⟨id, by simp [fetchLoop]⟩
  | succ fuel induction =>
      rw [fetchLoop]
      by_cases done : cursor.segment = .done
      · rw [if_pos done]
        exact ⟨id, by simp⟩
      · have turn := @fetchStep_copies region data cursor done
        rw [if_neg done]
        generalize fetchStep region data cursor = result at turn
        obtain ⟨after, found⟩ := result
        cases found with
        | none => exact ⟨fun later => (induction after).1 (turn.1 later), (induction after).2⟩
        | some fetched => exact turn

/-- A line as `next` formats it. -/
def IsLine (line : Bytes) : Prop := ∃ text, line = 91 :: (text ++ [10])

theorem IsLine.ne_nil {line : Bytes} (isLine : IsLine line) : line ≠ [] := by
  obtain ⟨text, rfl⟩ := isLine
  exact List.cons_ne_nil _ _

/-- What a call of `next` makes of a cursor, and the line that it returns. -/
structure Returned (cursor : Cursor) (line : Bytes) : Prop where
  source : cursor.recordSegment = cursor.segment
  walks : cursor.segment ≠ .done
  isLine : IsLine line

theorem render_isLine {ts : UInt32} {level : UInt8} {body : Bytes}
    (short : body.length ≤ logStoreMaxMsg) :
    IsLine ((render ts level body).take (lineBuffer - 1)) := by
  have stamp : (decimal ts.toNat).length ≤ 10 :=
    decimal_length_le (by decide) (ts.toNat_lt.trans (by decide))
  have name : (levelName level).length ≤ 7 :=
    Record.levelName_eq level ▸ Record.levelShown_length_le level
  have text : (untilNul body).length ≤ body.length := (List.takeWhile_sublist _).length_le
  have bracket : (ascii "[").length = 1 := rfl
  have middle : (ascii "][").length = 2 := rfl
  have space : (ascii "] ").length = 2 := rfl
  have whole : (render ts level body).length ≤ lineBuffer - 1 := by
    simp only [render, List.length_append, List.length_singleton, lineBuffer]
    omega
  rw [List.take_of_length_le whole]
  exact ⟨decimal ts.toNat ++ ascii "][" ++ levelName level ++ ascii "] " ++ untilNul body, by
    simp [render, ascii]⟩

theorem next_returns (store : Store) (cursor : Cursor) :
    let result := LogStore.next store cursor lineBuffer
    (cursor.segment ≠ .boot → result.1.segment ≠ .boot) ∧
      ∀ line ∈ result.2, Returned result.1 line := by
  have copies := fetchLoop_copies store.rtc.region store.rtc.data
    (cursor.remaining + store.rtc.region.roll.used + 3) cursor
  rw [next, if_neg (by decide)]
  dsimp only at copies ⊢
  generalize fetchLoop store.rtc.region store.rtc.data
    (cursor.remaining + store.rtc.region.roll.used + 3) cursor = result at copies ⊢
  obtain ⟨after, found⟩ := result
  cases found with
  | none => exact ⟨copies.1, by simp⟩
  | some fetched =>
      refine ⟨copies.1, fun line taken => ?_⟩
      obtain rfl := Option.some.inj taken
      have copied := copies.2 fetched rfl
      exact ⟨copied.source, copied.walks, render_isLine copied.short⟩

end

/-! ## The loop as a session -/

/-- The steps of a session: before each call of `next`, some lines are logged. -/
def downloadSteps (lines : Nat → List LoggedLine) : Nat → Nat → List LogStore.Step
  | _, 0 => []
  | turn, calls + 1 =>
      (lines turn).map LoggedLine.step ++ .next :: downloadSteps lines (turn + 1) calls

/-- The chunks of a segment. -/
def sectionChunks (shownSegment : Option Section) (segment : Section) : List Bytes → List Bytes
  | [] => []
  | line :: lines =>
      (if some segment = shownSegment then [] else [sectionHeader segment]) ++ line :: lines

theorem sectionChunks_self (segment : Section) (lines : List Bytes) :
    sectionChunks (some segment) segment lines = lines := by
  cases lines <;> simp [sectionChunks]

/-- A header is sent under any other header. -/
theorem sectionChunks_of_ne {shownSegment : Option Section} {segment : Section}
    (other : shownSegment ≠ some segment) (lines : List Bytes) :
    sectionChunks shownSegment segment lines = sectionChunks none segment lines := by
  cases lines with
  | nil => rfl
  | cons line lines => simp [sectionChunks, other.symm]

/-- Lines that are logged leave the reader where it is. -/
theorem foldl_step (outSize : Nat) (session : Session) (logged : List LoggedLine) :
    let after := (logged.map LoggedLine.step).foldl (LogStore.Step.onSession outSize) session
    after.store = logged.foldl LoggedLine.onStore session.store ∧
      after.cursor = session.cursor ∧ after.bootShown = session.bootShown ∧
      after.rollingShown = session.rollingShown := by
  induction logged generalizing session with
  | nil => exact ⟨rfl, rfl, rfl, rfl⟩
  | cons line logged induction => exact induction (line.step.onSession outSize session)

/-- A line that is returned is shown as one of the segment that the cursor walks. -/
theorem next_shown {session : Session} {after : Cursor} {line : Bytes}
    (next_eq : LogStore.next session.store session.cursor lineBuffer = (after, some line))
    (returned : Returned after line) :
    let shown := LogStore.Step.next.onSession lineBuffer session
    (after.segment = .boot ∧ shown.bootShown = session.bootShown ++ [line] ∧
      shown.rollingShown = session.rollingShown) ∨
    (after.segment = .rolling ∧ shown.bootShown = session.bootShown ∧
      shown.rollingShown = session.rollingShown ++ [line]) := by
  have source := returned.source
  cases place : after.segment with
  | done => exact absurd place returned.walks
  | boot =>
      rw [place] at source
      exact .inl ⟨rfl, by simp [LogStore.Step.onSession, next_eq, source],
        by simp [LogStore.Step.onSession, next_eq, source]⟩
  | rolling =>
      rw [place] at source
      exact .inr ⟨rfl, by simp [LogStore.Step.onSession, next_eq, source],
        by simp [LogStore.Step.onSession, next_eq, source]⟩

/-- The chunks are those of the lines that a session shows. -/
theorem sendRecords_shows {lines : Nat → List LoggedLine} {calls turn : Nat} {session : Session}
    {shownSegment : Option Section} {chunks : List Bytes} {last : Cursor}
    (begins : session.cursor.segment = .boot → shownSegment ≠ some .rolling)
    (sends : sendRecords lines calls turn session.store session.cursor shownSegment =
      some (chunks, last)) :
    ∃ count ≤ calls, ∃ boot rolling,
      let after :=
        (downloadSteps lines turn count).foldl (LogStore.Step.onSession lineBuffer) session
      after.cursor = last ∧ after.bootShown = session.bootShown ++ boot ∧
        after.rollingShown = session.rollingShown ++ rolling ∧
        (session.cursor.segment ≠ .boot → boot = []) ∧
        (∀ line ∈ boot ++ rolling, IsLine line) ∧
        chunks = sectionChunks shownSegment .boot boot ++
          sectionChunks shownSegment .rolling rolling := by
  induction calls generalizing turn session shownSegment chunks with
  | zero => simp [sendRecords] at sends
  | succ calls induction =>
      obtain ⟨store, cursor, bootShown, rollingShown⟩ :=
        foldl_step lineBuffer session (lines turn)
      generalize waited_eq : ((lines turn).map LoggedLine.step).foldl
        (LogStore.Step.onSession lineBuffer) session = waited
        at store cursor bootShown rollingShown
      have steps : ∀ count, (downloadSteps lines turn (count + 1)).foldl
          (LogStore.Step.onSession lineBuffer) session =
            (downloadSteps lines (turn + 1) count).foldl (LogStore.Step.onSession lineBuffer)
              (LogStore.Step.next.onSession lineBuffer waited) := fun count => by
        rw [downloadSteps, List.foldl_append, waited_eq, List.foldl_cons]
      have returns := next_returns waited.store waited.cursor
      rw [sendRecords] at sends
      dsimp only at sends
      rw [← store, ← cursor] at sends
      generalize next_eq : LogStore.next waited.store waited.cursor lineBuffer = result
        at sends returns
      obtain ⟨after, found⟩ := result
      cases found with
      | none =>
          obtain ⟨rfl, rfl⟩ := Prod.mk.inj (Option.some.inj sends)
          refine ⟨1, Nat.succ_pos calls, [], [], ?_⟩
          rw [steps 0]
          simp [downloadSteps, LogStore.Step.onSession, next_eq, bootShown, rollingShown,
            sectionChunks]
      | some line =>
          obtain ⟨⟨others, stop⟩, rest, pair⟩ := Option.map_eq_some_iff.mp sends
          obtain ⟨rfl, rfl⟩ := Prod.mk.inj pair
          have returned : Returned after line := returns.2 line rfl
          have moved : (LogStore.Step.next.onSession lineBuffer waited).cursor = after := by
            simp [LogStore.Step.onSession, next_eq]
          have order : (LogStore.Step.next.onSession lineBuffer waited).cursor.segment = .boot →
              some after.recordSegment ≠ some .rolling := by
            rw [moved, returned.source]
            intro boot
            simp [boot]
          obtain ⟨count, few, boot, rolling, stops, bootShows, rollingShows, left, areLines, rfl⟩ :=
            induction order (by rw [moved]; exact rest)
          rw [← steps count] at stops bootShows rollingShows
          rw [moved] at left
          rcases next_shown next_eq returned with ⟨here, shows, keeps⟩ | ⟨here, keeps, shows⟩
          · have first : session.cursor.segment = .boot := by
              by_contra later
              exact returns.1 (cursor ▸ later) here
            rw [shows, bootShown, List.append_assoc] at bootShows
            rw [keeps, rollingShown] at rollingShows
            refine ⟨count + 1, Nat.succ_le_succ few, line :: boot, rolling, stops, bootShows,
              rollingShows, fun later => absurd first later,
              List.forall_mem_cons.mpr ⟨returned.isLine, areLines⟩, ?_⟩
            rw [returned.source, here, sectionChunks_self, sectionChunks_of_ne (by simp),
              sectionChunks_of_ne (begins first)]
            simp [sectionChunks]
          · obtain rfl := left (by simp [here])
            rw [keeps, bootShown] at bootShows
            rw [shows, rollingShown, List.append_assoc] at rollingShows
            refine ⟨count + 1, Nat.succ_le_succ few, [], line :: rolling, stops, bootShows,
              rollingShows, fun _ => rfl, List.forall_mem_cons.mpr ⟨returned.isLine, areLines⟩, ?_⟩
            rw [returned.source, here, sectionChunks_self]
            simp [sectionChunks]

/-- The loop ends, whatever is logged in the meantime. -/
theorem sendRecords_ends (lines : Nat → List LoggedLine) {calls turn : Nat} {store : Store}
    {cursor : Cursor} {shownSegment : Option Section} (attended : Attended store [cursor])
    (enough : cursor.ahead < calls) :
    ∃ chunks last, sendRecords lines calls turn store cursor shownSegment = some (chunks, last) ∧
      last.segment = .done := by
  induction calls generalizing turn store cursor shownSegment with
  | zero => omega
  | succ calls induction =>
      have waited : Attended ((lines turn).foldl LoggedLine.onStore store) [cursor] := by
        have logged := attended.sinks ((lines turn).map LoggedLine.call)
        rwa [List.foldl_map] at logged
      rw [sendRecords]
      dsimp only
      generalize (lines turn).foldl LoggedLine.onStore store = opened at waited ⊢
      obtain ⟨boot, intact, stands⟩ := waited
      have walked := intact.next_walked (stands cursor (List.mem_singleton_self cursor))
        (show 2 ≤ lineBuffer by decide)
      generalize LogStore.next opened cursor lineBuffer = result at walked ⊢
      obtain ⟨after, found⟩ := result
      cases found with
      | none => exact ⟨[], after, rfl, walked.ends rfl⟩
      | some line =>
          have advances : after.ahead < cursor.ahead := walked.advances rfl
          obtain ⟨chunks, last, sends, done⟩ :=
            @induction (turn + 1) opened after (some after.recordSegment)
              ⟨boot, intact, by simpa using walked.stands⟩ (by omega)
          exact ⟨_, last, congrArg (Option.map _) sends, done⟩

/-! ## Reading the file -/

/-- The parts of a file as they are read. -/
structure Dump where
  /-- The segment of the last header. -/
  segment : Option Section
  boot : List Bytes
  rolling : List Bytes

/-- Read one more line, of which the line feed is gone. -/
def Dump.readLine (dump : Dump) (line : Bytes) : Dump :=
  if line ++ [10] = sectionHeader .boot then { dump with segment := some .boot }
  else if line ++ [10] = sectionHeader .rolling then { dump with segment := some .rolling }
  else if line.head? = some 91 then
    match dump.segment with
    | some .boot => { dump with boot := dump.boot ++ [line ++ [10]] }
    | some .rolling => { dump with rolling := dump.rolling ++ [line ++ [10]] }
    | _ => dump
  else dump

/-- Read a file. -/
def readDump (file : Bytes) : Dump := (file.splitOn 10).foldl Dump.readLine ⟨none, [], []⟩

/-- Texts with a line feed at their ends only are split again. -/
theorem splitOn_flatten {texts : List Bytes} (plain : ∀ text ∈ texts, (10 : UInt8) ∉ text)
    (rest : Bytes) :
    ((texts.flatMap fun text => text ++ [10]) ++ rest).splitOn 10 = texts ++ rest.splitOn 10 := by
  induction texts with
  | nil => rfl
  | cons text texts induction =>
      obtain ⟨first, others⟩ := List.forall_mem_cons.mp plain
      rw [List.flatMap_cons, List.append_assoc, List.append_assoc, List.singleton_append,
        List.splitOn_append_cons_self_of_not_mem first, induction others, List.cons_append]

theorem ne_sectionHeader {text : Bytes} (plain : text[2]? ≠ some 45) (segment : Section) :
    text ++ [10] ≠ sectionHeader segment := by
  intro same
  have third : (text ++ [10])[2]? = some 45 := by
    rw [same]
    cases segment <;> rfl
  rw [List.getElem?_append] at third
  split_ifs at third with inside
  · exact plain third
  · cases left : 2 - text.length <;> simp [left] at third

/-- A line of the preamble, or the warning. -/
structure Comment (line : Bytes) : Prop where
  hash : line.head? = some 35
  other : ∀ segment, line ++ [10] ≠ sectionHeader segment

theorem Comment.readLine {line : Bytes} (comment : Comment line) (dump : Dump) :
    dump.readLine line = dump := by
  rw [Dump.readLine, if_neg (comment.other _), if_neg (comment.other _),
    if_neg (by simp [comment.hash])]

theorem foldl_readLine_comments (dump : Dump) {texts : List Bytes}
    (comments : ∀ text ∈ texts, Comment text) : texts.foldl Dump.readLine dump = dump := by
  induction texts with
  | nil => rfl
  | cons text texts induction =>
      obtain ⟨comment, comments⟩ := List.forall_mem_cons.mp comments
      rw [List.foldl_cons, comment.readLine, induction comments]

/-- Lines are added to a segment, under its header. -/
def Dump.put (dump : Dump) : Section → List Bytes → Dump
  | .boot, lines => { dump with segment := some .boot, boot := dump.boot ++ lines }
  | _, lines => { dump with segment := some .rolling, rolling := dump.rolling ++ lines }

theorem readLine_header (dump : Dump) (segment : Section) {line : Bytes}
    (header : line ++ [10] = sectionHeader segment) : dump.readLine line = dump.put segment [] := by
  have apart : sectionHeader .rolling ≠ sectionHeader .boot := by decide
  rw [Dump.readLine, header]
  cases segment with
  | boot => simp [Dump.put]
  | rolling => simp [Dump.put, apart]
  | done => simp [Dump.put, show sectionHeader .done = sectionHeader .rolling from rfl, apart]

theorem readLine_put (dump : Dump) (segment : Section) (lines : List Bytes) {line : Bytes}
    (bracket : line.head? = some 91) :
    (dump.put segment lines).readLine line = dump.put segment (lines ++ [line ++ [10]]) := by
  have other : ∀ segment, line ++ [10] ≠ sectionHeader segment := by
    intro segment same
    have first : (line ++ [10]).head? = some 35 := by
      rw [same]
      cases segment <;> rfl
    simp [bracket] at first
  rw [Dump.readLine, if_neg (other _), if_neg (other _), if_pos bracket]
  cases segment <;> simp [Dump.put]

theorem foldl_readLine_put (dump : Dump) (segment : Section) (lines : List Bytes)
    {texts : List Bytes} (brackets : ∀ text ∈ texts, text.head? = some 91) :
    texts.foldl Dump.readLine (dump.put segment lines) =
      dump.put segment (lines ++ texts.map fun text => text ++ [10]) := by
  induction texts generalizing lines with
  | nil => simp
  | cons text texts induction =>
      obtain ⟨bracket, brackets⟩ := List.forall_mem_cons.mp brackets
      rw [List.foldl_cons, readLine_put dump segment lines bracket, induction _ brackets,
        List.map_cons, List.append_assoc, List.singleton_append]

/-- The texts of a segment, without their line feeds. -/
def sectionTexts (segment : Section) : List Bytes → List Bytes
  | [] => []
  | text :: texts => (sectionHeader segment).dropLast :: text :: texts

theorem sectionHeader_dropLast (segment : Section) :
    (sectionHeader segment).dropLast ++ [10] = sectionHeader segment := by
  cases segment <;> rfl

theorem sectionTexts_flatMap (segment : Section) (texts : List Bytes) :
    (sectionTexts segment texts).flatMap (fun text => text ++ [10]) =
      (sectionChunks none segment (texts.map fun text => text ++ [10])).flatten := by
  cases texts with
  | nil => rfl
  | cons text texts =>
      simp [sectionTexts, sectionChunks, sectionHeader_dropLast, List.flatMap_def]

/-- The texts under a header are the lines of its segment. -/
theorem foldl_readLine_section (dump : Dump) (segment : Section) {texts : List Bytes}
    (brackets : ∀ text ∈ texts, text.head? = some 91) :
    let after := (sectionTexts segment texts).foldl Dump.readLine dump
    let put := dump.put segment (texts.map fun text => text ++ [10])
    after.boot = put.boot ∧ after.rolling = put.rolling := by
  cases texts with
  | nil => cases segment <;> simp [sectionTexts, Dump.put]
  | cons text texts =>
      rw [sectionTexts, List.foldl_cons, readLine_header dump segment (sectionHeader_dropLast _),
        foldl_readLine_put dump segment [] brackets]
      exact ⟨rfl, rfl⟩

/-- The preamble fits its buffer, and the texts in it are on one line. -/
structure PlainPreamble (context : DumpContext) (store : Store) : Prop where
  fits : (preamble context store).length < 512
  version : 10 ∉ context.build.firmwareVersion.bytes
  branch : 10 ∉ context.gitBranch.bytes
  hash : 10 ∉ context.build.gitHash.bytes
  device : 10 ∉ context.deviceId.bytes

theorem bytes_append (left right : CString) : (left ++ right).bytes = left.bytes ++ right.bytes :=
  rfl

theorem lineFeed_notMem_decimal (n : Nat) : 10 ∉ (CString.ofDecimal n).bytes :=
  fun member => absurd (isDigit_of_mem_decimal member) (by decide)

theorem lineFeed_notMem_resetReasonName (reason : UInt32) :
    10 ∉ (resetReasonName reason).bytes := by
  rw [resetReasonName]
  split_ifs <;> decide

theorem preambleLines_plain {context : DumpContext} {store : Store}
    (plain : PlainPreamble context store) :
    ∀ line ∈ preambleLines context store, 10 ∉ line.bytes := by
  obtain ⟨-, version, branch, hash, device⟩ := plain
  simp only [preambleLines, List.forall_mem_cons, bytes_append, List.mem_append, not_or,
    lineFeed_notMem_decimal, lineFeed_notMem_resetReasonName, version, branch, hash, device,
    not_false_eq_true, List.not_mem_nil, false_implies, implies_true, and_true, CString.literal]
  and_intros <;> decide

theorem preambleLines_comments (context : DumpContext) (store : Store) :
    ∀ line ∈ preambleLines context store, Comment line.bytes := by
  have comment {text : Bytes} {byte : UInt8} (hash : text.head? = some 35)
      (third : text[2]? = some byte) (plain : byte ≠ 45) : Comment text :=
    ⟨hash, ne_sectionHeader (by simpa [third] using plain)⟩
  simp only [preambleLines, List.forall_mem_cons]
  exact ⟨comment rfl rfl (by decide), comment rfl rfl (by decide), comment rfl rfl (by decide),
    comment rfl rfl (by decide), comment rfl rfl (by decide), comment rfl rfl (by decide),
    comment rfl rfl (by decide), comment rfl rfl (by decide), comment rfl rfl (by decide),
    comment rfl rfl (by decide), comment rfl rfl (by decide), comment rfl rfl (by decide),
    ⟨rfl, ne_sectionHeader (by decide)⟩, by simp⟩

/-- The file as it is sent. -/
def dumpFile (pre : Bytes) (boot rolling : List Bytes) (overrun : Bool) : Bytes :=
  pre ++ (sectionChunks none .boot boot).flatten ++ (sectionChunks none .rolling rolling).flatten ++
    (if overrun then overrunWarning else [])

/-- The texts of the file, without their line feeds. -/
def dumpTexts (context : DumpContext) (store : Store) (boot rolling : List Bytes)
    (overrun : Bool) : List Bytes :=
  (preambleLines context store).map CString.bytes ++ sectionTexts .boot boot ++
    sectionTexts .rolling rolling ++ (if overrun then [overrunWarning.dropLast] else [])

theorem dumpFile_eq {context : DumpContext} {store : Store}
    (fits : (preamble context store).length < 512) (boot rolling : List Bytes) (overrun : Bool) :
    dumpFile ((preamble context store).take 511) (boot.map fun text => text ++ [10])
        (rolling.map fun text => text ++ [10]) overrun =
      (dumpTexts context store boot rolling overrun).flatMap fun text => text ++ [10] := by
  have warning : (if overrun then overrunWarning else []) =
      (if overrun then [overrunWarning.dropLast] else []).flatMap fun text => text ++ [10] := by
    cases overrun <;> rfl
  rw [List.take_of_length_le (by omega), dumpFile, dumpTexts, List.flatMap_append,
    List.flatMap_append, List.flatMap_append, sectionTexts_flatMap, sectionTexts_flatMap,
    List.flatMap_map, preamble, warning]

/-- A reader of the file finds the lines of each segment. -/
theorem readDump_dumpFile {context : DumpContext} {store : Store}
    (plain : PlainPreamble context store)
    {boot rolling : List Bytes} (areLines : ∀ line ∈ boot ++ rolling, IsLine line)
    (single : ∀ line ∈ boot ++ rolling, 10 ∉ line.dropLast) (overrun : Bool) :
    let dump := readDump (dumpFile ((preamble context store).take 511) boot rolling overrun)
    dump.boot = boot ∧ dump.rolling = rolling := by
  have brackets : ∀ text ∈ (boot ++ rolling).map List.dropLast, text.head? = some 91 := by
    intro text listed
    obtain ⟨line, member, rfl⟩ := List.mem_map.mp listed
    obtain ⟨text, rfl⟩ := areLines line member
    rw [← List.cons_append, List.dropLast_concat]
    rfl
  have restores : ∀ line ∈ boot ++ rolling, line.dropLast ++ [10] = line := by
    intro line member
    obtain ⟨text, rfl⟩ := areLines line member
    rw [← List.cons_append, List.dropLast_concat]
  simp only [List.map_append, List.forall_mem_append] at brackets
  simp only [List.forall_mem_append] at restores single
  have restored {lines : List Bytes} (restores : ∀ line ∈ lines, line.dropLast ++ [10] = line) :
      (lines.map List.dropLast).map (fun text => text ++ [10]) = lines := by
    rw [List.map_map]
    exact List.map_congr_left restores |>.trans (List.map_id lines)
  have plain_section (segment : Section) {lines : List Bytes}
      (single : ∀ line ∈ lines, (10 : UInt8) ∉ line.dropLast) :
      ∀ text ∈ sectionTexts segment (lines.map List.dropLast), (10 : UInt8) ∉ text := by
    cases lines with
    | nil => simp [sectionTexts]
    | cons line lines =>
        have header : (10 : UInt8) ∉ (sectionHeader segment).dropLast := by
          cases segment <;> decide
        exact List.forall_mem_cons.mpr ⟨header, by simpa using single⟩
  have texts : ∀ text ∈ dumpTexts context store (boot.map List.dropLast)
      (rolling.map List.dropLast) overrun, (10 : UInt8) ∉ text := by
    simp only [dumpTexts, List.forall_mem_append, List.forall_mem_map]
    refine ⟨⟨⟨preambleLines_plain plain, plain_section .boot single.1⟩,
      plain_section .rolling single.2⟩, ?_⟩
    cases overrun <;> decide
  have file := dumpFile_eq plain.fits (boot.map List.dropLast) (rolling.map List.dropLast) overrun
  rw [restored restores.1, restored restores.2] at file
  have split := splitOn_flatten texts []
  rw [List.append_nil, ← file] at split
  have warning : ∀ text ∈ (if overrun then [overrunWarning.dropLast] else []), Comment text := by
    cases overrun with
    | false => simp
    | true =>
        simp only [if_true, List.mem_singleton, forall_eq]
        exact ⟨rfl, fun segment => by cases segment <;> decide⟩
  have comments : ∀ text ∈ (preambleLines context store).map CString.bytes, Comment text :=
    List.forall_mem_map.mpr (preambleLines_comments context store)
  dsimp only
  rw [readDump, split, dumpTexts]
  simp only [List.foldl_append]
  rw [foldl_readLine_comments _ comments, foldl_readLine_comments _ warning]
  obtain ⟨bootBoot, bootRolling⟩ := foldl_readLine_section ⟨none, [], []⟩ .boot brackets.1
  generalize (sectionTexts .boot (boot.map List.dropLast)).foldl Dump.readLine ⟨none, [], []⟩ =
    first at bootBoot bootRolling ⊢
  obtain ⟨rollingBoot, rollingRolling⟩ := foldl_readLine_section first .rolling brackets.2
  generalize (sectionTexts .rolling (rolling.map List.dropLast)).foldl Dump.readLine first =
    second at rollingBoot rollingRolling ⊢
  have rest : ([[]] : List Bytes).foldl Dump.readLine second = second := rfl
  rw [List.splitOn_nil, rest, rollingBoot, rollingRolling, restored restores.2]
  simp [Dump.put, bootBoot, bootRolling, restored restores.1]

/-! ## The file -/

theorem sectionChunks_ne_nil (segment : Section) {lines : List Bytes}
    (areLines : ∀ line ∈ lines, IsLine line) :
    ∀ chunk ∈ sectionChunks none segment lines, chunk ≠ [] := by
  cases lines with
  | nil => simp [sectionChunks]
  | cons line lines =>
      have header : sectionHeader segment ≠ [] := by cases segment <;> decide
      exact List.forall_mem_cons.mpr ⟨header, fun chunk listed => (areLines chunk listed).ne_nil⟩

/-- A client receives all chunks if none before the last is without bytes. -/
theorem received_eq {response : ChunkedResponse} {chunks : List Bytes}
    (some_bytes : ∀ chunk ∈ chunks, chunk ≠ []) (sent : response.chunks = chunks ++ [[]]) :
    response.received = chunks.flatten := by
  have whole : ∀ chunk ∈ chunks, (!chunk.isEmpty) = true := by simpa using some_bytes
  rw [ChunkedResponse.received, sent, List.takeWhile_append_of_pos whole]
  simp

/-- What a client receives is the file of the lines that the download shows. -/
theorem handleLogDownload_received {context : DumpContext} {lines : Nat → List LoggedLine}
    {calls : Nat} {store : Store} {chunks : List Bytes} {last : Cursor}
    (sent : sendRecords lines calls 1 ((lines 0).foldl LoggedLine.onStore store)
      (openRead ((lines 0).foldl LoggedLine.onStore store)) none = some (chunks, last)) :
    ∃ response, handleLogDownload context lines calls store = some response ∧
      ∃ count ≤ calls,
        let session := (downloadSteps lines 1 count).foldl (LogStore.Step.onSession lineBuffer)
          (.start ((lines 0).foldl LoggedLine.onStore store))
        session.cursor = last ∧
          response.received = dumpFile ((preamble context store).take 511) session.bootShown
            session.rollingShown session.cursor.overrun ∧
          ∀ line ∈ session.bootShown ++ session.rollingShown, IsLine line := by
  obtain ⟨count, few, boot, rolling, stops, bootShows, rollingShows, -, areLines, rfl⟩ :=
    @sendRecords_shows lines calls 1 (.start ((lines 0).foldl LoggedLine.onStore store)) none
      chunks last (by simp) sent
  rw [show (Session.start _).bootShown = [] from rfl, List.nil_append] at bootShows
  rw [show (Session.start _).rollingShown = [] from rfl, List.nil_append] at rollingShows
  refine ⟨_, congrArg (Option.map _) sent, count, few, ?_⟩
  dsimp only
  rw [stops, bootShows, rollingShows]
  refine ⟨rfl, ?_, areLines⟩
  have begun : preamble context store ≠ [] := by simp [preamble, preambleLines]
  have pre : (preamble context store).take 511 ≠ [] := by simp [begun]
  obtain ⟨bootLines, rollingLines⟩ := List.forall_mem_append.mp areLines
  rw [received_eq ?_ rfl, if_pos (List.length_pos_iff.mpr begun), dumpFile]
  · cases last.overrun <;> simp
  · simp only [List.forall_mem_append]
    refine ⟨⟨?_, sectionChunks_ne_nil .boot bootLines, sectionChunks_ne_nil .rolling rollingLines⟩,
      ?_⟩
    · rw [if_pos (List.length_pos_iff.mpr begun)]
      exact List.forall_mem_singleton.mpr pre
    · cases last.overrun <;> decide

theorem refines_logged {store : Store} {journal : Journal} (refines : Refines store journal)
    (logged : List LoggedLine) :
    Refines (logged.foldl LoggedLine.onStore store)
      ((logged.map LoggedLine.step).foldl LogStore.Step.onJournal journal) := by
  have after := events_refine refines
    (logged.map fun line => .sink line.level line.line line.timestamp)
  rw [List.foldl_map, List.foldl_map] at after
  rw [List.foldl_map]
  exact after

/-- A download always ends, and the client receives all of it: the preamble, at most one section for
each segment, and a warning if the reader was overrun. The lines are those of a session of `next`,
which are what the segments held unless there is a warning or the reader was lapped; a reader of the
file finds them again. -/
theorem log_download_file (build : Build) (reason : UInt32) (rtc : Rtc)
    (invalid : rtc.region.valid = false) (events : List Event) (context : DumpContext)
    (lines : Nat → List LoggedLine) :
    let store := events.foldl Event.onStore (begin build reason rtc)
    let journal := events.foldl Event.onJournal (Journal.blank.begin build reason)
    let start := Session.start ((lines 0).foldl LoggedLine.onStore store)
    ∃ response, handleLogDownload context lines (logStoreDataBytes + 1) store = some response ∧
      ∃ calls ≤ logStoreDataBytes + 1,
        let steps := downloadSteps lines 1 calls
        let session := steps.foldl (LogStore.Step.onSession lineBuffer) start
        let logged := ((lines 0).map LoggedLine.step ++ steps).foldl LogStore.Step.onJournal journal
        response.received = dumpFile ((preamble context store).take 511) session.bootShown
          session.rollingShown session.cursor.overrun ∧
        (PlainPreamble context store →
          (∀ line ∈ session.bootShown ++ session.rollingShown, 10 ∉ line.dropLast) →
          (readDump response.received).boot = session.bootShown ∧
            (readDump response.received).rolling = session.rollingShown) ∧
        (Unlapped lineBuffer start steps →
          (session.cursor.overrun = true ∨
            session.bootShown = session.bootHeld ∧ session.rollingShown = session.rollingHeld) ∧
          session.Genuine logged) := by
  intro store journal start
  have refines : Refines store journal :=
    events_refine (begin_refines (restarts_blank invalid) build reason) events
  have opened := refines_logged refines (lines 0)
  obtain ⟨gone, slots, -, -, stored⟩ := opened.stored
  have intact : LogStore.Intact ((lines 0).foldl LoggedLine.onStore store).rtc _ :=
    ⟨stored.held, stored.queued.base_eq, stored.queued.cap_eq, stored.queued.writePos_lt,
      stored.queued.start_lt, stored.queued.used_le⟩
  have stands := stored.held.stands
  obtain ⟨chunks, last, sent, done⟩ :=
    @sendRecords_ends lines (logStoreDataBytes + 1) 1 _ _ none
      ⟨_, intact, by simpa using stands⟩ (Nat.lt_succ_of_le (intact.ahead_le stands))
  obtain ⟨response, sends, calls, few, stops, received, areLines⟩ := handleLogDownload_received sent
  refine ⟨response, sends, calls, few, received, fun plain single => ?_, fun unlapped => ?_⟩
  · rw [received]
    exact readDump_dumpFile plain areLines single _
  · obtain ⟨phase, genuine⟩ := session_steps (show lineMax < lineBuffer by decide)
      (.boot (start_phase opened)) (fun line member => by simp [Session.start] at member)
      (downloadSteps lines 1 calls) unlapped
    rw [List.foldl_append]
    refine ⟨phase.coherent.imp_right fun shows => ?_, genuine⟩
    have finished := congrArg Cursor.segment stops |>.trans done
    exact ⟨shows.1.2 (by simp [finished]), shows.2.2 finished⟩

/-- A reader that is done is not lapped any more. -/
theorem unlapped_of_done {session : Session} (done : session.cursor.segment = .done)
    (steps : List LogStore.Step) : Unlapped lineBuffer session steps := by
  induction steps generalizing session with
  | nil => trivial
  | cons step steps induction =>
      refine ⟨fun _ lapped => ?_, induction ?_⟩
      · have rolling := done.symm.trans lapped.1
        contradiction
      · cases step with
        | sink level line ts => exact done
        | next =>
            have stays : LogStore.next session.store session.cursor lineBuffer =
                (session.cursor, none) := LogStore.next_done (by decide) done
            simpa [LogStore.Step.onSession, stays] using done

theorem unlapped_append {session : Session} {first rest : List LogStore.Step} :
    Unlapped lineBuffer session (first ++ rest) ↔ Unlapped lineBuffer session first ∧
      Unlapped lineBuffer (first.foldl (LogStore.Step.onSession lineBuffer) session) rest := by
  induction first generalizing session with
  | nil => simp [Unlapped]
  | cons step first induction =>
      rw [List.cons_append, Unlapped, Unlapped, induction, List.foldl_cons, and_assoc]

/-- When the reader is done after some calls and has not been lapped, it is never lapped. -/
theorem unlapped_downloadSteps {lines : Nat → List LoggedLine} {turn count : Nat}
    {session : Session} (unlapped : Unlapped lineBuffer session (downloadSteps lines turn count))
    (done : ((downloadSteps lines turn count).foldl (LogStore.Step.onSession lineBuffer)
      session).cursor.segment = .done) (calls : Nat) :
    Unlapped lineBuffer session (downloadSteps lines turn calls) := by
  induction count generalizing turn session calls with
  | zero => exact unlapped_of_done done _
  | succ count induction =>
      cases calls with
      | zero => trivial
      | succ calls =>
          rw [downloadSteps, unlapped_append] at unlapped ⊢
          rw [downloadSteps, List.foldl_append, List.foldl_cons] at done
          obtain ⟨logged, seen, later⟩ := unlapped
          exact ⟨logged, seen, induction later done calls⟩

/-- What a device tells that has just been built. -/
def freshContext : DumpContext where
  build := .unknown
  gitBranch := .literal "main" (by decide)
  deviceId := .literal "A1B2C3" (by decide)
  filenameMillis := 61000
  preambleMillis := 61002
  freeHeap := 180000

/-- What a device has logged in its first minute and after it. -/
def earlierLines : List Event :=
  [.sink .info ⟨.literal "WiFi connected" (by decide), by decide⟩ 5000,
    .sink .error ⟨.literal "No response" (by decide), by decide⟩ 70000]

/-- A line is logged while the preamble is sent, one while the reader is in the boot segment, and
one when it has left it. -/
def linesMeanwhile : Nat → List LoggedLine
  | 0 => [⟨.warn, ⟨.literal "Poll failed" (by decide), by decide⟩, 71000⟩]
  | 2 => [⟨.error, ⟨.literal "No slave at 0x05" (by decide), by decide⟩, 71500⟩]
  | 4 => [⟨.info, ⟨.literal "Poll succeeded" (by decide), by decide⟩, 71600⟩]
  | _ => []

/-- A download of a log that grows meanwhile. -/
theorem log_download_file_growing :
    let store := earlierLines.foldl Event.onStore (begin .unknown 1 .zero)
    ∃ response, handleLogDownload freshContext linesMeanwhile (logStoreDataBytes + 1) store =
      some response ∧
      ∃ calls ≤ logStoreDataBytes + 1,
        let session :=
          (downloadSteps linesMeanwhile 1 calls).foldl (LogStore.Step.onSession lineBuffer)
            (.start ((linesMeanwhile 0).foldl LoggedLine.onStore store))
        response.received = dumpFile ((preamble freshContext store).take 511) session.bootShown
          session.rollingShown session.cursor.overrun ∧
        ((∀ line ∈ session.bootShown ++ session.rollingShown, 10 ∉ line.dropLast) →
          (readDump response.received).boot = session.bootShown) ∧
        (session.cursor.overrun = true ∨
          session.bootShown = session.bootHeld ∧ session.rollingShown = session.rollingHeld) := by
  obtain ⟨response, sends, calls, few, received, reads, coherent⟩ :=
    log_download_file .unknown 1 .zero (by decide) earlierLines freshContext linesMeanwhile
  have plain : PlainPreamble freshContext
      (earlierLines.foldl Event.onStore (begin .unknown 1 .zero)) :=
    ⟨by decide +kernel, by decide, by decide, by decide, by decide⟩
  have unlapped := @unlapped_downloadSteps linesMeanwhile 1 8
    (.start ((linesMeanwhile 0).foldl LoggedLine.onStore
      (earlierLines.foldl Event.onStore (begin .unknown 1 .zero))))
    (by decide +kernel) (by decide +kernel) calls
  exact ⟨response, sends, calls, few, received, fun single => (reads plain single).1,
    (coherent unlapped).1⟩

end WebUI

end ModbusBridge
