import ModbusBridge.ESPLogger
import ModbusBridge.LogStore.Segment

/-!
# The log store

`LogStore` keeps a region header and a data area in RTC memory, which survive a reset, and two
capture variables in ordinary memory, which do not. The model follows `begin`, `sink`, `openRead`
and `next`.
-/

namespace ModbusBridge.LogStore

open Memory ESPLogger

/-- `LOG_BOOT_WINDOW_MS`. -/
def logBootWindowMs : UInt32 := 60000

/-- `LOG_ERROR_WINDOW_MS`. -/
def logErrorWindowMs : UInt32 := 10000

/-- `LOG_ERROR_REARM_MIN_GAP_MS`. -/
def logErrorRearmMinGapMs : UInt32 := 60000

/-- `LS_MAGIC`. -/
def lsMagic : UInt32 := 0x4C4753BB

/-- `LS_VERSION`. -/
def lsVersion : UInt16 := 2

/-- `Region`: the header in RTC memory. -/
structure Region where
  magic : UInt32
  version : UInt16
  pad : UInt16
  boot : Ring
  roll : Ring
  seq : UInt32
  dropped : UInt32
  bootCount : UInt32
  resetReason : UInt32
  deriving DecidableEq, Repr

/-- The validity check of `begin`. -/
def Region.valid (region : Region) : Bool :=
  region.magic == lsMagic && region.version == lsVersion &&
    region.boot.base == 0 && region.boot.cap == bootCap &&
    region.roll.base == bootCap && region.roll.cap == rollCap &&
    decide (region.boot.writePos ≤ bootCap) && decide (region.boot.used ≤ bootCap) &&
    decide (region.roll.writePos < rollCap) && decide (region.roll.readStart < rollCap) &&
    decide (region.roll.used ≤ rollCap)

/-- The contents of RTC memory. -/
structure Rtc where
  /-- `g_region`. -/
  region : Region
  /-- `g_data`. -/
  data : Nat → UInt8

/-- RTC memory full of zeros, which no `begin` accepts. -/
def Rtc.zero : Rtc where
  region :=
    { magic := 0, version := 0, pad := 0, boot := resetRing 0 0, roll := resetRing 0 0, seq := 0,
      dropped := 0, bootCount := 0, resetReason := 0 }
  data := fun _ => 0

/-- The capture variables, which start at zero on every boot. -/
structure Capture where
  /-- `s_captureUntilMs`. -/
  untilMs : UInt32
  /-- `s_lastRearmMs`. -/
  lastRearmMs : UInt32
  deriving DecidableEq, Repr

namespace Capture

/-- The capture variables after a reset. -/
def fresh : Capture := { untilMs := 0, lastRearmMs := 0 }

/-- `LogStore::shouldCapture`. -/
def shouldCapture (capture : Capture) (level : LogLevel) (nowMs : UInt32) : Bool :=
  if level.code ≤ LogLevel.warn.code then true
  else if nowMs < logBootWindowMs then true
  else nowMs < capture.untilMs

/-- The end of `LogStore::sink`: an error re-opens full capture, at most once a minute. -/
def rearm (capture : Capture) (level : LogLevel) (timestamp : UInt32) : Capture :=
  if level = .error ∧ timestamp - capture.lastRearmMs ≥ logErrorRearmMinGapMs then
    { untilMs := timestamp + logErrorWindowMs, lastRearmMs := timestamp }
  else capture

end Capture

/-- The whole state of the log store. -/
structure Store where
  rtc : Rtc
  capture : Capture

/-- The build flags that `begin` prints. -/
structure Build where
  /-- `FIRMWARE_VERSION`. -/
  firmwareVersion : CString
  /-- `GIT_HASH`. -/
  gitHash : CString

/-- A build whose flags give both as unknown. -/
def Build.unknown : Build where
  firmwareVersion := .literal "unknown" (by decide)
  gitHash := .literal "unknown" (by decide)

/-- `resetReasonName`. -/
def resetReasonName (reason : UInt32) : CString :=
  if reason = 1 then .literal "POWERON" (by decide)
  else if reason = 2 then .literal "EXT" (by decide)
  else if reason = 3 then .literal "SW_RESET" (by decide)
  else if reason = 4 then .literal "PANIC" (by decide)
  else if reason = 5 then .literal "INT_WDT" (by decide)
  else if reason = 6 then .literal "TASK_WDT" (by decide)
  else if reason = 7 then .literal "OTHER_WDT" (by decide)
  else if reason = 8 then .literal "DEEPSLEEP" (by decide)
  else if reason = 9 then .literal "BROWNOUT" (by decide)
  else if reason = 10 then .literal "SDIO" (by decide)
  else .literal "UNKNOWN" (by decide)

/-- The boot marker that `begin` prints into a buffer of `LOG_STORE_MAX_MSG` bytes. -/
def bootMarker (build : Build) (bootCount reason : UInt32) : CString :=
  CString.snprintf logStoreMaxMsg <|
    .literal "=== BOOT #" (by decide) ++ .ofDecimal bootCount.toNat ++
    .literal " reason=" (by decide) ++ resetReasonName reason ++
    .literal " fw=" (by decide) ++ build.firmwareVersion ++
    .literal " git=" (by decide) ++ build.gitHash ++ .literal " ===" (by decide)

/-- The header of a captured line. -/
def lineHeader (level : LogLevel) (message : CString) (timestamp : UInt32) : Header :=
  let len := u16 message.strlen
  if len > logStoreMaxMsg then
    { len := logStoreMaxMsg, level := level.code, flags := flagTruncated, ts := timestamp }
  else { len := len, level := level.code, flags := 0, ts := timestamp }

/-- The rolling segment, the data area and the eviction counter are replaced. -/
def Rtc.setRolling (rtc : Rtc) (roll : Ring) (data : Nat → UInt8) (dropped : UInt32) : Rtc :=
  { region := { rtc.region with roll, dropped }, data }

/-- Append to the rolling segment of the region. -/
def Rtc.appendRolling (rtc : Rtc) (header : Header) (message : CString) : Rtc :=
  let appended := appendCircular rtc.region.roll rtc.data header message.bytes rtc.region.dropped
  rtc.setRolling appended.1 appended.2.1 appended.2.2

/-- `g_region.seq++`. -/
def Rtc.bumpSeq (rtc : Rtc) : Rtc :=
  { rtc with region := { rtc.region with seq := rtc.region.seq + 1 } }

/-- The locked part of `sink`: boot-window records go to the boot segment, and once that is full
they overflow into the rolling one. -/
def Rtc.route (rtc : Rtc) (header : Header) (message : CString) (timestamp : UInt32) : Rtc :=
  let stored :=
    if timestamp < logBootWindowMs then
      appendBoot rtc.region.boot rtc.data header message.bytes
    else none
  match stored with
  | some (boot, data) => { region := { rtc.region with boot }, data }
  | none => rtc.appendRolling header message

/-- `LogStore::sink`. -/
def sink (store : Store) (level : LogLevel) (message : Option CString) (timestamp : UInt32) :
    Store :=
  match message with
  | none => store
  | some message =>
      let rtc :=
        if store.capture.shouldCapture level timestamp then
          (store.rtc.route (lineHeader level message timestamp) message timestamp).bumpSeq
        else store.rtc
      { rtc, capture := store.capture.rearm level timestamp }

/-- The region after the validity check of `begin`: wiped when it is invalid. -/
def Region.recover (region : Region) : Region :=
  if region.valid then { region with bootCount := region.bootCount + 1 }
  else
    { region with
      magic := lsMagic, version := lsVersion, pad := 0, seq := 0, dropped := 0, bootCount := 1
      roll := resetRing bootCap rollCap }

/-- `LogStore::begin`, on a chip that reports `resetReason`. -/
def begin (build : Build) (resetReason : UInt32) (rtc : Rtc) : Store :=
  let region := rtc.region.recover
  let region := { region with resetReason, boot := resetRing 0 bootCap }
  let marker := bootMarker build region.bootCount region.resetReason
  let store := sink { rtc := { rtc with region }, capture := .fresh } .info (some marker) 0
  let header :=
    { len := u16 marker.strlen, level := LogLevel.info.code, flags := flagBoot, ts := 0 }
  { store with rtc := (store.rtc.appendRolling header marker).bumpSeq }

/-! ## Reading -/

/-- The segment that a cursor walks next: `SEG_BOOT`, `SEG_ROLLING` or `SEG_DONE`. -/
inductive Section
  | boot
  | rolling
  | done
  deriving DecidableEq, Repr

/-- `LogStore::Cursor`. -/
structure Cursor where
  segment : Section
  recordSegment : Section
  pos : Nat
  remaining : Nat
  seqAtStart : UInt32
  overrun : Bool
  deriving DecidableEq, Repr

/-- `LogStore::openRead`. -/
def openRead (store : Store) : Cursor where
  segment := .boot
  recordSegment := .boot
  pos := store.rtc.region.boot.readStart
  remaining := store.rtc.region.boot.used
  seqAtStart := store.rtc.region.seq
  overrun := false

/-- A record that `next` has copied out under the lock. -/
structure Fetched where
  header : Header
  body : Bytes
  fromSegment : Section
  deriving DecidableEq, Repr

/-- `(remaining > sz) ? remaining - sz : 0`. -/
def takeOff (remaining sz : Nat) : Nat := if remaining > sz then sub16 remaining sz else 0

/-- One turn of the loop of `next`, on a cursor that is not done. -/
def fetchStep (region : Region) (data : Nat → UInt8) (cursor : Cursor) :
    Cursor × Option Fetched :=
  let r := if cursor.segment = .boot then region.boot else region.roll
  if cursor.remaining = 0 then
    -- move to the next segment
    if cursor.segment = .boot then
      ({ cursor with
          segment := .rolling, pos := region.roll.readStart, remaining := region.roll.used }, none)
    else ({ cursor with segment := .done }, none)
  else if r.used < cursor.remaining then
    -- the writer lapped the reader
    ({ cursor with overrun := true, remaining := 0 }, none)
  else
    let pos := cursor.pos
    if pos + hdr > r.cap then
      ({ cursor with pos := 0, remaining := takeOff cursor.remaining (sub16 r.cap pos) }, none)
    else
      let header := readHdr data (u16 (r.base + pos))
      if header.flags &&& flagWrap ≠ 0 then
        ({ cursor with pos := 0, remaining := takeOff cursor.remaining (sub16 r.cap pos) }, none)
      else if header.len > logStoreMaxMsg then
        -- corrupt length: stop rather than overrun
        ({ cursor with remaining := 0 }, none)
      else
        let sz := u16 (hdr + roundUp4 header.len)
        ({ cursor with
            pos := u16 ((pos + sz) % r.cap), remaining := takeOff cursor.remaining sz },
          some
            { header
              body := slice data (r.base + pos + hdr) header.len
              fromSegment := cursor.segment })

/-- The loop of `next`. -/
def fetchLoop (region : Region) (data : Nat → UInt8) : Nat → Cursor → Cursor × Option Fetched
  | 0, cursor => (cursor, none)
  | fuel + 1, cursor =>
      if cursor.segment = .done then (cursor, none)
      else
        match fetchStep region data cursor with
        | (cursor, some fetched) => (cursor, some fetched)
        | (cursor, none) => fetchLoop region data fuel cursor

/-- `levelName`. -/
def levelName (level : UInt8) : Bytes :=
  if level = LogLevel.error.code then ascii "ERROR"
  else if level = LogLevel.warn.code then ascii "WARN"
  else if level = LogLevel.info.code then ascii "INFO"
  else if level = LogLevel.debug.code then ascii "DEBUG"
  else ascii "UNKNOWN"

/-- The text that `next` formats: `[ts][LEVEL] body` and a line feed. -/
def render (ts : UInt32) (level : UInt8) (body : Bytes) : Bytes :=
  ascii "[" ++ decimal ts.toNat ++ ascii "][" ++ levelName level ++ ascii "] " ++
    untilNul body ++ [10]

/-- `LogStore::next` with a buffer of `outSize` bytes (a null buffer is one of size 0). The bytes
written are the result when the source returns true. -/
def next (store : Store) (cursor : Cursor) (outSize : Nat) : Cursor × Option Bytes :=
  if outSize < 2 then (cursor, none)
  else
    let region := store.rtc.region
    -- one turn for each byte left to walk, and one for each change of segment
    match fetchLoop region store.rtc.data (cursor.remaining + region.roll.used + 3) cursor with
    | (cursor, none) => (cursor, none)
    | (cursor, some fetched) =>
        let text := render fetched.header.ts fetched.header.level fetched.body
        ({ cursor with recordSegment := fetched.fromSegment }, some (text.take (outSize - 1)))

/-- Call `next` until it returns false: the lines with the segments they came from, and the
cursor left behind. -/
def drainFrom (store : Store) (outSize : Nat) :
    Nat → Cursor → Option (List (Section × Bytes) × Cursor)
  | 0, _ => none
  | calls + 1, cursor =>
      match next store cursor outSize with
      | (cursor, none) => some ([], cursor)
      | (cursor, some line) =>
          (drainFrom store outSize calls cursor).map fun (lines, last) =>
            ((cursor.recordSegment, line) :: lines, last)

/-- A download: `openRead`, then `next` to exhaustion. -/
def drain (store : Store) (outSize : Nat) : Option (List (Section × Bytes) × Cursor) :=
  drainFrom store outSize (store.rtc.region.boot.used + store.rtc.region.roll.used + 1)
    (openRead store)

end ModbusBridge.LogStore
