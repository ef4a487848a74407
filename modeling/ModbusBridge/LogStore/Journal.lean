import ModbusBridge.LogStore.Reading

/-!
# The log as two lists

The purpose of the log store, stated without memory: `Journal` keeps every record of the current
boot that went to the boot segment, and every record that ever went to the rolling one. Nothing is
ever evicted from a journal.
-/

namespace ModbusBridge.LogStore

open ESPLogger

namespace Record

/-- The record of a logged line: the first 160 bytes of the text, flagged when there were more. -/
def ofLine (level : LogLevel) (line : Line) (ts : UInt32) : Record where
  level := level.code
  flags := if line.text.strlen > logStoreMaxMsg then flagTruncated else 0
  ts := ts
  body := line.text.bytes.take logStoreMaxMsg
  short := List.length_take_le _ _
  noNul := fun byte member => line.text.noNul byte (List.mem_of_mem_take member)
  noFiller := by split <;> decide

/-- The record that marks a boot in the rolling segment. -/
def ofMarker (marker : Line) : Record :=
  { ofLine .info marker 0 with flags := flagBoot, noFiller := by decide }

/-- Bytes that a list of records takes. -/
def bytes (records : List Record) : Nat := (records.map size).sum

end Record

theorem bootMarker_strlen_lt (build : Build) (bootCount reason : UInt32) :
    (bootMarker build bootCount reason).strlen < logStoreMaxMsg :=
  CString.snprintf_strlen_lt _ (by decide)

/-- The boot marker fits into a log line. -/
theorem bootMarker_formatted (build : Build) (bootCount reason : UInt32) :
    (bootMarker build bootCount reason).strlen ≤ 255 :=
  (bootMarker_strlen_lt build bootCount reason).le.trans (by decide)

/-- The boot marker as a log line. -/
def markerLine (build : Build) (bootCount reason : UInt32) : Line where
  text := bootMarker build bootCount reason
  formatted := bootMarker_formatted build bootCount reason

/-- A log of two lists. -/
structure Journal where
  /-- Records routed to the boot segment since the last boot, first to last. -/
  boot : List Record
  /-- Records ever routed to the rolling segment, first to last. -/
  rolling : List Record
  bootCount : UInt32
  capture : Capture

namespace Journal

/-- Before the first boot. -/
def blank : Journal := { boot := [], rolling := [], bootCount := 0, capture := .fresh }

/-- A record of the boot window goes to the boot segment as long as it fits there. -/
def route (journal : Journal) (record : Record) : Journal :=
  if record.ts < logBootWindowMs ∧ Record.bytes journal.boot + record.size ≤ bootCap then
    { journal with boot := journal.boot ++ [record] }
  else { journal with rolling := journal.rolling ++ [record] }

/-- A logged line. -/
def sink (journal : Journal) (level : LogLevel) (line : Line) (ts : UInt32) : Journal :=
  { if journal.capture.shouldCapture level ts then journal.route (.ofLine level line ts)
    else journal with
    capture := journal.capture.rearm level ts }

/-- A boot: the boot segment starts over, and both segments receive the marker. -/
def begin (journal : Journal) (build : Build) (reason : UInt32) : Journal :=
  let bootCount := journal.bootCount + 1
  let marker := markerLine build bootCount reason
  { boot := [.ofLine .info marker 0]
    rolling := journal.rolling ++ [.ofMarker marker]
    bootCount
    capture := .fresh }

end Journal

/-- What happens to a log store: a line is logged, or the chip boots again. -/
inductive Event
  | sink (level : LogLevel) (line : Line) (ts : UInt32)
  | begin (build : Build) (reason : UInt32)

namespace Event

/-- The effect of an event on the store. -/
def onStore (store : Store) : Event → Store
  | sink level line ts => LogStore.sink store level (some line.text) ts
  | begin build reason => LogStore.begin build reason store.rtc

/-- The effect of an event on the journal. -/
def onJournal (journal : Journal) : Event → Journal
  | sink level line ts => journal.sink level line ts
  | begin build reason => journal.begin build reason

end Event

end ModbusBridge.LogStore
