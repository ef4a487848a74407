import ModbusBridge.Library.Forms
import ModbusBridge.Library.Labelled
import ModbusBridge.Modbus.FrameHistory
import ModbusBridge.Modbus.FrameLog
import ModbusBridge.Numerals
import ModbusBridge.WebUI.Diagnostics
import ModbusBridge.WebUI.Escaping

/-!
# The frame log on the Diagnostics page

The action `frame_log` of `handleDiagnosticsAPI` shows the frame log as markup. Whoever reads the
page gets back the transactions that went out last, with the bytes of their frames.
-/

namespace ModbusBridge

open Markup (Token Closed)
open Labelled (Numeral Item skip)

/-! ## The page -/

/-- A frame on the page, up to its dump. -/
def frameHead (frame : ModbusFrameLog) : Bytes :=
  let dir := if frame.isTx then ascii "TX" else ascii "RX"
  let status :=
    if frame.success then ascii "OK"
    else if frame.exceptionCode > 0 then ascii "EX" ++ decimal frame.exceptionCode.toNat
    else ascii "TIMEOUT"
  ascii "[" ++ decimal frame.timestamp.toNat ++ ascii "ms] " ++ dir ++ ascii " | " ++
    (ascii "Slave:" ++ decimal frame.slaveId.toNat ++ ascii " FC:0x" ++
      hexadecimal frame.functionCode.toNat ++ ascii " ") ++
    (ascii "Addr:0x" ++ hexadecimal frame.startAddr.toNat ++ ascii " Count:" ++
      decimal frame.count.toNat ++ ascii " | ") ++
    status ++
    if !frame.isTx ∧ frame.responseTimeMs > 0 then
      ascii " (" ++ decimal frame.responseTimeMs.toNat ++ ascii "ms)"
    else []

/-- The class of a frame. -/
def frameClass (frame : ModbusFrameLog) : Bytes :=
  if frame.isTx then ascii "frame-tx"
  else if frame.success then ascii "frame-rx"
  else ascii "frame-err"

/-- A frame on the page. -/
def frameHtml (frame : ModbusFrameLog) : Bytes :=
  ascii "<span class='" ++ frameClass frame ++ ascii "'>" ++ frameHead frame ++
    (ascii "<br>" ++ frame.hexDump) ++ ascii "</span><br><br>"

/-- The action `frame_log` of `handleDiagnosticsAPI`. -/
def frameLogHtml (log : List ModbusFrameLog) : Bytes :=
  if log.isEmpty then ascii "<span class='error'>No frames logged yet</span>"
  else
    ascii "<strong>Last " ++ decimal log.length ++ ascii " frames:</strong><br><br>" ++
      log.flatMap frameHtml

/-! ## Reading dumps -/

/-- The bytes of a dump. -/
def readDump : Bytes → Option Bytes
  | high :: low :: rest => do
      let upper ← digitValue 16 high
      let lower ← digitValue 16 low
      let byte := UInt8.ofNat (16 * upper + lower)
      match rest with
      | [] => some [byte]
      | space :: rest => if space = 32 then (readDump rest).map (byte :: ·) else none
  | _ => none

/-- The frame that is dumped, if one was received. -/
def readFrame (dump : Bytes) : Option (Option Bytes) :=
  if dump = ascii "TIMEOUT" then some none else (readDump dump).map some

/-- How a frame is dumped, or its absence. -/
def dumped (frame : Option Bytes) : Bytes := (frame.map bytesToHex).getD (ascii "TIMEOUT")

theorem digitValue_hexDigit {value : UInt8} (small : value < 16) :
    digitValue 16 (hexDigit value) = some value.toNat := by
  have each : ∀ value < 16,
      digitValue 16 (hexDigit (UInt8.ofNat value)) = some (UInt8.ofNat value).toNat := by
    decide +kernel
  have bound := UInt8.lt_iff_toNat_lt.mp small
  simpa using each value.toNat bound

theorem bytesToHex_cons_cons (first second : UInt8) (rest : Bytes) :
    bytesToHex (first :: second :: rest) =
      hexDigit (first / 16) :: hexDigit (first % 16) :: 32 :: bytesToHex (second :: rest) := rfl

theorem digitValue_upper (byte : UInt8) :
    digitValue 16 (hexDigit (byte / 16)) = some (byte.toNat / 16) := by
  have bound := byte.toNat_lt
  have small : byte / 16 < 16 := by
    rw [UInt8.lt_iff_toNat_lt, UInt8.toNat_div]
    exact Nat.div_lt_of_lt_mul bound
  rw [digitValue_hexDigit small, UInt8.toNat_div]
  rfl

theorem digitValue_lower (byte : UInt8) :
    digitValue 16 (hexDigit (byte % 16)) = some (byte.toNat % 16) := by
  have small : byte % 16 < 16 := by
    rw [UInt8.lt_iff_toNat_lt, UInt8.toNat_mod]
    exact Nat.mod_lt _ (by decide)
  rw [digitValue_hexDigit small, UInt8.toNat_mod]
  rfl

theorem readDump_bytesToHex {frame : Bytes} (nonempty : frame ≠ []) :
    readDump (bytesToHex frame) = some frame := by
  have whole (byte : UInt8) : UInt8.ofNat (16 * (byte.toNat / 16) + byte.toNat % 16) = byte := by
    rw [Nat.div_add_mod, UInt8.ofNat_toNat]
  induction frame with
  | nil => exact absurd rfl nonempty
  | cons first frame induction =>
      cases frame with
      | nil =>
          change readDump [hexDigit (first / 16), hexDigit (first % 16)] = _
          simp only [readDump, digitValue_upper, digitValue_lower, whole, Option.bind_eq_bind,
            Option.bind_some]
      | cons second frame =>
          have later := induction (List.cons_ne_nil _ _)
          rw [bytesToHex_cons_cons]
          simp only [readDump, digitValue_upper, digitValue_lower, whole, later,
            Option.bind_eq_bind, Option.bind_some, if_true, Option.map_some]

theorem readFrame_dumped {frame : Option Bytes} (nonempty : ∀ bytes ∈ frame, bytes ≠ []) :
    readFrame (dumped frame) = some frame := by
  cases frame with
  | none => exact if_pos rfl
  | some bytes =>
      have solid := nonempty bytes rfl
      exact (if_neg (ModbusClient.bytesToHex_ne_timeout solid)).trans
        (congrArg (Option.map some) (readDump_bytesToHex solid))

/-! ## Reading frames -/

/-- Decimal numbers. -/
def decimals : Numeral UInt8 where
  write := decimal
  isDigit byte := (digitValue 10 byte).isSome
  read := Numerals.value (digitValue 10) 10
  nonempty n := (denotes_decimal n).nonempty
  digits n := (denotes_decimal n).digits
  inverse n := (denotes_decimal n).number

/-- Hexadecimal numbers. -/
def hexadecimals : Numeral UInt8 where
  write := hexadecimal
  isDigit byte := (digitValue 16 byte).isSome
  read := Numerals.value (digitValue 16) 16
  nonempty n := (denotes_hexadecimal n).nonempty
  digits n := (denotes_hexadecimal n).digits
  inverse n := (denotes_hexadecimal n).number

/-- How a transaction went, as far as the page tells. -/
inductive FrameStatus
  | ok
  | exception (code : Nat)
  | timeout
  deriving DecidableEq

/-- A frame, as the page tells of it. -/
structure FrameLine where
  cls : Bytes
  timestamp : Nat
  isTx : Bool
  slaveId : Nat
  functionCode : Nat
  startAddr : Nat
  count : Nat
  status : FrameStatus
  elapsed : Option Nat
  /-- The bytes of the frame, if one was received. -/
  frame : Option Bytes
  deriving DecidableEq

def stampItems : List (Item UInt8) := [⟨ascii "[", decimals⟩]

def requestItems : List (Item UInt8) :=
  [⟨ascii "Slave:", decimals⟩, ⟨ascii " FC:0x", hexadecimals⟩, ⟨ascii " Addr:0x", hexadecimals⟩,
    ⟨ascii " Count:", decimals⟩]

def exceptionItems : List (Item UInt8) := [⟨ascii "EX", decimals⟩]

def elapsedItems : List (Item UInt8) := [⟨ascii " (", decimals⟩]

def sizeItems : List (Item UInt8) := [⟨ascii "Last ", decimals⟩]

/-- The direction, and what follows it. -/
def readDirection (text : Bytes) : Option (Bool × Bytes) :=
  ((skip (ascii "ms] TX | ") text).map (true, ·)).or
    ((skip (ascii "ms] RX | ") text).map (false, ·))

/-- The status, and what follows it. -/
def readStatus (text : Bytes) : Option (FrameStatus × Bytes) :=
  ((skip (ascii "OK") text).map (.ok, ·)).or <|
    ((skip (ascii "TIMEOUT") text).map (.timeout, ·)).or <|
      (Labelled.read exceptionItems text).map fun read => (.exception (read.1.headD 0), read.2)

/-- The time that a reply took, if the page tells it. -/
def readElapsed (text : Bytes) : Option (Option Nat) :=
  if text = [] then some none
  else do
    let read ← Labelled.read elapsedItems text
    if read.2 = ascii "ms)" then some read.1.head? else none

/-- A frame, from its class, its text and its dump. -/
def readLine (cls head dump : Bytes) : Option FrameLine := do
  let stamp ← Labelled.read stampItems head
  let direction ← readDirection stamp.2
  let request ← Labelled.read requestItems direction.2
  let result ← skip (ascii " | ") request.2
  let status ← readStatus result
  let elapsed ← readElapsed status.2
  let frame ← readFrame dump
  match stamp.1, request.1 with
  | [timestamp], [slaveId, functionCode, startAddr, count] =>
      some { cls, timestamp, isTx := direction.1, slaveId, functionCode, startAddr, count
             status := status.1, elapsed, frame }
  | _, _ => none

/-! ## What is shown of a frame is read -/

namespace ModbusFrameLog

variable (entry : ModbusFrameLog)

/-- The status of an entry. -/
def status : FrameStatus :=
  if entry.success then .ok
  else if entry.exceptionCode > 0 then .exception entry.exceptionCode.toNat
  else .timeout

/-- The time that is shown. -/
def elapsed : Option Nat :=
  if !entry.isTx ∧ entry.responseTimeMs > 0 then some entry.responseTimeMs.toNat else none

/-- What the page tells of an entry. -/
def line (frame : Option Bytes) : FrameLine where
  cls := frameClass entry
  timestamp := entry.timestamp.toNat
  isTx := entry.isTx
  slaveId := entry.slaveId.toNat
  functionCode := entry.functionCode.toNat
  startAddr := entry.startAddr.toNat
  count := entry.count.toNat
  status := entry.status
  elapsed := entry.elapsed
  frame := frame

end ModbusFrameLog

/-- The text of a status. -/
def FrameStatus.text : FrameStatus → Bytes
  | ok => ascii "OK"
  | exception code => ascii "EX" ++ decimal code
  | timeout => ascii "TIMEOUT"

/-- The text of a time, if one is shown. -/
def elapsedText : Option Nat → Bytes
  | some elapsed => ascii " (" ++ decimal elapsed ++ ascii "ms)"
  | none => []

/-- The text of a direction, behind the time. -/
def directionText (isTx : Bool) : Bytes := if isTx then ascii "ms] TX | " else ascii "ms] RX | "

theorem frameHead_eq (entry : ModbusFrameLog) :
    frameHead entry =
      Labelled.write stampItems [entry.timestamp.toNat] ++ (directionText entry.isTx ++
        (Labelled.write requestItems [entry.slaveId.toNat, entry.functionCode.toNat,
          entry.startAddr.toNat, entry.count.toNat] ++
          (ascii " | " ++ (entry.status.text ++ elapsedText entry.elapsed)))) := by
  have joined (rest : Bytes) : ascii " " ++ (ascii "Addr:0x" ++ rest) = ascii " Addr:0x" ++ rest :=
    rfl
  have outward (rest : Bytes) :
      ascii "ms] " ++ (ascii "TX" ++ (ascii " | " ++ rest)) = ascii "ms] TX | " ++ rest := rfl
  have inward (rest : Bytes) :
      ascii "ms] " ++ (ascii "RX" ++ (ascii " | " ++ rest)) = ascii "ms] RX | " ++ rest := rfl
  have status : entry.status.text = if entry.success then ascii "OK"
      else if entry.exceptionCode > 0 then ascii "EX" ++ decimal entry.exceptionCode.toNat
      else ascii "TIMEOUT" := by
    rw [ModbusFrameLog.status]
    split_ifs <;> rfl
  have elapsed : elapsedText entry.elapsed = if !entry.isTx ∧ entry.responseTimeMs > 0 then
      ascii " (" ++ decimal entry.responseTimeMs.toNat ++ ascii "ms)" else [] := by
    rw [ModbusFrameLog.elapsed]
    split_ifs <;> rfl
  rw [frameHead, status, elapsed, directionText]
  simp only [stampItems, requestItems, Labelled.write, decimals, hexadecimals, List.append_assoc,
    List.append_nil, joined]
  cases entry.isTx <;> simp only [if_true, Bool.false_eq_true, if_false, outward, inward]

theorem readDirection_append (isTx : Bool) (rest : Bytes) :
    readDirection (directionText isTx ++ rest) = some (isTx, rest) := by
  cases isTx with
  | true =>
      rw [readDirection, directionText, if_pos rfl, Labelled.skip_append]
      rfl
  | false =>
      have other : skip (ascii "ms] TX | ") (ascii "ms] RX | " ++ rest) = none := rfl
      rw [readDirection, directionText, if_neg Bool.false_ne_true, Labelled.skip_append, other]
      rfl

theorem readStatus_append (status : FrameStatus) (elapsed : Option Nat) :
    readStatus (status.text ++ elapsedText elapsed) = some (status, elapsedText elapsed) := by
  rw [readStatus]
  cases status with
  | ok =>
      rw [FrameStatus.text, Labelled.skip_append]
      rfl
  | timeout =>
      have other : skip (ascii "OK") (ascii "TIMEOUT" ++ elapsedText elapsed) = none := rfl
      rw [FrameStatus.text, Labelled.skip_append, other]
      rfl
  | exception code =>
      have separated : Labelled.Separated exceptionItems (elapsedText elapsed) := by
        cases elapsed with
        | none => exact fun symbol starts => absurd starts (Option.not_mem_none symbol)
        | some elapsed => exact fun _ starts => Option.some.inj starts ▸ rfl
      have read := @Labelled.read_write _ _ exceptionItems _ separated [code] rfl
      have written : Labelled.write exceptionItems [code] ++ elapsedText elapsed =
          ascii "EX" ++ decimal code ++ elapsedText elapsed := by
        simp [Labelled.write, exceptionItems, decimals]
      rw [written] at read
      have others : skip (ascii "OK") (ascii "EX" ++ decimal code ++ elapsedText elapsed) = none ∧
          skip (ascii "TIMEOUT") (ascii "EX" ++ decimal code ++ elapsedText elapsed) = none :=
        ⟨rfl, rfl⟩
      rw [FrameStatus.text, read, others.1, others.2]
      rfl

theorem readElapsed_text (elapsed : Option Nat) :
    readElapsed (elapsedText elapsed) = some elapsed := by
  cases elapsed with
  | none => rfl
  | some elapsed =>
      have read := @Labelled.read_write _ _ elapsedItems (ascii "ms)")
        (fun _ starts => Option.some.inj starts ▸ rfl) [elapsed] rfl
      have written : Labelled.write elapsedItems [elapsed] ++ ascii "ms)" =
          elapsedText (some elapsed) := by
        simp [Labelled.write, elapsedItems, elapsedText, decimals]
      rw [written] at read
      have shown : elapsedText (some elapsed) ≠ [] := by simp [elapsedText, ascii]
      rw [readElapsed, if_neg shown, read]
      rfl

/-- A frame is read as what it was shown of. -/
theorem readLine_frameHead (entry : ModbusFrameLog) {frame : Option Bytes}
    (dump : entry.hexDump = dumped frame) (nonempty : ∀ bytes ∈ frame, bytes ≠ []) :
    readLine (frameClass entry) (frameHead entry) entry.hexDump = some (entry.line frame) := by
  have stamp (rest : Bytes) := @Labelled.read_write _ _ stampItems
    (directionText entry.isTx ++ rest)
    (by cases entry.isTx <;> exact fun _ starts => Option.some.inj starts ▸ rfl)
    [entry.timestamp.toNat] rfl
  have request (rest : Bytes) := @Labelled.read_write _ _ requestItems (ascii " | " ++ rest)
    ⟨by decide, by decide, by decide, fun _ starts => Option.some.inj starts ▸ rfl⟩
    [entry.slaveId.toNat, entry.functionCode.toNat, entry.startAddr.toNat, entry.count.toNat] rfl
  rw [frameHead_eq, readLine, dump]
  simp only [stamp, request, readDirection_append, Labelled.skip_append, readStatus_append,
    readElapsed_text, readFrame_dumped nonempty, Option.bind_eq_bind, Option.bind_some]
  rfl

/-! ## Reading the page -/

/-- The frames of the tags and texts, line breaks left out. -/
def readLines : List Token → Option (List FrameLine)
  | [] => some []
  | .opening _ attributes :: .text head :: .text dump :: .closing _ :: rest => do
      let line ← readLine (Markup.attributeOf "class" attributes) head dump
      let lines ← readLines rest
      some (line :: lines)
  | _ => none

def lineBreak : Token := .opening (ascii "br") []

/-- The frames that the page tells of. Their number has to be the one in the heading. -/
def readFrameLog (html : Bytes) : Option (List FrameLine) := do
  let tokens ← Markup.read unescapeHtml html
  match tokens.filter (· ≠ lineBreak) with
  | _ :: .text title :: .closing _ :: rest =>
      if title = ascii "No frames logged yet" then if rest = [] then some [] else none
      else do
        let size ← Labelled.read sizeItems title
        let lines ← readLines rest
        if size = ([lines.length], ascii " frames:") then some lines else none
  | _ => none

/-- A character that escaping does not change. -/
def isPlain (char : UInt8) : Bool := !([38, 60, 62, 34, 39].contains char)

/-- A text that escaping does not change. -/
def Plain (text : Bytes) : Prop := text.all isPlain = true

instance : DecidablePred Plain := fun text =>
  inferInstanceAs (Decidable (text.all isPlain = true))

theorem Plain.escapeHtml {text : Bytes} (plain : Plain text) : escapeHtml text = text := by
  induction text with
  | nil => rfl
  | cons char text induction =>
      rw [Plain, List.all_cons, Bool.and_eq_true] at plain
      have later := induction plain.2
      have self : ModbusBridge.escapeHtml [char] = [char] := by
        have other := plain.1
        simp only [isPlain, Bool.not_eq_true', List.contains_eq_mem, decide_eq_false_iff_not,
          List.mem_cons, List.not_mem_nil, or_false, not_or] at other
        simp [ModbusBridge.escapeHtml, other]
      rw [← List.singleton_append, escapeHtml_append, self, later]

theorem Plain.append {front back : Bytes} (early : Plain front) (late : Plain back) :
    Plain (front ++ back) := by
  rw [Plain, List.all_append, early, late]
  rfl

theorem plain_of_denotes {base n : Nat} {digits : Bytes}
    (denotes : Numerals.Denotes (digitValue base) base digits n) : Plain digits := by
  refine List.all_eq_true.mpr fun char member => ?_
  have alnum := isAlnum_of_digit (denotes.digits char member)
  by_contra special
  rw [isPlain, Bool.not_eq_true', Bool.not_eq_false, List.contains_iff_mem] at special
  have none : ∀ char ∈ [38, 60, 62, 34, 39], isAlnum char = false := by decide +kernel
  rw [none char special] at alnum
  contradiction

theorem plain_decimal (n : Nat) : Plain (decimal n) := plain_of_denotes (denotes_decimal n)

theorem plain_hexadecimal (n : Nat) : Plain (hexadecimal n) :=
  plain_of_denotes (denotes_hexadecimal n)

theorem FrameStatus.plain (status : FrameStatus) : Plain status.text := by
  cases status with
  | ok => decide
  | exception code => exact .append (by decide) (plain_decimal code)
  | timeout => decide

theorem plain_elapsedText (elapsed : Option Nat) : Plain (elapsedText elapsed) := by
  cases elapsed with
  | none => decide
  | some elapsed => exact .append (.append (by decide) (plain_decimal elapsed)) (by decide)

theorem plain_frameHead (entry : ModbusFrameLog) : Plain (frameHead entry) := by
  have direction : Plain (directionText entry.isTx) := by cases entry.isTx <;> decide
  rw [frameHead_eq]
  refine .append ?_ (.append direction (.append ?_ (.append (by decide)
    (.append entry.status.plain (plain_elapsedText _)))))
  · exact .append (by decide) (.append (plain_decimal _) (by decide))
  · exact .append (by decide) (.append (plain_decimal _) <|
      .append (by decide) (.append (plain_hexadecimal _) <|
      .append (by decide) (.append (plain_hexadecimal _) <|
      .append (by decide) (.append (plain_decimal _) (by decide)))))

theorem plain_bytesToHex (frame : Bytes) : Plain (bytesToHex frame) := by
  have digits (byte : UInt8) : Plain [hexDigit (byte / 16), hexDigit (byte % 16)] :=
    plain_of_denotes (.concat (.singleton (digitValue_upper byte)) (digitValue_lower byte))
  induction frame with
  | nil => rfl
  | cons first frame induction =>
      cases frame with
      | nil => exact digits first
      | cons second frame =>
          have space : Plain [32] := by decide
          exact (digits first).append (space.append induction)

theorem plain_dumped (frame : Option Bytes) : Plain (dumped frame) := by
  cases frame with
  | none => decide
  | some bytes => exact plain_bytesToHex bytes

theorem dumped_ne_nil {frame : Option Bytes} (nonempty : ∀ bytes ∈ frame, bytes ≠ []) :
    dumped frame ≠ [] := by
  intro empty
  have read := readFrame_dumped nonempty
  rw [empty] at read
  contradiction

/-- An entry whose dump is that of a frame, or the mark of its absence. -/
structure Legible (entry : ModbusFrameLog) (frame : Option Bytes) : Prop where
  dump : entry.hexDump = dumped frame
  nonempty : ∀ bytes ∈ frame, bytes ≠ []

/-- What a browser reads of a frame. -/
def frameTokens (entry : ModbusFrameLog) : List Token :=
  [.opening (ascii "span") [(ascii "class", some (frameClass entry))],
    .text (frameHead entry), lineBreak, .text entry.hexDump, .closing (ascii "span"), lineBreak,
    lineBreak]

/-- What a browser reads of the heading. -/
def headingTokens (size : Nat) : List Token :=
  [.opening (ascii "strong") [], .text (Labelled.write sizeItems [size] ++ ascii " frames:"),
    .closing (ascii "strong"), lineBreak, lineBreak]

theorem plain_frameClass (entry : ModbusFrameLog) : Plain (frameClass entry) := by
  rw [frameClass]
  split_ifs <;> decide

theorem frameHtml_eq {entry : ModbusFrameLog} (plain : Plain entry.hexDump) :
    frameHtml entry = (frameTokens entry).flatMap (Markup.write escapeHtml) := by
  simp only [frameHtml, frameTokens, lineBreak, List.flatMap_cons, List.flatMap_nil, Markup.write,
    Markup.writeAttribute, (plain_frameClass entry).escapeHtml, (plain_frameHead entry).escapeHtml,
    plain.escapeHtml, List.append_assoc, List.cons_append, List.nil_append, List.append_nil]
  rfl

theorem frameTokens_closed {entry : ModbusFrameLog} (dumps : entry.hexDump ≠ []) :
    Closed (frameTokens entry) where
  wellFormed := by
    have names : ∀ name ∈ [ascii "span", ascii "class", ascii "br"], Markup.Name name := by
      decide +kernel
    have text : frameHead entry ≠ [] := by simp [frameHead, ascii]
    simp only [List.forall_mem_cons] at names
    simp only [frameTokens, lineBreak, List.forall_mem_cons, Token.WellFormed]
    simp [names, dumps, text]
  apart := by simp [frameTokens, lineBreak, Token.Apart]
  last := by simp [frameTokens, lineBreak, Token.Apart]

theorem headingTokens_closed (size : Nat) : Closed (headingTokens size) where
  wellFormed := by
    have names : ∀ name ∈ [ascii "strong", ascii "br"], Markup.Name name := by decide +kernel
    have text : Labelled.write sizeItems [size] ++ ascii " frames:" ≠ [] :=
      List.append_ne_nil_of_right_ne_nil _ (by decide)
    simp only [List.forall_mem_cons] at names
    simp only [headingTokens, lineBreak, List.forall_mem_cons, Token.WellFormed]
    simp [names, text]
  apart := by simp [headingTokens, lineBreak, Token.Apart]
  last := by simp [headingTokens, lineBreak, Token.Apart]

theorem readLines_frames {shown : List (ModbusFrameLog × Option Bytes)}
    (legible : ∀ pair ∈ shown, Legible pair.1 pair.2) :
    readLines (((shown.map Prod.fst).flatMap frameTokens).filter (· ≠ lineBreak)) =
      some (shown.map fun pair => pair.1.line pair.2) := by
  induction shown with
  | nil => rfl
  | cons pair shown induction =>
      rw [List.forall_mem_cons] at legible
      have later := induction legible.2
      have first := readLine_frameHead pair.1 legible.1.dump legible.1.nonempty
      have cls : Markup.attributeOf "class" [(ascii "class", some (frameClass pair.1))] =
          frameClass pair.1 := rfl
      have kept : (frameTokens pair.1).filter (· ≠ lineBreak) =
          [.opening (ascii "span") [(ascii "class", some (frameClass pair.1))],
            .text (frameHead pair.1), .text pair.1.hexDump, .closing (ascii "span")] := by
        simp [frameTokens, lineBreak]
      rw [List.map_cons, List.flatMap_cons, List.filter_append, kept]
      simp only [List.cons_append, List.nil_append, readLines, cls, first, later,
        Option.bind_eq_bind, Option.bind_some, List.map_cons]

theorem heading_eq (size : Nat) :
    ascii "<strong>Last " ++ decimal size ++ ascii " frames:</strong><br><br>" =
      (headingTokens size).flatMap (Markup.write escapeHtml) := by
  have plain : Plain (Labelled.write sizeItems [size] ++ ascii " frames:") :=
    .append (.append (by decide) (.append (plain_decimal size) (by decide))) (by decide)
  simp only [headingTokens, lineBreak, List.flatMap_cons, List.flatMap_nil, Markup.write,
    plain.escapeHtml]
  simp only [sizeItems, Labelled.write, decimals, List.append_assoc, List.append_nil]
  rfl

/-- The page tells of every frame in the log what the log holds. -/
theorem readFrameLog_html {shown : List (ModbusFrameLog × Option Bytes)}
    (legible : ∀ pair ∈ shown, Legible pair.1 pair.2) :
    readFrameLog (frameLogHtml (shown.map Prod.fst)) =
      some (shown.map fun pair => pair.1.line pair.2) := by
  by_cases empty : shown = []
  · subst empty
    decide +kernel
  have each : ∀ entry ∈ shown.map Prod.fst, Plain entry.hexDump ∧ entry.hexDump ≠ [] := by
    intro entry listed
    obtain ⟨pair, member, rfl⟩ := List.mem_map.mp listed
    have dump := (legible pair member).dump
    exact ⟨dump ▸ plain_dumped _, dump ▸ dumped_ne_nil (legible pair member).nonempty⟩
  have frames : (shown.map Prod.fst).flatMap frameHtml =
      ((shown.map Prod.fst).flatMap frameTokens).flatMap (Markup.write escapeHtml) := by
    rw [List.flatMap_assoc]
    exact List.flatMap_congr fun entry listed => frameHtml_eq (each entry listed).1
  have written : frameLogHtml (shown.map Prod.fst) =
      (headingTokens shown.length ++ (shown.map Prod.fst).flatMap frameTokens).flatMap
        (Markup.write escapeHtml) := by
    rw [frameLogHtml, if_neg (by simp [empty]), List.length_map, List.flatMap_append, heading_eq,
      frames]
  have closed : Closed (headingTokens shown.length ++ (shown.map Prod.fst).flatMap frameTokens) :=
    (headingTokens_closed _).append (.flatMap fun entry listed =>
      frameTokens_closed (each entry listed).2)
  have heading : (headingTokens shown.length).filter (· ≠ lineBreak) =
      [.opening (ascii "strong") [],
        .text (Labelled.write sizeItems [shown.length] ++ ascii " frames:"),
        .closing (ascii "strong")] := by
    simp [headingTokens, lineBreak, ascii]
  have size := @Labelled.read_write _ _ sizeItems (ascii " frames:")
    (fun _ starts => Option.some.inj starts ▸ rfl) [shown.length] rfl
  have counted : Labelled.write sizeItems [shown.length] ++ ascii " frames:" ≠
      ascii "No frames logged yet" := fun same => by
    have first := congrArg List.head? same
    exact absurd (Option.some.inj first) (by decide)
  rw [written, readFrameLog, Markup.read_write safe_escapeHtml closed.wellFormed closed.apart]
  simp only [Option.bind_eq_bind, Option.bind_some, List.filter_append, heading,
    List.cons_append, List.nil_append]
  rw [if_neg counted, size]
  simp only [readLines_frames legible, Option.bind_some, List.length_map, if_true]

/-! ## Transactions -/

namespace Transaction

variable (transaction : Transaction)

/-- The line of the request. -/
def requestLine : FrameLine where
  cls := ascii "frame-tx"
  timestamp := transaction.bus.txTime.toNat
  isTx := true
  slaveId := transaction.slaveId.toNat
  functionCode := transaction.function.toNat
  startAddr := transaction.startAddr.toNat
  count := transaction.count.toNat
  status := .ok
  elapsed := none
  frame := some (buildReadFrame transaction.slaveId transaction.function transaction.startAddr
    transaction.count)

/-- The line of the reply, or of its absence. -/
def replyLine : FrameLine where
  cls := if transaction.success then ascii "frame-rx" else ascii "frame-err"
  timestamp :=
    (if transaction.reply.isSome then transaction.bus.rxTime else transaction.bus.failTime).toNat
  isTx := false
  slaveId := transaction.slaveId.toNat
  functionCode := transaction.function.toNat
  startAddr := transaction.startAddr.toNat
  count := transaction.count.toNat
  status :=
    let code := (transaction.reply.map exceptionCode).getD 0
    if transaction.success then .ok else if code > 0 then .exception code.toNat else .timeout
  elapsed :=
    let last :=
      if transaction.reply.isSome then transaction.bus.rxTime else transaction.bus.failTime'
    let elapsed := last - transaction.bus.txTime
    if elapsed > 0 then some elapsed.toNat else none
  frame := transaction.reply

/-- What holds of the transactions that the client makes: a reply is intact, and it counts as a
success if its registers are taken. -/
structure Sound : Prop where
  requested : buildReadFrame transaction.slaveId transaction.function transaction.startAddr
    transaction.count ≠ []
  intact : ∀ reply ∈ transaction.reply, 5 ≤ reply.length ∧ validateCRC reply = true
  taken : transaction.success = true ↔ ∃ reply ∈ transaction.reply,
    (parseReadResponse reply transaction.count fun _ => 0).1 = true

end Transaction

theorem receiveFrame_intact {client : ModbusClient} {bus : Exchange} {frame : Bytes}
    (received : client.receiveFrame bus = some frame) :
    5 ≤ frame.length ∧ validateCRC frame = true := by
  rw [ModbusClient.receiveFrame] at received
  split_ifs at received
  split at received
  · contradiction
  · split_ifs at received with short valid
    obtain rfl := Option.some.inj received
    exact ⟨Nat.le_of_not_lt short, by simpa using valid⟩

/-- Whether a reply is taken does not depend on the caller's array. -/
theorem parseReadResponse_fst (response : Bytes) (expectedCount : Word) (data other : Nat → Word) :
    (parseReadResponse response expectedCount data).1 =
      (parseReadResponse response expectedCount other).1 := by
  simp only [parseReadResponse]
  split_ifs <;> rfl

namespace ModbusClient

variable {client : ModbusClient} {slaveId function : UInt8} {startAddr count : Word}
  {transaction : Transaction}

theorem ne_nil_of_sendFrame {frame : Bytes} {written : Nat}
    (sent : client.sendFrame frame written = true) : frame ≠ [] := by
  rintro rfl
  rw [sendFrame, List.length_nil, if_pos rfl] at sent
  split_ifs at sent

theorem readOnce_success {data : Nat → Word} {bus : Exchange}
    (sent : client.sendFrame (buildReadFrame slaveId function startAddr count) bus.written = true) :
    (client.readOnce slaveId function startAddr count data bus).success =
      (client.receiveFrame bus).any fun reply => (parseReadResponse reply count data).1 := by
  have some_bytes : (buildReadFrame slaveId function startAddr count).length > 0 :=
    List.length_pos_of_ne_nil (ne_nil_of_sendFrame sent)
  have later : ∀ entry, (client.logFrame entry).receiveFrame bus = client.receiveFrame bus :=
    fun _ => rfl
  rw [readOnce]
  dsimp only
  rw [if_pos ⟨some_bytes, sent⟩, later]
  cases client.receiveFrame bus with
  | none => rfl
  | some reply =>
      dsimp only
      rw [Option.any_some]
      cases taken : (parseReadResponse reply count data).1 with
      | false => rfl
      | true =>
          have quiet : decide (reply.length ≥ 3 ∧ reply.getD 1 0 &&& 0x80 ≠ 0) = false :=
            decide_eq_false fun both => both.2 (noException_of_parseReadResponse taken)
          rw [quiet]
          rfl

theorem readOnceTransmitted_sound {data : Nat → Word} {bus : Exchange}
    (listed : transaction ∈
      client.readOnceTransmitted slaveId function startAddr count data bus) :
    transaction.Sound := by
  rw [readOnceTransmitted] at listed
  split_ifs at listed with sent
  · obtain rfl := List.mem_singleton.mp listed
    refine ⟨ne_nil_of_sendFrame sent, fun reply received => receiveFrame_intact received, ?_⟩
    rw [readOnce_success sent, Option.any_eq_true]
    simp only [parseReadResponse_fst _ count data fun _ => 0]
    rfl
  · contradiction

theorem attemptsTransmitted_sound {client : ModbusClient} {data : Nat → Word}
    {bus : Nat → Exchange} {attempt left : Nat}
    (listed : transaction ∈
      attemptsTransmitted slaveId function startAddr count client data bus attempt left) :
    transaction.Sound := by
  induction left generalizing client data attempt with
  | zero => contradiction
  | succ left induction =>
      rw [attemptsTransmitted] at listed
      rcases List.mem_append.mp listed with first | later
      · exact readOnceTransmitted_sound first
      · split_ifs at later
        · contradiction
        · exact induction later

theorem readWithRetryTransmitted_sound {data : Nat → Word} {maxAttempts : UInt8}
    {bus : Nat → Exchange}
    (listed : transaction ∈ client.readWithRetryTransmitted slaveId function startAddr count data
      maxAttempts bus) : transaction.Sound := by
  rw [readWithRetryTransmitted] at listed
  split at listed
  · contradiction
  · exact attemptsTransmitted_sound listed

end ModbusClient

namespace SerialClient

theorem transmitted_sound {client : SerialClient} {call : Call} {transaction : Transaction}
    (listed : transaction ∈ client.transmitted call) : transaction.Sound := by
  cases call with
  | testDeviceCommunication slaveId testData bus =>
      rw [transmitted] at listed
      split_ifs at listed
      · contradiction
      · exact ModbusClient.readWithRetryTransmitted_sound listed
  | readHoldingRegisters slaveId startAddr count data maxAttempts bus =>
      exact ModbusClient.readWithRetryTransmitted_sound listed
  | readInputRegisters slaveId startAddr count data maxAttempts bus =>
      exact ModbusClient.readWithRetryTransmitted_sound listed
  | _ => contradiction

/-- Every transaction since the log was cleared is sound. -/
def Watched.Sound (state : Watched) : Prop := ∀ transaction ∈ state.history, transaction.Sound

theorem watched_sound_step {lib : ArduinoJson} {before after : Watched} {call : Call}
    (sound : before.Sound) (moves : (watched lib).next before call = some after) :
    after.Sound := by
  obtain rfl := Option.some.inj moves
  have added : ∀ transaction ∈ before.history ++ before.client.transmitted call,
      transaction.Sound := by
    intro transaction listed
    rcases List.mem_append.mp listed with early | late
    · exact sound transaction early
    · exact transmitted_sound late
  cases call with
  | clearFrameLog => exact fun _ listed => absurd listed List.not_mem_nil
  | _ => exact added

theorem watched_sound {lib : ArduinoJson} {state : Watched}
    (reach : (watched lib).Reaches (fun _ _ => True) state) : state.Sound :=
  reach.invariant (fun _ listed => absurd listed List.not_mem_nil)
    fun _ _ _ sound _ moves => watched_sound_step sound moves

end SerialClient

namespace Transaction

variable (transaction : Transaction)

theorem txEntry_line : transaction.txEntry.line (some (buildReadFrame transaction.slaveId
    transaction.function transaction.startAddr transaction.count)) = transaction.requestLine := rfl

theorem rxEntry_line : transaction.rxEntry.line transaction.reply = transaction.replyLine := by
  have inward : transaction.rxEntry.isTx = false := rfl
  have elapsed : transaction.rxEntry.elapsed = transaction.replyLine.elapsed := by
    simp only [ModbusFrameLog.elapsed, inward, Bool.not_false, true_and]
    rfl
  rw [ModbusFrameLog.line, elapsed]
  rfl

/-- The entries of a transaction, with the frames that they are about. -/
def frames : List (ModbusFrameLog × Option Bytes) :=
  [(transaction.txEntry, some (buildReadFrame transaction.slaveId transaction.function
      transaction.startAddr transaction.count)),
    (transaction.rxEntry, transaction.reply)]

theorem frames_legible (sound : transaction.Sound) :
    ∀ pair ∈ transaction.frames, Legible pair.1 pair.2 := by
  have request : Legible transaction.txEntry (some (buildReadFrame transaction.slaveId
      transaction.function transaction.startAddr transaction.count)) := by
    refine ⟨rfl, fun bytes built => ?_⟩
    obtain rfl := Option.some.inj built
    exact sound.requested
  have reply : Legible transaction.rxEntry transaction.reply := by
    refine ⟨rfl, fun bytes received empty => ?_⟩
    have long := (sound.intact bytes received).1
    rw [empty] at long
    contradiction
  intro pair listed
  rcases List.mem_pair.mp listed with rfl | rfl
  · exact request
  · exact reply

end Transaction

/-- Whatever calls have been made, the page gives back the last fifty transactions since the log was
cleared: the request that went out and the frame that came back, byte for byte. A frame that came
back is intact, and the status is OK if and only if its registers are handed to the caller. -/
theorem frame_log_page_reads {lib : ArduinoJson} {state : SerialClient.Watched}
    (reach : (SerialClient.watched lib).Reaches (fun _ _ => True) state) :
    readFrameLog (frameLogHtml state.client.frameLog) =
        some ((state.history.rtake 50).flatMap fun transaction =>
          [transaction.requestLine, transaction.replyLine]) ∧
      ∀ transaction ∈ state.history,
        (∀ reply ∈ transaction.reply, 5 ≤ reply.length ∧ validateCRC reply = true) ∧
          (transaction.replyLine.status = .ok ↔ ∃ reply ∈ transaction.reply,
            (parseReadResponse reply transaction.count fun _ => 0).1 = true) := by
  have sound := SerialClient.watched_sound reach
  have log : state.client.frameLog =
      ((state.history.rtake 50).flatMap Transaction.frames).map Prod.fst := by
    have mirrors : state.client.frameLog =
        (state.history.rtake 50).flatMap Transaction.entries :=
      (SerialClient.watched_mirrors reach).trans
        (@BoundedLog.rtake_flatMap _ _ Transaction.entries 2 (fun _ => rfl) state.history 50)
    rw [mirrors, List.map_flatMap]
    rfl
  have legible : ∀ pair ∈ (state.history.rtake 50).flatMap Transaction.frames,
      Legible pair.1 pair.2 := by
    intro pair listed
    obtain ⟨transaction, recent, member⟩ := List.mem_flatMap.mp listed
    exact transaction.frames_legible (sound transaction (List.mem_of_mem_drop recent)) pair member
  refine ⟨?_, fun transaction listed => ⟨(sound transaction listed).intact, ?_⟩⟩
  · rw [log, readFrameLog_html legible, List.map_flatMap]
    simp only [Transaction.frames, List.map_cons, List.map_nil, Transaction.txEntry_line,
      Transaction.rxEntry_line]
  · rw [← (sound transaction listed).taken, Transaction.replyLine]
    dsimp only
    split_ifs with taken <;> simp [taken]

theorem frame_log_page_reads_two : ∃ state : SerialClient.Watched,
    (SerialClient.watched (flatJson [])).Reaches (fun _ _ => True) state ∧
      state.history.map Transaction.success = [true, false] ∧
      readFrameLog (frameLogHtml state.client.frameLog) =
        some ((state.history.rtake 50).flatMap fun transaction =>
          [transaction.requestLine, transaction.replyLine]) := by
  have fresh : (SerialClient.watched (flatJson [])).Reaches (fun _ _ => True) _ := .start
  obtain ⟨state, reach, two⟩ := fresh.test
    [.begin .initial,
      .readInputRegisters 2 0 1 (fun _ => 0) 1 fun _ => .prompt (withCRC [2, 4, 2, 1, 44]),
      .readInputRegisters 2 0 1 (fun _ => 0) 1 fun _ => SerialClient.silent]
    (fun state => state.history.map Transaction.success = [true, false]) (by decide +kernel)
  exact ⟨state, reach, of_decide_eq_true two, (frame_log_page_reads reach).1⟩

end ModbusBridge
