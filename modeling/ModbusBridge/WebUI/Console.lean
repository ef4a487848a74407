import ModbusBridge.ESPLogger
import ModbusBridge.Library.JsonText
import ModbusBridge.Library.Utf8

/-!
# Lines of the console

`logCallback` stores a log line cut to 127 bytes and broadcasts it as JSON text, which the console
page parses to put the message into its document. The escaping belongs to the JSON text: reading it
undoes it.
-/

namespace ModbusBridge

namespace WebUI

/-! ## What is stored -/

/-- `LOG_MESSAGE_MAX_LENGTH - 1`. -/
def messageBytes : Nat := 127

/-- `strncpy`, with a terminator behind the `n` bytes. -/
def strncpy (n : Nat) (text : CString) : CString where
  bytes := text.bytes.take n
  noNul byte member := text.noNul byte (List.mem_of_mem_take member)

/-- `WebUI::LogEntry`. -/
structure LogEntry where
  timestamp : UInt64
  level : ESPLogger.LogLevel
  message : CString
  fits : message.strlen ≤ messageBytes

/-- What `logCallback` stores, where `now` is what `time(nullptr)` returns. -/
def logEntry (level : ESPLogger.LogLevel) (message : CString) (timestamp : UInt32) (now : Int) :
    LogEntry where
  timestamp :=
    if now > 1000000000 then UInt64.ofNat now.toNat * 1000 else timestamp.toUInt64
  level := level
  message := strncpy messageBytes message
  fits := List.length_take_le _ _

/-! ## What is broadcast -/

/-- The cases of `escapeJsonString` that write an escape. -/
def jsonEscapes : List (UInt8 × Bytes) :=
  [(34, ascii "\\\""), (92, ascii "\\\\"), (10, ascii "\\n"), (13, ascii "\\r"), (9, ascii "\\t"),
    (8, ascii "\\b"), (12, ascii "\\f"), (60, ascii "\\u003c"), (62, ascii "\\u003e"),
    (38, ascii "\\u0026"), (39, ascii "\\u0027")]

/-- What `escapeJsonString` writes for a character. A `char` is unsigned. -/
def escapeJsonChar (c : UInt8) : Bytes :=
  match jsonEscapes.lookup c with
  | some escape => escape
  | none => if c ≥ 32 ∨ c = 9 ∨ c = 10 ∨ c = 13 then [c] else []

/-- `WebUI::escapeJsonString`. -/
def escapeJsonString (str : Bytes) : Bytes := str.flatMap escapeJsonChar

/-- The frame of an entry, in a broadcast and in a replay. -/
def logFrame (entry : LogEntry) (now : Int) : Bytes :=
  let useNTP := now > 1000000000 ∧ entry.timestamp > 1000000000000
  ascii "\x7b\"type\":\"log\"," ++
    (ascii "\"timestamp\":" ++ decimal entry.timestamp.toNat ++ ascii ",") ++
    (ascii "\"level\":\"" ++ ESPLogger.logLevelToString entry.level ++ ascii "\",") ++
    (ascii "\"message\":\"" ++ escapeJsonString entry.message.bytes ++ ascii "\",") ++
    (ascii "\"ntp\":" ++ (if useNTP then ascii "true" else ascii "false") ++ ascii "\x7d")

/-- `broadcastLogMessage`: the frame that every client gets, if there are clients. -/
def broadcastLogMessage (connectedClients now : Int) (entry : LogEntry) : Option Bytes :=
  if connectedClients = 0 then none else some (logFrame entry now)

/-! ## What the console page shows -/

/-- The `message` of a frame of type `log`, which `addLog` concatenates into `innerHTML`. -/
def addLogMessage (frame : Bytes) : Option Bytes :=
  match JsonText.parseObject frame with
  | none => none
  | some members =>
      if members.lookup (ascii "type") = some (.text (ascii "log")) then
        match members.lookup (ascii "message") with
        | some (.text message) => some message
        | _ => none
      else none

/-! ## Escaping is undone by reading -/

/-- A character that `escapeJsonString` does not drop. -/
def isKept (c : UInt8) : Bool := 32 ≤ c || [8, 9, 10, 12, 13].contains c

/-- A text without the control characters that `escapeJsonString` drops. -/
def kept (text : Bytes) : Bytes := text.filter isKept

variable {c : UInt8} {escape text message : Bytes} {n : Nat} {entry : LogEntry} {now : Int}

/-- Every escape stands for its character, which is kept, and is ASCII like it. -/
theorem jsonEscapes_spell : ∀ pair ∈ jsonEscapes, JsonText.Spells pair.2 [pair.1] ∧
    isKept pair.1 = true ∧ pair.1 < 128 ∧ ∀ byte ∈ pair.2, byte < 128 := by
  simp only [jsonEscapes, List.forall_mem_cons]
  refine ⟨?_, ?_, ?_, ?_, ?_, ?_, ?_, ?_, ?_, ?_, ?_, by simp⟩
  all_goals exact ⟨fun rest => rfl, rfl, by decide, by decide +kernel⟩

/-- A character is escaped, or stands for itself, or is dropped. -/
theorem escapeJsonChar_cases (c : UInt8) :
    (c, escapeJsonChar c) ∈ jsonEscapes ∨
      (escapeJsonChar c = [c] ∧ isKept c = true ∧ JsonText.Spells [c] [c]) ∨
        (escapeJsonChar c = [] ∧ isKept c = false ∧ c < 32) := by
  rw [escapeJsonChar]
  cases found : jsonEscapes.lookup c with
  | some escape =>
      obtain ⟨early, late, split, -⟩ := List.lookup_eq_some_iff.mp found
      exact .inl (by rw [split]; simp)
  | none =>
      have special : ∀ pair ∈ jsonEscapes, c ≠ pair.1 := by
        simpa using List.lookup_eq_none_iff.mp found
      simp only [jsonEscapes, List.forall_mem_cons] at special
      by_cases printable : 32 ≤ c
      · exact .inr (.inl ⟨by simp [printable], by simp [isKept, printable],
          JsonText.spells_self printable special.1 special.2.1⟩)
      · exact .inr (.inr ⟨by simp [printable, special], by simp [isKept, printable, special],
          UInt8.not_le.mp printable⟩)

theorem kept_eq_flatMap (text : Bytes) :
    kept text = text.flatMap fun c => if isKept c then [c] else [] := by
  induction text with
  | nil => rfl
  | cons c text induction =>
      rw [kept, List.filter_cons, List.flatMap_cons, ← induction]
      split <;> rfl

/-- What a reader of the JSON text makes of an escaped string. -/
theorem reads_escapeJsonString (text : Bytes) :
    JsonText.Reads (JsonText.quoted (escapeJsonString text)) (.text (kept text)) := by
  rw [kept_eq_flatMap]
  refine JsonText.reads_quoted fun c _ => ?_
  rcases escapeJsonChar_cases c with escaped | ⟨same, keeps, spells⟩ | ⟨dropped, drops, -⟩
  · obtain ⟨spells, keeps, -⟩ := jsonEscapes_spell _ escaped
    exact .inr (by simpa [keeps] using spells)
  · exact .inr (by simpa [same, keeps] using spells)
  · exact .inl (by simp [dropped, drops])

theorem valid_escapeJsonChar {c : UInt8} (small : c < 128) : Utf8.Valid (escapeJsonChar c) := by
  rcases escapeJsonChar_cases c with escaped | ⟨same, -⟩ | ⟨dropped, -⟩
  · exact Utf8.valid_of_ascii (jsonEscapes_spell _ escaped).2.2.2
  · rw [same]
    exact Utf8.valid_singleton small
  · rw [dropped]
    exact Utf8.valid_nil

theorem escapeJsonChar_high {c : UInt8} (high : 128 ≤ c) : escapeJsonChar c = [c] := by
  rcases escapeJsonChar_cases c with escaped | ⟨same, -⟩ | ⟨-, -, control⟩
  · exact absurd (jsonEscapes_spell _ escaped).2.2.1 (UInt8.not_lt.mpr high)
  · exact same
  · exact absurd (UInt8.lt_trans control (by decide)) (UInt8.not_lt.mpr high)

/-! ## Frames -/

variable {entry : LogEntry} {now : Int}

theorem digit_bounds {n : Nat} {char : Char} (digit : char ∈ Nat.toDigits 10 n) :
    48 ≤ char.toNat ∧ char.toNat ≤ 57 := by
  have isDigit := Nat.isDigit_of_mem_toDigits (by decide) (by decide) digit
  simpa [Char.isDigit, UInt32.le_iff_toNat_le] using isDigit

theorem isDigit_of_mem_decimal {n : Nat} {byte : UInt8} (member : byte ∈ decimal n) :
    JsonText.isDigit byte = true := by
  obtain ⟨char, digit, rfl⟩ := List.mem_map.mp member
  obtain ⟨low, high⟩ := digit_bounds digit
  simp only [JsonText.isDigit, UInt8.le_iff_toNat_le, UInt8.toNat_ofNat', Bool.and_eq_true,
    decide_eq_true_eq]
  rw [Nat.mod_eq_of_lt (by omega)]
  exact ⟨low, high⟩

theorem number_decimal (n : Nat) : JsonText.number (decimal n) = n := by
  rw [JsonText.number, decimal, List.foldl_map]
  refine Eq.trans ?_ (@Nat.ofDigitChars_ten_toDigits n)
  rw [Nat.ofDigitChars_eq_foldl]
  refine List.foldl_ext _ _ _ fun number char digit => ?_
  have high := (digit_bounds digit).2
  rw [UInt8.toNat_ofNat', Nat.mod_eq_of_lt (by omega)]
  rfl

/-- Only zero is written with a zero in front. -/
theorem eq_zero_of_head_decimal {n : Nat} (zero : (decimal n).head? = some 48) : n = 0 := by
  induction n using Nat.strongRecOn with
  | ind n induction =>
      rcases Nat.lt_or_ge n 10 with small | large
      · have digits : ∀ n < 10, UInt8.ofNat (Nat.digitChar n).toNat = 48 → n = 0 := by decide
        rw [decimal, Nat.toDigits_of_lt_base small] at zero
        exact digits n small (Option.some.inj zero)
      · have front : (decimal (n / 10)).head? = some 48 := by
          rw [decimal, Nat.toDigits_of_base_le (by decide) large, List.map_append,
            List.head?_append_of_ne_nil _ (by simp [Nat.toDigits_ne_nil])] at zero
          exact zero
        have less := induction (n / 10) (by omega) front
        omega

theorem reads_decimal (n : Nat) : JsonText.Reads (decimal n) (.number n) := by
  have reads := @JsonText.reads_number (decimal n) (by simp [decimal, Nat.toDigits_ne_nil])
    (fun _ => isDigit_of_mem_decimal) fun zero => by rw [eq_zero_of_head_decimal zero]; rfl
  rwa [number_decimal] at reads

/-- The members of a frame. -/
def frameMembers (entry : LogEntry) (now : Int) : List (Bytes × JsonText.Value) :=
  [(ascii "type", .text (ascii "log")), (ascii "timestamp", .number entry.timestamp.toNat),
    (ascii "level", .text (ESPLogger.logLevelToString entry.level)),
    (ascii "message", .text (kept entry.message.bytes)),
    (ascii "ntp", .truth (now > 1000000000 ∧ entry.timestamp > 1000000000000))]

/-- The members of a frame, in their written form. -/
def frameTexts (entry : LogEntry) (now : Int) : List (Bytes × Bytes) :=
  [(ascii "type", JsonText.quoted (ascii "log")),
    (ascii "timestamp", decimal entry.timestamp.toNat),
    (ascii "level", JsonText.quoted (ESPLogger.logLevelToString entry.level)),
    (ascii "message", JsonText.quoted (escapeJsonString entry.message.bytes)),
    (ascii "ntp",
      if now > 1000000000 ∧ entry.timestamp > 1000000000000 then ascii "true" else ascii "false")]

theorem logFrame_eq (entry : LogEntry) (now : Int) :
    logFrame entry now = JsonText.objectText (frameTexts entry now) := by
  simp only [logFrame, JsonText.objectText, frameTexts, JsonText.memberTexts, JsonText.memberText,
    JsonText.quoted, List.append_assoc, List.cons_append]
  rfl

theorem reads_truth (value : Prop) [Decidable value] :
    JsonText.Reads (if value then ascii "true" else ascii "false") (.truth (decide value)) := by
  split
  next holds =>
      rw [decide_eq_true holds]
      exact JsonText.reads_true
  next fails =>
      rw [decide_eq_false fails]
      exact JsonText.reads_false

theorem plain_logLevelToString (level : ESPLogger.LogLevel) :
    JsonText.Plain (ESPLogger.logLevelToString level) := by
  cases level <;> decide

/-- A frame is a JSON text. -/
theorem parse_logFrame (entry : LogEntry) (now : Int) :
    JsonText.parseObject (logFrame entry now) = some (frameMembers entry now) := by
  rw [logFrame_eq]
  exact JsonText.parseObject_objectText <|
    .cons (JsonText.shows_member (JsonText.reads_plain (by decide))) <|
    .cons (JsonText.shows_member (reads_decimal _)) <|
    .cons (JsonText.shows_member (JsonText.reads_plain (plain_logLevelToString _))) <|
    .cons (JsonText.shows_member (reads_escapeJsonString _)) <|
    .cons (JsonText.shows_member (reads_truth _)) .nil

theorem addLogMessage_logFrame (entry : LogEntry) (now : Int) :
    addLogMessage (logFrame entry now) = some (kept entry.message.bytes) := by
  rw [addLogMessage, parse_logFrame]
  rfl

/-! ## No markup in a line -/

/-- The text behind an ampersand completes a character reference of HTML: a name, or a number in
one of two bases, and a semicolon. -/
def completesReference (text : Bytes) : Bool :=
  let name := text.takeWhile (· != 59)
  text.contains 59 &&
    match name with
    | 35 :: 120 :: digits => digits != [] && digits.all fun digit => (digitValue 16 digit).isSome
    | 35 :: 88 :: digits => digits != [] && digits.all fun digit => (digitValue 16 digit).isSome
    | 35 :: digits => digits != [] && digits.all fun digit => (digitValue 10 digit).isSome
    | name => name != [] && name.all isAlnum

/-- A text without markup: no angle brackets, and no ampersand that does not start a character
reference. -/
def isHarmless : Bytes → Bool
  | [] => true
  | c :: text => c != 60 && c != 62 && (c != 38 || completesReference text) && isHarmless text

/-- The line that `onWebSocketEvent` logs for a text from a client. -/
def sentLine (num : UInt8) (payload : CString) : CString :=
  (CString.literal "WebSocket client " rfl ++ CString.ofDecimal num.toNat ++
    CString.literal " sent: " rfl ++ payload).snprintf 256

/-- Nothing that a frame of a log line brings into `innerHTML` is markup, if and only if the first
127 bytes of the message, less its control characters, have no markup. -/
theorem console_shows_no_markup_iff (level : ESPLogger.LogLevel) (message : CString)
    (timestamp : UInt32) (now later : Int) :
    (∀ connectedClients, ∀ frame ∈ broadcastLogMessage connectedClients later
        (logEntry level message timestamp now),
      ∀ shown ∈ addLogMessage frame, isHarmless shown = true) ↔
      isHarmless (kept (message.bytes.take 127)) = true := by
  constructor
  · intro harmless
    exact harmless 1 _ rfl _ (addLogMessage_logFrame _ later)
  · intro harmless connectedClients frame sent shown reads
    rw [broadcastLogMessage] at sent
    split at sent
    next => contradiction
    next =>
        obtain rfl := Option.some.inj sent
        rw [addLogMessage_logFrame] at reads
        obtain rfl := Option.some.inj reads
        exact harmless

/-- A client sends an element, and the page of every client builds it. -/
theorem console_shows_markup :
    ¬∀ frame ∈ broadcastLogMessage 1 0
        (logEntry .info (sentLine 0 (CString.literal "<img src=x onerror=alert(1)>" rfl)) 0 0),
      ∀ shown ∈ addLogMessage frame, isHarmless shown = true := by
  decide +kernel

/-! ## Frames are texts -/

theorem valid_decimal (n : Nat) : Utf8.Valid (decimal n) := by
  refine Utf8.valid_of_ascii fun byte member => ?_
  have digit := isDigit_of_mem_decimal member
  simp only [JsonText.isDigit, Bool.and_eq_true, decide_eq_true_eq] at digit
  exact UInt8.lt_of_le_of_lt digit.2 (by decide)

theorem valid_logLevelToString (level : ESPLogger.LogLevel) :
    Utf8.Valid (ESPLogger.logLevelToString level) :=
  Utf8.valid_literal (by cases level <;> rfl)

/-- A frame is a text, if and only if the escaped message is one. -/
theorem valid_logFrame_iff (entry : LogEntry) (now : Int) :
    Utf8.Valid (logFrame entry now) ↔ Utf8.Valid (escapeJsonString entry.message.bytes) := by
  have type : Utf8.Valid (ascii "\x7b\"type\":\"log\",") := Utf8.valid_literal rfl
  have timestamp : Utf8.Valid (ascii "\"timestamp\":" ++ decimal entry.timestamp.toNat ++
      ascii ",") :=
    ((Utf8.valid_literal rfl).append (valid_decimal _)).append (Utf8.valid_literal rfl)
  have level : Utf8.Valid (ascii "\"level\":\"" ++ ESPLogger.logLevelToString entry.level ++
      ascii "\",") :=
    ((Utf8.valid_literal rfl).append (valid_logLevelToString _)).append (Utf8.valid_literal rfl)
  have ntp : Utf8.Valid (ascii "\"ntp\":" ++
      (if now > 1000000000 ∧ entry.timestamp > 1000000000000 then ascii "true"
        else ascii "false") ++
      ascii "\x7d") := by
    refine ((Utf8.valid_literal rfl).append ?_).append (Utf8.valid_literal rfl)
    split <;> exact Utf8.valid_literal rfl
  have opening : Utf8.Valid (ascii "\"message\":\"") := Utf8.valid_literal rfl
  have closing : Utf8.Valid (ascii "\",") := Utf8.valid_literal rfl
  rw [logFrame, Utf8.valid_append_right_iff ntp,
    Utf8.valid_append_iff ((type.append timestamp).append level),
    Utf8.valid_append_right_iff closing, Utf8.valid_append_iff opening]

/-- Where the message is a text, what is stored of it is one if and only if the cut falls between
two characters. -/
theorem valid_stored_iff {message : CString} (valid : Utf8.Valid message.bytes)
    (level : ESPLogger.LogLevel) (timestamp : UInt32) (now : Int) :
    Utf8.Valid (logEntry level message timestamp now).message.bytes ↔
      ∀ byte ∈ message.bytes[127]?, byte.IsUTF8FirstByte :=
  Utf8.valid_take_iff valid 127

/-- The same holds of the frame. -/
theorem valid_frame_iff {message : CString} (valid : Utf8.Valid message.bytes)
    (level : ESPLogger.LogLevel) (timestamp : UInt32) (now later : Int) :
    Utf8.Valid (logFrame (logEntry level message timestamp now) later) ↔
      ∀ byte ∈ message.bytes[127]?, byte.IsUTF8FirstByte := by
  rw [valid_logFrame_iff]
  exact (Utf8.valid_flatMap_take_iff (fun _ => valid_escapeJsonChar)
    (fun _ => escapeJsonChar_high) valid 127).trans (Utf8.valid_take_iff valid 127)

/-- A frame that a browser accepts, with a message that starts like the one that was logged. -/
structure IsPush (message frame : Bytes) : Prop where
  valid : Utf8.Valid frame
  parses : ∃ members text, JsonText.parseObject frame = some members ∧
    members.lookup (ascii "message") = some (.text text) ∧ text <+: kept message

/-- What is stored and pushed for a message is a text, and the frame is one with the message in it,
if and only if the cut after 127 bytes falls between two characters. -/
theorem console_push_valid_iff (level : ESPLogger.LogLevel) (message : CString)
    (timestamp : UInt32) (now later : Int) (valid : Utf8.Valid message.bytes) :
    (Utf8.Valid (logEntry level message timestamp now).message.bytes ∧
      ∀ connectedClients, ∀ frame ∈ broadcastLogMessage connectedClients later
        (logEntry level message timestamp now), IsPush message.bytes frame) ↔
      ∀ byte ∈ message.bytes[127]?, byte.IsUTF8FirstByte := by
  constructor
  · rintro ⟨stored, -⟩
    exact (valid_stored_iff valid level timestamp now).mp stored
  · intro between
    refine ⟨(valid_stored_iff valid level timestamp now).mpr between, ?_⟩
    intro connectedClients frame sent
    rw [broadcastLogMessage] at sent
    split at sent
    next => contradiction
    next =>
        obtain rfl := Option.some.inj sent
        exact ⟨(valid_frame_iff valid level timestamp now later).mpr between, _, _,
          parse_logFrame _ _, rfl, (List.take_prefix 127 message.bytes).filter _⟩

/-- A message of letters `x`, and a character of two bytes behind them. -/
def accented (count : Nat) : CString where
  bytes := List.replicate count 120 ++ [195, 169]
  noNul byte member := by
    rcases List.mem_append.mp member with letter | accent
    · rw [List.eq_of_mem_replicate letter]
      decide
    · rcases List.mem_pair.mp accent with rfl | rfl <;> decide

theorem valid_accented (count : Nat) : Utf8.Valid (accented count).bytes := by
  refine Utf8.Valid.append (Utf8.valid_of_ascii fun byte letter => ?_)
    (Utf8.valid_iff_exists.mpr ⟨['é'], by decide⟩)
  rw [List.eq_of_mem_replicate letter]
  decide

/-- A message of 127 bytes is pushed as it is. -/
theorem console_push_valid_short :
    Utf8.Valid (logEntry .info (accented 125) 0 0).message.bytes ∧
      ∀ connectedClients, ∀ frame ∈ broadcastLogMessage connectedClients 0
        (logEntry .info (accented 125) 0 0), IsPush (accented 125).bytes frame :=
  (console_push_valid_iff .info (accented 125) 0 0 0 (valid_accented 125)).mpr (by simp [accented])

/-- The cut goes through the last character of a message of 128 bytes. -/
theorem console_push_cuts_character :
    Utf8.Valid (accented 126).bytes ∧ (accented 126).strlen ≤ 255 ∧
      ¬Utf8.Valid (logEntry .info (accented 126) 0 0).message.bytes ∧
      ∀ frame ∈ broadcastLogMessage 1 0 (logEntry .info (accented 126) 0 0),
        ¬Utf8.Valid frame := by
  have through : ¬∀ byte ∈ (accented 126).bytes[127]?, byte.IsUTF8FirstByte := by
    decide +kernel
  refine ⟨valid_accented 126, by simp [accented, CString.strlen], ?_, ?_⟩
  · rwa [valid_stored_iff (valid_accented 126)]
  · intro frame sent
    obtain rfl := Option.some.inj sent
    rwa [valid_frame_iff (valid_accented 126)]

end WebUI

end ModbusBridge
