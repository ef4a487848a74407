import ModbusBridge.Library.CountingLoop
import ModbusBridge.Modbus.FrameLog
import ModbusBridge.Modbus.ReadOnly
import ModbusBridge.WebUI.Diagnostics

/-!
# Diagnostic scans

The actions `scan_slaves` and `scan_range` of `handleDiagnosticsAPI` go through a range of
addresses. The first one tells from the length of the frame log whether a slave has answered, and
the log has a fixed size.
-/

namespace ModbusBridge

namespace Diagnostics

variable (lib : ArduinoJson) (doc : Json) (client : ModbusClient)

/-! ## The scan for slaves -/

/-- `testRegisters`. -/
def testRegisters : List Word := [0x0000, 0x0526, 0x0100]

/-- `scan_slaves` at the head of its loop. -/
structure SlaveScan where
  addr : UInt8
  html : Bytes
  found : Nat
  client : ModbusClient

/-- What a turn finds: the word in `val`, and the bus in the read of each test register. -/
structure SlaveTurn where
  val : Word
  first : Exchange
  second : Exchange
  third : Exchange

/-- The test registers with what the bus does. -/
def SlaveTurn.tests (turn : SlaveTurn) : List (Word × Exchange) :=
  testRegisters.zip [turn.first, turn.second, turn.third]

/-- The line of a slave that responds. -/
def slaveLine (addr : UInt8) (testReg : Word) (lastFrame : ModbusFrameLog) : Bytes :=
  let registerTested := ascii "0x" ++ hexadecimal testReg.toNat
  let slave := ascii "<span class='success'>" ++ checkMark ++ ascii " Slave " ++
    decimal addr.toNat
  if lastFrame.success then
    slave ++ ascii " - Register " ++ registerTested ++ ascii " OK</span><br>"
  else if lastFrame.exceptionCode = 2 then
    slave ++ ascii " - Responds (Exception 0x02 on " ++ registerTested ++ ascii ")</span><br>"
  else
    slave ++ ascii " - Responds (Exception 0x" ++ hexadecimal lastFrame.exceptionCode.toNat ++
      ascii " on " ++ registerTested ++ ascii ")</span><br>"

/-- The read of a test register. -/
def SlaveScan.read (scan : SlaveScan) (testReg : Word) (val : Nat → Word) (bus : Exchange) :
    ReadResult :=
  scan.client.readHoldingRegisters scan.addr testReg 1 val 1 fun _ => bus

/-- The loop over the test registers, with `val` before each read. -/
def testSlave : List (Word × Exchange) → (Nat → Word) → SlaveScan → SlaveScan
  | [], _, scan => scan
  | (testReg, bus) :: tests, val, scan =>
      let frameCountBefore := scan.client.frameLog.length
      let result := scan.read testReg val bus
      let frameCountAfter := result.client.frameLog.length
      let scan := { scan with client := result.client }
      if frameCountAfter > frameCountBefore then
        match result.client.frameLog.getLast? with
        | some lastFrame =>
            if !lastFrame.isTx ∧ lastFrame.hexDump ≠ ascii "TIMEOUT" then
              { scan with
                html := scan.html ++ slaveLine scan.addr testReg lastFrame
                found := scan.found + 1 }
            else testSlave tests result.data scan
        | none => testSlave tests result.data scan
      else testSlave tests result.data scan

/-- The last address of `scan_slaves`. -/
def lastSlave : UInt8 := .ofBitVec ((doc.member (ascii "end")).asUnsigned lib 8)

/-- `scan_slaves`. Its loop does not end when the last address is 255. -/
def scanSlaves : StepSystem SlaveScan SlaveTurn where
  start :=
    let start := UInt8.ofBitVec ((doc.member (ascii "start")).asUnsigned lib 8)
    { addr := start
      html := ascii "<strong>Scanning slave addresses " ++ decimal start.toNat ++ ascii "-" ++
        decimal (lastSlave lib doc).toNat ++ ascii ":</strong><br><br>"
      found := 0
      client }
  next scan turn :=
    if scan.addr ≤ lastSlave lib doc then
      let after := testSlave turn.tests (fun _ => turn.val) scan
      some { after with addr := after.addr + 1 }
    else none

/-- The page of `scan_slaves`, after its loop. -/
def SlaveScan.report (scan : SlaveScan) : Bytes :=
  if scan.found = 0 then
    scan.html ++ ascii "<span class='error'>" ++ ballotX ++
      ascii " No slaves responded (all timeouts)</span>"
  else
    scan.html ++ ascii "<br><strong>Found " ++ decimal scan.found ++
      ascii " responding slave(s)</strong>"

/-! ## The loops end -/

theorem testSlave_addr (tests : List (Word × Exchange)) (val : Nat → Word) (scan : SlaveScan) :
    (testSlave tests val scan).addr = scan.addr := by
  induction tests generalizing val scan with
  | nil => rfl
  | cons test tests induction =>
      rw [testSlave]
      dsimp only
      split
      · split
        · split
          · rfl
          · exact induction ..
        · exact induction ..
      · exact induction ..

theorem scanSlaves_counts :
    (scanSlaves lib doc client).Counts (fun scan => scan.addr.toBitVec)
      (lastSlave lib doc).toBitVec where
  condition scan turn := Option.isSome_ite
  increment scan turn after moves := by
    obtain ⟨-, same⟩ := Option.ite_none_right_eq_some.mp moves
    rw [← Option.some.inj same, UInt8.toBitVec_add, testSlave_addr]
    rfl

theorem scanRange_counts :
    (scanRange lib doc client).Counts (fun scan => scan.addr) (address lib doc (ascii "end")) where
  condition scan turn := Option.isSome_ite
  increment scan turn after moves := by
    obtain ⟨-, same⟩ := Option.ite_none_right_eq_some.mp moves
    rw [← Option.some.inj same]
    rfl

/-- A scan probes each address of its range once and stops, if and only if the range does not go up
to the last address that its counter can have. -/
theorem scans_complete_iff :
    ((scanSlaves lib doc client).Completes (fun scan => scan.addr.toBitVec)
        (lastSlave lib doc).toBitVec ↔ lastSlave lib doc ≠ 255) ∧
      ((scanRange lib doc client).Completes (fun scan => scan.addr)
        (address lib doc (ascii "end")) ↔ address lib doc (ascii "end") ≠ 0xFFFF) := by
  have silent := SerialClient.silent
  refine ⟨?_, (scanRange_counts lib doc client).completes_iff ⟨fun _ => 0, fun _ => silent⟩⟩
  rw [(scanSlaves_counts lib doc client).completes_iff ⟨0, silent, silent, silent⟩]
  exact not_congr UInt8.toBitVec_inj

/-- A scan of all slave addresses, which goes on for ever. -/
theorem scan_slaves_endless :
    let body := ascii "\x7b\"action\":\"scan_slaves\",\"start\":1,\"end\":255\x7d"
    let doc : Json := .object [(ascii "action", .string (ascii "scan_slaves")),
      (ascii "start", .integer 1), (ascii "end", .integer 255)]
    let lib := flatJson [(body, doc)]
    lib.deserializeJson body = .ok doc ∧
      ¬ (scanSlaves lib doc ⟨true, 1000, []⟩).Completes (fun scan => scan.addr.toBitVec)
        (lastSlave lib doc).toBitVec := by
  intro body doc lib
  refine ⟨by simp [lib, flatJson], fun completes => ?_⟩
  have silent := SerialClient.silent
  have below := ((scanSlaves_counts lib doc ⟨true, 1000, []⟩).completes_iff
    ⟨0, silent, silent, silent⟩).mp completes
  exact below (by decide +kernel)

/-! ## The slaves that the scan reports -/

variable {client}

/-- One of the tests of a slave receives a frame. -/
def answered (client : ModbusClient) (tests : List (Word × Exchange)) : Bool :=
  tests.any fun test => client.hears test.2

/-- The requests that go out before the first test that receives a frame. -/
def unanswered (client : ModbusClient) (tests : List (Word × Exchange)) : Nat :=
  (tests.takeWhile fun test => !client.hears test.2).countP fun test => client.sends test.2

/-- The entries that a slave adds to the frame log. -/
def entries (client : ModbusClient) (tests : List (Word × Exchange)) : Nat :=
  2 * unanswered client tests + if answered client tests then 2 else 0

/-- A test finds the slave when a frame comes back and the log is not full. -/
theorem testSlave_cons {testReg : Word} {bus : Exchange} {val : Nat → Word} {scan : SlaveScan}
    {once : ReadResult}
    (read : scan.read testReg val bus = once) (tests : List (Word × Exchange)) :
    if scan.client.hears bus = true ∧ scan.client.frameLog.length < frameLogSize then
      ∃ lastFrame, testSlave ((testReg, bus) :: tests) val scan =
        { scan with
          client := once.client
          html := scan.html ++ slaveLine scan.addr testReg lastFrame
          found := scan.found + 1 }
    else
      testSlave ((testReg, bus) :: tests) val scan =
        testSlave tests once.data { scan with client := once.client } := by
  have client := scan.client.readWithRetry_once_client scan.addr .holding testReg val bus
  have logged := scan.client.readOnce_frameLog scan.addr .holding testReg 1 val bus
  rw [show scan.client.readWithRetry scan.addr Table.holding.function testReg 1 val 1 _ = once
    from read] at client
  rw [← client] at logged
  rw [testSlave]
  dsimp only
  rw [read]
  split at logged
  next sent =>
      obtain ⟨length, lastFrame, last, received, dump⟩ := logged
      have grown : once.client.frameLog.length > scan.client.frameLog.length ↔
          scan.client.frameLog.length < frameLogSize := by
        rw [length, filled, frameLogSize]
        omega
      simp only [grown, last, received, Bool.not_false, true_and, dump]
      split
      next found =>
          rw [if_pos found.2, if_pos found.1]
          exact ⟨lastFrame, rfl⟩
      next missed =>
          split_ifs with room heard
          · exact absurd ⟨heard, room⟩ missed
          · rfl
          · rfl
  next unsent =>
      have deaf : ¬ scan.client.hears bus = true := by simp [ModbusClient.hears, unsent]
      rw [if_neg fun found => deaf found.1, if_neg (by rw [logged]; exact lt_irrefl _)]

/-- The scan keeps the client of its start, but for the frame log. -/
def SlaveScan.Keeps (scan : SlaveScan) (client : ModbusClient) : Prop :=
  scan.client.initialized = client.initialized ∧
    scan.client.responseTimeout = client.responseTimeout

theorem SlaveScan.Keeps.read {scan : SlaveScan} (keeps : scan.Keeps client) (testReg : Word)
    (val : Nat → Word) (bus : Exchange) :
    SlaveScan.Keeps { scan with client := (scan.read testReg val bus).client } client := by
  obtain ⟨ready, same⟩ := scan.client.readWithRetry_client scan.addr fcReadHoldingRegisters
    testReg 1 val 1 fun _ => bus
  exact ⟨ready.trans keeps.1, same.trans keeps.2⟩

theorem testSlave_keeps (tests : List (Word × Exchange)) (val : Nat → Word) {scan : SlaveScan}
    (keeps : scan.Keeps client) : (testSlave tests val scan).Keeps client := by
  induction tests generalizing val scan with
  | nil => exact keeps
  | cons test tests induction =>
      have read := keeps.read test.1 val test.2
      have cases := testSlave_cons (Eq.refl (scan.read test.1 val test.2)) tests
      split at cases
      next =>
          obtain ⟨lastFrame, after⟩ := cases
          rw [after]
          exact read
      next =>
          rw [cases]
          exact induction _ read

/-- With a full log, no test finds anything. -/
theorem testSlave_full (tests : List (Word × Exchange)) (val : Nat → Word) {scan : SlaveScan}
    (full : frameLogSize ≤ scan.client.frameLog.length) :
    let after := testSlave tests val scan
    after.found = scan.found ∧ after.html = scan.html ∧
      after.client.frameLog.length = scan.client.frameLog.length := by
  induction tests generalizing val scan with
  | nil => exact ⟨rfl, rfl, rfl⟩
  | cons test tests induction =>
      have cases := testSlave_cons (Eq.refl (scan.read test.1 val test.2)) tests
      have length := scan.client.readWithRetry_once_frameLog scan.addr .holding test.1 val test.2
      rw [filled_of_full full] at length
      rw [if_neg (fun found => Nat.not_lt_of_le full found.2)] at cases
      obtain ⟨found, html, kept⟩ := @induction (scan.read test.1 val test.2).data
        { scan with client := (scan.read test.1 val test.2).client } (full.trans length.ge)
      rw [cases]
      exact ⟨found, html, kept.trans length⟩

/-- The log has room up to the first frame that comes back. -/
def Room (client : ModbusClient) (tests : List (Word × Exchange)) (length : Nat) : Prop :=
  length + 2 * unanswered client tests < frameLogSize

/-- The tests of a slave find it when it answers and the log has room. -/
structure SlaveScan.Reports (client : ModbusClient) (tests : List (Word × Exchange))
    (scan after : SlaveScan) : Prop where
  length : after.client.frameLog.length =
    filled scan.client.frameLog.length (entries client tests)
  finds : answered client tests = true → Room client tests scan.client.frameLog.length →
    after.found = scan.found + 1 ∧
      ∃ testReg lastFrame, after.html = scan.html ++ slaveLine scan.addr testReg lastFrame
  misses : ¬ (answered client tests = true ∧ Room client tests scan.client.frameLog.length) →
    after.found = scan.found ∧ after.html = scan.html

/-- A test without a frame comes first. -/
theorem SlaveScan.Reports.silent {test : Word × Exchange} {tests : List (Word × Exchange)}
    {scan after : SlaveScan} {logged : ModbusClient} (heard : ¬ client.hears test.2 = true)
    (length : logged.frameLog.length =
      filled scan.client.frameLog.length (if client.sends test.2 then 2 else 0))
    (reports : SlaveScan.Reports client tests { scan with client := logged } after) :
    scan.Reports client (test :: tests) after := by
  have kept : answered client (test :: tests) = answered client tests := by
    simp [answered, heard]
  have more : unanswered client (test :: tests) =
      (if client.sends test.2 then 1 else 0) + unanswered client tests := by
    rw [unanswered, List.takeWhile_cons_of_pos (by simpa using heard), List.countP_cons,
      Nat.add_comm]
    rfl
  have room : Room client tests logged.frameLog.length ↔
      Room client (test :: tests) scan.client.frameLog.length := by
    rw [Room, Room, length, more, filled]
    split <;> omega
  refine ⟨reports.length.trans ?_, ?_, ?_⟩
  · change filled logged.frameLog.length _ = _
    rw [length, filled_filled, entries, entries, kept, more]
    congr 1
    split <;> omega
  · rw [kept, ← room]
    exact reports.finds
  · rw [kept, ← room]
    exact reports.misses

theorem testSlave_spec (tests : List (Word × Exchange)) (val : Nat → Word) {scan : SlaveScan}
    (keeps : scan.Keeps client) : scan.Reports client tests (testSlave tests val scan) := by
  induction tests generalizing val scan with
  | nil => exact ⟨(filled_zero _).symm, fun none => by contradiction, fun _ => ⟨rfl, rfl⟩⟩
  | cons test tests induction =>
      have read := keeps.read test.1 val test.2
      have cases := testSlave_cons (Eq.refl (scan.read test.1 val test.2)) tests
      have length := scan.client.readWithRetry_once_frameLog scan.addr .holding test.1 val test.2
      rw [ModbusClient.hears_congr keeps.1 keeps.2] at cases
      rw [ModbusClient.sends_congr keeps.1] at length
      change (scan.read test.1 val test.2).client.frameLog.length = _ at length
      generalize scan.read test.1 val test.2 = once at read cases length
      by_cases heard : client.hears test.2 = true
      · have sent : client.sends test.2 = true := (Bool.and_eq_true _ _ |>.mp heard).1
        have first : answered client (test :: tests) = true := by simp [answered, heard]
        have none_before : unanswered client (test :: tests) = 0 := by simp [unanswered, heard]
        have two : entries client (test :: tests) = 2 := by rw [entries, first, none_before]; rfl
        have room : Room client (test :: tests) scan.client.frameLog.length ↔
            scan.client.frameLog.length < frameLogSize := by rw [Room, none_before]; rfl
        rw [if_pos sent, ← two] at length
        simp only [heard, true_and] at cases
        split at cases
        next space =>
            obtain ⟨lastFrame, after⟩ := cases
            rw [after]
            exact ⟨length, fun _ _ => ⟨rfl, _, _, rfl⟩,
              fun missed => absurd ⟨first, room.mpr space⟩ missed⟩
        next full =>
            have full := Nat.le_of_not_lt full
            have kept : once.client.frameLog.length = scan.client.frameLog.length :=
              length.trans (filled_of_full full _)
            obtain ⟨found, html, still⟩ := @testSlave_full tests once.data
              { scan with client := once.client } (full.trans kept.ge)
            rw [cases]
            exact ⟨still.trans length,
              fun _ space => absurd (room.mp space) (Nat.not_lt_of_le full),
              fun _ => ⟨found, html⟩⟩
      · rw [if_neg fun found => heard found.1] at cases
        rw [cases]
        exact .silent heard length (induction once.data read)

/-- Each slave that answers finds the log with room, when all slaves before it have added their
entries. -/
def RoomFor (client : ModbusClient) : List SlaveTurn → Nat → Prop
  | [], _ => True
  | turn :: turns, length =>
      (answered client turn.tests = true → Room client turn.tests length) ∧
        RoomFor client turns (length + entries client turn.tests)

theorem roomFor_filled (turns : List SlaveTurn) (length added : Nat) :
    RoomFor client turns (filled length added) ↔ RoomFor client turns (length + added) := by
  induction turns generalizing length added with
  | nil => exact Iff.rfl
  | cons turn turns induction =>
      have room : Room client turn.tests (filled length added) ↔
          Room client turn.tests (length + added) := by
        unfold Room filled
        omega
      -- both lengths are the same, or the log is full
      have later := (induction (filled length added) (entries client turn.tests)).symm
      rw [filled_filled, induction, ← Nat.add_assoc] at later
      rw [RoomFor, RoomFor, room, later]

/-- What the page says of the slaves after some turns. -/
structure Reported (client : ModbusClient) (probed : List (SlaveScan × SlaveTurn))
    (final : SlaveScan) : Prop where
  listed : ∀ probe ∈ probed, answered client probe.2.tests = true →
    ∃ testReg lastFrame, slaveLine probe.1.addr testReg lastFrame <:+: final.report
  counted : final.found = probed.countP fun probe => answered client probe.2.tests

/-- The lines of the page so far stay in it. -/
theorem SlaveScan.prefix_report (scan : SlaveScan) : scan.html <+: scan.report := by
  rw [report]
  split <;> simp only [List.append_assoc] <;> exact List.prefix_append _ _

/-- What some turns of the scan add. -/
structure Accounts (client : ModbusClient) (turns : List SlaveTurn) (heads : List SlaveScan)
    (scan final : SlaveScan) : Prop where
  kept : scan.html <+: final.html
  atMost : final.found ≤
    scan.found + (heads.zip turns).countP fun probe => answered client probe.2.tests
  exact_iff : RoomFor client turns scan.client.frameLog.length ↔ final.found =
    scan.found + (heads.zip turns).countP fun probe => answered client probe.2.tests
  listed : RoomFor client turns scan.client.frameLog.length → ∀ probe ∈ heads.zip turns,
    answered client probe.2.tests = true →
      ∃ testReg lastFrame, slaveLine probe.1.addr testReg lastFrame <:+: final.html

theorem Accounts.cons {turn : SlaveTurn} {turns : List SlaveTurn} {heads : List SlaveScan}
    {scan after final : SlaveScan} (reports : scan.Reports client turn.tests after)
    (accounts : Accounts client turns heads after final) :
    Accounts client (turn :: turns) (scan :: heads) scan final := by
  obtain ⟨kept, atMost, exact_iff, listed⟩ := accounts
  rw [reports.length, roomFor_filled] at exact_iff listed
  by_cases answers : answered client turn.tests = true
  · by_cases room : Room client turn.tests scan.client.frameLog.length
    · obtain ⟨found, testReg, lastFrame, html⟩ := reports.finds answers room
      rw [html] at kept
      rw [found] at atMost exact_iff
      refine ⟨(List.prefix_append _ _).trans kept, ?_, ?_, ?_⟩
      · rw [List.zip_cons_cons, List.countP_cons_of_pos (by exact answers)]
        omega
      · rw [List.zip_cons_cons, List.countP_cons_of_pos (by exact answers), RoomFor,
          and_iff_right fun _ => room, exact_iff]
        omega
      · rintro ⟨-, later⟩ probe member answered
        rcases List.mem_cons.mp member with rfl | member
        · exact ⟨testReg, lastFrame, (List.suffix_append _ _).isInfix.trans kept.isInfix⟩
        · exact listed later probe member answered
    · obtain ⟨found, html⟩ := reports.misses fun both => room both.2
      rw [html] at kept
      rw [found] at atMost exact_iff
      have missed : ¬ RoomFor client (turn :: turns) scan.client.frameLog.length :=
        fun all => room (all.1 answers)
      refine ⟨kept, ?_, iff_of_false missed ?_, fun all => absurd all missed⟩ <;>
        rw [List.zip_cons_cons, List.countP_cons_of_pos (by exact answers)] <;> omega
  · obtain ⟨found, html⟩ := reports.misses fun both => answers both.1
    rw [html] at kept
    rw [found] at atMost exact_iff
    refine ⟨kept, ?_, ?_, ?_⟩
    · rwa [List.zip_cons_cons, List.countP_cons_of_neg (by exact answers)]
    · rwa [List.zip_cons_cons, List.countP_cons_of_neg (by exact answers), RoomFor,
        and_iff_right fun answer => absurd answer answers]
    · rintro ⟨-, later⟩ probe member answered
      rcases List.mem_cons.mp member with rfl | member
      · exact absurd answered answers
      · exact listed later probe member answered

theorem path_accounts {turns : List SlaveTurn} {scan final : SlaveScan} {heads : List SlaveScan}
    (keeps : scan.Keeps client)
    (runs : (scanSlaves lib doc client).path scan turns = some (heads, final)) :
    Accounts client turns heads scan final := by
  induction turns generalizing scan heads with
  | nil =>
      obtain ⟨rfl, rfl⟩ := Prod.mk.inj (Option.some.inj runs)
      exact ⟨List.prefix_rfl, le_refl _, by simp [RoomFor],
        fun _ _ listed => absurd listed List.not_mem_nil⟩
  | cons turn turns induction =>
      rw [StepSystem.path] at runs
      split at runs
      next after moves =>
          obtain ⟨⟨later, last⟩, rest, same⟩ := Option.map_eq_some_iff.mp runs
          obtain ⟨rfl, rfl⟩ := Prod.mk.inj same
          obtain ⟨-, same⟩ := Option.ite_none_right_eq_some.mp moves
          obtain ⟨length, finds, misses⟩ :=
            testSlave_spec turn.tests (fun _ => turn.val) keeps
          have kept : after.Keeps client :=
            Option.some.inj same ▸ testSlave_keeps turn.tests (fun _ => turn.val) keeps
          have reports : scan.Reports client turn.tests after :=
            Option.some.inj same ▸ ⟨length, finds, misses⟩
          exact .cons reports (induction kept rest)
      next => contradiction

/-- The page lists and counts every slave that answers, if and only if each of them finds the frame
log with room. -/
theorem scan_slaves_reports_iff (lib : ArduinoJson) (doc : Json) (client : ModbusClient)
    (below : lastSlave lib doc ≠ 255) :
    (scanSlaves lib doc client).Completes (fun scan => scan.addr.toBitVec)
        (lastSlave lib doc).toBitVec ∧
      ∀ turns heads final, (scanSlaves lib doc client).path (scanSlaves lib doc client).start
          turns = some (heads, final) →
        (Reported client (heads.zip turns) final ↔
          RoomFor client turns client.frameLog.length) := by
  have silent := SerialClient.silent
  refine ⟨((scanSlaves_counts lib doc client).completes_iff ⟨0, silent, silent, silent⟩).mpr
    fun top => below (UInt8.toBitVec_inj.mp top), fun turns heads final runs => ?_⟩
  have keeps : (scanSlaves lib doc client).start.Keeps client := ⟨rfl, rfl⟩
  obtain ⟨-, -, exact_iff, listed⟩ := path_accounts lib doc keeps runs
  change RoomFor client turns client.frameLog.length ↔ final.found = 0 + _ at exact_iff
  rw [Nat.zero_add] at exact_iff
  constructor
  · exact fun reported => exact_iff.mpr reported.counted
  · intro room
    refine ⟨fun probe member answers => ?_, exact_iff.mp room⟩
    obtain ⟨testReg, lastFrame, line⟩ := listed room probe member answers
    exact ⟨testReg, lastFrame, line.trans final.prefix_report.isInfix⟩

/-- A slave that answers the second test. -/
def lateSlave (slaveId : UInt8) : SlaveTurn where
  val := 0
  first := SerialClient.silent
  second := .prompt (withCRC [slaveId, 3, 2, 0, 42])
  third := SerialClient.silent

/-- No slave. -/
def noSlave : SlaveTurn := ⟨0, SerialClient.silent, SerialClient.silent, SerialClient.silent⟩

/-- A scan of `noSlave` and `lateSlave` with eight entries in the log. -/
theorem scan_slaves_reports_one :
    let doc : Json := .object [(ascii "action", .string (ascii "scan_slaves")),
      (ascii "start", .integer 1), (ascii "end", .integer 2)]
    let client : ModbusClient :=
      ⟨true, 1000, List.replicate 8 ⟨0, true, 1, 3, 0, 1, true, 0, [], 0⟩⟩
    ∃ heads final, (scanSlaves (flatJson []) doc client).path
        (scanSlaves (flatJson []) doc client).start [noSlave, lateSlave 2] = some (heads, final) ∧
      Reported client (heads.zip [noSlave, lateSlave 2]) final ∧ final.found = 1 := by
  intro doc client
  have tested : ((scanSlaves (flatJson []) doc client).path
      (scanSlaves (flatJson []) doc client).start [noSlave, lateSlave 2]).any
        (fun last => last.2.found = 1) = true := by decide +kernel
  obtain ⟨⟨heads, final⟩, runs, one⟩ := (Option.any_eq_true ..).mp tested
  have below : lastSlave (flatJson []) doc ≠ 255 := by decide +kernel
  have reported := ((scan_slaves_reports_iff (flatJson []) doc client below).2 _ heads final
    runs).mpr ⟨fun answers => absurd answers (by decide +kernel),
      fun _ => by unfold Room; decide +kernel, trivial⟩
  exact ⟨heads, final, runs, reported, of_decide_eq_true one⟩

/-- A slave that answers, scanned when the log is full. The page says that there is none. -/
theorem scan_slaves_overlooked :
    let body := ascii "\x7b\"action\":\"scan_slaves\",\"start\":1,\"end\":1\x7d"
    let doc : Json := .object [(ascii "action", .string (ascii "scan_slaves")),
      (ascii "start", .integer 1), (ascii "end", .integer 1)]
    let lib := flatJson [(body, doc)]
    let client : ModbusClient :=
      ⟨true, 1000, List.replicate 100 ⟨0, true, 1, 3, 0, 1, true, 0, [], 0⟩⟩
    lib.deserializeJson body = .ok doc ∧ answered client (lateSlave 1).tests = true ∧
      ∃ heads final, (scanSlaves lib doc client).path (scanSlaves lib doc client).start
          [lateSlave 1] = some (heads, final) ∧
        (∀ turn, (scanSlaves lib doc client).next final turn = none) ∧ final.found = 0 ∧
        ¬ Reported client (heads.zip [lateSlave 1]) final := by
  intro body doc lib client
  have tested : ((scanSlaves lib doc client).path (scanSlaves lib doc client).start
      [lateSlave 1]).any
        (fun last => last.2.found = 0 ∧ last.1.length = 1 ∧ ¬ last.2.addr ≤ lastSlave lib doc) =
          true := by
    decide +kernel
  obtain ⟨⟨heads, final⟩, runs, facts⟩ := (Option.any_eq_true ..).mp tested
  obtain ⟨none_found, one, behind⟩ := of_decide_eq_true facts
  have answers : answered client (lateSlave 1).tests = true := by decide +kernel
  refine ⟨by simp [lib, flatJson], answers, heads, final, runs, fun turn => if_neg behind,
    none_found, fun reported => ?_⟩
  obtain ⟨head, rfl⟩ := List.length_eq_one_iff.mp one
  have counted := reported.counted
  rw [List.zip_cons_cons, List.countP_cons_of_pos (by exact answers), none_found] at counted
  exact Nat.succ_ne_zero _ counted.symm

end Diagnostics

end ModbusBridge
