import ModbusBridge.Library.ShiftRegister
import ModbusBridge.Text

/-!
# The Modbus client

A read-only Modbus RTU master. One transaction builds a request frame, sends it, collects a reply
until the bus falls silent, and parses it; `readWithRetry` repeats transactions until one succeeds.
What the bus and the clock do in a transaction is an `Exchange`.
-/

namespace ModbusBridge

/-! ## Words -/

/-- `uint16_t`. -/
abbrev Word := BitVec 16

/-- `(high << 8) | low`. -/
def word (high low : UInt8) : Word :=
  (high.toBitVec.setWidth 16 <<< 8) ||| low.toBitVec.setWidth 16

/-- `(value >> 8) & 0xFF`. -/
def highByte (value : Word) : UInt8 := .ofBitVec ((value >>> 8).setWidth 8)

/-- `value & 0xFF`. -/
def lowByte (value : Word) : UInt8 := .ofBitVec (value.setWidth 8)

/-! ## Frames -/

/-- `FC_READ_HOLDING_REGISTERS`. -/
def fcReadHoldingRegisters : UInt8 := 0x03

/-- `FC_READ_INPUT_REGISTERS`. -/
def fcReadInputRegisters : UInt8 := 0x04

/-- `calculateCRC`: for each byte, the inner loop shifts the register eight times. -/
def calculateCRC (data : Bytes) : Word := ShiftRegister.run 0xA001 0xFFFF data

/-- `validateCRC`. -/
def validateCRC (frame : Bytes) : Bool :=
  if frame.length < 3 then false
  else
    let receivedCRC := word (frame.getD (frame.length - 1) 0) (frame.getD (frame.length - 2) 0)
    receivedCRC == calculateCRC (frame.take (frame.length - 2))

/-- `buildReadFrame`. A refused function code gives no frame. -/
def buildReadFrame (slaveId function : UInt8) (startAddr count : Word) : Bytes :=
  if function ≠ fcReadHoldingRegisters ∧ function ≠ fcReadInputRegisters then []
  else
    let frame := [slaveId, function, highByte startAddr, lowByte startAddr, highByte count,
      lowByte count]
    let crc := calculateCRC frame
    frame ++ [lowByte crc, highByte crc]

/-- The registers behind the header of a reply, written over the first `count` words. -/
def decodeWords (response : Bytes) (count : Nat) (data : Nat → Word) : Nat → Word :=
  fun i => if i < count then word (response.getD (3 + i * 2) 0) (response.getD (3 + i * 2 + 1) 0)
    else data i

/-- `parseReadResponse`: whether the reply is taken, and the caller's array. -/
def parseReadResponse (response : Bytes) (expectedCount : Word) (data : Nat → Word) :
    Bool × (Nat → Word) :=
  if response.length < 5 then (false, data)
  else if response.getD 1 0 &&& 0x80 ≠ 0 then
    -- exception response
    (false, data)
  else
    let byteCount := response.getD 2 0
    let expectedBytes := expectedCount * 2
    if byteCount.toBitVec.setWidth 16 ≠ expectedBytes then (false, data)
    else if response.length < 3 + byteCount.toNat + 2 then (false, data)
    else (true, decodeWords response expectedCount.toNat data)

/-! ## The frame log -/

/-- `ModbusFrameLog`. -/
structure ModbusFrameLog where
  timestamp : UInt32
  isTx : Bool
  slaveId : UInt8
  functionCode : UInt8
  startAddr : Word
  count : Word
  success : Bool
  exceptionCode : UInt8
  hexDump : Bytes
  responseTimeMs : UInt32
  deriving DecidableEq

/-- `FRAME_LOG_SIZE`. -/
def frameLogSize : Nat := 100

/-- One digit of `%02X`. -/
def hexDigit (value : UInt8) : UInt8 := if value < 10 then 48 + value else 55 + value

/-- `bytesToHex`. -/
def bytesToHex (data : Bytes) : Bytes :=
  (data.map fun byte => [hexDigit (byte / 16), hexDigit (byte % 16)]).intersperse [32] |>.flatten

/-- The part of the client that a read looks at or changes. -/
structure ModbusClient where
  initialized : Bool
  responseTimeout : UInt32
  /-- Oldest entry first. -/
  frameLog : List ModbusFrameLog

/-- `logFrame`: the oldest entry goes when the log is full. -/
def ModbusClient.logFrame (client : ModbusClient) (entry : ModbusFrameLog) : ModbusClient :=
  let kept :=
    if client.frameLog.length ≥ frameLogSize then client.frameLog.drop 1 else client.frameLog
  { client with frameLog := kept ++ [entry] }

/-! ## One transaction -/

/-- One turn of the receive loop. -/
structure Tick where
  /-- `millis()` in the loop condition. -/
  now : UInt32
  /-- The byte that `serial->read()` returns, if one is available. -/
  byte : Option UInt8
  /-- `millis()` after that, in the same turn. -/
  later : UInt32
  deriving DecidableEq

/-- What the bus and the clock do in one transaction. -/
structure Exchange where
  /-- `millis()` before the request is sent. -/
  txTime : UInt32
  /-- Bytes that `serial->write` takes. -/
  written : Nat
  /-- `millis()` before the reply is received. -/
  rxTime : UInt32
  /-- `millis()` at the start of `receiveFrame`. -/
  startTime : UInt32
  /-- The turns of the receive loop until its condition fails. -/
  ticks : List Tick
  /-- The two calls of `millis()` that log a missing reply. -/
  failTime : UInt32
  failTime' : UInt32
  deriving DecidableEq

/-- The buffer of `readOnce`. -/
def maxResponse : Nat := 256

/-- The loop of `receiveFrame`: the bytes collected until the bus falls silent or the time is up.
There is no result when the buffer overflows. -/
def receiveLoop (timeout startTime : UInt32) : List Tick → UInt32 → Bytes → Option Bytes
  | [], _, buffer => some buffer
  | tick :: ticks, lastByteTime, buffer =>
      if tick.now - startTime < timeout then
        match tick.byte with
        | some byte =>
            if buffer.length ≥ maxResponse then none
            else receiveLoop timeout startTime ticks tick.later (buffer ++ [byte])
        | none =>
            if buffer.length > 0 ∧ tick.later - lastByteTime > 10 then some buffer
            else receiveLoop timeout startTime ticks lastByteTime buffer
      else some buffer

namespace ModbusClient

/-- What the bus delivers to the receive loop. -/
def delivered (client : ModbusClient) (bus : Exchange) : Option Bytes :=
  receiveLoop client.responseTimeout bus.startTime bus.ticks bus.startTime []

/-- `sendFrame`. -/
def sendFrame (client : ModbusClient) (frame : Bytes) (written : Nat) : Bool :=
  if !client.initialized then false
  else if frame.length = 0 then false
  else written = frame.length

/-- `receiveFrame`: the frame, when the source returns true. -/
def receiveFrame (client : ModbusClient) (bus : Exchange) : Option Bytes :=
  if !client.initialized then none
  else
    match client.delivered bus with
    | none => none
    | some buffer =>
        if buffer.length < 5 then none
        else if !validateCRC buffer then none
        else some buffer

end ModbusClient

/-- What a read leaves behind. -/
structure ReadResult where
  success : Bool
  client : ModbusClient
  /-- The caller's array. -/
  data : Nat → Word
  /-- The frames given to `serial->write`, first to last. -/
  sent : List Bytes
  /-- The frame that the data of a successful read come from. -/
  accepted : Option Bytes

namespace ModbusClient

/-- `readOnce`. -/
def readOnce (client : ModbusClient) (slaveId function : UInt8) (startAddr count : Word)
    (data : Nat → Word) (bus : Exchange) : ReadResult :=
  let frame := buildReadFrame slaveId function startAddr count
  let sent := if client.initialized ∧ frame.length > 0 then [frame] else []
  if frame.length > 0 ∧ client.sendFrame frame bus.written then
    let txLog : ModbusFrameLog :=
      { timestamp := bus.txTime, isTx := true, slaveId, functionCode := function, startAddr, count
        success := true, exceptionCode := 0, hexDump := bytesToHex frame, responseTimeMs := 0 }
    let client := client.logFrame txLog
    match client.receiveFrame bus with
    | some response =>
        let parsed := parseReadResponse response count data
        let exception : Bool := response.length ≥ 3 ∧ response.getD 1 0 &&& 0x80 ≠ 0
        let success := parsed.1 && !exception
        let rxLog : ModbusFrameLog :=
          { timestamp := bus.rxTime, isTx := false, slaveId, functionCode := function, startAddr
            count, success, exceptionCode := if exception then response.getD 2 0 else 0
            hexDump := bytesToHex response, responseTimeMs := bus.rxTime - bus.txTime }
        { success, client := client.logFrame rxLog, data := parsed.2, sent
          accepted := if success then some response else none }
    | none =>
        let rxLog : ModbusFrameLog :=
          { timestamp := bus.failTime, isTx := false, slaveId, functionCode := function, startAddr
            count, success := false, exceptionCode := 0, hexDump := ascii "TIMEOUT"
            responseTimeMs := bus.failTime' - bus.txTime }
        { success := false, client := client.logFrame rxLog, data, sent, accepted := none }
  else { success := false, client, data, sent, accepted := none }

/-- The loop of `readWithRetry`, with `left` attempts to go. -/
def attempts (client : ModbusClient) (slaveId function : UInt8) (startAddr count : Word)
    (data : Nat → Word) (bus : Nat → Exchange) (attempt : Nat) : Nat → ReadResult
  | 0 => { success := false, client, data, sent := [], accepted := none }
  | left + 1 =>
      let result := client.readOnce slaveId function startAddr count data (bus attempt)
      if result.success then result
      else
        let rest := attempts result.client slaveId function startAddr count result.data bus
          (attempt + 1) left
        { rest with sent := result.sent ++ rest.sent }

/-- `readWithRetry`. The bus gives one exchange to each attempt. -/
def readWithRetry (client : ModbusClient) (slaveId function : UInt8) (startAddr count : Word)
    (data : Nat → Word) (maxAttempts : UInt8) (bus : Nat → Exchange) : ReadResult :=
  if !client.initialized ∨ count = 0 ∨ count > 125 then
    { success := false, client, data, sent := [], accepted := none }
  else
    let maxAttempts := if maxAttempts < 1 then 1 else maxAttempts
    let maxAttempts := if maxAttempts > 10 then 10 else maxAttempts
    client.attempts slaveId function startAddr count data bus 0 maxAttempts.toNat

/-- `readHoldingRegisters`. -/
def readHoldingRegisters (client : ModbusClient) (slaveId : UInt8) (startAddr count : Word)
    (data : Nat → Word) (maxAttempts : UInt8) (bus : Nat → Exchange) : ReadResult :=
  client.readWithRetry slaveId fcReadHoldingRegisters startAddr count data maxAttempts bus

/-- `readInputRegisters`. -/
def readInputRegisters (client : ModbusClient) (slaveId : UInt8) (startAddr count : Word)
    (data : Nat → Word) (maxAttempts : UInt8) (bus : Nat → Exchange) : ReadResult :=
  client.readWithRetry slaveId fcReadInputRegisters startAddr count data maxAttempts bus

end ModbusClient

/-! ## Hardware checks -/

/-- The part of the Modbus client that the hardware checks look at. -/
structure Transceiver where
  initialized : Bool
  dePin : Int

/-- `isMAX485Connected`. -/
def Transceiver.isMAX485Connected (transceiver : Transceiver) : Bool :=
  if !transceiver.initialized ∨ transceiver.dePin < 0 then false else true

/-- `testConnection`. -/
def Transceiver.testConnection (transceiver : Transceiver) : Bool :=
  if !transceiver.initialized then false
  else if !transceiver.isMAX485Connected then false
  else true

end ModbusBridge
