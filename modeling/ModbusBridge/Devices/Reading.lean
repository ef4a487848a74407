import ModbusBridge.Configuration.Config
import ModbusBridge.Devices.GenericModbusDevice
import ModbusBridge.Devices.InverterInterface

/-!
# Reading a described device

A device reads its registers in two phases, basic and storage. A look at a word that the read did
not return has no result at all, so that a phase with a result has looked at returned words only.
-/

namespace ModbusBridge

/-- What a phase meets. Its entries are counted from 0. -/
structure PhaseInput where
  /-- `millis()` at the beginning, and when an entry checks the budget. -/
  startMs : UInt32
  nowMs : Nat → UInt32
  /-- The words that the Modbus client stores for an entry, if it reads them. -/
  reads : Nat → ReadRequest → Option (Nat → Word)

/-- `GenericModbusDevice`. -/
structure GenericModbusDevice where
  jsonFilePath : Bytes
  slaveAddr : UInt8
  initialized : Bool
  schemaVersion : Int
  registers : List RegisterDef
  groups : List RegisterGroup
  deviceName : Bytes
  deviceId : Bytes

namespace GenericModbusDevice

variable (single : SinglePrecision)

/-! ## Fields -/

/-- `decodeValue`: the value and the raw value, for a known type. -/
def decodeValue (words : List Word) (field : Field) : Option (Option (single.Float × UInt32)) :=
  let scaled := fun value => single.mul (single.ofInt value) (single.asFloat field.scale)
  if field.type = ascii "uint16" then
    words[0]?.map fun word => some (scaled word.toNat, .ofBitVec (word.setWidth 32))
  else if field.type = ascii "int16" then
    words[0]?.map fun word => some (scaled word.toInt, .ofBitVec (word.setWidth 32))
  else if field.type = ascii "uint32" then
    words[0]?.bind fun high => words[1]?.map fun low =>
      let value := doubleWord high low
      some (scaled value.toNat, .ofBitVec value)
  else if field.type = ascii "int32" then
    words[0]?.bind fun high => words[1]?.map fun low =>
      let value := doubleWord high low
      some (scaled value.toInt, .ofBitVec value)
  else some none

/-- The raw value is the `nan_value` of the field. -/
def isNan (field : Field) (raw : UInt32) : Bool :=
  match field.nanSentinel with
  | none => false
  | some nanSentinel =>
      let mask : UInt32 := if wordSize field.type = 1 then 0xFFFF else 0xFFFFFFFF
      raw &&& mask == nanSentinel &&& mask

/-- The point of one bit entry. -/
def emitBit (word : Word) (bit : BitField) : TelemetryPoint :=
  ⟨bit.name, [], decimal ((word &&& bit.mask) >>> bit.shift.toNat).toNat⟩

/-- `emitField`: the points that it adds. -/
def emitField (words : List Word) (field : Field) : Option (List TelemetryPoint) :=
  (decodeValue single words field).bind fun
    | none => some []
    | some (value, raw) =>
        if isNan field raw then some []
        else if field.bits = [] then some [⟨field.name, field.unit, single.text value 2⟩]
        else words[0]?.map fun word => field.bits.map (emitBit word)

/-! ## Entries -/

/-- The request of a function code, if it is one of the two. -/
def request (slaveAddr fc : UInt8) (startAddr count : Word) : Option ReadRequest :=
  if fc = 3 then some ⟨slaveAddr, fcReadHoldingRegisters, startAddr, count⟩
  else if fc = 4 then some ⟨slaveAddr, fcReadInputRegisters, startAddr, count⟩
  else none

/-- What the read of an entry comes to. -/
structure EntryRead where
  succeeded : Bool
  requests : List ReadRequest
  points : List TelemetryPoint

/-- The frame of `readFlatRegister` and `readGroup`: issue the request, and emit the words that it
returns. -/
def readEntry (reads : ReadRequest → Option (Nat → Word)) (issued : Option ReadRequest)
    (emit : List Word → Option (List TelemetryPoint)) : Option EntryRead :=
  match issued with
  | none => some ⟨false, [], []⟩
  | some request =>
      match reads request with
      | none => some ⟨false, [request], []⟩
      | some data =>
          (emit ((List.range request.count.toNat).map data)).map fun points =>
            ⟨true, [request], points⟩

/-- `readFlatRegister`. -/
def readFlatRegister (device : GenericModbusDevice) (reads : ReadRequest → Option (Nat → Word))
    (reg : RegisterDef) : Option EntryRead :=
  let count := BitVec.ofNat 16 (wordSize reg.field.type)
  readEntry reads (request device.slaveAddr reg.fc reg.addr count) fun data =>
    emitField single data reg.field

/-- `readGroup`. -/
def readGroup (device : GenericModbusDevice) (reads : ReadRequest → Option (Nat → Word))
    (grp : RegisterGroup) : Option EntryRead :=
  let count := grp.count.toBitVec.setWidth 16
  readEntry reads (request device.slaveAddr grp.fc grp.startAddr count) fun buf =>
    (grp.fields.mapM fun field => emitField single (buf.drop field.offset.toNat) field).map
      List.flatten

/-! ## Phases -/

/-- `pollBudgetMs`. -/
def pollBudgetMs (lib : ArduinoJson) (config : Config) : UInt32 :=
  let pollSec := config.getInt lib (ascii "poll_interval_sec") 10
  let pollSec := if pollSec < 1 then 1 else pollSec
  let budget := UInt32.ofBitVec (.ofInt 32 pollSec) * 500
  let budget := if budget > 5000 then 5000 else budget
  if budget < 500 then 500 else budget

/-- The variables of `readPhase`, with the requests that have been issued. -/
structure Phase where
  requests : List ReadRequest
  out : List TelemetryPoint
  flatOk : Nat
  flatFail : Nat
  flatBudgetSkip : Nat
  groupOk : Nat
  groupFail : Nat
  groupBudgetSkip : Nat
  budgetTripped : Bool

namespace Phase

/-- The phase before its first entry. -/
def initial : Phase := ⟨[], [], 0, 0, 0, 0, 0, 0, false⟩

/-- The number of entries so far. -/
def visited (phase : Phase) : Nat :=
  phase.flatOk + phase.flatFail + phase.flatBudgetSkip +
    (phase.groupOk + phase.groupFail + phase.groupBudgetSkip)

/-- `budgetExpired`. -/
def budgetExpired (phase : Phase) (budget : UInt32) (input : PhaseInput) : Bool :=
  phase.budgetTripped || input.nowMs phase.visited - input.startMs > budget

/-- The points of an entry are added. -/
def take (phase : Phase) (read : EntryRead) : Phase :=
  { phase with requests := phase.requests ++ read.requests, out := phase.out ++ read.points }

end Phase

variable (device : GenericModbusDevice) (budget : UInt32) (storagePhase : Bool)
  (input : PhaseInput)

/-- One turn of the loop over the registers. -/
def visitRegister (phase : Phase) (reg : RegisterDef) : Option Phase :=
  if reg.isStorage != storagePhase then some phase
  else if phase.budgetExpired budget input then
    some { phase with budgetTripped := true, flatBudgetSkip := phase.flatBudgetSkip + 1 }
  else
    (readFlatRegister single device (input.reads phase.visited) reg).map fun read =>
      if read.succeeded then { phase.take read with flatOk := phase.flatOk + 1 }
      else { phase.take read with flatFail := phase.flatFail + 1 }

/-- One turn of the loop over the groups. -/
def visitGroup (phase : Phase) (grp : RegisterGroup) : Option Phase :=
  if grp.isStorage != storagePhase then some phase
  else if phase.budgetExpired budget input then
    some { phase with budgetTripped := true, groupBudgetSkip := phase.groupBudgetSkip + 1 }
  else
    (readGroup single device (input.reads phase.visited) grp).map fun read =>
      if read.succeeded then { phase.take read with groupOk := phase.groupOk + 1 }
      else { phase.take read with groupFail := phase.groupFail + 1 }

/-- What `readPhase`, `readBasic` and `readStorage` return. -/
structure Reading where
  succeeded : Bool
  requests : List ReadRequest
  points : List TelemetryPoint

/-- `readPhase`. -/
def readPhase : Option Reading :=
  (device.registers.foldlM (visitRegister single device budget storagePhase input)
    Phase.initial).bind fun phase =>
      (device.groups.foldlM (visitGroup single device budget storagePhase input) phase).map
        fun phase => ⟨phase.flatOk + phase.groupOk > 0, phase.requests, phase.out⟩

variable (lib : ArduinoJson) (config : Config)

/-- `readBasic`. -/
def readBasic : Option Reading :=
  if !device.initialized then some ⟨false, [], []⟩
  else readPhase single device (pollBudgetMs lib config) false input

/-- `readStorage`. -/
def readStorage : Option Reading :=
  if !device.initialized then some ⟨false, [], []⟩
  else readPhase single device (pollBudgetMs lib config) true input

/-! ## Loading -/

/-- The constructor. -/
def create (jsonFile : Bytes) : GenericModbusDevice where
  jsonFilePath := jsonFile
  slaveAddr := toByte (config.getInt lib (ascii "rtu_addr") 1)
  initialized := false
  schemaVersion := 1
  registers := []
  groups := []
  deviceName := []
  deviceId := []

/-- `loadJSON`: the device, when the source returns true. The file may fail to open. -/
def loadJSON (fs : LittleFS) (opens : Bool) : Option GenericModbusDevice :=
  match fs.files device.jsonFilePath with
  | none => none
  | some content =>
      if !opens then none
      else if content.length > maxJSONFileBytes then none
      else
        match lib.deserializeJson content with
        | .error _ => none
        | .ok doc =>
            match parseDoc lib doc with
            | .error _ => none
            | .ok declarations =>
                if declarations.registers = [] ∧ declarations.groups = [] then none
                else
                  some { device with
                    deviceId := (doc.member (ascii "device_id")).stringOr (ascii "unknown")
                    deviceName := (doc.member (ascii "name")).stringOr (ascii "Unknown Device")
                    schemaVersion := declarations.schemaVersion
                    registers := declarations.registers
                    groups := declarations.groups }

/-- `begin`. -/
def begin (fs : LittleFS) (opens : Bool) : Option GenericModbusDevice :=
  if device.initialized then some device
  else (loadJSON device lib fs opens).map fun loaded => { loaded with initialized := true }

end GenericModbusDevice

end ModbusBridge
