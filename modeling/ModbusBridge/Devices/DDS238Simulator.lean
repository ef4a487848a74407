import ModbusBridge.Configuration.Config
import ModbusBridge.Devices.GenericModbusDevice
import ModbusBridge.Devices.InverterInterface

/-!
# The DDS238 simulator

The driver reads all registers at once if it can, and else in blocks that it decodes on its own.
-/

namespace ModbusBridge

open GenericModbusDevice (decimalInt toByte)

/-! ## Meters -/

/-- A meter at the other end: its registers, and the requests that fail. No driver makes a request
twice in a call. -/
structure Meter where
  image : Word → Word
  fails : ReadRequest → Bool

/-- The request for that many holding registers. -/
def holdingRegisters (slaveAddr : UInt8) (address : Word) (count : Nat) : ReadRequest :=
  ⟨slaveAddr, 3, address, BitVec.ofNat 16 count⟩

/-- `readHoldingRegisters`: the block that is read. -/
def Meter.readHoldingRegisters (meter : Meter) (slaveAddr : UInt8) (address : Word)
    (count : Nat) : Option (Fin count → Word) :=
  if meter.fails (holdingRegisters slaveAddr address count) then none
  else some fun i => meter.image (address + BitVec.ofNat 16 i)

/-- `TelemetryPoint` with the value that its text is made of. -/
structure MeterPoint extends TelemetryPoint where
  raw : Int

/-- A point for a scaled value. The scale is `1 / 10 ^ scale`. -/
def scaledPoint (float : SinglePrecision) (name unit : Bytes) (raw : Int) (scale decimals : Nat) :
    MeterPoint where
  name := name
  unit := unit
  value := float.text (float.mul (float.ofInt raw) (float.literal 1 scale)) decimals
  raw := raw

/-- A point for a value as it is. -/
def wholePoint (name unit : Bytes) (raw : Int) : MeterPoint where
  name := name
  unit := unit
  value := decimalInt raw
  raw := raw

/-- `if (valid) out.push_back(point)`. -/
def push (out : List MeterPoint) (valid : Bool) (point : MeterPoint) : List MeterPoint :=
  if valid then out ++ [point] else out

/-! ## The driver -/

/-- `DDS238Simulator`. -/
structure DDS238Simulator where
  slaveAddr : UInt8

namespace DDS238Simulator

/-- The constructor. -/
def create (lib : ArduinoJson) (config : Config) : DDS238Simulator :=
  ⟨toByte (config.getInt lib (ascii "rtu_addr") 20)⟩

/-- `combine32BitValue`. -/
def combine32BitValue (low high : Word) : BitVec 32 := doubleWord high low

/-- `isValidRegisterValue`. -/
def isValidRegisterValue (value : Word) : Bool := value != 0xFFFF && value != 0x8000

/-- `isValidRegisterValue32`. -/
def isValidRegisterValue32 (value : BitVec 32) : Bool :=
  value != 0xFFFFFFFF && value != 0x80000000

variable (float : SinglePrecision)

/-- `parseEnergyFromBlock`. -/
def parseEnergyFromBlock (block : Fin 12 → Word) (out : List MeterPoint) : List MeterPoint :=
  let totalEnergy := combine32BitValue (block 0) (block 1)
  let out := push out (isValidRegisterValue32 totalEnergy)
    (scaledPoint float (ascii "total_energy") (ascii "kWh") totalEnergy.toNat 2 2)
  let exportEnergy := combine32BitValue (block 8) (block 9)
  let out := push out (isValidRegisterValue32 exportEnergy)
    (scaledPoint float (ascii "export_energy") (ascii "kWh") exportEnergy.toNat 2 2)
  let importEnergy := combine32BitValue (block 10) (block 11)
  push out (isValidRegisterValue32 importEnergy)
    (scaledPoint float (ascii "import_energy") (ascii "kWh") importEnergy.toNat 2 2)

/-- `parseInstantaneousFromBlock`. -/
def parseInstantaneousFromBlock (block : Fin 6 → Word) (out : List MeterPoint) :
    List MeterPoint :=
  let voltageRaw := block 0
  let out := push out (isValidRegisterValue voltageRaw)
    (scaledPoint float (ascii "voltage") (ascii "V") voltageRaw.toNat 1 1)
  let currentRaw := block 1
  let out := push out (isValidRegisterValue currentRaw)
    (scaledPoint float (ascii "current") (ascii "A") currentRaw.toNat 2 2)
  let activePower := block 2
  let out := push out (activePower != 0x8000)
    (wholePoint (ascii "active_power") (ascii "W") activePower.toInt)
  let reactivePower := block 3
  let out := push out (reactivePower != 0x8000)
    (wholePoint (ascii "reactive_power") (ascii "VAR") reactivePower.toInt)
  let powerFactorRaw := block 4
  let out := push out (isValidRegisterValue powerFactorRaw)
    (scaledPoint float (ascii "power_factor") [] powerFactorRaw.toNat 3 3)
  let frequencyRaw := block 5
  push out (isValidRegisterValue frequencyRaw)
    (scaledPoint float (ascii "frequency") (ascii "Hz") frequencyRaw.toNat 2 2)

variable (simulator : DDS238Simulator) (meter : Meter)

/-- `readEnergyRegisters`: its result and the points. -/
def readEnergyRegisters (out : List MeterPoint) : Bool × List MeterPoint :=
  match meter.readHoldingRegisters simulator.slaveAddr 0x0000 12 with
  | some energyBlock =>
      let totalEnergy := combine32BitValue (energyBlock 0) (energyBlock 1)
      let out := push out (isValidRegisterValue32 totalEnergy)
        (scaledPoint float (ascii "total_energy") (ascii "kWh") totalEnergy.toNat 2 2)
      let exportEnergy := combine32BitValue (energyBlock 8) (energyBlock 9)
      let out := push out (isValidRegisterValue32 exportEnergy)
        (scaledPoint float (ascii "export_energy") (ascii "kWh") exportEnergy.toNat 2 2)
      let importEnergy := combine32BitValue (energyBlock 10) (energyBlock 11)
      let out := push out (isValidRegisterValue32 importEnergy)
        (scaledPoint float (ascii "import_energy") (ascii "kWh") importEnergy.toNat 2 2)
      (true, out)
  | none =>
      let out :=
        match meter.readHoldingRegisters simulator.slaveAddr 0x0000 2 with
        | some totalEnergyRegs =>
            let totalEnergy := combine32BitValue (totalEnergyRegs 0) (totalEnergyRegs 1)
            push out (isValidRegisterValue32 totalEnergy)
              (scaledPoint float (ascii "total_energy") (ascii "kWh") totalEnergy.toNat 2 2)
        | none => out
      (out.length > 0, out)

/-- `readInstantaneousRegisters`: its result and the points. -/
def readInstantaneousRegisters (out : List MeterPoint) : Bool × List MeterPoint :=
  match meter.readHoldingRegisters simulator.slaveAddr 0x000C 6 with
  | some instantaneous =>
      let voltageRaw := instantaneous 0
      let out := push out (isValidRegisterValue voltageRaw)
        (scaledPoint float (ascii "voltage") (ascii "V") voltageRaw.toNat 1 1)
      let currentRaw := instantaneous 1
      let out := push out (isValidRegisterValue currentRaw)
        (scaledPoint float (ascii "current") (ascii "A") currentRaw.toNat 2 2)
      let activePower := instantaneous 2
      let out := push out (activePower != 0x8000)
        (wholePoint (ascii "active_power") (ascii "W") activePower.toInt)
      let reactivePower := instantaneous 3
      let out := push out (reactivePower != 0x8000)
        (wholePoint (ascii "reactive_power") (ascii "VAR") reactivePower.toInt)
      let powerFactorRaw := instantaneous 4
      let out := push out (isValidRegisterValue powerFactorRaw)
        (scaledPoint float (ascii "power_factor") [] powerFactorRaw.toNat 3 3)
      let frequencyRaw := instantaneous 5
      let out := push out (isValidRegisterValue frequencyRaw)
        (scaledPoint float (ascii "frequency") (ascii "Hz") frequencyRaw.toNat 2 2)
      (true, out)
  | none => (false, out)

/-- `readBasic`: its result and the points. -/
def readBasic : Bool × List MeterPoint :=
  match meter.readHoldingRegisters simulator.slaveAddr 0x0000 18 with
  | some allRegisters =>
      let out := parseEnergyFromBlock float (fun i => allRegisters (i.castLE (by decide))) []
      let out := parseInstantaneousFromBlock float (fun i => allRegisters (i.natAdd 12)) out
      (!out.isEmpty, out)
  | none =>
      let energy := readEnergyRegisters float simulator meter []
      let instantaneous := readInstantaneousRegisters float simulator meter energy.2
      (instantaneous.1 && !instantaneous.2.isEmpty, instantaneous.2)

/-! ## Three levels -/

theorem filter_push_of_keep {keep : MeterPoint → Bool} {point : MeterPoint}
    (kept : keep point = true) (out : List MeterPoint) (valid : Bool) :
    (push out valid point).filter keep = push (out.filter keep) valid point := by
  cases valid <;> simp [push, kept]

theorem filter_push_of_drop {keep : MeterPoint → Bool} {point : MeterPoint}
    (dropped : keep point = false) (out : List MeterPoint) (valid : Bool) :
    (push out valid point).filter keep = out.filter keep := by
  cases valid <;> simp [push, dropped]

variable {float} {simulator} {meter}

/-- The second decoder of the energy registers agrees with the first one. -/
theorem readEnergyRegisters_of_some {block : Fin 12 → Word}
    (read : meter.readHoldingRegisters simulator.slaveAddr 0x0000 12 = some block)
    (out : List MeterPoint) :
    readEnergyRegisters float simulator meter out =
      (true, parseEnergyFromBlock float block out) := by
  rw [readEnergyRegisters, read]
  rfl

/-- The second decoder of the instantaneous registers agrees with the first one. -/
theorem readInstantaneousRegisters_of_some {block : Fin 6 → Word}
    (read : meter.readHoldingRegisters simulator.slaveAddr 0x000C 6 = some block)
    (out : List MeterPoint) :
    readInstantaneousRegisters float simulator meter out =
      (true, parseInstantaneousFromBlock float block out) := by
  rw [readInstantaneousRegisters, read]
  rfl

/-- A point that is neither exported nor imported energy. -/
def isOther (point : MeterPoint) : Bool :=
  point.name != ascii "export_energy" && point.name != ascii "import_energy"

theorem filter_parseEnergyFromBlock (block : Fin 12 → Word) :
    (parseEnergyFromBlock float block []).filter isOther =
      push [] (isValidRegisterValue32 (combine32BitValue (block 0) (block 1)))
        (scaledPoint float (ascii "total_energy") (ascii "kWh")
          (combine32BitValue (block 0) (block 1)).toNat 2 2) := by
  rw [parseEnergyFromBlock]
  rw [filter_push_of_drop rfl, filter_push_of_drop rfl, filter_push_of_keep rfl]
  rfl

theorem filter_parseInstantaneousFromBlock (block : Fin 6 → Word) (out : List MeterPoint) :
    (parseInstantaneousFromBlock float block out).filter isOther =
      parseInstantaneousFromBlock float block (out.filter isOther) := by
  rw [parseInstantaneousFromBlock]
  rw [filter_push_of_keep rfl, filter_push_of_keep rfl, filter_push_of_keep rfl,
    filter_push_of_keep rfl, filter_push_of_keep rfl, filter_push_of_keep rfl]
  rfl

/-- The registers of a meter that a request asks for. -/
def block (meter : Meter) (address : Word) (count : Nat) : Fin count → Word :=
  fun i => meter.image (address + BitVec.ofNat 16 i)

section

variable {slaveAddr : UInt8} {address : Word} {count : Nat}

theorem read_of_answered
    (answered : meter.fails (holdingRegisters slaveAddr address count) = false) :
    meter.readHoldingRegisters slaveAddr address count = some (block meter address count) := by
  rw [Meter.readHoldingRegisters, answered]
  rfl

theorem read_of_failed
    (failed : meter.fails (holdingRegisters slaveAddr address count) = true) :
    meter.readHoldingRegisters slaveAddr address count = none :=
  if_pos failed

end

/-- All registers, if the request for them succeeds. -/
theorem readBasic_of_all
    (all : meter.fails (holdingRegisters simulator.slaveAddr 0x0000 18) = false) :
    let out := parseInstantaneousFromBlock float (block meter 0x000C 6)
      (parseEnergyFromBlock float (block meter 0x0000 12) [])
    readBasic float simulator meter = (!out.isEmpty, out) := by
  have rest : (fun i : Fin 6 => block meter 0x0000 18 (i.natAdd 12)) = block meter 0x000C 6 := by
    funext i
    rw [block, block, Fin.val_natAdd, BitVec.ofNat_add, ← BitVec.add_assoc]
    rfl
  rw [readBasic, read_of_answered all]
  dsimp only
  rw [rest]
  rfl

/-- The instantaneous registers behind whatever the energy registers gave. -/
theorem readBasic_of_none
    (none : meter.fails (holdingRegisters simulator.slaveAddr 0x0000 18) = true)
    (instantaneous : meter.fails (holdingRegisters simulator.slaveAddr 0x000C 6) = false) :
    let out := parseInstantaneousFromBlock float (block meter 0x000C 6)
      (readEnergyRegisters float simulator meter []).2
    readBasic float simulator meter = (!out.isEmpty, out) := by
  rw [readBasic, read_of_failed none]
  dsimp only
  rw [readInstantaneousRegisters_of_some (read_of_answered instantaneous), Bool.true_and]

/-- The pair for the total energy, if the energy registers cannot be read at once. -/
theorem readEnergyRegisters_of_pair
    (none : meter.fails (holdingRegisters simulator.slaveAddr 0x0000 12) = true)
    (pair : meter.fails (holdingRegisters simulator.slaveAddr 0x0000 2) = false) :
    (readEnergyRegisters float simulator meter []).2 =
      (parseEnergyFromBlock float (block meter 0x0000 12) []).filter isOther := by
  rw [readEnergyRegisters, read_of_failed none, read_of_answered pair, filter_parseEnergyFromBlock]
  rfl

/-- The three levels of the driver tell the same of every image of the registers: separate blocks
give what one block gives, and the pair for the total energy gives it without the exported and the
imported energy. -/
theorem readBasic_levels (float : SinglePrecision) (simulator : DDS238Simulator)
    (image : Word → Word) {atOnce inBlocks inPairs : ReadRequest → Bool}
    (all : atOnce (holdingRegisters simulator.slaveAddr 0x0000 18) = false)
    (notAll : inBlocks (holdingRegisters simulator.slaveAddr 0x0000 18) = true)
    (energy : inBlocks (holdingRegisters simulator.slaveAddr 0x0000 12) = false)
    (instantaneous : inBlocks (holdingRegisters simulator.slaveAddr 0x000C 6) = false)
    (neitherAll : inPairs (holdingRegisters simulator.slaveAddr 0x0000 18) = true)
    (norEnergy : inPairs (holdingRegisters simulator.slaveAddr 0x0000 12) = true)
    (pair : inPairs (holdingRegisters simulator.slaveAddr 0x0000 2) = false)
    (stillInstantaneous : inPairs (holdingRegisters simulator.slaveAddr 0x000C 6) = false) :
    readBasic float simulator ⟨image, inBlocks⟩ = readBasic float simulator ⟨image, atOnce⟩ ∧
      (readBasic float simulator ⟨image, inPairs⟩).2 =
        (readBasic float simulator ⟨image, atOnce⟩).2.filter isOther := by
  rw [@readBasic_of_all float simulator ⟨image, atOnce⟩ all,
    @readBasic_of_none float simulator ⟨image, inBlocks⟩ notAll instantaneous,
    @readBasic_of_none float simulator ⟨image, inPairs⟩ neitherAll stillInstantaneous]
  constructor
  · rw [readEnergyRegisters_of_some (read_of_answered energy)]
    rfl
  · dsimp only
    rw [readEnergyRegisters_of_pair norEnergy pair, filter_parseInstantaneousFromBlock]
    rfl

/-- A request that fails is one of these. -/
def failing (counts : List Nat) (request : ReadRequest) : Bool :=
  counts.any fun count => request.startAddr == 0x0000 && request.count == BitVec.ofNat 16 count

theorem readBasic_levels_sample :
    readBasic wholeNumbers ⟨20⟩ ⟨fun address => address, failing [18]⟩ =
        readBasic wholeNumbers ⟨20⟩ ⟨fun address => address, failing []⟩ ∧
      (readBasic wholeNumbers ⟨20⟩ ⟨fun address => address, failing [18, 12]⟩).2 =
        (readBasic wholeNumbers ⟨20⟩ ⟨fun address => address, failing []⟩).2.filter isOther :=
  readBasic_levels wholeNumbers ⟨20⟩ (fun address => address) (by decide) (by decide) (by decide)
    (by decide) (by decide) (by decide) (by decide) (by decide)

end DDS238Simulator

end ModbusBridge
