import ModbusBridge.Configuration.Config
import ModbusBridge.Devices.GenericModbusDevice
import ModbusBridge.Devices.InverterInterface

/-!
# The SolPlanet ASW inverter

The driver reads its registers in bulk. Each point is sliced out of a bulk by its index, and is
labelled with the number and the type of its register. A look beyond a bulk has no result.
-/

namespace ModbusBridge

open GenericModbusDevice (decimalInt)

/-- The data types of registers, and the label of values that are computed. -/
inductive RegisterType
  | u16
  | e16
  | s16
  | u32
  | s32
  | calc
  deriving DecidableEq

/-- `TelemetryPoint` with the data of its register. The scale is given by its decimals. -/
structure RegisterPoint extends TelemetryPoint where
  addr : Word
  type : RegisterType
  decimals : Nat

/-- The inverter at the other end: its registers by their Modbus addresses, and the addresses at
which the transactions of a call fail. No two of them begin at the same address. -/
structure Bus where
  image : Word → Word
  fails : Word → Bool

/-- `readInputRegisters`. -/
def Bus.readInputRegisters (bus : Bus) (address : Word) (count : Nat) : Option (List Word) :=
  if bus.fails address then none
  else some ((List.range count).map fun i => bus.image (address + BitVec.ofNat 16 i))

/-- `SolplanetASW`. -/
structure SolplanetASW where
  isThreePhase : Bool
  phaseDetected : Bool
  mpptCount : UInt8
  stringCount : UInt8
  configDetected : Bool

namespace SolplanetASW

/-- `inputRegisterToModbus`. -/
def inputRegisterToModbus (inputRegister : Word) : Word := inputRegister - 30001

/-! ## Detection -/

/-- A transaction of one register. -/
def readInputRegister (bus : Bus) (inputRegister : Word) : Option Word :=
  (bus.readInputRegisters (inputRegisterToModbus inputRegister) 1).bind (·[0]?)

/-- `detectPhaseConfiguration`. -/
def detectPhaseConfiguration (bus : Bus) (device : SolplanetASW) : Bool × SolplanetASW :=
  if device.phaseDetected then (true, device)
  else
    match readInputRegister bus 31001 with
    | some deviceType =>
        if deviceType = 49 then
          (true, { device with isThreePhase := false, phaseDetected := true })
        else if deviceType = 51 then
          (true, { device with isThreePhase := true, phaseDetected := true })
        else (false, device)
    | none => (false, device)

/-- `detectDeviceConfiguration`. -/
def detectDeviceConfiguration (bus : Bus) (device : SolplanetASW) : Bool × SolplanetASW :=
  if device.configDetected then (true, device)
  else
    let mppt := readInputRegister bus 31074
    let mpptCount : UInt8 :=
      match mppt with
      | some mpptNum =>
          let count : UInt8 := .ofBitVec (mpptNum.setWidth 8)
          if count = 0 ∨ count > 10 then 2 else count
      | none => 2
    let stringCount : UInt8 :=
      match readInputRegister bus 31075 with
      | some stringNum =>
          let count : UInt8 := .ofBitVec (stringNum.setWidth 8)
          if count > 20 then 20 else count
      | none => 0
    (mppt.isSome, { device with mpptCount, stringCount, configDetected := true })

/-! ## Descriptions -/

/-- `getErrorDescription`. -/
def getErrorDescription : Nat → Bytes
  | 0 => ascii "No Error"
  | 10 => ascii "Device Fault"
  | 49 => ascii "PV1 Lightning Arrester Fault"
  | 50 => ascii "PV2 Lightning Arrester Fault"
  | 52 => ascii "Neutral Line Loss Fault"
  | 56 => ascii "GFCI Protect Fault (30mA)"
  | 57 => ascii "GFCI Protect Fault (60mA)"
  | 58 => ascii "GFCI Protect Fault (150mA)"
  | 63 => ascii "L-PE Short-Circuit Protection"
  | 64 => ascii "PV Input Mode Error"
  | 66 => ascii "PV1 Reverse Connection Fault"
  | 67 => ascii "PV2 Reverse Connection Fault"
  | 68 => ascii "PV3 Reverse Connection Fault"
  | _ => []

/-- `getWarningDescription`. -/
def getWarningDescription : Nat → Bytes
  | 0 => ascii "No Warning"
  | 30 => ascii "Recover From Warning"
  | 150 => ascii "SPD Damaged"
  | 156 => ascii "Internal Fan Warning"
  | 157 => ascii "External Fan Warning"
  | 163 => ascii "String Current Abnormal"
  | 165 => ascii "Ground Connect Warning"
  | 166 => ascii "CPU Self-Test: Register Abnormal"
  | 167 => ascii "CPU Self-Test: RAM Abnormal"
  | 168 => ascii "CPU Self-Test: ROM Abnormal"
  | 174 => ascii "Low Air Temperature"
  | 175 => ascii "Battery SOC Low"
  | 176 => ascii "Battery Fault Status"
  | 177 => ascii "Battery Communication Disconnect"
  | 178 => ascii "EPS Output Over"
  | _ => []

/-- `getGridCodeDescription`. -/
def getGridCodeDescription : Nat → Bytes
  | 3 => ascii "Default"
  | 8 => ascii "GR PPC"
  | 35 => ascii "NB/T32004:2018 (China)"
  | 47 => ascii "AU AS 4777.2:2015 (Australia)"
  | 48 => ascii "NZ AS 4777.2:2015 (New Zealand)"
  | 49 => ascii "EN50549-1 50Hz (Europe)"
  | 50 => ascii "EN50549-1 60Hz (Europe)"
  | 51 => ascii "TOR Erzeuger Typ A V1.1 (Germany)"
  | 59 => ascii "CNS15382:2018 (Taiwan)"
  | 64 => ascii "EN 50549-1 (Europe)"
  | 65 => ascii "NL EN50549-1:2019 (Netherlands)"
  | 66 => ascii "BR NBR 16149:2013 (Brazil)"
  | 67 => ascii "VDE0126-1-1/A1/VFR (Germany)"
  | 68 => ascii "IEC 61727 50Hz"
  | 69 => ascii "C10/11:2019 (Belgium)"
  | 70 => ascii "VDE-AR-N4105:2018 (Germany)"
  | 71 => ascii "IEC 61727 60Hz"
  | 72 => ascii "G98/1 (UK)"
  | 73 => ascii "G99/1 (UK)"
  | 74 => ascii "AS/NZS4777.2:2020 Type A (Australia)"
  | 75 => ascii "AS/NZS4777.2:2020 Type B (Australia)"
  | 76 => ascii "AS/NZS4777.2:2020 Type C (Australia)"
  | 77 => ascii "AS/NZS4777.2:2020 (New Zealand)"
  | 78 => ascii "IL SI4777.3 (Israel)"
  | 79 => ascii "KR KS C 8565:2020 (South Korea)"
  | 80 => ascii "ES UNE206007-1 (Spain)"
  | 81 => ascii "CY EN50549-1 (Cyprus)"
  | 82 => ascii "CS PPDS A1 (Czech Republic)"
  | 83 => ascii "PL EN50549-1 (Poland)"
  | 84 => ascii "CEI 0-21:2019 (Italy)"
  | 85 => ascii "DK EN50549-1 (Denmark)"
  | 86 => ascii "CH NA/EEA-NE7 (Switzerland)"
  | 89 => ascii "RO Order208 (Romania)"
  | 90 => ascii "SI EN50549-1 (Slovenia)"
  | 91 => ascii "LV EN50549-1 (Latvia)"
  | 92 => ascii "VDE0126/VFR2019 IS 50Hz (Iceland)"
  | 93 => ascii "VDE0126/VFR2019 IS 60Hz (Iceland)"
  | 94 => ascii "ZA NRS 097-2-1:2017 (South Africa)"
  | 95 => ascii "BR PORTARIA No.140 (Brazil)"
  | 96 => ascii "NTS 631 Type A (Thailand)"
  | 97 => ascii "NTS 631 Type B (Thailand)"
  | 98 => ascii "NO EN50549-1 (Norway)"
  | 99 => ascii "VDE-AR-N 4110 (Germany)"
  | 100 => ascii "EN 50549-2 (Europe)"
  | 101 => ascii "DEWA:2016 (UAE)"
  | 102 => ascii "DK1 EN50549-1 (Denmark)"
  | 103 => ascii "ZA RPPs (South Africa)"
  | _ => []

/-- The text of a device state. -/
def stateText : Nat → Bytes
  | 0 => ascii "Wait"
  | 1 => ascii "Normal"
  | 2 => ascii "Fault"
  | 4 => ascii "Checking"
  | 30 => ascii "Dispatch"
  | 40 => ascii "Unknown40"
  | 50 => ascii "Over-Temp"
  | 99 => ascii "Stop"
  | 170 => ascii "Flash-Init"
  | other => decimal other

/-- The text of a battery status. -/
def statusText : Nat → Bytes
  | 0 => ascii "N/A"
  | 1 => ascii "Idle"
  | 2 => ascii "Charging"
  | 3 => ascii "Discharging"
  | 4 => ascii "Error"
  | other => decimal other

/-! ## Rows -/

/-- How the words of a point are taken together. -/
inductive Format
  | u16
  | s16
  | u32
  | s32
  deriving DecidableEq

/-- `isNaN_U16`. -/
def isNaNU16 (val : Int) : Bool := val == 0xFFFF

/-- `isNaN_S16`. -/
def isNaNS16 (val : Int) : Bool := val == -0x8000

/-- `isNaN_U32`. -/
def isNaNU32 (val : Int) : Bool := val == 0xFFFFFFFF

/-- `isNaN_S32`. -/
def isNaNS32 (val : Int) : Bool := val == -0x80000000

namespace Format

/-- The check for a missing value. -/
def isNaN : Format → Int → Bool
  | u16 => isNaNU16
  | s16 => isNaNS16
  | u32 => isNaNU32
  | s32 => isNaNS32

/-- The number of words. -/
def size : Format → Nat
  | u16 | s16 => 1
  | u32 | s32 => 2

/-- The value at an index of a bulk. -/
def decode (format : Format) (bulk : List Word) (index : Nat) : Option Int :=
  match format with
  | u16 => bulk[index]?.map fun word => (word.toNat : Int)
  | s16 => bulk[index]?.map BitVec.toInt
  | u32 => bulk[index]?.bind fun high => bulk[index + 1]?.map fun low =>
      ((doubleWord high low).toNat : Int)
  | s32 => bulk[index]?.bind fun high => bulk[index + 1]?.map fun low => (doubleWord high low).toInt

end Format

/-- How a value is shown. -/
inductive Display
  /-- `String(value)`. -/
  | integer
  /-- `String(value, HEX)`. -/
  | hexadecimal
  /-- Multiplied by a power of ten, and shown with its decimals. It may have to be greater than a
  bound `mantissa / 10 ^ scale`. -/
  | scaled (decimals : Nat) (above : Option (Int × Nat))
  /-- A text. -/
  | text (describe : Nat → Bytes)
  /-- A text, if there is one. -/
  | description (describe : Nat → Bytes)

namespace Display

variable (single : SinglePrecision)

/-- The value as it is scaled. -/
def scale (decimals : Nat) (value : Int) : single.Float :=
  single.mul (single.ofInt value) (single.literal 1 decimals)

/-- The text of a value, if it is published. -/
def shown (display : Display) (value : Int) : Option Bytes :=
  match display with
  | integer => some (decimalInt value)
  | hexadecimal => some (ModbusBridge.hexadecimal value.toNat)
  | scaled decimals above =>
      let scaled := scale single decimals value
      let published :=
        match above with
        | none => true
        | some (mantissa, digits) => single.gt scaled (single.literal mantissa digits)
      if published then some (single.text scaled decimals) else none
  | text describe => some (describe value.toNat)
  | description describe =>
      if describe value.toNat = [] then none else some (describe value.toNat)

/-- The decimals of the scale. -/
def decimals : Display → Nat
  | scaled decimals _ => decimals
  | _ => 0

end Display

/-- What the source says of one point. -/
structure Row where
  index : Nat
  name : Bytes
  unit : Bytes
  addr : Word
  type : RegisterType
  format : Format
  display : Display

/-- A row. -/
def row (index : Nat) (name unit : String) (addr : Word) (type : RegisterType) (format : Format)
    (display : Display) : Row :=
  ⟨index, ascii name, ascii unit, addr, type, format, display⟩

namespace Row

/-- The point of a row. -/
def point (row : Row) (value : Bytes) : RegisterPoint where
  name := row.name
  unit := row.unit
  value := value
  addr := row.addr
  type := row.type
  decimals := row.display.decimals

/-- The points that a row makes of a bulk. -/
def emit (single : SinglePrecision) (bulk : List Word) (row : Row) :
    Option (List RegisterPoint) :=
  (row.format.decode bulk row.index).map fun value =>
    if row.format.isNaN value then []
    else ((row.display.shown single value).map row.point).toList

end Row

/-- 31002. -/
def modbusAddressRows : List Row :=
  [row 0 "modbus_address" "" 31002 .u16 .u16 .integer]

/-- 31027. -/
def gridCodeRows : List Row :=
  [row 0 "grid_code" "" 31027 .e16 .u16 .integer,
    row 0 "grid_code_standard" "" 31027 .e16 .u16 (.description getGridCodeDescription)]

/-- 31301-31320. -/
def basicRows : List Row :=
  [row 0 "grid_rated_voltage" "V" 31301 .u16 .u16 (.scaled 1 none),
    row 1 "grid_rated_frequency" "Hz" 31302 .u16 .u16 (.scaled 2 none),
    row 2 "energy_today" "kWh" 31303 .u32 .u32 (.scaled 1 none),
    row 4 "energy_total" "kWh" 31305 .u32 .u32 (.scaled 1 none),
    row 6 "hours_total" "h" 31307 .u32 .u32 .integer,
    row 8 "device_state" "" 31309 .e16 .u16 .integer,
    row 8 "device_state_text" "" 31309 .e16 .u16 (.text stateText),
    row 9 "connect_time" "s" 31310 .u16 .u16 .integer,
    row 10 "temperature_internal" "C" 31311 .s16 .s16 (.scaled 1 none),
    row 11 "temperature_inverter_u" "C" 31312 .s16 .s16 (.scaled 1 none),
    row 14 "temperature_boost" "C" 31315 .s16 .s16 (.scaled 1 none),
    row 16 "bus_voltage" "V" 31317 .u16 .u16 (.scaled 1 none)]

/-- 31319-31338: the voltage of an input. -/
def pvVoltageRow (i : Nat) : Row where
  index := i * 2
  name := ascii "pv" ++ decimal (i + 1) ++ ascii "_voltage"
  unit := ascii "V"
  addr := 31319 + BitVec.ofNat 16 (i * 2)
  type := .u16
  format := .u16
  display := .scaled 1 none

/-- The current of an input. -/
def pvCurrentRow (i : Nat) : Row where
  index := i * 2 + 1
  name := ascii "pv" ++ decimal (i + 1) ++ ascii "_current"
  unit := ascii "A"
  addr := 31319 + BitVec.ofNat 16 (i * 2) + 1
  type := .u16
  format := .u16
  display := .scaled 2 none

/-- The name of the power of an input. -/
def pvPowerName (i : Nat) : Bytes := ascii "pv" ++ decimal (i + 1) ++ ascii "_power"

/-- 31339-31358: the current of a string. -/
def stringRow (i : Nat) : Row where
  index := i
  name := ascii "string" ++ decimal (i + 1) ++ ascii "_current"
  unit := ascii "A"
  addr := 31339 + BitVec.ofNat 16 i
  type := .u16
  format := .u16
  display := .scaled 1 (some (1, 1))

/-- 31601-31606. -/
def pvEnergyRows : List Row :=
  [row 0 "pv_total_power" "W" 31601 .u32 .u32 .integer,
    row 2 "pv_energy_today" "kWh" 31603 .u32 .u32 (.scaled 1 none),
    row 4 "pv_energy_total" "kWh" 31605 .u32 .u32 (.scaled 1 none)]

/-- 31359-31367, of an inverter with three phases. -/
def phaseRows : List Row :=
  [row 0 "l1_voltage" "V" 31359 .u16 .u16 (.scaled 1 none),
    row 1 "l1_current" "A" 31360 .u16 .u16 (.scaled 1 none),
    row 2 "l2_voltage" "V" 31361 .u16 .u16 (.scaled 1 none),
    row 3 "l2_current" "A" 31362 .u16 .u16 (.scaled 1 none),
    row 4 "l3_voltage" "V" 31363 .u16 .u16 (.scaled 1 none),
    row 5 "l3_current" "A" 31364 .u16 .u16 (.scaled 1 none),
    row 6 "rs_line_voltage" "V" 31365 .u16 .u16 (.scaled 1 (some (10, 0))),
    row 7 "rt_line_voltage" "V" 31366 .u16 .u16 (.scaled 1 (some (10, 0))),
    row 8 "st_line_voltage" "V" 31367 .u16 .u16 (.scaled 1 (some (10, 0)))]

/-- 31368-31379. -/
def gridRows : List Row :=
  [row 9 "grid_frequency" "Hz" 31368 .u16 .u16 (.scaled 2 none),
    row 10 "apparent_power" "VA" 31369 .u32 .u32 .integer,
    row 12 "active_power" "W" 31371 .s32 .s32 .integer,
    row 14 "reactive_power" "Var" 31373 .s32 .s32 .integer,
    row 16 "power_factor" "" 31375 .s16 .s16 (.scaled 2 none),
    row 18 "fault_state" "" 31377 .e16 .u16 .integer,
    row 19 "error_code" "" 31378 .e16 .u16 .integer,
    row 19 "error_message" "" 31378 .e16 .u16 (.description getErrorDescription),
    row 20 "warning_code" "" 31379 .e16 .u16 .integer,
    row 20 "warning_message" "" 31379 .e16 .u16 (.description getWarningDescription)]

/-- The text of a grid connection. -/
def connectionText (gridStatus : Nat) : Bytes :=
  if gridStatus = 1 then ascii "Connected" else ascii "Disconnected"

/-- 31391. -/
def gridConnectionRows : List Row :=
  [row 0 "grid_connection" "" 31391 .u16 .u16 (.text connectionText)]

/-- 31630-31633. -/
def acEnergyRows : List Row :=
  [row 0 "consumption_today" "kWh" 31630 .u32 .u32 (.scaled 1 none),
    row 2 "generation_today_ac" "kWh" 31632 .u32 .u32 (.scaled 1 none)]

/-- 31634-31636. -/
def epsBasicRows : List Row :=
  [row 0 "eps_voltage" "V" 31634 .u16 .u16 (.scaled 1 (some (10, 0))),
    row 1 "eps_current" "A" 31635 .u16 .u16 (.scaled 1 none),
    row 2 "eps_frequency" "Hz" 31636 .u16 .u16 (.scaled 2 (some (10, 0)))]

/-- 31637-31644. -/
def epsRows : List Row :=
  [row 0 "eps_active_power" "W" 31637 .s32 .s32 .integer,
    row 2 "eps_reactive_power" "Var" 31639 .s32 .s32 .integer,
    row 4 "eps_consumption_today" "kWh" 31641 .u32 .u32 (.scaled 1 none),
    row 6 "eps_consumption_total" "kWh" 31643 .u32 .u32 (.scaled 1 none)]

/-- 31645-31662. -/
def epsPhaseRows : List Row :=
  [row 0 "eps_l1_voltage" "V" 31645 .u16 .u16 (.scaled 1 (some (10, 0))),
    row 1 "eps_l1_current" "A" 31646 .u16 .u16 (.scaled 1 none),
    row 2 "eps_l2_voltage" "V" 31647 .u16 .u16 (.scaled 1 (some (10, 0))),
    row 3 "eps_l2_current" "A" 31648 .u16 .u16 (.scaled 1 none),
    row 4 "eps_l3_voltage" "V" 31649 .u16 .u16 (.scaled 1 (some (10, 0))),
    row 5 "eps_l3_current" "A" 31650 .u16 .u16 (.scaled 1 none),
    row 6 "eps_l1_active_power" "W" 31651 .u32 .u32 .integer,
    row 8 "eps_l1_reactive_power" "Var" 31653 .s32 .s32 .integer,
    row 10 "eps_l2_active_power" "W" 31655 .u32 .u32 .integer,
    row 12 "eps_l2_reactive_power" "Var" 31657 .s32 .s32 .integer,
    row 14 "eps_l3_active_power" "W" 31659 .u32 .u32 .integer,
    row 16 "eps_l3_reactive_power" "Var" 31661 .s32 .s32 .integer]

/-- 31663-31674, of an inverter with three phases. -/
def gridPhaseRows : List Row :=
  [row 0 "grid_l1_power" "W" 31663 .u32 .u32 .integer,
    row 2 "grid_l1_reactive" "Var" 31665 .s32 .s32 .integer,
    row 4 "grid_l2_power" "W" 31667 .u32 .u32 .integer,
    row 6 "grid_l2_reactive" "Var" 31669 .s32 .s32 .integer,
    row 8 "grid_l3_power" "W" 31671 .u32 .u32 .integer,
    row 10 "grid_l3_reactive" "Var" 31673 .s32 .s32 .integer]

/-- 31675-31678. -/
def gridExportRows : List Row :=
  [row 12 "grid_export_today" "kWh" 31675 .u32 .u32 (.scaled 1 none),
    row 14 "grid_export_total" "kWh" 31677 .u32 .u32 (.scaled 1 none)]

/-- 31607-31629. -/
def batteryRows : List Row :=
  [row 0 "battery_comm_status" "" 31607 .e16 .u16 .hexadecimal,
    row 1 "battery_status" "" 31608 .e16 .u16 .integer,
    row 1 "battery_status_text" "" 31608 .e16 .u16 (.text statusText),
    row 10 "battery_voltage" "V" 31617 .u16 .u16 (.scaled 2 none),
    row 11 "battery_current" "A" 31618 .s16 .s16 (.scaled 1 none),
    row 12 "battery_power" "W" 31619 .s32 .s32 .integer,
    row 14 "battery_temperature" "C" 31621 .s16 .s16 (.scaled 1 none),
    row 15 "battery_soc" "%" 31622 .u16 .u16 .integer,
    row 16 "battery_soh" "%" 31623 .u16 .u16 .integer,
    row 17 "battery_charge_limit" "A" 31624 .u16 .u16 (.scaled 1 none),
    row 18 "battery_discharge_limit" "A" 31625 .u16 .u16 (.scaled 1 none),
    row 19 "battery_charge_today" "kWh" 31626 .u32 .u32 (.scaled 1 none),
    row 21 "battery_discharge_today" "kWh" 31628 .u32 .u32 (.scaled 1 none)]

/-- 31679-31681. -/
def bmsDiagRows : List Row :=
  [row 0 "battery_insulation_resistance" "kOhm" 31679 .u16 .u16 .integer,
    row 1 "battery_cycles" "" 31680 .u16 .u16 .integer,
    row 2 "battery_env_temperature" "C" 31681 .u16 .u16 (.scaled 1 none)]

/-- 31685-31687. -/
def generatorRows : List Row :=
  [row 0 "generator_power" "W" 31685 .s32 .s32 .integer,
    row 2 "generator_energy_today" "kWh" 31687 .u16 .u16 (.scaled 1 none)]

/-! ## Reading -/

/-- What a method returns, and the points that it appends. -/
structure Part where
  succeeded : Bool
  points : List RegisterPoint

variable (single : SinglePrecision) (bus : Bus) (device : SolplanetASW)

/-- A bulk read with the rows that are made of it. -/
def readRows (start : Word) (count : Nat) (rows : List Row) : Option Part :=
  match bus.readInputRegisters (inputRegisterToModbus start) count with
  | none => some ⟨false, []⟩
  | some bulk => (rows.mapM (Row.emit single bulk)).map fun points => ⟨true, points.flatten⟩

/-- A bulk read that is made if it is needed. -/
def readRowsIf (needed : Bool) (start : Word) (count : Nat) (rows : List Row) : Option Part :=
  if needed then readRows single bus start count rows else some ⟨true, []⟩

/-- `readDeviceInfo`. -/
def readDeviceInfo : Option Part := do
  let modbusAddr ← readRows single bus 31002 1 modbusAddressRows
  let gridCode ← readRows single bus 31027 1 gridCodeRows
  some ⟨true, modbusAddr.points ++ gridCode.points⟩

/-- `readBasicMeasurements`. -/
def readBasicMeasurements : Option Part := readRows single bus 31301 20 basicRows

/-- One turn of the loop over the inputs. -/
def readPVInput (pvBulk : List Word) (i : Nat) : Option (List RegisterPoint) :=
  pvBulk[i * 2]?.bind fun voltageRaw => pvBulk[i * 2 + 1]?.map fun currentRaw =>
    if !isNaNU16 voltageRaw.toNat && !isNaNU16 currentRaw.toNat then
      let pvVoltage := Display.scale single 1 voltageRaw.toNat
      let pvCurrent := Display.scale single 2 currentRaw.toNat
      if single.gt pvVoltage (single.literal 10 0) then
        [(pvVoltageRow i).point (single.text pvVoltage 1),
          (pvCurrentRow i).point (single.text pvCurrent 2),
          { name := pvPowerName i
            unit := ascii "W"
            value := single.text (single.mul pvVoltage pvCurrent) 0
            addr := 31319 + BitVec.ofNat 16 (i * 2)
            type := .calc
            decimals := 0 }]
      else []
    else []

/-- `readPVInputs`. -/
def readPVInputs : Option Part :=
  match bus.readInputRegisters (inputRegisterToModbus 31319) 20 with
  | none => some ⟨false, []⟩
  | some pvBulk => do
      let inputs ← (List.range (min device.mpptCount.toNat 10)).mapM (readPVInput single pvBulk)
      let strings ← readRowsIf single bus (device.stringCount > 0) 31339 20
        ((List.range (min device.stringCount.toNat 20)).map stringRow)
      let energy ← readRows single bus 31601 6 pvEnergyRows
      some ⟨true, inputs.flatten ++ strings.points ++ energy.points⟩

/-- The rows of an inverter with three phases. -/
def ofThreePhases (rows : List Row) : List Row := if device.isThreePhase then rows else []

/-- `readGridAndPhaseMeasurements`. -/
def readGridAndPhaseMeasurements : Option Part := do
  let grid ← readRows single bus 31359 21 (device.ofThreePhases phaseRows ++ gridRows)
  if !grid.succeeded then some ⟨false, []⟩
  else
    let gridStatus ← readRows single bus 31391 1 gridConnectionRows
    some ⟨true, grid.points ++ gridStatus.points⟩

/-- `readGridEnergyAndLoad`. -/
def readGridEnergyAndLoad : Option Part := do
  let acEnergy ← readRows single bus 31630 4 acEnergyRows
  let epsBasic ← readRows single bus 31634 3 epsBasicRows
  let eps ← readRows single bus 31637 8 epsRows
  let epsPhase ← readRowsIf single bus device.isThreePhase 31645 18 epsPhaseRows
  let grid ← readRows single bus 31663 16 (device.ofThreePhases gridPhaseRows ++ gridExportRows)
  some ⟨true, acEnergy.points ++ epsBasic.points ++ eps.points ++ epsPhase.points ++ grid.points⟩

/-- The methods that `readBasic` calls once the inverter is known. -/
def readParts : Option Part := do
  let info ← readDeviceInfo single bus
  let basic ← readBasicMeasurements single bus
  let pv ← device.readPVInputs single bus
  let grid ← device.readGridAndPhaseMeasurements single bus
  let load ← device.readGridEnergyAndLoad single bus
  let out := info.points ++ basic.points ++ pv.points ++ grid.points ++ load.points
  let success :=
    info.succeeded && basic.succeeded && pv.succeeded && grid.succeeded && load.succeeded
  some ⟨success && !out.isEmpty, out⟩

/-- `readBasic`, and the inverter afterwards. -/
def readBasic : Option (Part × SolplanetASW) :=
  let phase := device.detectPhaseConfiguration bus
  if !phase.1 then some (⟨false, []⟩, phase.2)
  else
    let device := (phase.2.detectDeviceConfiguration bus).2
    (device.readParts single bus).map fun part => (part, device)

/-- `readStorage`. -/
def readStorage (config : Config) : Option Part :=
  if !config.getBool (ascii "read_storage_regs") false then some ⟨false, []⟩
  else do
    let battery ← readRows single bus 31607 23 batteryRows
    if !battery.succeeded then some ⟨false, []⟩
    else
      let bmsDiag ← readRows single bus 31679 3 bmsDiagRows
      let gen ← readRows single bus 31685 3 generatorRows
      let out := battery.points ++ bmsDiag.points ++ gen.points
      some ⟨!out.isEmpty, out⟩

end SolplanetASW

end ModbusBridge
