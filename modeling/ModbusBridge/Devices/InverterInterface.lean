import ModbusBridge.Configuration.ArduinoJson
import ModbusBridge.Modbus.Client

/-!
# Devices

What every device driver produces, and what it needs: registers from the Modbus client and
arithmetic in single precision. The arithmetic is a parameter.
-/

namespace ModbusBridge

/-- `TelemetryPoint`, as far as it is published. -/
structure TelemetryPoint where
  name : Bytes
  unit : Bytes
  value : Bytes

/-- The arithmetic of `float`, and `String(float, decimals)`. -/
structure SinglePrecision where
  Float : Type
  /-- The conversion of an integer. -/
  ofInt : Int → Float
  /-- The constant `mantissa / 10 ^ scale`. -/
  literal : Int → Nat → Float
  /-- `as<float>()` of a number in a document. -/
  asFloat : Json → Float
  mul : Float → Float → Float
  gt : Float → Float → Bool
  /-- `String(value, decimals)`. -/
  text : Float → Nat → Bytes

/-- Arithmetic on whole numbers. -/
def wholeNumbers : SinglePrecision where
  Float := Int
  ofInt value := value
  literal mantissa scale := mantissa / (10 ^ scale : Nat)
  asFloat
    | .integer value => value
    | _ => 0
  mul := (· * ·)
  gt left right := decide (right < left)
  text value decimals :=
    (if value < 0 then ascii "-" else []) ++ decimal value.natAbs ++ ascii "." ++
      List.replicate decimals 48

/-- A call of `readHoldingRegisters` or `readInputRegisters`. -/
structure ReadRequest where
  slaveId : UInt8
  function : UInt8
  startAddr : Word
  count : Word
  deriving DecidableEq

/-- `(high << 16) | low`, which `combineRegisters` computes. -/
def doubleWord (high low : Word) : BitVec 32 := (high.setWidth 32 <<< 16) ||| low.setWidth 32

end ModbusBridge
