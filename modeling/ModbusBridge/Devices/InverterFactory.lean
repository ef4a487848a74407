import ModbusBridge.Configuration.Config
import ModbusBridge.Devices.GenericModbusDevice

/-!
# The device factory

Built-in devices have classes of their own. All others are described by a JSON file.
-/

namespace ModbusBridge

/-- The device classes. -/
inductive Device
  | solplanetASW
  | hikingDDS238
  | dds238Simulator
  | genericModbusDevice (jsonFile : Bytes)
  deriving DecidableEq

/-- `InverterFactory::create`. -/
def create (model : Bytes) : Option Device :=
  if (ascii "json:").isPrefixOf model then
    let filename := model.drop 5
    if !isSafeDeviceFilename filename then none
    else some (.genericModbusDevice (devicePath filename))
  else if model = solplanetASWModel ∨ model = ascii "solplanet_asw_hybrid" then some .solplanetASW
  else if model = hikingDDS238Model then some .hikingDDS238
  else if model = dds238SimulatorModel then some .dds238Simulator
  else none

/-- `InverterFactory::getDeviceType`. -/
def getDeviceType (model : Bytes) : Bytes :=
  if (ascii "json:").isPrefixOf model then ascii "custom"
  else
    match supportedDevices.find? fun device => model == device.model with
    | some device => device.type
    | none => ascii "unknown"

end ModbusBridge
