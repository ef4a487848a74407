import ModbusBridge.Library.Memory
import ModbusBridge.Library.BlockRing
import ModbusBridge.Library.CutShort
import ModbusBridge.Library.ShiftRegister
import ModbusBridge.LogStore.Crash
import ModbusBridge.LogStore.Download
import ModbusBridge.LogStore.Bounds
import ModbusBridge.LogStore.BootSegment
import ModbusBridge.LogStore.Capture
import ModbusBridge.Library.StepSystem
import ModbusBridge.Modbus.SharedBus
import ModbusBridge.WebUI.DeviceOptions
import ModbusBridge.WebUI.Csrf
import ModbusBridge.WebUI.Diagnostics
import ModbusBridge.Polling.Availability
import ModbusBridge.WiFi.Lockout
import ModbusBridge.WiFi.Fallback
import ModbusBridge.Polling.CustomDevice
import ModbusBridge.Devices.RegisterMap
import ModbusBridge.Modbus.ReadOnly
import ModbusBridge.Modbus.ErrorDetection
import ModbusBridge.Modbus.Retry
import ModbusBridge.WebUI.Scans
import ModbusBridge.WebUI.Saving
import ModbusBridge.Configuration.Reset
import ModbusBridge.Devices.Addresses
import ModbusBridge.Devices.Declared
import ModbusBridge.Devices.Sentinels
import ModbusBridge.Devices.Loading
import ModbusBridge.Devices.Isolation
import ModbusBridge.Devices.Detection
import ModbusBridge.Library.JsonText
import ModbusBridge.Library.Utf8
import ModbusBridge.WebUI.Console
import ModbusBridge.Library.NestedCalls
import ModbusBridge.WebUI.History
import ModbusBridge.WebUI.Clients
import ModbusBridge.MQTT.Retain
import ModbusBridge.Polling.Statistics
import ModbusBridge.Library.Backoff
import ModbusBridge.MQTT.Connection
import ModbusBridge.MQTT.Reconnection
import ModbusBridge.WiFi.Hostname
import ModbusBridge.Devices.HikingDDS238
import ModbusBridge.LogStore.Drops
import ModbusBridge.Library.BoundedLog
import ModbusBridge.Modbus.FrameHistory
import ModbusBridge.WebUI.Uploads
import ModbusBridge.Library.JsonTree
import ModbusBridge.WebUI.StatusAPI
import ModbusBridge.Library.Escapes
import ModbusBridge.Library.Markup
import ModbusBridge.WebUI.Escaping
import ModbusBridge.Library.RingWalk
import ModbusBridge.LogStore.Salvage
import ModbusBridge.Polling.OverTheWire
import ModbusBridge.Library.Forms
import ModbusBridge.WebUI.ConfigForm
import ModbusBridge.WebUI.FormRoundTrip
import ModbusBridge.ESPLogger.Sinks
import ModbusBridge.ButtonTask
import ModbusBridge.WebUI.Lifetime
import ModbusBridge.WebUI.LogsAPI
import ModbusBridge.WebUI.LogDownload
import ModbusBridge.Library.Broker
import ModbusBridge.MQTT.Presence
import ModbusBridge.Library.PolledQueue
import ModbusBridge.Polling.InTime
import ModbusBridge.WebUI.SavedForm
import ModbusBridge.Library.Labelled
import ModbusBridge.WebUI.FrameLogPage
