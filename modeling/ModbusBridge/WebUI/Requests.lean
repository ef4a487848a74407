import ModbusBridge.Devices.InverterFactory
import ModbusBridge.ESPLogger

/-!
# Requests

The routes of the web server and what their handlers do to the configuration, the files and the
firmware. The texts of whole pages are left out. The library that receives firmware is a parameter.
-/

namespace ModbusBridge

/-! ## Requests and responses -/

/-- The HTTP methods. -/
inductive HTTPMethod
  | get
  | post
  | put
  | patch
  | delete
  | head
  | options
  deriving DecidableEq

/-- `HTTPUpload`, as each call of an upload handler finds it. -/
inductive HTTPUpload
  | fileStart
  | fileWrite (buf : Bytes)
  | fileEnd
  | fileAborted
  deriving DecidableEq

/-- A request. The body of a request that is no form is its argument `plain`. -/
structure HTTPRequest where
  method : HTTPMethod
  uri : Bytes
  args : List (Bytes × Bytes)
  uploads : List HTTPUpload

namespace HTTPRequest

/-- `server.hasArg`. -/
def hasArg (request : HTTPRequest) (name : Bytes) : Bool := (request.args.lookup name).isSome

/-- `server.arg`. -/
def arg (request : HTTPRequest) (name : Bytes) : Bytes := (request.args.lookup name).getD []

end HTTPRequest

/-- How an upload of a device ends. -/
inductive UploadResult
  | invalidFilename
  | tooLarge
  | invalidDevice (error : Bytes)
  | mountFailed
  | writeFailed
  | uploaded (filename : Bytes)

/-- How the deletion of a device ends. -/
inductive DeleteResult
  | invalidFilename
  | mountFailed
  | notFound
  | failed
  | deleted (filename : Bytes)

/-- A response. -/
inductive Response
  | send (code : Nat) (content : Bytes)
  /-- A page with this title. -/
  | page (title : Bytes)
  /-- What the device knows: logs, its state, or what it has found on the bus. -/
  | report
  | redirect
  | sendError (message : Bytes)
  | sendSuccessWithRedirect (message : Bytes)
  | upload (result : UploadResult)
  | delete (result : DeleteResult)

/-- A response, and whether the device restarts after it. -/
structure Reply where
  response : Response
  restarts : Bool

/-! ## The device -/

/-- The library that receives firmware. An image takes effect when `end(true)` accepts it, and not
before. -/
structure UpdateClass (σ : Type) where
  begin : σ → Bool × σ
  write : Bytes → σ → Nat × σ
  /-- `end(true)`. -/
  finish : σ → Bool × σ
  hasError : σ → Bool
  /-- The image that has been received so far. -/
  received : σ → Bytes
  /-- The firmware that the next start will use, if it is a new one. -/
  staged : σ → Option Bytes
  staged_begin : ∀ update, staged (begin update).2 = staged update
  staged_write : ∀ buf update, staged (write buf update).2 = staged update
  staged_finish : ∀ update, staged (finish update).2 =
    if (finish update).1 then some (received update) else staged update

/-- What the handlers of `WebUI` read and change. -/
structure WebUI (σ : Type) where
  config : Config
  fs : LittleFS
  csrfToken : Bytes
  logLevel : ESPLogger.LogLevel
  update : σ

/-- What a request meets. -/
structure Surroundings where
  /-- What writing a file comes to. -/
  room : Room
  /-- What `LittleFS.remove` returns. -/
  removes : Bool
  /-- `wifiManager.isAPMode()`. -/
  apMode : Bool
  /-- `wifiManager.isConnected()`. -/
  connected : Bool

namespace WebUI

variable {σ : Type} (lib : ArduinoJson) (ota : UpdateClass σ) (ui : WebUI σ)
  (request : HTTPRequest) (here : Surroundings)

/-- `validateCSRFToken`. -/
def validateCSRFToken : Bool :=
  if ui.csrfToken = [] then false
  else if !request.hasArg (ascii "_csrf") then false
  else request.arg (ascii "_csrf") == ui.csrfToken

/-! ## The form -/

/-- `validateForm`. -/
def validateForm : Bool :=
  if request.hasArg (ascii "mqtt_port") then
    let port := toInt (request.arg (ascii "mqtt_port"))
    !(port < 1 || port > 65535)
  else true

/-- The fields that `handleSave` takes as text. -/
def textFields : List Bytes :=
  [ascii "wifi_ssid", ascii "wifi_password", ascii "ap_ssid", ascii "ap_password",
    ascii "hostname", ascii "mqtt_broker", ascii "mqtt_username", ascii "mqtt_password",
    ascii "mqtt_topic_prefix", ascii "parity", ascii "device_model", ascii "log_level"]

/-- The fields that `handleSave` takes as numbers. -/
def numberFields : List Bytes :=
  [ascii "mqtt_port", ascii "rtu_addr", ascii "baudrate", ascii "data_bits", ascii "stop_bits",
    ascii "rs485_de_re_pin", ascii "poll_interval_sec"]

/-- The check boxes of the form. -/
def checkBoxes : List Bytes := [ascii "ap_enabled", ascii "retain", ascii "read_storage_regs"]

/-- One turn of the loop of `handleSave` over the arguments. -/
def applyArgument (config : Config) (argument : Bytes × Bytes) : Config :=
  let name := argument.1
  let value := argument.2
  if textFields.contains name then config.setString name value
  else if numberFields.contains name then config.setInt name (toInt value)
  else if checkBoxes.contains name then config.setBool name true
  else config

/-- A check box that is missing from the arguments is not checked. -/
def uncheck (config : Config) (name : Bytes) : Config :=
  if !request.hasArg name then config.setBool name false else config

/-- `handleSave`. -/
def handleSave : WebUI σ × Reply :=
  if !ui.validateCSRFToken request then
    (ui, ⟨.send 403 (ascii "CSRF token missing or invalid. Reload the form and try again."), false⟩)
  else if !validateForm request then (ui, ⟨.sendError (ascii "Invalid MQTT port"), false⟩)
  else
    let currentSSID := ui.config.getString lib (ascii "wifi_ssid") []
    let newSSID := request.arg (ascii "wifi_ssid")
    let wifiChanged := newSSID ≠ currentSSID ∧ newSSID ≠ []
    let config := request.args.foldl applyArgument ui.config
    let config := checkBoxes.foldl (uncheck request) config
    let newLogLevel := config.getString lib (ascii "log_level") (ascii "info")
    let saved := config.save lib ui.fs here.room
    let ui :=
      { ui with
        config := config
        fs := saved.2
        logLevel := ESPLogger.stringToLogLevel newLogLevel }
    if saved.1 then
      let message :=
        if wifiChanged ∧ here.apMode then
          ascii "WiFi configuration saved! Device will connect to your network and reboot..."
        else if wifiChanged then
          ascii "WiFi configuration changed! Device will reconnect and reboot..."
        else ascii "Configuration saved! Device will reboot..."
      (ui, ⟨.sendSuccessWithRedirect message, true⟩)
    else (ui, ⟨.sendError (ascii "Failed to save configuration"), false⟩)

/-! ## Restarting and resetting -/

/-- The response to a request without the token. -/
def forbidden : Reply := ⟨.send 403 (ascii "CSRF token missing or invalid."), false⟩

/-- `handleReboot`. -/
def handleReboot : WebUI σ × Reply :=
  if !ui.validateCSRFToken request then (ui, forbidden)
  else (ui, ⟨.sendSuccessWithRedirect (ascii "Device is rebooting..."), true⟩)

/-- `handleFactoryReset`. -/
def handleFactoryReset : WebUI σ × Reply :=
  if !ui.validateCSRFToken request then (ui, forbidden)
  else
    let reset := ui.config.factoryReset lib ui.fs here.room
    let ui := { ui with config := reset.2.1, fs := reset.2.2 }
    if reset.1 then
      (ui, ⟨.sendSuccessWithRedirect
        (ascii "Factory reset completed! Device will restart in setup mode..."), true⟩)
    else (ui, ⟨.sendError (ascii "Factory reset failed"), false⟩)

/-- `handleRestartmDNS`. -/
def handleRestartmDNS : WebUI σ × Reply :=
  if !ui.validateCSRFToken request then (ui, forbidden)
  else if here.apMode then
    (ui, ⟨.sendError (ascii "mDNS is not available in AP mode. Connect to WiFi first."), false⟩)
  else if !here.connected then
    (ui, ⟨.sendError (ascii "Device must be connected to WiFi to use mDNS."), false⟩)
  else
    (ui, ⟨.sendSuccessWithRedirect
      (ascii "mDNS service restarted! Try accessing via hostname now..."), false⟩)

/-! ## Firmware -/

/-- The handler of uploads, which runs while the request is received. -/
def receiveFirmware (update : σ) : HTTPUpload → σ
  | .fileStart => (ota.begin update).2
  | .fileWrite buf => (ota.write buf update).2
  | .fileEnd => (ota.finish update).2
  | .fileAborted => update

/-- `handleOTAUpload`. -/
def handleOTAUpload : WebUI σ × Reply :=
  if !ui.validateCSRFToken request then
    (ui, ⟨.send 403 (ascii "CSRF token missing or invalid. Firmware may have been staged but " ++
      ascii "reboot is blocked."), false⟩)
  else if ota.hasError ui.update then (ui, ⟨.sendError (ascii "OTA Update failed!"), false⟩)
  else
    (ui, ⟨.sendSuccessWithRedirect
      (ascii "Firmware update successful! Device will reboot and restart..."), true⟩)

/-! ## The log level -/

/-- The characters that `handleLogConfig` allows. -/
def isLogConfigChar (c : UInt8) : Bool :=
  isAlnum c || c == 123 || c == 125 || c == 34 || c == 58 || c == 32 || c == 95

/-- The text between the quotes after `"level":`, in lower case, if `handleLogConfig` finds one. -/
def requestedLevel (body : Bytes) : Option Bytes :=
  if includes body (ascii "\"level\":") then
    match indexFrom body (ascii "\"level\":\"") 0 with
    | none => none
    | some i =>
        let start := i + 9
        match indexFrom body (ascii "\"") start with
        | none => none
        | some stop =>
            if stop > start ∧ stop - start < 10 then
              some (toLowerCase ((body.drop start).take (stop - start)))
            else none
  else none

/-- The names of the log levels. -/
def logLevels : List Bytes := [ascii "error", ascii "warn", ascii "info", ascii "debug"]

/-- What a body asks of `handleLogConfig`: a level, or nothing but an error. -/
def logConfigBody (body : Bytes) : Except Bytes Bytes :=
  if body.length = 0 ∨ body.length > 256 then
    .error (ascii "\x7b\"error\":\"Invalid request body size\"\x7d")
  else if !body.all isLogConfigChar then
    .error (ascii "\x7b\"error\":\"Invalid characters in request\"\x7d")
  else
    match requestedLevel body with
    | none => .error (ascii "\x7b\"error\":\"Invalid log level format\"\x7d")
    | some newLevel =>
        if !logLevels.contains newLevel then
          .error (ascii "\x7b\"error\":\"Invalid log level value\"\x7d")
        else .ok newLevel

/-- `handleLogConfig`. -/
def handleLogConfig : WebUI σ × Reply :=
  if request.method ≠ .post then
    (ui, ⟨.send 405 (ascii "\x7b\"error\":\"Method not allowed\"\x7d"), false⟩)
  else
    match logConfigBody (request.arg (ascii "plain")) with
    | .error message => (ui, ⟨.send 400 message, false⟩)
    | .ok newLevel =>
        let config := ui.config.setString (ascii "log_level") newLevel
        let ui :=
          { ui with
            config := config
            fs := (config.save lib ui.fs here.room).2
            logLevel := ESPLogger.stringToLogLevel newLevel }
        (ui, ⟨.send 200 (ascii "\x7b\"success\":true,\"level\":\"" ++ newLevel ++ ascii "\"\x7d"),
          false⟩)

/-! ## Diagnostics -/

/-- The action `upload_json`. -/
def uploadJSON (filename content : Bytes) : WebUI σ × UploadResult :=
  if !isSafeDeviceFilename filename then (ui, .invalidFilename)
  else if content.length > GenericModbusDevice.maxJSONFileBytes then (ui, .tooLarge)
  else
    match GenericModbusDevice.validateJSON lib content with
    | .error error => (ui, .invalidDevice error)
    | .ok _ =>
        if !ui.fs.mounted then (ui, .mountFailed)
        else
          let fs :=
            if !ui.fs.fileExists (ascii "/devices") then ui.fs.mkdir (ascii "/devices") else ui.fs
          match here.room with
          | none => ({ ui with fs := fs }, .writeFailed)
          | some room =>
              ({ ui with fs := fs.put (devicePath filename) (content.take room) },
                .uploaded filename)

/-- The action `delete_json`. -/
def deleteJSON (filename : Bytes) : WebUI σ × DeleteResult :=
  if !isSafeDeviceFilename filename then (ui, .invalidFilename)
  else if !ui.fs.mounted then (ui, .mountFailed)
  else if ui.fs.fileExists (devicePath filename) then
    if here.removes then ({ ui with fs := ui.fs.remove (devicePath filename) }, .deleted filename)
    else (ui, .failed)
  else (ui, .notFound)

/-- `handleDiagnosticsAPI`. The other actions look at the bus, at the frame log or at the directory,
and report what they find. -/
def handleDiagnosticsAPI : WebUI σ × Reply :=
  if !ui.config.getBool (ascii "enable_diagnostics") false then
    (ui, ⟨.send 403 (ascii "\x7b\"error\":\"Diagnostics disabled\"\x7d"), false⟩)
  else
    match lib.deserializeJson (request.arg (ascii "plain")) with
    | .error _ => (ui, ⟨.send 400 (ascii "\x7b\"error\":\"Invalid JSON\"\x7d"), false⟩)
    | .ok doc =>
        let action := (doc.member (ascii "action")).asString lib
        let filename := (doc.member (ascii "filename")).asString lib
        if action = ascii "upload_json" then
          let content := (doc.member (ascii "content")).asString lib
          let uploaded := ui.uploadJSON lib here filename content
          (uploaded.1, ⟨.upload uploaded.2, false⟩)
        else if action = ascii "delete_json" then
          let deleted := ui.deleteJSON here filename
          (deleted.1, ⟨.delete deleted.2, false⟩)
        else (ui, ⟨.report, false⟩)

/-! ## Pages -/

/-- `handleDiagnostics`. -/
def handleDiagnostics : WebUI σ × Reply :=
  if !ui.config.getBool (ascii "enable_diagnostics") false then
    (ui, ⟨.page (ascii "Diagnostics Disabled"), false⟩)
  else (ui, ⟨.page (ascii "Modbus Diagnostics"), false⟩)

/-- `handleCaptivePortal`. -/
def handleCaptivePortal : WebUI σ × Reply :=
  if here.apMode then (ui, ⟨.redirect, false⟩) else (ui, ⟨.send 204 [], false⟩)

/-- `handleNotFound`. -/
def handleNotFound : WebUI σ × Reply :=
  if here.apMode then
    if includes request.uri (ascii "generate_204") ∨ includes request.uri (ascii "hotspot-detect") ∨
        includes request.uri (ascii "ncsi.txt") ∨
        includes request.uri (ascii "connectivity-check") ∨ request.uri = ascii "/redirect" ∨
        request.uri = ascii "/fwlink/" ∨ (ascii "/fwlink").isPrefixOf request.uri then
      (ui, ⟨.redirect, false⟩)
    else (ui, ⟨.page (ascii "Configuration"), false⟩)
  else
    (ui, ⟨.send 404 (ascii "File Not Found\n\nURI: " ++ request.uri ++ ascii "\nMethod: " ++
      (if request.method = .get then ascii "GET" else ascii "POST") ++ ascii "\n"), false⟩)

/-! ## Routes -/

/-- The handlers of the routes. -/
inductive Handler
  | root
  | save
  | status
  | console
  | logs
  | logDownload
  | logConfig
  | apiStatus
  | diagnostics
  | diagnosticsAPI
  | reboot
  | restartmDNS
  | factoryReset
  | otaForm
  | otaUpload
  | captivePortal
  deriving DecidableEq

/-- The routes that `begin` registers, in their order. -/
def routes : List (Bytes × HTTPMethod × Handler) :=
  [(ascii "/", .get, .root),
    (ascii "/save", .post, .save),
    (ascii "/status", .get, .status),
    (ascii "/console", .get, .console),
    (ascii "/api/logs", .get, .logs),
    (ascii "/api/logs/download", .get, .logDownload),
    (ascii "/api/log/config", .post, .logConfig),
    (ascii "/api/status", .get, .apiStatus),
    (ascii "/diagnostics", .get, .diagnostics),
    (ascii "/api/diagnostics", .post, .diagnosticsAPI),
    (ascii "/reboot", .post, .reboot),
    (ascii "/restart_mdns", .post, .restartmDNS),
    (ascii "/factory", .post, .factoryReset),
    (ascii "/update", .get, .otaForm),
    (ascii "/update", .post, .otaUpload),
    (ascii "/generate_204", .get, .captivePortal),
    (ascii "/hotspot-detect.html", .get, .captivePortal),
    (ascii "/library/test/success.html", .get, .captivePortal),
    (ascii "/ncsi.txt", .get, .captivePortal),
    (ascii "/connectivity-check.html", .get, .captivePortal),
    (ascii "/redirect", .get, .captivePortal),
    (ascii "/fwlink/", .get, .captivePortal)]

/-- The first route that takes the request. -/
def route : Option Handler :=
  (routes.find? fun entry => entry.1 == request.uri && entry.2.1 == request.method).map
    fun entry => entry.2.2

/-- The call of a handler. -/
def dispatch : Option Handler → WebUI σ × Reply
  | none => ui.handleNotFound request here
  | some .root => (ui, ⟨.page (ascii "Configuration"), false⟩)
  | some .save => ui.handleSave lib request here
  | some .status => (ui, ⟨.page (ascii "Status"), false⟩)
  | some .console => (ui, ⟨.page (ascii "Console"), false⟩)
  | some .logs | some .logDownload | some .apiStatus => (ui, ⟨.report, false⟩)
  | some .logConfig => ui.handleLogConfig lib request here
  | some .diagnostics => ui.handleDiagnostics
  | some .diagnosticsAPI => ui.handleDiagnosticsAPI lib request here
  | some .reboot => ui.handleReboot request
  | some .restartmDNS => ui.handleRestartmDNS request here
  | some .factoryReset => ui.handleFactoryReset lib request here
  | some .otaForm => (ui, ⟨.page (ascii "Firmware Update"), false⟩)
  | some .otaUpload => ui.handleOTAUpload ota request
  | some .captivePortal => ui.handleCaptivePortal here

/-- What the server does with a request. Only one route takes uploads. -/
def serve : WebUI σ × Reply :=
  let handler := route request
  let ui :=
    if handler = some .otaUpload then
      { ui with update := request.uploads.foldl (receiveFirmware ota) ui.update }
    else ui
  ui.dispatch lib ota request here handler

end WebUI

end ModbusBridge
