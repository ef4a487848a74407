import ModbusBridge.WebUI.Requests

/-!
# Requests without the token

Which requests that do not carry the token of the session leave the configuration, the files and the
staged firmware as they are.
-/

namespace ModbusBridge

/-! ## Writing what is there -/

theorem Json.assign_eq_self_iff {key : Bytes} {value : Json} {members : List (Bytes × Json)} :
    Json.assign key value members = members ↔ members.lookup key = some value := by
  induction members with
  | nil => simp [Json.assign]
  | cons entry members induction =>
      obtain ⟨name, old⟩ := entry
      rw [Json.assign]
      split_ifs with same
      · simp [same, eq_comm]
      · have other : (key == name) = false := by simpa using Ne.symm same
        simp [List.lookup_cons, other, induction]

/-- Setting a member changes nothing if it has this value already, or if there are no members. -/
theorem Json.setMember_eq_self_iff {document value : Json} {key : Bytes} (present : value ≠ .null) :
    document.setMember key value = document ↔
      (document.Writable → document.member key = value) := by
  cases document with
  | null => simp [Json.setMember, Json.Writable, Json.member, present.symm]
  | object members =>
      simp only [Json.setMember, Json.object.injEq, Json.assign_eq_self_iff, Json.Writable,
        Json.member, forall_const]
      cases members.lookup key with
      | none => simp [present.symm]
      | some old => simp
  | _ => simp [Json.setMember, Json.Writable]

theorem Config.setString_eq_self_iff {config : Config} {key value : Bytes} :
    config.setString key value = config ↔
      (config.document.Writable → config.document.member key = .string value) := by
  rw [← Json.setMember_eq_self_iff (by simp)]
  constructor
  · exact fun same => congrArg Config.document same
  · intro same
    rw [Config.setString, Config.set]
    rw [same]

/-- Opening and writing a file leaves it as it is. -/
def LittleFS.Keeps (fs : LittleFS) (room : Room) (path text : Bytes) : Prop :=
  ∀ bytes, room = some bytes → fs.files path = some (text.take bytes)

theorem LittleFS.put_files_eq_iff {base fs : LittleFS} (same : base.files = fs.files)
    {path content : Bytes} :
    (base.put path content).files = fs.files ↔ fs.files path = some content := by
  rw [LittleFS.put, same, Function.update_eq_self_iff, eq_comm]

theorem LittleFS.remove_files_eq_iff {fs : LittleFS} {path : Bytes} :
    (fs.remove path).files = fs.files ↔ fs.files path = none := by
  rw [LittleFS.remove, Function.update_eq_self_iff, eq_comm]

theorem Config.save_files_eq_iff {lib : ArduinoJson} {config : Config} {fs : LittleFS}
    {room : Room} :
    (config.save lib fs room).2.files = fs.files ↔
      (config.validate lib fs = true →
        fs.Keeps room config.configPath (lib.serializeJsonPretty config.document)) := by
  unfold Config.save LittleFS.Keeps
  cases config.validate lib fs with
  | false => simp
  | true =>
      cases room with
      | none => simp
      | some bytes => simp [LittleFS.put_files_eq_iff rfl]

namespace WebUI

variable {σ : Type} {lib : ArduinoJson} {ota : UpdateClass σ} {ui : WebUI σ}
  {request : HTTPRequest} {here : Surroundings}

/-! ## What may change -/

/-- The configuration, the files and the staged firmware are the same. -/
structure Unchanged (ota : UpdateClass σ) (before after : WebUI σ) : Prop where
  config : after.config = before.config
  files : after.fs.files = before.fs.files
  staged : ota.staged after.update = ota.staged before.update

theorem Unchanged.refl (ota : UpdateClass σ) (ui : WebUI σ) : Unchanged ota ui ui := ⟨rfl, rfl, rfl⟩

theorem unchanged_fs_iff {fs : LittleFS} :
    Unchanged ota ui { ui with fs := fs } ↔ fs.files = ui.fs.files :=
  ⟨Unchanged.files, fun same => ⟨rfl, same, rfl⟩⟩

/-- The request has the token among its arguments. -/
def CarriesToken (ui : WebUI σ) (request : HTTPRequest) : Prop :=
  request.args.lookup (ascii "_csrf") = some ui.csrfToken

instance : Decidable (ui.CarriesToken request) := inferInstanceAs (Decidable (_ = _))

theorem validateCSRFToken_eq_false (absent : ¬ ui.CarriesToken request) :
    ui.validateCSRFToken request = false := by
  rw [validateCSRFToken, HTTPRequest.hasArg, HTTPRequest.arg]
  rw [CarriesToken] at absent
  cases found : request.args.lookup (ascii "_csrf") with
  | none => simp
  | some value =>
      rw [found] at absent
      have different : (value == ui.csrfToken) = false := by simpa using absent
      simp [different]

/-! ## The handlers that do not ask for the token -/

/-- A request to `/api/log/config` asks for no level, or for the one that is set and saved. -/
def HarmlessLevel (lib : ArduinoJson) (ui : WebUI σ) (request : HTTPRequest) (here : Surroundings) :
    Prop :=
  ∀ level, logConfigBody (request.arg (ascii "plain")) = .ok level →
    (ui.config.document.Writable →
      ui.config.document.member (ascii "log_level") = .string level) ∧
    (ui.config.validate lib ui.fs = true →
      ui.fs.Keeps here.room ui.config.configPath (lib.serializeJsonPretty ui.config.document))

/-- An upload is refused, or its file holds already what is written. -/
def HarmlessUpload (lib : ArduinoJson) (ui : WebUI σ) (here : Surroundings)
    (filename content : Bytes) : Prop :=
  isSafeDeviceFilename filename = true → content.length ≤ GenericModbusDevice.maxJSONFileBytes →
    (∃ declarations, GenericModbusDevice.validateJSON lib content = .ok declarations) →
      ui.fs.mounted = true → ui.fs.Keeps here.room (devicePath filename) content

/-- A deletion is refused, or there is no such file. -/
def HarmlessDeletion (ui : WebUI σ) (here : Surroundings) (filename : Bytes) : Prop :=
  isSafeDeviceFilename filename = true → ui.fs.mounted = true → here.removes = true →
    ui.fs.files (devicePath filename) = none

/-- A request to `/api/diagnostics` is refused, or its action is harmless. -/
def HarmlessAction (lib : ArduinoJson) (ui : WebUI σ) (request : HTTPRequest)
    (here : Surroundings) : Prop :=
  ui.config.getBool (ascii "enable_diagnostics") false = true →
    ∀ doc, lib.deserializeJson (request.arg (ascii "plain")) = .ok doc →
      let action := (doc.member (ascii "action")).asString lib
      let filename := (doc.member (ascii "filename")).asString lib
      (action = ascii "upload_json" →
        ui.HarmlessUpload lib here filename ((doc.member (ascii "content")).asString lib)) ∧
      (action = ascii "delete_json" → ui.HarmlessDeletion here filename)

/-- The images that `end(true)` accepts while the parts of a request are received. -/
def acceptedImages (ota : UpdateClass σ) : σ → List HTTPUpload → List Bytes
  | _, [] => []
  | update, part :: parts =>
      (if part = .fileEnd ∧ (ota.finish update).1 = true then [ota.received update] else []) ++
        acceptedImages ota (receiveFirmware ota update part) parts

/-- A request to `/update` has no parts, or `end(true)` accepts none of its images, or the last one
that it accepts is staged already. -/
def HarmlessFirmware (ota : UpdateClass σ) (ui : WebUI σ) (request : HTTPRequest) : Prop :=
  ∀ image ∈ (acceptedImages ota ui.update request.uploads).getLast?,
    ota.staged ui.update = some image

/-- A request that changes nothing though it has no token. -/
def Harmless (lib : ArduinoJson) (ota : UpdateClass σ) (ui : WebUI σ) (request : HTTPRequest)
    (here : Surroundings) : Prop :=
  match route request with
  | some .logConfig => ui.HarmlessLevel lib request here
  | some .diagnosticsAPI => ui.HarmlessAction lib request here
  | some .otaUpload => ui.HarmlessFirmware ota request
  | _ => True

theorem handleLogConfig_unchanged_iff (post : request.method = .post) :
    Unchanged ota ui (ui.handleLogConfig lib request here).1 ↔
      ui.HarmlessLevel lib request here := by
  rw [handleLogConfig, HarmlessLevel]
  rw [if_neg (by simp [post])]
  cases logConfigBody (request.arg (ascii "plain")) with
  | error message => simp [Unchanged.refl]
  | ok level =>
      simp only [Except.ok.injEq, forall_eq', ← Config.setString_eq_self_iff,
        ← Config.save_files_eq_iff]
      constructor
      · rintro ⟨same, files, -⟩
        have same : ui.config.setString (ascii "log_level") level = ui.config := same
        have files : ((ui.config.setString (ascii "log_level") level).save lib ui.fs
            here.room).2.files = ui.fs.files := files
        rw [same] at files
        exact ⟨same, files⟩
      · rintro ⟨same, files⟩
        rw [same]
        exact ⟨rfl, files, rfl⟩

theorem uploadJSON_unchanged_iff (filename content : Bytes) :
    Unchanged ota ui (ui.uploadJSON lib here filename content).1 ↔
      ui.HarmlessUpload lib here filename content := by
  rw [uploadJSON, HarmlessUpload]
  cases isSafeDeviceFilename filename with
  | false => simp [Unchanged.refl]
  | true =>
      by_cases large : content.length > GenericModbusDevice.maxJSONFileBytes
      · simp [large, Nat.not_le.mpr large, Unchanged.refl]
      · simp only [Bool.not_true, Bool.false_eq_true, if_false, if_neg large, forall_const,
          Nat.not_lt.mp large]
        cases GenericModbusDevice.validateJSON lib content with
        | error error => simp [Unchanged.refl]
        | ok declarations =>
            cases ui.fs.mounted with
            | false => simp [Unchanged.refl]
            | true =>
                have present : (if !ui.fs.fileExists (ascii "/devices") then
                    ui.fs.mkdir (ascii "/devices") else ui.fs).files = ui.fs.files := by
                  split_ifs <;> rfl
                dsimp only
                generalize (if !ui.fs.fileExists (ascii "/devices") then
                    ui.fs.mkdir (ascii "/devices") else ui.fs) = base at present ⊢
                cases here.room with
                | none => simp [unchanged_fs_iff, present, LittleFS.Keeps]
                | some bytes =>
                    simp [unchanged_fs_iff, LittleFS.put_files_eq_iff present, LittleFS.Keeps]

theorem deleteJSON_unchanged_iff (filename : Bytes) :
    Unchanged ota ui (ui.deleteJSON here filename).1 ↔ ui.HarmlessDeletion here filename := by
  rw [deleteJSON, HarmlessDeletion]
  cases isSafeDeviceFilename filename with
  | false => simp [Unchanged.refl]
  | true =>
      cases ui.fs.mounted with
      | false => simp [Unchanged.refl]
      | true =>
          simp only [Bool.not_true, Bool.false_eq_true, if_false, forall_const]
          split_ifs with present removes
          · simp [unchanged_fs_iff, LittleFS.remove_files_eq_iff, removes]
          · simp [Unchanged.refl, removes]
          · have none : ui.fs.files (devicePath filename) = none := by
              simp only [LittleFS.fileExists, Bool.or_eq_true, not_or] at present
              simpa using present.1
            simp [Unchanged.refl, none]

theorem handleDiagnosticsAPI_unchanged_iff :
    Unchanged ota ui (ui.handleDiagnosticsAPI lib request here).1 ↔
      ui.HarmlessAction lib request here := by
  rw [handleDiagnosticsAPI, HarmlessAction]
  cases ui.config.getBool (ascii "enable_diagnostics") false with
  | false => simp [Unchanged.refl]
  | true =>
      simp only [Bool.not_true, Bool.false_eq_true, if_false, forall_const]
      cases lib.deserializeJson (request.arg (ascii "plain")) with
      | error error => simp [Unchanged.refl]
      | ok doc =>
          simp only [Except.ok.injEq, forall_eq']
          have other : ascii "upload_json" ≠ ascii "delete_json" := by decide
          split_ifs with upload delete
          · simp [uploadJSON_unchanged_iff, upload, other]
          · simp [deleteJSON_unchanged_iff, delete, other.symm]
          · simp [Unchanged.refl, upload, delete]

/-- What is staged after some parts: the last image that was accepted, or what was staged before. -/
theorem staged_receiveFirmware (update : σ) (parts : List HTTPUpload) :
    ota.staged (parts.foldl (receiveFirmware ota) update) =
      (acceptedImages ota update parts).getLast?.or (ota.staged update) := by
  induction parts generalizing update with
  | nil => rfl
  | cons part parts induction =>
      rw [List.foldl_cons, induction, acceptedImages]
      cases part with
      | fileStart => simp [receiveFirmware, ota.staged_begin]
      | fileWrite buf => simp [receiveFirmware, ota.staged_write]
      | fileEnd =>
          rw [receiveFirmware, ota.staged_finish, List.getLast?_append, Option.or_assoc]
          cases (ota.finish update).1 <;> simp
      | fileAborted => simp [receiveFirmware]

theorem staged_eq_iff : ota.staged (request.uploads.foldl (receiveFirmware ota) ui.update) =
      ota.staged ui.update ↔ ui.HarmlessFirmware ota request := by
  rw [staged_receiveFirmware, HarmlessFirmware]
  cases (acceptedImages ota ui.update request.uploads).getLast? with
  | none => simp
  | some image => simp [eq_comm]

/-- All other handlers ask for the token, or only look. -/
theorem dispatch_eq_self (ui : WebUI σ) (absent : ¬ ui.CarriesToken request)
    {handler : Option Handler} (noLevel : handler ≠ some .logConfig)
    (noAction : handler ≠ some .diagnosticsAPI) :
    (ui.dispatch lib ota request here handler).1 = ui := by
  have refused := validateCSRFToken_eq_false absent
  cases handler with
  | none =>
      rw [dispatch, handleNotFound]
      split_ifs <;> rfl
  | some handler =>
      cases handler with
      | logConfig => exact (noLevel rfl).elim
      | diagnosticsAPI => exact (noAction rfl).elim
      | save => simp [dispatch, handleSave, refused]
      | reboot => simp [dispatch, handleReboot, refused]
      | restartmDNS => simp [dispatch, handleRestartmDNS, refused]
      | factoryReset => simp [dispatch, handleFactoryReset, refused]
      | otaUpload => simp [dispatch, handleOTAUpload, refused]
      | diagnostics =>
          rw [dispatch, handleDiagnostics]
          split_ifs <;> rfl
      | captivePortal =>
          rw [dispatch, handleCaptivePortal]
          split_ifs <;> rfl
      | _ => rfl

theorem route_logConfig (routed : route request = some .logConfig) : request.method = .post := by
  obtain ⟨entry, found, handler⟩ := Option.map_eq_some_iff.mp routed
  have posts : ∀ entry ∈ routes, entry.2.2 = .logConfig → entry.2.1 = .post := by decide
  have matched := List.find?_some found
  simp only [Bool.and_eq_true, beq_iff_eq] at matched
  rw [← matched.2]
  exact posts entry (List.mem_of_find?_eq_some found) handler

/-- A request without the token changes nothing if and only if it is harmless. -/
theorem serve_unchanged_iff (lib : ArduinoJson) (ota : UpdateClass σ) (ui : WebUI σ)
    (request : HTTPRequest) (here : Surroundings) (absent : ¬ ui.CarriesToken request) :
    Unchanged ota ui (ui.serve lib ota request here).1 ↔ ui.Harmless lib ota request here := by
  unfold serve Harmless
  generalize routed : route request = handler
  dsimp only
  by_cases firmware : handler = some .otaUpload
  · subst firmware
    rw [if_pos rfl]
    let received := { ui with update := request.uploads.foldl (receiveFirmware ota) ui.update }
    have kept : (received.dispatch lib ota request here (some .otaUpload)).1 = received :=
      dispatch_eq_self received absent (by decide) (by decide)
    rw [kept]
    exact ⟨fun same => staged_eq_iff.mp same.staged,
      fun harmless => ⟨rfl, rfl, staged_eq_iff.mpr harmless⟩⟩
  · rw [if_neg firmware]
    by_cases level : handler = some .logConfig
    · subst level
      exact handleLogConfig_unchanged_iff (route_logConfig routed)
    · by_cases action : handler = some .diagnosticsAPI
      · subst action
        exact handleDiagnosticsAPI_unchanged_iff
      · rw [dispatch_eq_self ui absent level action]
        split
        · exact (level rfl).elim
        · exact (action rfl).elim
        · exact (firmware rfl).elim
        · exact iff_of_true (.refl ota ui) trivial

/-! ## Some requests -/

/-- Firmware that is being received, and firmware that is staged. -/
structure Image where
  running : Bool
  received : Bytes
  staged : Option Bytes

/-- A library that takes every image. -/
def imageUpdate : UpdateClass Image where
  begin image :=
    if image.running then (false, image) else (true, { image with running := true, received := [] })
  write buf image :=
    if !image.running then (0, image)
    else (buf.length, { image with received := image.received ++ buf })
  finish image :=
    if !image.running then (false, image)
    else (true, { image with running := false, staged := some image.received })
  hasError _ := false
  received image := image.received
  staged image := image.staged
  staged_begin image := by split <;> rfl
  staged_write buf image := by split <;> rfl
  staged_finish image := by split <;> rfl

/-- A device with diagnostics and one device file. -/
def sampleUI : WebUI Image where
  config := Config.initial.setBool (ascii "enable_diagnostics") true
  fs :=
    { mounted := true
      files := fun path => if path = devicePath (ascii "meter.json") then some [123, 125] else none
      directories := fun path => path = ascii "/devices" }
  csrfToken := ascii "00112233445566778899aabbccddeeff"
  logLevel := .info
  update := ⟨false, [], none⟩

/-- The body of a request to delete the file. -/
def deletion : Bytes :=
  ascii "\x7b\"action\":\"delete_json\",\"filename\":\"meter.json\"\x7d"

/-- The library with that body. -/
def deletionJson : ArduinoJson :=
  flatJson [(deletion, .object [(ascii "action", .string (ascii "delete_json")),
    (ascii "filename", .string (ascii "meter.json"))])]

/-- A POST request with one argument, or with parts. -/
def post (uri name value : Bytes) (uploads : List HTTPUpload) : HTTPRequest :=
  ⟨.post, uri, [(name, value)], uploads⟩

/-- The surroundings of all these requests. -/
def ample : Surroundings := ⟨some 4096, true, false, true⟩

theorem save_unchanged :
    Unchanged imageUpdate sampleUI (sampleUI.serve deletionJson imageUpdate
      (post (ascii "/save") (ascii "wifi_ssid") (ascii "other") []) ample).1 := by
  refine (serve_unchanged_iff _ _ _ _ _ (by decide +kernel)).mpr ?_
  have routed : route (post (ascii "/save") (ascii "wifi_ssid") (ascii "other") []) =
      some .save := by decide +kernel
  rw [Harmless, routed]
  trivial

/-- A log level is set and saved, a device file is deleted, and firmware is staged, all without the
token. -/
theorem tokenless_changes :
    let level := post (ascii "/api/log/config") (ascii "plain")
      (ascii "\x7b\"level\":\"debug\"\x7d") []
    let delete := post (ascii "/api/diagnostics") (ascii "plain") deletion []
    let update := post (ascii "/update") (ascii "name") (ascii "firmware")
      [.fileStart, .fileWrite [0xE9, 0x03], .fileEnd]
    let after := fun request => (sampleUI.serve deletionJson imageUpdate request ample).1
    (¬ sampleUI.CarriesToken level ∧ ¬ sampleUI.CarriesToken delete ∧
      ¬ sampleUI.CarriesToken update) ∧
    (after level).config.getString deletionJson (ascii "log_level") [] ≠
      sampleUI.config.getString deletionJson (ascii "log_level") [] ∧
    (after level).fs.files (ascii "/config.json") ≠ sampleUI.fs.files (ascii "/config.json") ∧
    (after delete).fs.files (devicePath (ascii "meter.json")) ≠
      sampleUI.fs.files (devicePath (ascii "meter.json")) ∧
    imageUpdate.staged (after update).update ≠ imageUpdate.staged sampleUI.update := by
  decide +kernel

end WebUI

end ModbusBridge
