import Mathlib.Data.List.TakeDrop
import ModbusBridge.Devices.Loading
import ModbusBridge.Library.StepSystem
import ModbusBridge.WebUI.Requests

/-!
# Uploading devices

An upload that passes the checks opens its file, which truncates it, and writes the content. Nobody
looks at how much of it has been written, so that a full flash leaves the beginning of a device
behind and the upload succeeds all the same.
-/

namespace ModbusBridge

/-- `validateJSON` returns true. -/
def Validates (lib : ArduinoJson) (content : Bytes) : Prop :=
  ∃ declarations, GenericModbusDevice.validateJSON lib content = .ok declarations

/-- A safe name has no slash, so that the file lies in the directory itself. -/
theorem isSafeDeviceFilename_flat {filename : Bytes}
    (safe : isSafeDeviceFilename filename = true) : 47 ∉ filename := by
  rw [isSafeDeviceFilename] at safe
  split_ifs at safe with empty slash
  simpa using slash

theorem devicePath_injective {filename other : Bytes}
    (same : devicePath filename = devicePath other) : filename = other :=
  List.append_cancel_left same

namespace WebUI

variable {σ : Type} {lib : ArduinoJson} {ui : WebUI σ} {here : Surroundings}
  {filename content : Bytes}

/-! ## One upload -/

/-- The upload passes the checks that come before the file is opened. -/
structure Uploadable (lib : ArduinoJson) (ui : WebUI σ) (filename content : Bytes) : Prop where
  safe : isSafeDeviceFilename filename = true
  small : content.length ≤ GenericModbusDevice.maxJSONFileBytes
  validates : Validates lib content
  mounted : ui.fs.mounted = true

/-- The files after an upload, and whether it has succeeded. -/
def outcome (uploaded : WebUI σ × UploadResult) : (Bytes → Option Bytes) × Option Bytes :=
  (uploaded.1.fs.files,
    match uploaded.2 with
    | .uploaded name => some name
    | _ => none)

theorem uploadJSON_rejected (rejected : ¬ Uploadable lib ui filename content) :
    outcome (ui.uploadJSON lib here filename content) = (ui.fs.files, none) := by
  rw [uploadJSON]
  by_cases safe : isSafeDeviceFilename filename = true
  · by_cases large : content.length > GenericModbusDevice.maxJSONFileBytes
    · rw [if_neg (by simp [safe]), if_pos large]
      rfl
    · rw [if_neg (by simp [safe]), if_neg large]
      cases validated : GenericModbusDevice.validateJSON lib content with
      | error error => rfl
      | ok declarations =>
          have unmounted : (!ui.fs.mounted) = true := by
            by_contra mounted
            exact rejected ⟨safe, Nat.not_lt.mp large, ⟨_, validated⟩, by simpa using mounted⟩
          dsimp only
          rw [if_pos unmounted]
          rfl
  · rw [if_pos (by simpa using safe)]
    rfl

/-- An upload that passes the checks leaves whatever the flash takes. -/
theorem uploadJSON_accepted (accepted : Uploadable lib ui filename content) :
    outcome (ui.uploadJSON lib here filename content) =
      match here.room with
      | none => (ui.fs.files, none)
      | some room => ((ui.fs.put (devicePath filename) (content.take room)).files,
          some filename) := by
  obtain ⟨declarations, validated⟩ := accepted.validates
  rw [uploadJSON, if_neg (by simp [accepted.safe]), if_neg (Nat.not_lt.mpr accepted.small),
    validated]
  dsimp only
  rw [if_neg (by simp [accepted.mounted])]
  cases here.room <;> split_ifs <;> rfl

/-- What an upload should do: store the content that was validated, in the directory itself, or
change no file. -/
def StoredExactly (lib : ArduinoJson) (ui : WebUI σ) (filename content : Bytes)
    (uploaded : WebUI σ × UploadResult) : Prop :=
  match uploaded.2 with
  | .uploaded name =>
      name = filename ∧ 47 ∉ filename ∧ Validates lib content ∧
        uploaded.1.fs.files (devicePath filename) = some content
  | _ => uploaded.1.fs.files = ui.fs.files

theorem storedExactly_iff (uploaded : WebUI σ × UploadResult) :
    StoredExactly lib ui filename content uploaded ↔
      match (outcome uploaded).2 with
      | some name =>
          name = filename ∧ 47 ∉ filename ∧ Validates lib content ∧
            (outcome uploaded).1 (devicePath filename) = some content
      | none => (outcome uploaded).1 = ui.fs.files := by
  obtain ⟨after, result⟩ := uploaded
  cases result <;> rfl

/-- An upload stores a device exactly or not at all, if and only if the flash takes the whole
content of an upload that passes the checks and whose file opens. -/
theorem uploadJSON_exact_iff (lib : ArduinoJson) (ui : WebUI σ) (here : Surroundings)
    (filename content : Bytes) :
    StoredExactly lib ui filename content (ui.uploadJSON lib here filename content) ↔
      (Uploadable lib ui filename content → ∀ room, here.room = some room →
        content.length ≤ room) := by
  rw [storedExactly_iff]
  by_cases accepted : Uploadable lib ui filename content
  · rw [uploadJSON_accepted accepted]
    cases opened : here.room with
    | none => simp
    | some room =>
        simp [accepted, accepted.validates, isSafeDeviceFilename_flat accepted.safe,
          List.take_eq_self_iff content]
  · rw [uploadJSON_rejected accepted]
    exact iff_of_true rfl fun accepts => absurd accepts accepted

/-- A flash without a device. -/
def emptyFlash : WebUI Unit where
  config := .initial
  fs := ⟨true, fun _ => none, fun _ => true⟩
  csrfToken := []
  logLevel := .info
  update := ()

/-- A flash that takes one byte. -/
def oneByte : Surroundings := ⟨some 1, true, false, true⟩

/-- Of a valid device one byte is stored, and the upload succeeds. -/
theorem uploadJSON_cut_short :
    ¬ StoredExactly GenericModbusDevice.powerJson emptyFlash (ascii "p.json")
      (GenericModbusDevice.powerText true)
      (emptyFlash.uploadJSON GenericModbusDevice.powerJson oneByte (ascii "p.json")
        (GenericModbusDevice.powerText true)) := by
  rw [storedExactly_iff]
  have stored : (outcome (emptyFlash.uploadJSON GenericModbusDevice.powerJson oneByte
      (ascii "p.json") (GenericModbusDevice.powerText true))).1 (devicePath (ascii "p.json")) =
        some (ascii "\x7b") := by
    decide +kernel
  have succeeds : (outcome (emptyFlash.uploadJSON GenericModbusDevice.powerJson oneByte
      (ascii "p.json") (GenericModbusDevice.powerText true))).2 = some (ascii "p.json") := by
    decide +kernel
  rw [succeeds]
  rintro ⟨-, -, -, whole⟩
  rw [stored] at whole
  exact absurd whole (by decide)

/-! ## Any number of requests -/

/-- The flash takes the whole of what the request uploads. -/
def HasRoom (lib : ArduinoJson) (ui : WebUI σ) (request : HTTPRequest) (here : Surroundings) :
    Prop :=
  ∀ doc, lib.deserializeJson (request.arg (ascii "plain")) = .ok doc →
    (doc.member (ascii "action")).asString lib = ascii "upload_json" →
      Uploadable lib ui ((doc.member (ascii "filename")).asString lib)
        ((doc.member (ascii "content")).asString lib) →
        ∀ room, here.room = some room →
          ((doc.member (ascii "content")).asString lib).length ≤ room

/-- Every device that is stored has been validated. -/
def DevicesValid (lib : ArduinoJson) (ui : WebUI σ) : Prop :=
  ∀ filename content, ui.fs.files (devicePath filename) = some content → Validates lib content

theorem uploadJSON_devicesValid (valid : DevicesValid lib ui)
    (room : Uploadable lib ui filename content → ∀ room, here.room = some room →
      content.length ≤ room) :
    DevicesValid lib (ui.uploadJSON lib here filename content).1 := by
  intro other device stored
  have stored : (outcome (ui.uploadJSON lib here filename content)).1 (devicePath other) =
      some device := stored
  by_cases accepted : Uploadable lib ui filename content
  · rw [uploadJSON_accepted accepted] at stored
    cases opened : here.room with
    | none =>
        rw [opened] at stored
        exact valid other device stored
    | some bytes =>
        rw [opened] at stored
        dsimp only at stored
        rw [List.take_of_length_le (room accepted bytes opened)] at stored
        by_cases same : other = filename
        · obtain rfl : content = device := by simpa [same] using stored
          exact accepted.validates
        · have kept := ui.fs.files_put_of_ne (devicePath filename) content
            fun equal => same (devicePath_injective equal)
          exact valid other device (kept.symm.trans stored)
  · rw [uploadJSON_rejected accepted] at stored
    exact valid other device stored

theorem deleteJSON_devicesValid (valid : DevicesValid lib ui) :
    DevicesValid lib (ui.deleteJSON here filename).1 := by
  rw [deleteJSON]
  split_ifs
  · exact valid
  · exact valid
  · intro other device stored
    by_cases same : other = filename
    · simp [same] at stored
    · have kept := ui.fs.files_remove_of_ne (devicePath filename)
        fun equal => same (devicePath_injective equal)
      exact valid other device (kept.symm.trans stored)
  · exact valid
  · exact valid

theorem handleDiagnosticsAPI_devicesValid {request : HTTPRequest} (valid : DevicesValid lib ui)
    (room : HasRoom lib ui request here) :
    DevicesValid lib (ui.handleDiagnosticsAPI lib request here).1 := by
  rw [handleDiagnosticsAPI]
  split_ifs
  · exact valid
  · cases parsed : lib.deserializeJson (request.arg (ascii "plain")) with
    | error error => exact valid
    | ok doc =>
        dsimp only
        split_ifs with upload
        · exact uploadJSON_devicesValid valid (room doc parsed upload)
        · exact deleteJSON_devicesValid valid
        · exact valid

/-- Requests to the diagnostics, one after the other. -/
def diagnostics (lib : ArduinoJson) (ui : WebUI σ) :
    StepSystem (WebUI σ) (HTTPRequest × Surroundings) where
  start := ui
  next ui label := some (ui.handleDiagnosticsAPI lib label.1 label.2).1

/-- As long as the flash takes what is uploaded, the devices stored are valid ones. -/
theorem diagnostics_devicesValid (valid : DevicesValid lib ui) {after : WebUI σ}
    (reach : (diagnostics lib ui).Reaches (fun ui label => HasRoom lib ui label.1 label.2) after) :
    DevicesValid lib after :=
  reach.invariant valid fun _ _ _ valid room moves =>
    Option.some.inj moves ▸ handleDiagnosticsAPI_devicesValid valid room

end WebUI

end ModbusBridge
