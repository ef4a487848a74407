import ModbusBridge.Configuration.Storage

/-!
# The factory reset

The reset assigns every default to the document in memory and saves it. Members with other names
stay in the document, and so do members in other places.
-/

namespace ModbusBridge

namespace Config

/-- The document holds nothing but the first keys of the defaults, in their order. -/
def Plain (document : Json) : Prop :=
  document = .null ∨
    ∃ members, document = .object members ∧ members.map Prod.fst <+: defaults.map Prod.fst

theorem setMembers_defaults_iff (document : Json) :
    document.setMembers defaults = .object defaults ↔ Plain document := by
  cases document with
  | null =>
      exact iff_of_true setMembers_null_defaults (.inl rfl)
  | object members =>
      rw [Json.setMembers_object, Json.object.injEq, Json.assignAll_eq_iff defaults_distinct]
      simp [Plain]
  | _ =>
      rw [Json.setMembers_of_not_writable (by exact id)]
      simp [Plain]

/-- The document in memory and the file hold the defaults and nothing else. -/
structure Pristine (lib : ArduinoJson) (config : Config) (fs : LittleFS) : Prop where
  document : config.document = .object defaults
  file : fs.files config.configPath = some (lib.serializeJsonPretty (.object defaults))

/-- The file takes the text of the defaults. -/
def TakesDefaults (lib : ArduinoJson) (room : Room) : Prop :=
  ∃ bytes, room = some bytes ∧ (lib.serializeJsonPretty (.object defaults)).length ≤ bytes

theorem factoryReset_pristine_iff (lib : ArduinoJson) (config : Config) (fs : LittleFS)
    (room : Room) :
    let (_, after, stored) := config.factoryReset lib fs room
    Pristine lib after stored ↔ Plain config.document ∧ TakesDefaults lib room := by
  rw [← setMembers_defaults_iff]
  rw [factoryReset]
  rw [setDefaults_eq]
  generalize config.document.setMembers defaults = document
  dsimp only
  constructor
  · rintro ⟨same, file⟩
    have same : document = .object defaults := same
    subst same
    refine ⟨rfl, ?_⟩
    rw [save_of_valid (validate_defaults ..)] at file
    cases room with
    | none =>
        have gone : (if fs.fileExists config.configPath then fs.remove config.configPath
            else fs).files config.configPath = none := by
          split
          next => exact fs.files_remove_self _
          next absent =>
              rw [LittleFS.fileExists, Bool.or_eq_true, not_or, Option.not_isSome_iff_eq_none]
                at absent
              exact absent.1
        exact absurd (gone.symm.trans file) (by simp)
    | some bytes =>
        rw [LittleFS.files_put_self, Option.some.injEq] at file
        refine ⟨bytes, rfl, ?_⟩
        have length := congrArg List.length file
        rw [List.length_take] at length
        omega
  · rintro ⟨rfl, bytes, rfl, long⟩
    refine ⟨rfl, ?_⟩
    rw [save_of_valid (validate_defaults ..)]
    simp [List.take_of_length_le long]

/-- After a reset two devices hold the defaults and nothing else, if and only if neither has other
keys or keys in other places and both files take the text. -/
theorem factoryReset_forgets_iff (lib : ArduinoJson) (config₁ config₂ : Config)
    (fs₁ fs₂ : LittleFS) (room₁ room₂ : Room) :
    let (_, after₁, stored₁) := config₁.factoryReset lib fs₁ room₁
    let (_, after₂, stored₂) := config₂.factoryReset lib fs₂ room₂
    Pristine lib after₁ stored₁ ∧ Pristine lib after₂ stored₂ ↔
      (Plain config₁.document ∧ TakesDefaults lib room₁) ∧
        (Plain config₂.document ∧ TakesDefaults lib room₂) :=
  and_congr (factoryReset_pristine_iff lib config₁ fs₁ room₁)
    (factoryReset_pristine_iff lib config₂ fs₂ room₂)

/-- The key that opens the diagnostics survives the reset. -/
theorem factoryReset_keeps_diagnostics :
    let opened := initial.setBool (ascii "enable_diagnostics") true
    let fs : LittleFS := ⟨true, fun _ => none, fun _ => false⟩
    let (succeeds, after, stored) := opened.factoryReset (flatJson []) fs (some 4096)
    succeeds = true ∧ after.getBool (ascii "enable_diagnostics") false = true ∧
      ¬ Pristine (flatJson []) after stored := by
  intro opened fs
  have kept : (opened.factoryReset (flatJson []) fs (some 4096)).2.1.getBool
      (ascii "enable_diagnostics") false = true := by decide +kernel
  refine ⟨by decide +kernel, kept, fun pristine => ?_⟩
  have gone : getBool ⟨[], .object defaults, true⟩ (ascii "enable_diagnostics") false = false := by
    decide +kernel
  have same : SameValues (opened.factoryReset (flatJson []) fs (some 4096)).2.1
      ⟨[], .object defaults, true⟩ :=
    ⟨rfl, fun key => congrArg (Json.member · key) pristine.document⟩
  rw [same.getBool, gone] at kept
  contradiction

end Config

end ModbusBridge
