import Mathlib.Data.List.Perm.Basic
import ModbusBridge.Devices.Accepted

/-!
# Phases of accepted devices

Why an accepted device can be read: no look goes beyond the words that a request returned, and what
a phase publishes are names of its own entries.
-/

namespace ModbusBridge

open Fallible

/-- A request within the limits of the protocol. -/
structure ReadRequest.WithinLimits (request : ReadRequest) : Prop where
  function : request.function = 3 ∨ request.function = 4
  some_words : 0 < request.count.toNat
  few_words : request.count.toNat ≤ 125

namespace GenericModbusDevice

/-! ## Looks at words -/

variable {lib : ArduinoJson} (single : SinglePrecision)

/-- The raw value of a field in the words that it is read from. -/
def rawValue (field : Field) (words : Nat → Word) : UInt32 :=
  if wordSize field.type = 1 then .ofBitVec ((words 0).setWidth 32)
  else .ofBitVec (doubleWord (words 0) (words 1))

/-- The words of a field hold its `nan_value`. -/
def suppressed (field : Field) (words : Nat → Word) : Bool := isNan field (rawValue field words)

/-- The names that a field publishes with these words. -/
def emittedNames (field : Field) (words : Nat → Word) : List Bytes :=
  if suppressed field words then [] else publishedNames field

theorem emittedNames_sublist (field : Field) (words : Nat → Word) :
    (emittedNames field words).Sublist (publishedNames field) := by
  rw [emittedNames]
  split_ifs
  · exact List.nil_sublist _
  · exact List.Sublist.refl _

/-- The value of a field in these words. -/
def fieldValue (field : Field) (words : Nat → Word) : single.Float :=
  let value : Int :=
    if field.type = ascii "uint16" then (words 0).toNat
    else if field.type = ascii "int16" then (words 0).toInt
    else if field.type = ascii "uint32" then (doubleWord (words 0) (words 1)).toNat
    else (doubleWord (words 0) (words 1)).toInt
  single.mul (single.ofInt value) (single.asFloat field.scale)

/-- The points that a field publishes with these words. -/
def fieldPoints (field : Field) (words : Nat → Word) : List TelemetryPoint :=
  if suppressed field words then []
  else if field.bits = [] then
    [⟨field.name, field.unit, single.text (fieldValue single field words) 2⟩]
  else field.bits.map (emitBit (words 0))

theorem fieldPoints_names (field : Field) (words : Nat → Word) :
    (fieldPoints single field words).map TelemetryPoint.name = emittedNames field words := by
  rw [fieldPoints, emittedNames, publishedNames]
  split_ifs
  · rfl
  · rfl
  · exact List.map_map

theorem wordSize_eq (type : Bytes) : wordSize type = 1 ∨ wordSize type = 2 := by
  rw [wordSize]
  split_ifs <;> decide

theorem wordSize_pos (type : Bytes) : 0 < wordSize type := by
  rcases wordSize_eq type with size | size <;> rw [size] <;> decide

/-- No more words matter than the type of the field has. -/
theorem fieldPoints_congr {field : Field} (sound : field.Sound) {words other : Nat → Word}
    (same : ∀ i < wordSize field.type, words i = other i) :
    fieldPoints single field words = fieldPoints single field other := by
  have first := same 0 (wordSize_pos field.type)
  have raw : rawValue field words = rawValue field other := by
    unfold rawValue
    split_ifs with size
    · rw [first]
    · have size := (wordSize_eq field.type).resolve_left size
      rw [first, same 1 (by omega)]
  have value : fieldValue single field words = fieldValue single field other := by
    unfold fieldValue
    dsimp only
    split_ifs with uint16 int16 uint32
    · rw [first]
    · rw [first]
    · rw [first, same 1 (by rw [uint32]; decide)]
    · have int32 := ((sound.known.resolve_left uint16).resolve_left int16).resolve_left uint32
      rw [first, same 1 (by rw [int32]; decide)]
  unfold fieldPoints suppressed
  rw [raw, value, first]

theorem look_eq_some {words : List Word} {i : Nat} (inside : i < words.length) :
    words[i]? = some (words.getD i 0) := by
  simp [inside]

/-- With enough words, a field has a value. -/
theorem decodeValue_eq_some {field : Field} (sound : field.Sound) {words : List Word}
    (enough : wordSize field.type ≤ words.length) :
    decodeValue single words field =
      some (some (fieldValue single field fun i => words.getD i 0,
        rawValue field fun i => words.getD i 0)) := by
  have one : words[0]? = some (words.getD 0 0) :=
    look_eq_some ((wordSize_pos field.type).trans_le enough)
  have two : wordSize field.type = 2 → words[1]? = some (words.getD 1 0) :=
    fun size => look_eq_some (by omega)
  rw [decodeValue, rawValue, fieldValue]
  rcases sound.known with type | type | type | type <;> rw [type] at two ⊢
  · rw [if_pos rfl, one, if_pos rfl, if_pos (by decide)]
    rfl
  · rw [if_neg (by decide), if_pos rfl, one, if_neg (by decide), if_pos rfl, if_pos (by decide)]
    rfl
  · rw [if_neg (by decide), if_neg (by decide), if_pos rfl, one, two (by decide),
      if_neg (by decide), if_neg (by decide), if_pos rfl, if_neg (by decide)]
    rfl
  · rw [if_neg (by decide), if_neg (by decide), if_neg (by decide), if_pos rfl, one,
      two (by decide), if_neg (by decide), if_neg (by decide), if_neg (by decide),
      if_neg (by decide)]
    rfl

/-- What a field adds to the points of a phase. -/
theorem emitField_eq_some {field : Field} (sound : field.Sound) {words : List Word}
    (enough : wordSize field.type ≤ words.length) :
    emitField single words field = some (fieldPoints single field fun i => words.getD i 0) := by
  have one : words[0]? = some (words.getD 0 0) :=
    look_eq_some ((wordSize_pos field.type).trans_le enough)
  rw [emitField, fieldPoints, suppressed]
  rw [decodeValue_eq_some single sound enough, Option.bind_some]
  dsimp only
  split_ifs
  · rfl
  · rfl
  · rw [one]
    rfl

/-! ## Entries -/

/-- A read of a device: its request, and the fields in the words that it returns. -/
structure Entry where
  isStorage : Bool
  request : ReadRequest
  fields : List Field

/-- A flat register, read as it stands. -/
def registerEntry (slaveAddr : UInt8) (reg : RegisterDef) : Entry where
  isStorage := reg.isStorage
  request := ⟨slaveAddr, reg.fc, reg.addr, .ofNat 16 (wordSize reg.field.type)⟩
  fields := [{ reg.field with offset := 0 }]

/-- A group. -/
def groupEntry (slaveAddr : UInt8) (grp : RegisterGroup) : Entry where
  isStorage := grp.isStorage
  request := ⟨slaveAddr, grp.fc, grp.startAddr, grp.count.toBitVec.setWidth 16⟩
  fields := grp.fields

namespace Entry

/-- The names that an entry declares. -/
def declared (entry : Entry) : List Bytes := entry.fields.flatMap publishedNames

/-- The words of a field among those of the entry. -/
def wordsOf (field : Field) (words : Nat → Word) (i : Nat) : Word :=
  words (field.offset.toNat + i)

/-- The names that an entry publishes with these words. -/
def emitted (entry : Entry) (words : Nat → Word) : List Bytes :=
  entry.fields.flatMap fun field => emittedNames field (wordsOf field words)

/-- The points that an entry publishes with these words. -/
def points (entry : Entry) (words : Nat → Word) : List TelemetryPoint :=
  entry.fields.flatMap fun field => fieldPoints single field (wordsOf field words)

theorem points_names (entry : Entry) (words : Nat → Word) :
    (entry.points single words).map TelemetryPoint.name = entry.emitted words := by
  rw [points, emitted]
  rw [List.map_flatMap]
  exact List.flatMap_congr fun field _ => fieldPoints_names single field _

theorem emitted_sublist (entry : Entry) (words : Nat → Word) :
    (entry.emitted words).Sublist entry.declared := by
  rw [emitted, declared]
  induction entry.fields with
  | nil => exact List.Sublist.refl _
  | cons field fields induction =>
      exact (emittedNames_sublist field _).append induction

/-- What the read of an entry comes to. -/
def read (entry : Entry) (reads : ReadRequest → Option (Nat → Word)) : EntryRead where
  succeeded := (reads entry.request).isSome
  requests := [entry.request]
  points := (reads entry.request).elim [] (entry.points single)

end Entry

/-- A field within the words of a read. -/
theorem emitField_within {field : Field} (sound : field.Sound) {offset count : Nat}
    (inside : offset + wordSize field.type ≤ count) (data : Nat → Word) :
    emitField single (((List.range count).map data).drop offset) field =
      some (fieldPoints single field fun i => data (offset + i)) := by
  have enough : wordSize field.type ≤ (((List.range count).map data).drop offset).length := by
    simp
    omega
  have word : ∀ i < wordSize field.type,
      (((List.range count).map data).drop offset).getD i 0 = data (offset + i) := by
    intro i small
    simp [List.getD_eq_getElem?_getD, show offset + i < count by omega]
  rw [emitField_eq_some single sound enough, fieldPoints_congr single sound word]

theorem request_eq_some {fc : UInt8} (function : fc = 3 ∨ fc = 4) (slaveAddr : UInt8)
    (startAddr count : Word) :
    request slaveAddr fc startAddr count = some ⟨slaveAddr, fc, startAddr, count⟩ := by
  rcases function with rfl | rfl <;> rfl

theorem readEntry_spec (entry : Entry) {emit : List Word → Option (List TelemetryPoint)}
    (emits : ∀ data : Nat → Word,
      emit ((List.range entry.request.count.toNat).map data) = some (entry.points single data))
    (reads : ReadRequest → Option (Nat → Word)) :
    readEntry reads (some entry.request) emit = some (entry.read single reads) := by
  unfold readEntry Entry.read
  dsimp only
  cases reads entry.request with
  | none => rfl
  | some data =>
      dsimp only
      rw [emits]
      rfl

theorem readFlatRegister_spec (device : GenericModbusDevice) {reg : RegisterDef}
    (sound : reg.Sound) (reads : ReadRequest → Option (Nat → Word)) :
    readFlatRegister single device reads reg =
      some ((registerEntry device.slaveAddr reg).read single reads) := by
  unfold readFlatRegister
  dsimp only
  rw [request_eq_some sound.function]
  refine readEntry_spec single (registerEntry device.slaveAddr reg) (fun data => ?_) reads
  have count : (BitVec.ofNat 16 (wordSize reg.field.type)).toNat = wordSize reg.field.type := by
    rcases wordSize_eq reg.field.type with size | size <;> rw [size] <;> rfl
  have emits := emitField_within single sound.field
    (show 0 + wordSize reg.field.type ≤ wordSize reg.field.type by omega) data
  have points : (registerEntry device.slaveAddr reg).points single data =
      fieldPoints single reg.field fun i => data (0 + i) :=
    List.append_nil _
  rw [points, ← emits]
  simp only [registerEntry, count, List.drop_zero]

theorem readGroup_spec (device : GenericModbusDevice) {grp : RegisterGroup}
    (sound : grp.Sound) (reads : ReadRequest → Option (Nat → Word)) :
    readGroup single device reads grp =
      some ((groupEntry device.slaveAddr grp).read single reads) := by
  unfold readGroup
  dsimp only
  rw [request_eq_some sound.function]
  refine readEntry_spec single (groupEntry device.slaveAddr grp) (fun data => ?_) reads
  have count : (grp.count.toBitVec.setWidth 16).toNat = grp.count.toNat := by simp
  have emits := mapM_eq_some fun field listed =>
    emitField_within single (sound.fields field listed).1 (sound.fields field listed).2 data
  dsimp only [groupEntry]
  rw [count, emits]
  rfl

/-! ## Turns -/

namespace Phase

/-- The number of entries that have been read. -/
def succeeded (phase : Phase) : Nat := phase.flatOk + phase.groupOk

/-- What a turn does to the phase, but for its two sets of counters. -/
inductive Turn (single : SinglePrecision) (budget : UInt32) (storagePhase : Bool)
    (input : PhaseInput) (entry : Entry) (before after : Phase) : Prop
  | other (apart : entry.isStorage ≠ storagePhase) (same : after = before)
  | skipped (same : entry.isStorage = storagePhase)
      (late : before.budgetExpired budget input = true)
      (requests : after.requests = before.requests) (out : after.out = before.out)
  | read (same : entry.isStorage = storagePhase)
      (inTime : before.budgetExpired budget input = false)
      (read : EntryRead) (made : read = entry.read single (input.reads before.visited))
      (requests : after.requests = before.requests ++ read.requests)
      (out : after.out = before.out ++ read.points)
      (visited : after.visited = before.visited + 1)
      (succeeded : after.succeeded = before.succeeded + read.succeeded.toNat)
      (tripped : after.budgetTripped = before.budgetTripped)

end Phase

variable (device : GenericModbusDevice) (budget : UInt32) (storagePhase : Bool)
  (input : PhaseInput)

theorem visitRegister_turn {reg : RegisterDef} (sound : reg.Sound) (phase : Phase) :
    ∃ after, visitRegister single device budget storagePhase input phase reg = some after ∧
      Phase.Turn single budget storagePhase input (registerEntry device.slaveAddr reg) phase
        after := by
  rw [visitRegister]
  split_ifs with apart late
  · exact ⟨phase, rfl, .other (bne_iff_ne.mp apart) rfl⟩
  · have same : reg.isStorage = storagePhase := by simpa using apart
    exact ⟨_, rfl, .skipped same late rfl rfl⟩
  · have same : reg.isStorage = storagePhase := by simpa using apart
    rw [readFlatRegister_spec single device sound, Option.map_some]
    refine ⟨_, rfl, .read same (by simpa using late) _ rfl ?_ ?_ ?_ ?_ ?_⟩
    all_goals
      cases ((registerEntry device.slaveAddr reg).read single
        (input.reads phase.visited)).succeeded <;>
          simp [Phase.take, Phase.visited, Phase.succeeded] <;> omega

theorem visitGroup_turn {grp : RegisterGroup} (sound : grp.Sound) (phase : Phase) :
    ∃ after, visitGroup single device budget storagePhase input phase grp = some after ∧
      Phase.Turn single budget storagePhase input (groupEntry device.slaveAddr grp) phase
        after := by
  rw [visitGroup]
  split_ifs with apart late
  · exact ⟨phase, rfl, .other (bne_iff_ne.mp apart) rfl⟩
  · have same : grp.isStorage = storagePhase := by simpa using apart
    exact ⟨_, rfl, .skipped same late rfl rfl⟩
  · have same : grp.isStorage = storagePhase := by simpa using apart
    rw [readGroup_spec single device sound, Option.map_some]
    refine ⟨_, rfl, .read same (by simpa using late) _ rfl ?_ ?_ ?_ ?_ ?_⟩
    all_goals
      cases ((groupEntry device.slaveAddr grp).read single
        (input.reads phase.visited)).succeeded <;>
          simp [Phase.take, Phase.visited, Phase.succeeded] <;> omega

/-! ## Whole phases -/

/-- The entries of a device, in the order in which they are read. -/
def Declarations.entries (declarations : Declarations) (slaveAddr : UInt8) : List Entry :=
  declarations.registers.map (registerEntry slaveAddr) ++
    declarations.groups.map (groupEntry slaveAddr)

/-- The device with the registers and groups of a document. -/
def withDeclarations (declarations : Declarations) : GenericModbusDevice :=
  { device with
    schemaVersion := declarations.schemaVersion
    registers := declarations.registers
    groups := declarations.groups }

@[simp] theorem withDeclarations_registers (declarations : Declarations) :
    (withDeclarations device declarations).registers = declarations.registers := rfl

@[simp] theorem withDeclarations_groups (declarations : Declarations) :
    (withDeclarations device declarations).groups = declarations.groups := rfl

/-- The entries of a device, in the order in which they are read. -/
def allEntries : List Entry :=
  device.registers.map (registerEntry device.slaveAddr) ++
    device.groups.map (groupEntry device.slaveAddr)

/-- The entries of a phase. -/
def ownEntries (storagePhase : Bool) (entries : List Entry) : List Entry :=
  entries.filter fun entry => entry.isStorage = storagePhase

theorem ownEntries_append (storagePhase : Bool) (early late : List Entry) :
    ownEntries storagePhase (early ++ late) =
      ownEntries storagePhase early ++ ownEntries storagePhase late :=
  List.filter_append ..

/-- A relation that every turn of the two loops adds to holds of the whole phase. -/
theorem readPhase_of_turns (Advance : List Entry → Phase → Phase → Prop)
    (refl : ∀ phase, Advance [] phase phase)
    (trans : ∀ {early late before between after}, Advance early before between →
      Advance late between after → Advance (early ++ late) before after)
    (registerTurn : ∀ reg ∈ device.registers, ∀ phase, ∃ after,
      visitRegister single device budget storagePhase input phase reg = some after ∧
        Advance [registerEntry device.slaveAddr reg] phase after)
    (groupTurn : ∀ grp ∈ device.groups, ∀ phase, ∃ after,
      visitGroup single device budget storagePhase input phase grp = some after ∧
        Advance [groupEntry device.slaveAddr grp] phase after) :
    ∃ phase, readPhase single device budget storagePhase input =
        some ⟨phase.flatOk + phase.groupOk > 0, phase.requests, phase.out⟩ ∧
      Advance (allEntries device) Phase.initial phase := by
  obtain ⟨between, flat, early⟩ := foldlM_eq_some refl trans registerTurn Phase.initial
  obtain ⟨after, grouped, late⟩ := foldlM_eq_some refl trans groupTurn between
  refine ⟨after, ?_, ?_⟩
  · rw [readPhase]
    rw [flat, Option.bind_some, grouped, Option.map_some]
  · simpa only [allEntries, List.map_eq_flatMap] using trans early late

/-- A relation that every turn of a phase adds to holds of the whole phase. -/
theorem readPhase_follows {declarations : Declarations} (sound : declarations.Sound)
    (Advance : List Entry → Phase → Phase → Prop) (refl : ∀ phase, Advance [] phase phase)
    (trans : ∀ {early late before between after}, Advance early before between →
      Advance late between after → Advance (early ++ late) before after)
    (turn : ∀ entry ∈ declarations.entries device.slaveAddr, ∀ before after,
      Phase.Turn single budget storagePhase input entry before after →
        Advance [entry] before after) :
    ∃ phase, readPhase single (withDeclarations device declarations) budget storagePhase input =
        some ⟨phase.flatOk + phase.groupOk > 0, phase.requests, phase.out⟩ ∧
      Advance (declarations.entries device.slaveAddr) Phase.initial phase :=
  readPhase_of_turns single (withDeclarations device declarations) budget storagePhase input
    Advance refl trans
    (fun reg listed phase =>
      (visitRegister_turn single (withDeclarations device declarations) budget storagePhase input
        (sound.registers reg listed) phase).imp fun _ ⟨visited, made⟩ =>
          ⟨visited, turn _ (List.mem_append_left _ (List.mem_map_of_mem listed)) _ _ made⟩)
    (fun grp listed phase =>
      (visitGroup_turn single (withDeclarations device declarations) budget storagePhase input
        (sound.groups grp listed) phase).imp fun _ ⟨visited, made⟩ =>
          ⟨visited, turn _ (List.mem_append_right _ (List.mem_map_of_mem listed)) _ _ made⟩)

/-! ## Requests and names -/

/-- The names that a phase can publish. -/
def phaseNames (storagePhase : Bool) (entries : List Entry) : List Bytes :=
  entries.flatMap fun entry => if entry.isStorage = storagePhase then entry.declared else []

/-- Part of a phase: it issues requests within the limits, and publishes some of these names. -/
structure Phase.Publishes (names : List Bytes) (before after : Phase) : Prop where
  requests : ∃ issued : List ReadRequest, after.requests = before.requests ++ issued ∧
    ∀ request ∈ issued, request.WithinLimits
  points : ∃ points, after.out = before.out ++ points ∧
    (points.map TelemetryPoint.name).Sublist names

theorem Phase.Publishes.same {names : List Bytes} {before after : Phase}
    (requests : after.requests = before.requests) (out : after.out = before.out) :
    Phase.Publishes names before after where
  requests :=
    ⟨[], by rw [requests, List.append_nil], fun _ listed => absurd listed List.not_mem_nil⟩
  points := ⟨[], by rw [out, List.append_nil], List.nil_sublist _⟩

theorem Phase.Publishes.trans {early late : List Bytes} {before between after : Phase}
    (first : Phase.Publishes early before between) (second : Phase.Publishes late between after) :
    Phase.Publishes (early ++ late) before after := by
  obtain ⟨⟨issued, requests, within⟩, ⟨points, out, names⟩⟩ := first
  obtain ⟨⟨further, moreRequests, moreWithin⟩, ⟨morePoints, moreOut, moreNames⟩⟩ := second
  refine ⟨⟨issued ++ further, ?_, ?_⟩, ⟨points ++ morePoints, ?_, ?_⟩⟩
  · rw [moreRequests, requests, List.append_assoc]
  · exact fun request listed => (List.mem_append.mp listed).elim (within _) (moreWithin _)
  · rw [moreOut, out, List.append_assoc]
  · rw [List.map_append]
    exact names.append moreNames

theorem Phase.Turn.publishes {single : SinglePrecision} {budget : UInt32} {storagePhase : Bool}
    {input : PhaseInput} {entry : Entry} {before after : Phase}
    (turn : Phase.Turn single budget storagePhase input entry before after)
    (within : entry.request.WithinLimits) :
    Phase.Publishes (phaseNames storagePhase [entry]) before after := by
  cases turn with
  | other apart same => exact .same (by rw [same]) (by rw [same])
  | skipped same late requests out => exact .same requests out
  | read same inTime read made requests out visited succeeded tripped =>
      subst made
      refine ⟨⟨[entry.request], requests, by simpa using within⟩, ⟨_, out, ?_⟩⟩
      simp only [phaseNames, List.flatMap_singleton, if_pos same, Entry.read]
      cases input.reads before.visited entry.request with
      | none => exact List.nil_sublist _
      | some words => exact entry.points_names single words ▸ entry.emitted_sublist words

theorem Declarations.Sound.within {declarations : Declarations} (sound : declarations.Sound)
    (slaveAddr : UInt8) : ∀ entry ∈ declarations.entries slaveAddr, entry.request.WithinLimits := by
  intro entry listed
  rcases List.mem_append.mp listed with flat | grouped
  · obtain ⟨reg, member, rfl⟩ := List.mem_map.mp flat
    refine ⟨(sound.registers reg member).function, ?_, ?_⟩ <;>
      rcases wordSize_eq reg.field.type with size | size <;> simp [registerEntry, size]
  · obtain ⟨grp, member, rfl⟩ := List.mem_map.mp grouped
    have accepted := sound.groups grp member
    have count : (grp.count.toBitVec.setWidth 16).toNat = grp.count.toNat := by simp
    exact ⟨accepted.function, count ▸ accepted.some_words, count ▸ accepted.few_words⟩

theorem Declarations.declared_entries (declarations : Declarations) (slaveAddr : UInt8) :
    (declarations.entries slaveAddr).flatMap Entry.declared =
      declarations.fields.flatMap publishedNames := by
  simp [entries, fields, Entry.declared, registerEntry, groupEntry, publishedNames,
    List.flatMap_append, List.flatMap_map, List.flatMap_assoc]

/-- Between them, the two phases can publish what the document declares, once. -/
theorem phaseNames_perm (entries : List Entry) :
    (phaseNames false entries ++ phaseNames true entries).Perm
      (entries.flatMap Entry.declared) := by
  refine (List.flatMap_append_perm _ _ _).trans (.of_eq (List.flatMap_congr fun entry _ => ?_))
  cases entry.isStorage <;> simp

theorem publishedNames_named {field : Field} (sound : field.Sound) :
    ∀ name ∈ publishedNames field, name ≠ [] := by
  intro name listed
  rw [publishedNames] at listed
  split_ifs at listed
  · exact List.mem_singleton.mp listed ▸ sound.named
  · obtain ⟨bit, member, rfl⟩ := List.mem_map.mp listed
    exact sound.bitsNamed bit member

theorem Declarations.Sound.fields {declarations : Declarations} (sound : declarations.Sound) :
    ∀ field ∈ declarations.fields, field.Sound := by
  intro field listed
  rcases List.mem_append.mp listed with flat | grouped
  · obtain ⟨reg, member, rfl⟩ := List.mem_map.mp flat
    exact (sound.registers reg member).field
  · obtain ⟨grp, member, within⟩ := List.mem_flatMap.mp grouped
    exact ((sound.groups grp member).fields field within).1

/-- What a phase of an accepted device issues and publishes, whatever it meets. -/
theorem readPhase_publishes {declarations : Declarations} (sound : declarations.Sound) :
    ∃ reading, readPhase single (withDeclarations device declarations) budget storagePhase input =
        some reading ∧
      (∀ request ∈ reading.requests, request.WithinLimits) ∧
      (reading.points.map TelemetryPoint.name).Sublist
        (phaseNames storagePhase (declarations.entries device.slaveAddr)) := by
  obtain ⟨phase, found, publishes⟩ := readPhase_follows single device budget storagePhase input
    sound (fun entries => Phase.Publishes (phaseNames storagePhase entries))
    (fun _ => .same rfl rfl)
    (fun early late => by
      rw [phaseNames]
      rw [List.flatMap_append]
      exact early.trans late)
    (fun entry listed before after turn =>
      turn.publishes (sound.within device.slaveAddr entry listed))
  obtain ⟨⟨issued, requests, within⟩, ⟨points, out, names⟩⟩ := publishes
  exact ⟨_, found, by simpa [requests, Phase.initial] using within,
    by simpa [out, Phase.initial] using names⟩

/-- Either call has what the phase has, or nothing if the device has not begun. -/
theorem begun_publishes {names : List Bytes} {phase : Option Reading} (initialized : Bool)
    (publishes : ∃ reading, phase = some reading ∧
      (∀ request ∈ reading.requests, request.WithinLimits) ∧
      (reading.points.map TelemetryPoint.name).Sublist names) :
    ∃ reading, (if !initialized then some ⟨false, [], []⟩ else phase) = some reading ∧
      (∀ request ∈ reading.requests, request.WithinLimits) ∧
      (reading.points.map TelemetryPoint.name).Sublist names := by
  split_ifs
  · exact ⟨⟨false, [], []⟩, rfl, fun request listed => absurd listed List.not_mem_nil,
      List.nil_sublist _⟩
  · exact publishes

/-- A device of an accepted document can be read, whatever the two phases meet: every look is at a
word that was returned, every request is within the limits, and the names of both phases are there
and differ. -/
theorem accepted_device_safe {doc : Json} {declarations : Declarations}
    (accepted : parseDoc lib doc = .ok declarations) (device : GenericModbusDevice)
    (basicInput storageInput : PhaseInput) (basicConfig storageConfig : Config) :
    let loaded := withDeclarations device declarations
    ∃ basic storage, readBasic single loaded basicInput lib basicConfig = some basic ∧
      readStorage single loaded storageInput lib storageConfig = some storage ∧
      (∀ request ∈ basic.requests ++ storage.requests, request.WithinLimits) ∧
      (∀ name ∈ (basic.points ++ storage.points).map TelemetryPoint.name, name ≠ []) ∧
      ((basic.points ++ storage.points).map TelemetryPoint.name).Nodup := by
  have sound := parseDoc_sound accepted
  obtain ⟨basic, first, basicWithin, basicNames⟩ := begun_publishes device.initialized
    (readPhase_publishes single device (pollBudgetMs lib basicConfig) false basicInput sound)
  obtain ⟨storage, second, storageWithin, storageNames⟩ := begun_publishes device.initialized
    (readPhase_publishes single device (pollBudgetMs lib storageConfig) true storageInput sound)
  have names : ((basic.points ++ storage.points).map TelemetryPoint.name).Sublist
      (phaseNames false (declarations.entries device.slaveAddr) ++
        phaseNames true (declarations.entries device.slaveAddr)) := by
    rw [List.map_append]
    exact basicNames.append storageNames
  have declared := (phaseNames_perm (declarations.entries device.slaveAddr)).trans
    (.of_eq (declarations.declared_entries device.slaveAddr))
  refine ⟨basic, storage, first, second, ?_, fun name listed => ?_, ?_⟩
  · exact fun request listed =>
      (List.mem_append.mp listed).elim (basicWithin request) (storageWithin request)
  · obtain ⟨field, member, published⟩ :=
      List.mem_flatMap.mp (declared.subset (names.subset listed))
    exact publishedNames_named (sound.fields field member) name published
  · exact names.nodup (declared.nodup_iff.mpr sound.distinct)

/-! ## One document -/

/-- A register, and a group of the storage phase with a field and two bits. -/
def hybridDocument : Json :=
  .object [(ascii "schema_version", .integer 2),
    (ascii "registers", .array [.object [(ascii "addr", .string (ascii "0x0010")),
      (ascii "name", .string (ascii "power")), (ascii "type", .string (ascii "int32"))]]),
    (ascii "groups", .array [.object [(ascii "name", .string (ascii "battery")),
      (ascii "start", .string (ascii "100")), (ascii "count", .integer 3),
      (ascii "storage", .boolean true), (ascii "fields", .array [
        .object [(ascii "name", .string (ascii "soc")), (ascii "nan_value", .integer 65535)],
        .object [(ascii "name", .string (ascii "flags")), (ascii "offset", .integer 2),
          (ascii "bits", .array [
            .object [(ascii "name", .string (ascii "charging")), (ascii "mask", .integer 1)],
            .object [(ascii "name", .string (ascii "fault")),
              (ascii "mask", .string (ascii "0x00F0"))]])]])]])]

theorem hybrid_accepted :
    ∃ declarations, parseDoc (flatJson []) hybridDocument = .ok declarations := by
  have accepted : (parseDoc (flatJson []) hybridDocument).toOption.any (fun _ => true) = true := by
    decide +kernel
  exact (exists_ok accepted).imp fun _ => And.left

/-- Every read stores these words, at once. -/
def promptInput (word : Word) : PhaseInput where
  startMs := 0
  nowMs _ := 0
  reads _ _ := some fun _ => word

theorem accepted_device_safe_hybrid :
    ∃ declarations, parseDoc (flatJson []) hybridDocument = .ok declarations ∧
      let loaded := withDeclarations (create (flatJson []) .initial []) declarations
      ∃ basic storage,
        readBasic wholeNumbers loaded (promptInput 7) (flatJson []) .initial = some basic ∧
        readStorage wholeNumbers loaded (promptInput 7) (flatJson []) .initial = some storage ∧
        (∀ request ∈ basic.requests ++ storage.requests, request.WithinLimits) ∧
        (∀ name ∈ (basic.points ++ storage.points).map TelemetryPoint.name, name ≠ []) ∧
        ((basic.points ++ storage.points).map TelemetryPoint.name).Nodup := by
  obtain ⟨declarations, accepted⟩ := hybrid_accepted
  exact ⟨declarations, accepted, accepted_device_safe wholeNumbers accepted
    (create (flatJson []) .initial []) (promptInput 7) (promptInput 7) .initial .initial⟩

end GenericModbusDevice

end ModbusBridge
