import ModbusBridge.Devices.Loading

/-!
# Isolated failures

What a phase reads, whatever fails: its entries are attempted in order until the budget is spent,
and each attempt adds its own points or none.
-/

namespace ModbusBridge

open Fallible

/-- The entry of this number is checked too late. -/
def PhaseInput.late (input : PhaseInput) (budget : UInt32) (i : Nat) : Bool :=
  input.nowMs i - input.startMs > budget

/-- The same clock and the same reads, but the one of this number fails. -/
def PhaseInput.failing (input : PhaseInput) (i : Nat) : PhaseInput :=
  { input with reads := Function.update input.reads i fun _ => none }

/-! ## Attempts -/

section Attempts

variable {α : Type*} (late : Nat → Bool)

/-- The items up to the first that is late, with their numbers from `start` on. -/
def attempted (start : Nat) (items : List α) : List (α × Nat) :=
  (items.zipIdx start).takeWhile fun item => !late item.2

theorem attempted_append (start : Nat) (early further : List α) :
    attempted late start (early ++ further) =
      if (attempted late start early).length = early.length then
        attempted late start early ++ attempted late (start + early.length) further
      else attempted late start early := by
  rw [attempted, attempted, List.zipIdx_append, List.takeWhile_append, List.length_zipIdx]
  split_ifs with whole
  · have all := (List.takeWhile_prefix fun item : α × Nat => !late item.2).eq_of_length
      (whole.trans (List.length_zipIdx ..).symm)
    rw [all]
    rfl
  · rfl

/-- The numbers of the attempts are their positions. -/
theorem attempted_number {start i : Nat} {items : List α} {item : α × Nat}
    (there : (attempted late start items)[i]? = some item) : item.2 = start + i := by
  obtain ⟨inside, found⟩ := List.getElem?_eq_some_iff.mp there
  have listed := (List.takeWhile_prefix fun item : α × Nat => !late item.2).getElem inside
  have same := found.symm.trans listed
  rw [List.getElem_zipIdx] at same
  exact congrArg Prod.snd same

/-- Leaving out what one attempt adds takes exactly that away. -/
theorem flatMap_without {β : Type*} {attempts : List (α × Nat)} {item : α × Nat} {i : Nat}
    (numbered : ∀ (j : Nat) (other : α × Nat), attempts[j]? = some other → other.2 = j)
    (there : attempts[i]? = some item) {added without : α × Nat → List β}
    (nothing : without item = []) (same : ∀ other, other.2 ≠ i → without other = added other) :
    attempts.flatMap added = (attempts.take i).flatMap added ++ added item ++
        (attempts.drop (i + 1)).flatMap added ∧
      attempts.flatMap without = (attempts.take i).flatMap added ++
        (attempts.drop (i + 1)).flatMap added := by
  obtain ⟨inside, rfl⟩ := List.getElem?_eq_some_iff.mp there
  have split : attempts.take i ++ attempts[i] :: attempts.drop (i + 1) = attempts := by
    rw [List.getElem_cons_drop, List.take_append_drop]
  have early : (attempts.take i).flatMap without = (attempts.take i).flatMap added := by
    refine List.flatMap_congr fun other listed => same other ?_
    obtain ⟨j, found⟩ := List.mem_iff_getElem?.mp listed
    rw [List.getElem?_take] at found
    split_ifs at found
    have number := numbered j other found
    omega
  have further : (attempts.drop (i + 1)).flatMap without =
      (attempts.drop (i + 1)).flatMap added := by
    refine List.flatMap_congr fun other listed => same other ?_
    obtain ⟨j, found⟩ := List.mem_iff_getElem?.mp listed
    rw [List.getElem?_drop] at found
    have number := numbered _ other found
    omega
  have parts : ∀ adds : α × Nat → List β, attempts.flatMap adds =
      (attempts.take i).flatMap adds ++ (adds attempts[i] ++
        (attempts.drop (i + 1)).flatMap adds) := by
    intro adds
    rw [← List.flatMap_cons, ← List.flatMap_append, split]
  constructor
  · rw [parts, List.append_assoc]
  · rw [parts, early, further, nothing, List.nil_append]

end Attempts

namespace GenericModbusDevice

/-! ## Devices -/

/-- A device object: a new one, or one after an attempt to begin. -/
inductive Constructed (lib : ArduinoJson) : GenericModbusDevice → Prop
  | create (config : Config) (jsonFile : Bytes) : Constructed lib (create lib config jsonFile)
  | begin {device : GenericModbusDevice} (fs : LittleFS) (opens : Bool)
      (constructed : Constructed lib device) :
      Constructed lib (InPlace.begin device lib fs opens).1

/-- Every register and group of the device is one that the parser accepts. -/
structure WellFormed (device : GenericModbusDevice) : Prop where
  registers : ∀ reg ∈ device.registers, reg.Sound
  groups : ∀ grp ∈ device.groups, grp.Sound

variable {lib : ArduinoJson}

theorem collected_sound {schema : Int} {entries : List Json} {reg : RegisterDef}
    (member : reg ∈ (collect (fun entry => parseRegisterDef lib entry schema) entries []).1) :
    reg.Sound := by
  rcases mem_collect member with there | ⟨entry, -, parsed⟩
  · contradiction
  · exact (parseRegisterDef_eq_ok parsed).sound

theorem storedGroups_sound {schema : Int} {value : Json} {grp : RegisterGroup}
    (member : grp ∈ (InPlace.storeGroups lib schema value []).1) : grp.Sound := by
  rw [InPlace.storeGroups] at member
  split at member
  · contradiction
  · split_ifs at member
    · contradiction
    · rcases mem_collect member with there | ⟨entry, -, parsed⟩
      · contradiction
      · exact (parseGroup_eq_ok parsed).sound

theorem stored_sound (doc : Json) :
    (∀ reg ∈ (stored lib doc).1, reg.Sound) ∧ ∀ grp ∈ (stored lib doc).2, grp.Sound := by
  rw [stored, InPlace.parseDoc]
  dsimp only
  split_ifs
  · simp
  · split
    · exact ⟨fun reg => collected_sound, by simp⟩
    · split <;> exact ⟨fun reg => collected_sound, fun grp => storedGroups_sound⟩

theorem WellFormed.begin {device : GenericModbusDevice} (wellFormed : WellFormed device)
    (fs : LittleFS) (opens : Bool) : WellFormed (InPlace.begin device lib fs opens).1 := by
  by_cases started : device.initialized = true
  · rw [InPlace.begin, if_pos started]
    exact wellFormed
  · rw [Bool.not_eq_true] at started
    obtain ⟨registers, groups⟩ := @begin_stores lib device fs opens started
    constructor
    · rw [registers, List.forall_mem_append]
      refine ⟨wellFormed.registers, ?_⟩
      cases InPlace.openDocument device lib fs opens with
      | none => simp
      | some doc => exact (stored_sound doc).1
    · rw [groups, List.forall_mem_append]
      refine ⟨wellFormed.groups, ?_⟩
      cases InPlace.openDocument device lib fs opens with
      | none => simp
      | some doc => exact (stored_sound doc).2

/-- Whatever files the object has met, what it holds can be read. -/
theorem Constructed.wellFormed {device : GenericModbusDevice}
    (constructed : Constructed lib device) : WellFormed device := by
  induction constructed with
  | create config jsonFile =>
      exact ⟨by simp [GenericModbusDevice.create], by simp [GenericModbusDevice.create]⟩
  | begin fs opens _ induction => exact induction.begin fs opens

/-! ## What a phase reads -/

variable (single : SinglePrecision) (budget : UInt32) (storagePhase : Bool) (input : PhaseInput)

/-- `emitField` for every field of an entry, in the words that the client stores. -/
def emitted (entry : Entry) (data : Nat → Word) : Option (List TelemetryPoint) :=
  let buf := (List.range entry.request.count.toNat).map data
  (entry.fields.mapM fun field => emitField single (buf.drop field.offset.toNat) field).map
    List.flatten

/-- What an attempt adds to the points. -/
def pointsOf (attempt : Entry × Nat) : List TelemetryPoint :=
  (input.reads attempt.2 attempt.1.request).elim [] (attempt.1.points single)

/-- The attempts of a phase at these entries. -/
def attemptsOf (before : Phase) (entries : List Entry) : List (Entry × Nat) :=
  if before.budgetTripped then []
  else attempted (input.late budget) before.visited (ownEntries storagePhase entries)

/-- Part of a phase: which entries it attempts, and what it adds. -/
structure Phase.Attempts (entries : List Entry) (before after : Phase) : Prop where
  requests : after.requests = before.requests ++
    (attemptsOf budget storagePhase input before entries).map fun attempt => attempt.1.request
  out : after.out = before.out ++
    (attemptsOf budget storagePhase input before entries).flatMap (pointsOf single input)
  succeeded : after.succeeded = before.succeeded +
    (attemptsOf budget storagePhase input before entries).countP
      fun attempt => (input.reads attempt.2 attempt.1.request).isSome
  tripped : after.budgetTripped = true ↔ before.budgetTripped = true ∨
    (attemptsOf budget storagePhase input before entries).length ≠
      (ownEntries storagePhase entries).length
  visited : after.budgetTripped = false →
    after.visited = before.visited + (ownEntries storagePhase entries).length

theorem attemptsOf_length_le (before : Phase) (entries : List Entry) :
    (attemptsOf budget storagePhase input before entries).length ≤
      (ownEntries storagePhase entries).length := by
  rw [attemptsOf]
  split_ifs
  · exact Nat.zero_le _
  · exact (List.takeWhile_prefix _).length_le.trans_eq (List.length_zipIdx ..)

variable {single budget storagePhase input}

theorem Phase.Attempts.refl (phase : Phase) :
    Phase.Attempts single budget storagePhase input [] phase phase := by
  have none : attemptsOf budget storagePhase input phase [] = [] := by
    rw [attemptsOf]
    split_ifs <;> rfl
  refine ⟨?_, ?_, ?_, ?_, fun _ => rfl⟩ <;> rw [none] <;> simp [ownEntries]

/-- After the first entries, a phase attempts the others if none of the first was late. -/
theorem attemptsOf_append {early late : List Entry} {before between : Phase}
    (first : Phase.Attempts single budget storagePhase input early before between) :
    attemptsOf budget storagePhase input before (early ++ late) =
      attemptsOf budget storagePhase input before early ++
        attemptsOf budget storagePhase input between late := by
  by_cases already : before.budgetTripped = true
  · have tripped := first.tripped.mpr (.inl already)
    rw [attemptsOf, attemptsOf, attemptsOf, if_pos already, if_pos already, if_pos tripped]
    rfl
  · have early_eq : attemptsOf budget storagePhase input before early =
        attempted (input.late budget) before.visited (ownEntries storagePhase early) :=
      if_neg already
    have tripped := first.tripped
    rw [early_eq] at tripped ⊢
    rw [attemptsOf, if_neg already, ownEntries_append, attempted_append]
    split_ifs with whole
    · have inTime : between.budgetTripped = false := by
        simpa [already, whole] using tripped
      rw [attemptsOf, inTime, if_neg Bool.false_ne_true, first.visited inTime]
    · rw [attemptsOf, if_pos (tripped.mpr (.inr whole)), List.append_nil]

theorem Phase.Attempts.trans {early late : List Entry} {before between after : Phase}
    (first : Phase.Attempts single budget storagePhase input early before between)
    (second : Phase.Attempts single budget storagePhase input late between after) :
    Phase.Attempts single budget storagePhase input (early ++ late) before after := by
  have split := @attemptsOf_append single budget storagePhase input early late before between first
  refine ⟨?_, ?_, ?_, ?_, fun inTime => ?_⟩
  · rw [second.requests, first.requests, split, List.map_append, List.append_assoc]
  · rw [second.out, first.out, split, List.flatMap_append, List.append_assoc]
  · rw [second.succeeded, first.succeeded, split, List.countP_append, Nat.add_assoc]
  · have front := attemptsOf_length_le budget storagePhase input before early
    have rest := attemptsOf_length_le budget storagePhase input between late
    rw [second.tripped, first.tripped, split, ownEntries_append, List.length_append,
      List.length_append, or_assoc]
    refine or_congr_right ?_
    omega
  · have early : between.budgetTripped = false := by
      by_contra tripped
      rw [Bool.not_eq_false] at tripped
      rw [second.tripped.mpr (.inl tripped)] at inTime
      contradiction
    rw [second.visited inTime, first.visited early, ownEntries_append, List.length_append,
      Nat.add_assoc]

theorem ownEntries_singleton {entry : Entry} (same : entry.isStorage = storagePhase) :
    ownEntries storagePhase [entry] = [entry] := by
  simp [ownEntries, same]

theorem attemptsOf_of_late {entry : Entry} {before : Phase}
    (same : entry.isStorage = storagePhase) (late : before.budgetExpired budget input = true) :
    attemptsOf budget storagePhase input before [entry] = [] := by
  rw [attemptsOf, ownEntries_singleton same]
  split_ifs with already
  · rfl
  · rw [Phase.budgetExpired, Bool.or_eq_true, or_iff_right already] at late
    have expired : input.late budget before.visited = true := late
    rw [attempted, List.zipIdx_singleton, List.takeWhile_cons_of_neg (by simp [expired])]

theorem attemptsOf_of_early {entry : Entry} {before : Phase}
    (same : entry.isStorage = storagePhase) (inTime : before.budgetExpired budget input = false) :
    attemptsOf budget storagePhase input before [entry] = [(entry, before.visited)] := by
  rw [Phase.budgetExpired, Bool.or_eq_false_iff] at inTime
  obtain ⟨running, early⟩ := inTime
  have early : input.late budget before.visited = false := early
  rw [attemptsOf, running, if_neg Bool.false_ne_true, ownEntries_singleton same, attempted,
    List.zipIdx_singleton, List.takeWhile_cons_of_pos (by simp [early]), List.takeWhile_nil]

theorem Phase.Turn.attempts {entry : Entry} {before after : Phase}
    (turn : Phase.Turn single budget storagePhase input entry before after)
    (trips : entry.isStorage = storagePhase → before.budgetExpired budget input = true →
      after.budgetTripped = true ∧ after.succeeded = before.succeeded) :
    Phase.Attempts single budget storagePhase input [entry] before after := by
  cases turn with
  | other apart same =>
      subst same
      have own : ownEntries storagePhase [entry] = [] := by simp [ownEntries, apart]
      have none : attemptsOf budget storagePhase input after [entry] = [] := by
        rw [attemptsOf, own]
        split_ifs <;> rfl
      refine ⟨?_, ?_, ?_, ?_, fun _ => ?_⟩ <;> simp [none, own]
  | skipped same late requests out =>
      obtain ⟨tripped, succeeded⟩ := trips same late
      have own := ownEntries_singleton same
      have none := attemptsOf_of_late same late
      refine ⟨?_, ?_, ?_, ?_, fun inTime => ?_⟩
      · simp [none, requests]
      · simp [none, out]
      · simp [none, succeeded]
      · simp [none, own, tripped]
      · simp [tripped] at inTime
  | read same inTime read made requests out visited succeeded tripped =>
      subst made
      have own := ownEntries_singleton same
      have one := attemptsOf_of_early same inTime
      refine ⟨?_, ?_, ?_, ?_, fun _ => ?_⟩
      · simpa [one, Entry.read] using requests
      · simpa [one, Entry.read, pointsOf] using out
      · rw [succeeded, one, Entry.read, List.countP_singleton]
        cases (input.reads before.visited entry.request).isSome <;> rfl
      · simp [one, own, tripped]
      · rw [visited, own]
        rfl

theorem visitRegister_attempts (device : GenericModbusDevice) {reg : RegisterDef}
    (sound : reg.Sound) (phase : Phase) :
    ∃ after, visitRegister single device budget storagePhase input phase reg = some after ∧
      Phase.Attempts single budget storagePhase input [registerEntry device.slaveAddr reg] phase
        after := by
  obtain ⟨after, visited, turn⟩ :=
    visitRegister_turn single device budget storagePhase input sound phase
  refine ⟨after, visited, turn.attempts fun same late => ?_⟩
  have same : reg.isStorage = storagePhase := same
  have own : ¬ (reg.isStorage != storagePhase) = true := by simpa using same
  rw [visitRegister, if_neg own, if_pos late] at visited
  obtain rfl := Option.some.inj visited
  exact ⟨rfl, rfl⟩

theorem visitGroup_attempts (device : GenericModbusDevice) {grp : RegisterGroup}
    (sound : grp.Sound) (phase : Phase) :
    ∃ after, visitGroup single device budget storagePhase input phase grp = some after ∧
      Phase.Attempts single budget storagePhase input [groupEntry device.slaveAddr grp] phase
        after := by
  obtain ⟨after, visited, turn⟩ :=
    visitGroup_turn single device budget storagePhase input sound phase
  refine ⟨after, visited, turn.attempts fun same late => ?_⟩
  have same : grp.isStorage = storagePhase := same
  have own : ¬ (grp.isStorage != storagePhase) = true := by simpa using same
  rw [visitGroup, if_neg own, if_pos late] at visited
  obtain rfl := Option.some.inj visited
  exact ⟨rfl, rfl⟩

/-! ## Whole phases -/

variable (single budget storagePhase input) {device : GenericModbusDevice}

/-- The attempts of a whole phase. -/
def attempts (device : GenericModbusDevice) : List (Entry × Nat) :=
  attempted (input.late budget) 0 (ownEntries storagePhase (allEntries device))

theorem readPhase_eq (wellFormed : WellFormed device) :
    ∃ reading, readPhase single device budget storagePhase input = some reading ∧
      reading.requests = (attempts budget storagePhase input device).map
        (fun attempt => attempt.1.request) ∧
      reading.points = (attempts budget storagePhase input device).flatMap
        (pointsOf single input) ∧
      (reading.succeeded = true ↔ ∃ attempt ∈ attempts budget storagePhase input device,
        (input.reads attempt.2 attempt.1.request).isSome = true) := by
  obtain ⟨phase, found, attempts⟩ := readPhase_of_turns single device budget storagePhase input
    (Phase.Attempts single budget storagePhase input) Phase.Attempts.refl Phase.Attempts.trans
    (fun reg listed => visitRegister_attempts device (wellFormed.registers reg listed))
    (fun grp listed => visitGroup_attempts device (wellFormed.groups grp listed))
  refine ⟨_, found, attempts.requests, attempts.out, ?_⟩
  have counted : phase.flatOk + phase.groupOk = _ := attempts.succeeded
  rw [decide_eq_true_eq, counted]
  exact (Nat.zero_add _).symm ▸ List.countP_pos_iff

/-- The fields of an entry lie within the words that it reads. -/
theorem fields_inside (wellFormed : WellFormed device) {entry : Entry}
    (listed : entry ∈ allEntries device) :
    ∀ field ∈ entry.fields,
      field.Sound ∧ field.offset.toNat + wordSize field.type ≤ entry.request.count.toNat := by
  rcases List.mem_append.mp listed with flat | grouped
  · obtain ⟨reg, member, rfl⟩ := List.mem_map.mp flat
    intro field only
    obtain rfl := List.mem_singleton.mp only
    have sound := (wellFormed.registers reg member).field
    refine ⟨⟨sound.known, sound.named, sound.bitsNamed⟩, ?_⟩
    rcases wordSize_eq reg.field.type with size | size <;> simp [registerEntry, size]
  · obtain ⟨grp, member, rfl⟩ := List.mem_map.mp grouped
    have count : (grp.count.toBitVec.setWidth 16).toNat = grp.count.toNat := by simp
    dsimp only [groupEntry]
    rw [count]
    exact (wellFormed.groups grp member).fields

theorem emitted_eq_some (wellFormed : WellFormed device) {entry : Entry}
    (listed : entry ∈ allEntries device) (data : Nat → Word) :
    emitted single entry data = some (entry.points single data) := by
  have emits := mapM_eq_some fun field member =>
    emitField_within single (fields_inside wellFormed listed field member).1
      (fields_inside wellFormed listed field member).2 data
  rw [emitted]
  rw [emits]
  rfl

/-- What a phase comes to: `emitField` gives the points of the entries that were read, in order, and
a further failure takes the points of its entry away, and no others. -/
structure Reading.Isolates (device : GenericModbusDevice) (reading : Reading) : Prop where
  emits : ∀ attempt ∈ attempts budget storagePhase input device, ∀ data,
    emitted single attempt.1 data = some (attempt.1.points single data)
  requests : reading.requests =
    (attempts budget storagePhase input device).map fun attempt => attempt.1.request
  points : reading.points =
    (attempts budget storagePhase input device).flatMap (pointsOf single input)
  succeeded : reading.succeeded = true ↔ ∃ attempt ∈ attempts budget storagePhase input device,
    (input.reads attempt.2 attempt.1.request).isSome = true
  failure : ∀ i attempt, (attempts budget storagePhase input device)[i]? = some attempt →
    ∃ failed, readPhase single device budget storagePhase (input.failing i) = some failed ∧
      reading.points =
        ((attempts budget storagePhase input device).take i).flatMap (pointsOf single input) ++
          pointsOf single input attempt ++
          ((attempts budget storagePhase input device).drop (i + 1)).flatMap
            (pointsOf single input) ∧
      failed.points =
        ((attempts budget storagePhase input device).take i).flatMap (pointsOf single input) ++
          ((attempts budget storagePhase input device).drop (i + 1)).flatMap
            (pointsOf single input)

/-- Failures are isolated in every phase, whatever the clock and the reads are. -/
theorem readPhase_isolates (constructed : Constructed lib device) :
    ∃ reading, readPhase single device budget storagePhase input = some reading ∧
      reading.Isolates single budget storagePhase input device := by
  have wellFormed := constructed.wellFormed
  obtain ⟨reading, found, requests, points, succeeded⟩ :=
    readPhase_eq single budget storagePhase input wellFormed
  refine ⟨reading, found, fun attempt listed data => ?_, requests, points, succeeded,
    fun i attempt there => ?_⟩
  · have indexed := (List.takeWhile_prefix _).subset listed
    have member := List.fst_mem_of_mem_zipIdx indexed
    exact emitted_eq_some single wellFormed (List.mem_filter.mp member).1 data
  · obtain ⟨failed, again, -, rest, -⟩ :=
      readPhase_eq single budget storagePhase (input.failing i) wellFormed
    have numbered : ∀ (j : Nat) (other : Entry × Nat),
        (attempts budget storagePhase input device)[j]? = some other → other.2 = j :=
      fun j other position => (attempted_number _ position).trans (Nat.zero_add j)
    refine ⟨failed, again, ?_⟩
    rw [points, rest]
    refine flatMap_without numbered there ?_ fun other elsewhere => ?_
    · change (Function.update input.reads i _ attempt.2 attempt.1.request).elim [] _ = []
      rw [numbered i attempt there, Function.update_self]
      rfl
    · change (Function.update input.reads i _ other.2 other.1.request).elim [] _ = _
      rw [Function.update_of_ne elsewhere, pointsOf]

/-- The device of a file with one register. -/
def powerLoaded : GenericModbusDevice :=
  (InPlace.begin powerDevice powerJson (powerFile true) true).1

/-- The text of a device with two registers and two groups. -/
def mixedText : Bytes :=
  ascii "\x7b\"schema_version\":2,\"registers\":[\x7b\"addr\":\"16\",\"name\":\"power\"\x7d," ++
    ascii "\x7b\"addr\":\"17\",\"name\":\"load\"\x7d],\"groups\":[" ++
    ascii "\x7b\"name\":\"grid\",\"start\":\"100\",\"count\":2,\"fields\":[" ++
    ascii "\x7b\"name\":\"u\"\x7d,\x7b\"name\":\"i\",\"offset\":1\x7d]\x7d," ++
    ascii "\x7b\"name\":\"pv\",\"start\":\"200\",\"count\":1,\"fields\":[" ++
    ascii "\x7b\"name\":\"p\"\x7d]\x7d]\x7d"

/-- The document of that text. -/
def mixedDocument : Json :=
  .object [(ascii "schema_version", .integer 2),
    (ascii "registers", .array [
      .object [(ascii "addr", .string (ascii "16")), (ascii "name", .string (ascii "power"))],
      .object [(ascii "addr", .string (ascii "17")), (ascii "name", .string (ascii "load"))]]),
    (ascii "groups", .array [
      .object [(ascii "name", .string (ascii "grid")), (ascii "start", .string (ascii "100")),
        (ascii "count", .integer 2), (ascii "fields", .array [
          .object [(ascii "name", .string (ascii "u"))],
          .object [(ascii "name", .string (ascii "i")), (ascii "offset", .integer 1)]])],
      .object [(ascii "name", .string (ascii "pv")), (ascii "start", .string (ascii "200")),
        (ascii "count", .integer 1), (ascii "fields", .array [
          .object [(ascii "name", .string (ascii "p"))]])]])]

/-- The library, as far as that text needs it. -/
def mixedJson : ArduinoJson := flatJson [(mixedText, mixedDocument)]

/-- The file system with that device. -/
def mixedFile : LittleFS where
  mounted := true
  files path := if path = ascii "/devices/m.json" then some mixedText else none
  directories path := path = ascii "/devices"

/-- The device, when it has begun. -/
def mixedLoaded : GenericModbusDevice :=
  (InPlace.begin (.create mixedJson .initial (ascii "/devices/m.json")) mixedJson mixedFile true).1

/-- The second read fails, and the budget is spent behind the third. -/
def strainedInput : PhaseInput where
  startMs := 1000
  nowMs i := if i < 3 then 1400 else 1501
  reads i _ := if i = 1 then none else some fun _ => 7

/-- Three of four entries are attempted, and the first and the third give their points. -/
theorem readPhase_isolates_strained :
    Constructed mixedJson mixedLoaded ∧
      ∃ reading, readPhase wholeNumbers mixedLoaded 500 false strainedInput = some reading ∧
        reading.requests.map ReadRequest.startAddr = [16, 17, 100] ∧
        reading.points.map TelemetryPoint.name = [ascii "power", ascii "u", ascii "i"] ∧
        reading.Isolates wholeNumbers 500 false strainedInput mixedLoaded := by
  have constructed : Constructed mixedJson mixedLoaded :=
    .begin mixedFile true (.create .initial (ascii "/devices/m.json"))
  obtain ⟨reading, found, isolates⟩ :=
    readPhase_isolates wholeNumbers 500 false strainedInput constructed
  refine ⟨constructed, reading, found, ?_, ?_, isolates⟩
  · rw [isolates.requests]
    decide +kernel
  · rw [isolates.points]
    decide +kernel

end GenericModbusDevice

end ModbusBridge
