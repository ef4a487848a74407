import Mathlib.Tactic.Ring
import ModbusBridge.Library.PolledQueue
import ModbusBridge.Modbus.ReadOnly
import ModbusBridge.Polling.OverTheWire

/-!
# Replies in time

The client waits for a reply as long as the speed of the line tells it to, and takes one byte of it
in each turn of its loop. A station that begins its reply soon enough is read, whatever the settings
of the line are.
-/

namespace ModbusBridge

open PolledQueue ShiftRegister

/-! ## The line -/

/-- What `configureSerial` sets up, besides the baud rate. -/
structure SerialFormat where
  dataBits : Nat
  parity : Bool
  stopBits : Nat

namespace SerialClient

/-- `configureSerial`. -/
def configureSerial (client : SerialClient) : SerialFormat where
  dataBits := if client.dataBits = 7 then 7 else 8
  parity :=
    client.parity = 69 ∨ client.parity = 101 ∨ client.parity = 79 ∨ client.parity = 111
  stopBits := if client.stopBits = 2 then 2 else 1

end SerialClient

/-- The bits of a character on the line. -/
def SerialFormat.bits (format : SerialFormat) : Nat :=
  1 + format.dataBits + format.parity.toNat + format.stopBits

namespace SerialClient

variable {lib : ArduinoJson} {config : Config}

theorem getBaudrateValue_pos (lib : ArduinoJson) (config : Config) :
    0 < (getBaudrateValue lib config).toNat := by
  simp only [getBaudrateValue]
  generalize config.getInt lib (ascii "baudrate") 9600 = configBaud
  split_ifs with valid
  · rcases valid with rfl | rfl | rfl | rfl | rfl <;> decide
  · decide

theorem getDataBitsValue_cases (lib : ArduinoJson) (config : Config) :
    getDataBitsValue lib config = 7 ∨ getDataBitsValue lib config = 8 := by
  simp only [getDataBitsValue]
  split_ifs with valid
  · exact valid
  · exact .inr rfl

theorem getParityValue_cases (lib : ArduinoJson) (config : Config) :
    getParityValue lib config = 69 ∨ getParityValue lib config = 79 ∨
      getParityValue lib config = 78 := by
  simp only [getParityValue]
  split_ifs <;> simp

/-- `begin` counts the bits of a character that the serial line is set up for. -/
theorem begin_bits
    (stops : config.getInt lib (ascii "stop_bits") 1 = 1 ∨
      config.getInt lib (ascii "stop_bits") 1 = 2) :
    1 + getDataBitsValue lib config + (if getParityValue lib config ≠ 78 then 1 else 0) +
        config.getInt lib (ascii "stop_bits") 1 = (create.begin lib config).configureSerial.bits ∧
      (create.begin lib config).configureSerial.bits ≤ 12 := by
  have begun : create.begin lib config = { create.begin lib config with
      dataBits := getDataBitsValue lib config
      parity := getParityValue lib config
      stopBits := config.getInt lib (ascii "stop_bits") 1 } := rfl
  rw [begun]
  simp only [configureSerial, SerialFormat.bits]
  rcases getDataBitsValue_cases lib config with seven | eight <;>
    rcases getParityValue_cases lib config with even | odd | none <;>
      rcases stops with one | two <;> simp_all

/-- The client waits half a second longer than 256 characters take. -/
theorem begin_responseTimeout
    (stops : config.getInt lib (ascii "stop_bits") 1 = 1 ∨
      config.getInt lib (ascii "stop_bits") 1 = 2) :
    (create.begin lib config).responseTimeout.toNat =
      256 * (create.begin lib config).configureSerial.bits * 1000 /
        (create.begin lib config).baudrate.toNat + 500 := by
  obtain ⟨counts, few⟩ := begin_bits stops
  generalize (create.begin lib config).configureSerial.bits = bits at counts few
  have waits : (create.begin lib config).responseTimeout =
      256 * .ofBitVec (.ofInt 32 (1 + getDataBitsValue lib config +
        (if getParityValue lib config ≠ 78 then 1 else 0) +
          config.getInt lib (ascii "stop_bits") 1)) * 1000 /
        (create.begin lib config).baudrate + 500 := rfl
  have small : (UInt32.ofBitVec (.ofInt 32 (bits : Int))).toNat = bits := by
    rw [BitVec.ofInt_natCast, UInt32.toNat_ofBitVec, BitVec.toNat_ofNat]
    omega
  have quotient : 256 * bits * 1000 / (create.begin lib config).baudrate.toNat ≤ 3072000 :=
    (Nat.div_le_self _ _).trans (by omega)
  rw [waits, counts, UInt32.toNat_add, UInt32.toNat_div, UInt32.toNat_mul, UInt32.toNat_mul, small]
  rw [show (256 : UInt32).toNat = 256 from rfl, show (1000 : UInt32).toNat = 1000 from rfl,
    show (500 : UInt32).toNat = 500 from rfl, Nat.mod_eq_of_lt (a := 256 * bits) (by omega),
    Nat.mod_eq_of_lt (a := 256 * bits * 1000) (by omega), Nat.mod_eq_of_lt (by omega)]

end SerialClient

/-! ## Receptions -/

/-- What the receive loop meets: when it starts, its turns, and the bytes on the line with their
times, in milliseconds since the start of the device. -/
structure Reception where
  start : Nat
  turns : List Turn
  arrivals : List (Nat × UInt8)

/-- What the loop reads in a turn. `millis()` has 32 bits. -/
def Tick.ofTurn (entry : Turn × Option UInt8) : Tick :=
  ⟨.ofNat entry.1.begins, entry.2, .ofNat entry.1.ends⟩

namespace Reception

/-- The bytes that come. -/
def bytes (reception : Reception) : Bytes := reception.arrivals.map Prod.snd

/-- In an exchange, the request is sent and the loop meets this. -/
structure Fills (reception : Reception) (bus : Exchange) : Prop where
  written : bus.written = 8
  startTime : bus.startTime = .ofNat reception.start
  ticks : bus.ticks = (serve reception.turns reception.arrivals).map .ofTurn

/-- The characters come at the speed of the line after a delay, without pauses, and the loop looks
for them once a period, until its time is over. -/
structure Timely (client : SerialClient) (delay period pause : Nat) (reception : Reception) :
    Prop where
  comes : ∀ i, ∀ arrival ∈ reception.arrivals[i]?, client.baudrate.toNat * arrival.1 ≤
    client.baudrate.toNat * (reception.start + delay) +
      1000 * client.configureSerial.bits * (i + 1)
  dense : reception.arrivals.IsChain fun earlier later => later.1 ≤ earlier.1 + pause
  regular : (⟨reception.start, reception.start, reception.start⟩ :: reception.turns).IsChain
    (Turn.Follows period)
  lasts : ∃ turn ∈ reception.turns, reception.start + client.responseTimeout.toNat ≤ turn.begins

end Reception

/-- Times less than a turn of the clock apart. -/
theorem millis_sub_toNat {earlier later : Nat} (ordered : earlier ≤ later)
    (near : later - earlier < 2 ^ 32) :
    (UInt32.ofNat later - UInt32.ofNat earlier).toNat = later - earlier := by
  rw [← UInt32.ofNat_sub ordered, UInt32.toNat_ofNat', Nat.mod_eq_of_lt near]

theorem gapless_of_close {pause : Nat} (short : pause ≤ 10) {last : Option Nat}
    {entries : List (Turn × Option UInt8)} (close : Close pause last entries) :
    Gapless (last.map UInt32.ofNat) (entries.map Tick.ofTurn) := by
  induction entries generalizing last with
  | nil => trivial
  | cons entry entries induction =>
      obtain ⟨turn, taken⟩ := entry
      cases taken with
      | some byte => exact @induction (some turn.ends) close
      | none =>
          obtain ⟨near, close⟩ := close
          refine ⟨fun time same => ?_, induction close⟩
          obtain ⟨before, there, rfl⟩ := Option.map_eq_some_iff.mp same
          obtain ⟨passed, soon⟩ := near before there
          rw [UInt32.le_iff_toNat_le, Tick.ofTurn, millis_sub_toNat passed (by omega)]
          exact (Nat.sub_le_iff_le_add'.mpr soon).trans short

/-- Half a second, and the time for 256 characters, are enough for some characters of which each
takes no longer than that, and for what the loop is slower than the line. -/
theorem limit_of_margin {rate bits delay period count timeout : Nat} (start : Nat)
    (positive : 0 < rate) (few : count ≤ 256)
    (waits : timeout = 256 * bits * 1000 / rate + 500)
    (margin : rate * (delay + period + 1) + count * (rate * period - 1000 * bits) ≤ 500 * rate) :
    rate * (start + delay + period) + count * max (1000 * bits) (rate * period) <
      rate * (start + timeout) := by
  have slower : max (1000 * bits) (rate * period) =
      1000 * bits + (rate * period - 1000 * bits) := by
    rw [add_tsub_eq_max]
  have characters : count * (1000 * bits) ≤ 256 * bits * 1000 := by
    calc count * (1000 * bits) ≤ 256 * (1000 * bits) := Nat.mul_le_mul_right _ few
      _ = 256 * bits * 1000 := by ring
  have quotient : 256 * bits * 1000 < rate * (256 * bits * 1000 / rate + 1) :=
    Nat.lt_mul_div_succ _ positive
  rw [waits, slower, Nat.mul_add count]
  linarith

/-- The loop takes the reply if the half second makes up for the delay, for a period, and for what
the loop is slower than the line. -/
theorem Reception.Timely.intact {lib : ArduinoJson} {config : Config}
    (stops : config.getInt lib (ascii "stop_bits") 1 = 1 ∨
      config.getInt lib (ascii "stop_bits") 1 = 2)
    {delay period pause : Nat} {reception : Reception} (short : pause + period ≤ 10)
    (timely : reception.Timely (SerialClient.create.begin lib config) delay period pause)
    {bus : Exchange} (fills : reception.Fills bus)
    (few : reception.bytes.length ≤ maxResponse)
    (margin :
      let client := SerialClient.create.begin lib config
      let rate := client.baudrate.toNat
      rate * (delay + period + 1) +
        reception.bytes.length * (rate * period - 1000 * client.configureSerial.bits) ≤
          500 * rate) :
    Intact (SerialClient.create.begin lib config).responseTimeout bus reception.bytes := by
  have waits := SerialClient.begin_responseTimeout stops
  have positive : 0 < (SerialClient.create.begin lib config).baudrate.toNat :=
    SerialClient.getBaudrateValue_pos lib config
  have soon := limit_of_margin reception.start positive few waits margin
  rw [Reception.bytes, List.length_map] at soon
  obtain ⟨busy, idle, served, values, within, close, nothing⟩ :=
    serve_takes_of_rate timely.regular timely.comes soon timely.lasts timely.dense
  refine ⟨busy.map .ofTurn, idle.map .ofTurn, ?_, ?_, ?_, gapless_of_close short close, ?_⟩
  · rw [fills.ticks, served, List.map_append]
  · rw [List.filterMap_map]
    exact values
  · rw [List.forall_mem_map]
    intro entry listed
    obtain ⟨started, inside⟩ := within entry listed
    have bounded := (SerialClient.create.begin lib config).responseTimeout.toNat_lt
    rw [Tick.ofTurn, fills.startTime, UInt32.lt_iff_toNat_lt, millis_sub_toNat started (by omega)]
    omega
  · rw [List.forall_mem_map]
    exact nothing

/-! ## Reads -/

/-- A reply that arrives intact is carried. -/
theorem carries_of_intact {client : ModbusClient} {station : Station} {request reply : Bytes}
    {bus : Exchange} (served : station.serve request = some reply)
    (intact : Intact client.responseTimeout bus reply) (few : reply.length ≤ maxResponse) :
    Carries client station request bus := by
  intro received delivered
  rw [client.delivered_of_intact intact few] at delivered
  obtain rfl := Option.some.inj delivered
  have zero : ∀ byte ∈ List.replicate reply.length (0 : UInt8), byte = 0 :=
    fun byte listed => List.eq_of_mem_replicate listed
  have same : (List.replicate reply.length (0 : UInt8)).length = reply.length :=
    List.length_replicate
  have clean := corrupt_of_zero same zero
  exact .inr ⟨reply, served, List.replicate reply.length 0, same, .inr (burst_of_zero zero),
    clean.symm ▸ List.prefix_rfl⟩

/-- Over a line that loses, cuts short and damages replies, a read succeeds at the latest with the
first attempt that is answered in time: half a second must make up for the delay of the station, for
a period of the loop, and for what the loop is slower than the line on each byte. -/
theorem read_in_time {lib : ArduinoJson} {config : Config}
    (stops : config.getInt lib (ascii "stop_bits") 1 = 1 ∨
      config.getInt lib (ascii "stop_bits") 1 = 2)
    {request : ReadRequest} (within : request.WithinLimits)
    (inside : request.startAddr.toNat + request.count.toNat ≤ 65536)
    {delay period pause : Nat} (short : pause + period ≤ 10)
    (margin :
      let client := SerialClient.create.begin lib config
      let rate := client.baudrate.toNat
      rate * (delay + period + 1) + (5 + 2 * request.count.toNat) *
        (rate * period - 1000 * client.configureSerial.bits) ≤ 500 * rate)
    {stations : Nat → Station} {bus : Nat → Exchange} {k : Nat}
    (tried : k < attemptLimit maxReadAttempts)
    (carries : ∀ j ≠ k, Carries (SerialClient.create.begin lib config).toModbusClient (stations j)
      request.frame (bus j))
    {reception : Reception}
    (served : (stations k).serve request.frame = some reception.bytes)
    (fills : reception.Fills (bus k))
    (timely : reception.Timely (SerialClient.create.begin lib config) delay period pause)
    (stale : Nat → Word) :
    ∃ j ≤ k, ∃ words,
      (SerialClient.create.begin lib config).stores stale request bus = some words ∧
      ∀ i < request.count.toNat, words i = (stations j).asked request i := by
  obtain ⟨table, code, -⟩ := within.table
  have few_words := within.few_words
  have some_words := within.some_words
  have whole : reception.bytes =
      (stations k).reply table.function table request.startAddr request.count.toNat := by
    have answered := served
    rw [ReadRequest.frame, code, Station.serve_buildReadFrame] at answered
    split_ifs at answered with other few range
    · omega
    · omega
    · exact (Option.some.inj answered).symm
  have long : reception.bytes.length = 5 + 2 * request.count.toNat :=
    (congrArg List.length whole).trans (Station.reply_length ..)
  have few : reception.bytes.length ≤ maxResponse := by
    rw [long, maxResponse]
    omega
  rw [← long] at margin
  have intact := timely.intact stops short fills few margin
  have every : ∀ j, Carries (SerialClient.create.begin lib config).toModbusClient (stations j)
      request.frame (bus j) := by
    intro j
    by_cases here : j = k
    · exact here ▸ carries_of_intact served intact few
    · exact carries j here
  have taken : ((SerialClient.create.begin lib config).candidate request.count.toNat
      (bus k)).isSome = true := by
    have acceptable := (stations k).reply_acceptable table request.startAddr within.few_words
    rw [← whole] at acceptable
    simp only [ModbusClient.candidate, ModbusClient.delivered_of_intact intact few, fills.written,
      acceptable, and_self, if_true, Option.isSome_some]
  have begun : (SerialClient.create.begin lib config).initialized = true := rfl
  have stored := ModbusClient.stores_eq begun within every stale
  cases first : (SerialClient.create.begin lib config).firstTaken request bus with
  | none =>
      have missed := List.find?_eq_none.mp first k (List.mem_range.mpr tried)
      exact absurd taken missed
  | some j =>
      rw [first] at stored
      obtain ⟨-, -, before⟩ := List.find?_range_eq_some.mp first
      refine ⟨j, Nat.le_of_not_lt fun lower => ?_, stored⟩
      simpa [taken] using before k lower

/-! ## A slow station -/

/-- Turns of which each takes the whole period. -/
def steadyTurns (period : Nat) : Nat → Nat → List Turn
  | _, 0 => []
  | time, count + 1 =>
      ⟨time + period, time + period, time + period⟩ :: steadyTurns period (time + period) count

theorem steadyTurns_follow (period time count : Nat) :
    (⟨time, time, time⟩ :: steadyTurns period time count).IsChain (Turn.Follows period) := by
  induction count generalizing time with
  | zero => exact .singleton _
  | succ count induction =>
      refine List.isChain_cons_cons.mpr ⟨⟨?_, ?_, ?_, ?_, ?_⟩, induction (time + period)⟩
      all_goals simp

/-- The bytes of a reply come a millisecond apart, across the wrap of the clock. -/
def slowReception (reply : Bytes) : Reception where
  start := 4294967000
  turns := steadyTurns 8 4294967000 100
  arrivals := reply.zipIdx.map fun entry => (4294967000 + 440 + entry.2 + 1, entry.1)

/-- A configuration without settings of the line. -/
def plainConfig : Config := ⟨ascii "/config.json", .object [], true⟩

/-- The client with 9600 baud. -/
def slowClient : SerialClient := SerialClient.create.begin (flatJson []) plainConfig

/-- The second attempt is answered, after 440 milliseconds. -/
def slowBus (k : Nat) : Exchange :=
  if k = 1 then
    { Exchange.prompt [] with
      startTime := .ofNat 4294967000
      ticks := (serve (slowReception echoReply).turns (slowReception echoReply).arrivals).map
        .ofTurn }
  else .prompt []

theorem slowReception_timely (reply : Bytes) :
    (slowReception reply).Timely slowClient 440 8 2 := by
  have rate : slowClient.baudrate.toNat = 9600 := by decide +kernel
  have bits : slowClient.configureSerial.bits = 10 := by decide +kernel
  refine ⟨?_, ?_, steadyTurns_follow _ _ _, ?_⟩
  · intro i arrival listed
    simp only [slowReception, List.getElem?_map, Option.mem_def, Option.map_eq_some_iff,
      List.getElem?_zipIdx] at listed
    obtain ⟨-, ⟨byte, -, rfl⟩, rfl⟩ := listed
    simp only [rate, bits, slowReception]
    omega
  · rw [slowReception, List.isChain_map, List.isChain_iff_getElem]
    intro i inside
    simp only [List.getElem_zipIdx]
    omega
  · exact (by decide +kernel : ∃ turn ∈ steadyTurns 8 4294967000 100,
      4294967000 + slowClient.responseTimeout.toNat ≤ turn.begins)

/-- A register is read from a station that needs two attempts. -/
theorem read_in_time_slow :
    ∃ words, slowClient.stores (fun _ => 0) ⟨1, 4, 16, 1⟩ slowBus = some words ∧
      words 0 = 16 := by
  have within : ReadRequest.WithinLimits ⟨1, 4, 16, 1⟩ := ⟨.inr rfl, by decide, by decide⟩
  have silent : Intact slowClient.responseTimeout (.prompt []) [] :=
    Exchange.prompt_intact (by decide +kernel) []
  have served : echoStation.serve (ReadRequest.frame ⟨1, 4, 16, 1⟩) =
      some (slowReception echoReply).bytes := by decide +kernel
  have carries : ∀ j ≠ 1,
      Carries (SerialClient.create.begin (flatJson []) plainConfig).toModbusClient
        echoStation (ReadRequest.frame ⟨1, 4, 16, 1⟩) (slowBus j) := by
    intro j other received delivered
    rw [slowBus, if_neg other] at delivered
    have nothing := ModbusClient.delivered_of_intact silent (by decide)
    exact .inl (Option.some.inj (delivered.symm.trans nothing))
  have fills : (slowReception echoReply).Fills (slowBus 1) := ⟨rfl, rfl, rfl⟩
  obtain ⟨j, -, words, stored, read⟩ := read_in_time (.inl (by decide +kernel)) within
    (by decide) (by decide) (by decide +kernel) (by decide) carries served fills
    (slowReception_timely echoReply) fun _ => 0
  exact ⟨words, stored, (read 0 (by decide)).trans (by decide)⟩

end ModbusBridge
