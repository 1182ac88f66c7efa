import Wifibot.Crc16Frames
import Wifibot.Decoders
import Mathlib.Data.Set.Function

set_option relaxedAutoImplicit false
set_option autoImplicit false

/-!
# The telemetry format

A telemetry payload is a report of the robot's sensors in nineteen bytes, and their checksum. The
payloads that the decoders accept are the encodings of the reports, each of exactly one. The
decoders put the fields of the report into their records and lose none of it: the records that a
decoder can produce are those whose fields lie in their ranges and repeat each other as the
decoder makes them, and each of them comes from one payload only.

## Main definitions

* `Wifibot.Report` — what a payload says of the robot; `Wifibot.Report.payload` encodes it.
* `Wifibot.WellFormed`, `Wifibot.Windows.WellFormed` — the pairs of records that the decoders of the
  raw server and of the Windows server produce.

## Main results

* `Wifibot.reportEquiv` — the accepted payloads are the encodings of the reports.
* `Wifibot.telemetry_format` — both decoders are bijections from the accepted payloads to their
  well-formed records.
-/

namespace Wifibot

/-! ## Reports -/

/-- What the robot reports: of each wheel the speed, the odometry and two distances; the battery,
the current and the firmware's version. -/
@[ext]
structure Report where
  speedLeft : BitVec 16
  battery : Byte
  irLeft : Byte
  ir2Left : Byte
  odometryLeft : BitVec 32
  speedRight : BitVec 16
  irRight : Byte
  ir2Right : Byte
  odometryRight : BitVec 32
  current : Byte
  version : Byte
  deriving DecidableEq

/-- The four bytes of a word, low byte first. -/
def wordBytes (x : BitVec 32) : List Byte :=
  [x.extractLsb' 0 8, x.extractLsb' 8 8, x.extractLsb' 16 8, x.extractLsb' 24 8]

/-- The bytes of a report in the order of the wire. -/
def Report.message (r : Report) : List Byte :=
  [loByte r.speedLeft, hiByte r.speedLeft, r.battery, r.irLeft, r.ir2Left] ++
    wordBytes r.odometryLeft ++
    [loByte r.speedRight, hiByte r.speedRight, r.irRight, r.ir2Right] ++
    wordBytes r.odometryRight ++ [r.current, r.version]

@[simp] lemma Report.length_message (r : Report) : r.message.length = 19 := rfl

/-- **The encoding** of a report: its bytes and their checksum. -/
def Report.payload (r : Report) : Payload :=
  Vector.ofFn fun i => (withCrc r.message).getD i 0

/-- The report in a payload. -/
def reportOf (p : Payload) : Report where
  speedLeft := leShort p[0]! p[1]!
  battery := p[2]!
  irLeft := p[3]!
  ir2Left := p[4]!
  odometryLeft := odometryOf 32 p[8]! p[7]! p[6]! p[5]!
  speedRight := leShort p[9]! p[10]!
  irRight := p[11]!
  ir2Right := p[12]!
  odometryRight := odometryOf 32 p[16]! p[15]! p[14]! p[13]!
  current := p[17]!
  version := p[18]!

/-- The bytes of an encoding. -/
@[simp] lemma Report.toList_payload (r : Report) : r.payload.toList = withCrc r.message := by
  have hlen : (withCrc r.message).length = 21 := by rw [length_withCrc, r.length_message]
  apply List.ext_getElem
  · simp [hlen]
  · intro i h₁ h₂
    simp [Report.payload]

/-- A word is made of its bytes. -/
lemma odometryOf_wordBytes (x : BitVec 32) :
    odometryOf 32 (x.extractLsb' 24 8) (x.extractLsb' 16 8) (x.extractLsb' 8 8)
      (x.extractLsb' 0 8) = x := by
  apply BitVec.eq_of_toNat_eq
  have hx := x.isLt
  rw [toNat_odometryOf le_rfl, unsignedLE_four]
  simp only [BitVec.extractLsb'_toNat, Nat.shiftRight_eq_div_pow]
  omega

/-- The bytes of the word made of four bytes. -/
lemma wordBytes_odometryOf (b₃ b₂ b₁ b₀ : Byte) :
    wordBytes (odometryOf 32 b₃ b₂ b₁ b₀) = [b₀, b₁, b₂, b₃] := by
  have h₀ := b₀.isLt
  have h₁ := b₁.isLt
  have h₂ := b₂.isLt
  have h₃ := b₃.isLt
  have hnat := toNat_odometryOf le_rfl b₃ b₂ b₁ b₀
  rw [unsignedLE_four] at hnat
  have hbyte : ∀ (k : ℕ) (b : Byte),
      (odometryOf 32 b₃ b₂ b₁ b₀).toNat / 2 ^ k % 2 ^ 8 = b.toNat →
      (odometryOf 32 b₃ b₂ b₁ b₀).extractLsb' k 8 = b := by
    intro k b h
    apply BitVec.eq_of_toNat_eq
    rw [BitVec.extractLsb'_toNat, Nat.shiftRight_eq_div_pow, h]
  rw [wordBytes, hbyte 0 b₀ (by omega), hbyte 8 b₁ (by omega), hbyte 16 b₂ (by omega),
    hbyte 24 b₃ (by omega)]

/-- The cells of an encoding. -/
lemma Report.payload_getElem! (r : Report) {i : ℕ} (hi : i < 19) :
    r.payload[i]! = r.message.getD i 0 := by
  rw [getElem!_pos r.payload i (by omega), Report.payload, Vector.getElem_ofFn, withCrc,
    List.getD_append _ _ _ _ (by simpa using hi)]

/-- A report comes back from its encoding. -/
lemma reportOf_payload (r : Report) : reportOf r.payload = r := by
  have hcell : ∀ i, i < 19 → r.payload[i]! = r.message.getD i 0 := fun i => r.payload_getElem!
  simp (disch := decide) only [reportOf, hcell]
  exact Report.ext (leShort_loByte_hiByte _) rfl rfl rfl (odometryOf_wordBytes _)
    (leShort_loByte_hiByte _) rfl rfl (odometryOf_wordBytes _) rfl rfl

/-- The message of a payload's report is its first nineteen bytes. -/
lemma message_reportOf (p : Payload) : (reportOf p).message = p.toList.take 19 := by
  have hcells : p.toList.take 19 = (List.range 19).map fun i => p[i]! := by
    apply List.ext_getElem
    · simp
    · intro i h₁ h₂
      have hi : i < 19 := by simpa using h₂
      simp [getElem!_pos p i (by omega)]
  rw [hcells]
  simp only [Report.message, reportOf, wordBytes_odometryOf, loByte_leShort, hiByte_leShort]
  rfl

/-- An accepted payload is the encoding of its report. -/
lemma payload_reportOf {p : Payload} (hp : payloadOk p = true) : (reportOf p).payload = p := by
  have hcrc := (crcTest_iff_eq_withCrc (k := 19) (by decide) (by simp)).mp hp
  rw [← Vector.toList_inj, Report.toList_payload, message_reportOf, ← hcrc]

/-- Encodings are accepted. -/
lemma payloadOk_payload (r : Report) : payloadOk r.payload = true := by
  have hok := crcTest_withCrc r.message (by simp)
  rwa [r.length_message, ← r.toList_payload] at hok

/-- **The accepted payloads** are the encodings of the reports, each of one. -/
def reportEquiv : {p : Payload // payloadOk p = true} ≃ Report where
  toFun p := reportOf p.1
  invFun r := ⟨r.payload, payloadOk_payload r⟩
  left_inv p := Subtype.ext (payload_reportOf p.2)
  right_inv := reportOf_payload

/-! ## The records of the raw server -/

/-- A speed in the range of sixteen bits. -/
def IsSpeed (x : ℤ) : Prop := -32768 ≤ x ∧ x < 32768

/-- An integer in the range of a byte. -/
def IsByte (x : ℤ) : Prop := 0 ≤ x ∧ x < 256

/-- The high byte of a speed. -/
def speedHigh (x : ℤ) : ℤ := x % 65536 / 256

variable {longBits : ℕ}

/-- The records that the raw server's decoder can produce, for the left and the right wheel. The
voltage of the right one is the high byte of the left wheel's speed. -/
structure WellFormed (d : SensorData longBits × SensorData longBits) : Prop where
  speedLeft : IsSpeed d.1.SpeedFront
  battery : IsByte d.1.robot_voltage
  irLeft : IsByte d.1.IR
  ir2Left : IsByte d.1.IR2
  odometryLeft : d.1.odometry.toNat < 2 ^ 32
  current : IsByte d.1.robot_current
  version : IsByte d.1.robot_version
  speedRight : IsSpeed d.2.SpeedFront
  voltageRight : d.2.robot_voltage = speedHigh d.1.SpeedFront
  irRight : IsByte d.2.IR
  ir2Right : IsByte d.2.IR2
  odometryRight : d.2.odometry.toNat < 2 ^ 32
  currentRight : d.2.robot_current = d.1.robot_current
  versionRight : d.2.robot_version = d.1.robot_version

/-- The records of the raw server for a report. -/
def Report.records (longBits : ℕ) (r : Report) : SensorData longBits × SensorData longBits :=
  ({ SpeedFront := r.speedLeft.toInt
     robot_voltage := Byte.int r.battery
     IR := Byte.int r.irLeft
     IR2 := Byte.int r.ir2Left
     odometry := r.odometryLeft.setWidth longBits
     robot_current := Byte.int r.current
     robot_version := Byte.int r.version },
    { SpeedFront := r.speedRight.toInt
      robot_voltage := Byte.int (hiByte r.speedLeft)
      IR := Byte.int r.irRight
      IR2 := Byte.int r.ir2Right
      odometry := r.odometryRight.setWidth longBits
      robot_current := Byte.int r.current
      robot_version := Byte.int r.version })

/-- The report of a pair of records. -/
def Report.ofRecords (d : SensorData longBits × SensorData longBits) : Report where
  speedLeft := BitVec.ofInt 16 d.1.SpeedFront
  battery := BitVec.ofInt 8 d.1.robot_voltage
  irLeft := BitVec.ofInt 8 d.1.IR
  ir2Left := BitVec.ofInt 8 d.1.IR2
  odometryLeft := d.1.odometry.setWidth 32
  speedRight := BitVec.ofInt 16 d.2.SpeedFront
  irRight := BitVec.ofInt 8 d.2.IR
  ir2Right := BitVec.ofInt 8 d.2.IR2
  odometryRight := d.2.odometry.setWidth 32
  current := BitVec.ofInt 8 d.1.robot_current
  version := BitVec.ofInt 8 d.1.robot_version

/-- A speed is the signed value of its two bytes taken together. -/
lemma speedOf_eq_toInt (lo hi : Byte) : speedOf lo hi = (leShort lo hi).toInt := by
  have hlo := lo.isLt
  have hhi := hi.isLt
  have hnat : (leShort lo hi).toNat = lo.toNat + 256 * hi.toNat := by
    simp only [leShort, BitVec.toNat_setWidth, BitVec.toNat_add, BitVec.toNat_shiftLeft,
      Nat.shiftLeft_eq]
    omega
  simp only [BitVec.toInt_eq_toNat_cond, hnat, speedOf, Nat.shiftLeft_eq, Byte.int]
  split_ifs <;> omega

/-- In a longer word an odometry is the same number. -/
lemma odometryOf_setWidth (h : 32 ≤ longBits) (b₃ b₂ b₁ b₀ : Byte) :
    odometryOf longBits b₃ b₂ b₁ b₀ = (odometryOf 32 b₃ b₂ b₁ b₀).setWidth longBits := by
  apply BitVec.eq_of_toNat_eq
  have hlt := (odometryOf 32 b₃ b₂ b₁ b₀).isLt
  have hle : 2 ^ 32 ≤ 2 ^ longBits := Nat.pow_le_pow_right (by decide) h
  rw [BitVec.toNat_setWidth, Nat.mod_eq_of_lt (by omega), toNat_odometryOf h,
    toNat_odometryOf le_rfl]

/-- **The decoder of the raw server**, by the report in the payload. -/
lemma decodePayload_eq_records (h : 32 ≤ longBits) (p : Payload) :
    ((decodePayload longBits p).dataL, (decodePayload longBits p).dataR) =
      (reportOf p).records longBits := by
  simp only [decodePayload, Report.records, reportOf, speedOf_eq_toInt, odometryOf_setWidth h,
    hiByte_leShort]

/-- The high byte of a speed as an integer. -/
lemma int_hiByte (x : BitVec 16) : Byte.int (hiByte x) = speedHigh x.toInt := by
  have hx := x.isLt
  have hnat : (hiByte x).toNat = x.toNat / 256 := by
    have hle := congrArg BitVec.toNat (leShort_loByte_hiByte x)
    have hlo := (loByte x).isLt
    have hhi := (hiByte x).isLt
    simp only [leShort, BitVec.toNat_setWidth, BitVec.toNat_add, BitVec.toNat_shiftLeft,
      Nat.shiftLeft_eq] at hle
    omega
  rw [Byte.int, hnat, speedHigh, BitVec.toInt_eq_toNat_cond]
  split_ifs <;> omega

/-- A byte as an integer. -/
lemma isByte_int (b : Byte) : IsByte (Byte.int b) := by
  have hb := b.isLt
  exact ⟨by simp [Byte.int], by simp only [Byte.int]; omega⟩

/-- A speed of sixteen bits as an integer. -/
lemma isSpeed_toInt (x : BitVec 16) : IsSpeed x.toInt :=
  ⟨by simpa using x.le_toInt, by simpa using x.toInt_lt⟩

/-- A byte comes back from its integer. -/
@[simp] lemma ofInt_byteInt (b : Byte) : BitVec.ofInt 8 (Byte.int b) = b := by
  simp [Byte.int]

/-- An integer in the range of a byte comes back from its byte. -/
lemma byteInt_ofInt {x : ℤ} (h : IsByte x) : Byte.int (BitVec.ofInt 8 x) = x := by
  obtain ⟨h₀, h₁⟩ := h
  rw [Byte.int, BitVec.toNat_ofInt]
  omega

/-- A speed comes back from its sixteen bits. -/
lemma toInt_ofInt_speed {x : ℤ} (h : IsSpeed x) : (BitVec.ofInt 16 x).toInt = x := by
  obtain ⟨h₀, h₁⟩ := h
  rw [BitVec.toInt_ofInt, Int.bmod_eq_of_le] <;> omega

/-- A number of 32 bits comes back from a longer word. -/
lemma setWidth_setWidth_le (h : 32 ≤ longBits) (x : BitVec 32) :
    (x.setWidth longBits).setWidth 32 = x := by
  rw [BitVec.setWidth_setWidth_of_le _ h, BitVec.setWidth_eq]

/-- A longer word that holds a number of 32 bits comes back from these. -/
lemma setWidth_setWidth_of_lt {x : BitVec longBits} (hx : x.toNat < 2 ^ 32) :
    (x.setWidth 32).setWidth longBits = x := by
  apply BitVec.eq_of_toNat_eq
  rw [BitVec.toNat_setWidth, BitVec.toNat_setWidth, Nat.mod_eq_of_lt hx, Nat.mod_eq_of_lt x.isLt]

/-- The records of a report are well formed. -/
lemma wellFormed_records (r : Report) : WellFormed (r.records longBits) := by
  have hword : ∀ x : BitVec 32, (x.setWidth longBits).toNat < 2 ^ 32 := by
    intro x
    rw [BitVec.toNat_setWidth]
    exact (Nat.mod_le _ _).trans_lt x.isLt
  exact ⟨isSpeed_toInt _, isByte_int _, isByte_int _, isByte_int _, hword _, isByte_int _,
    isByte_int _, isSpeed_toInt _, int_hiByte _, isByte_int _, isByte_int _, hword _, rfl, rfl⟩

/-- A report comes back from its records. -/
lemma ofRecords_records (h : 32 ≤ longBits) (r : Report) :
    Report.ofRecords (r.records longBits) = r := by
  simp only [Report.ofRecords, Report.records, BitVec.ofInt_toInt, ofInt_byteInt,
    setWidth_setWidth_le h]

/-- Well-formed records come back from their report. -/
lemma records_ofRecords {d : SensorData longBits × SensorData longBits}
    (hd : WellFormed d) : (Report.ofRecords d).records longBits = d := by
  have hcurrent := hd.currentRight
  have hversion := hd.versionRight
  rcases d with ⟨⟨_, _, _, _, _, _, _⟩, ⟨_, _, _, _, _, _, _⟩⟩
  dsimp only at hcurrent hversion
  subst hcurrent hversion
  simp only [Report.ofRecords, Report.records, int_hiByte, toInt_ofInt_speed hd.speedLeft,
    toInt_ofInt_speed hd.speedRight, byteInt_ofInt hd.battery, byteInt_ofInt hd.irLeft,
    byteInt_ofInt hd.ir2Left, byteInt_ofInt hd.irRight, byteInt_ofInt hd.ir2Right,
    byteInt_ofInt hd.current, byteInt_ofInt hd.version,
    setWidth_setWidth_of_lt hd.odometryLeft, setWidth_setWidth_of_lt hd.odometryRight,
    ← hd.voltageRight]

/-! ## The records of the Windows server -/

/-- The records that the Windows server's decoder can produce. The battery level of the right one is
zero. -/
structure Windows.WellFormed (d : Windows.SensorData × Windows.SensorData) : Prop where
  speedLeft : IsSpeed d.1.SpeedFront
  battery : IsByte d.1.BatLevel
  irLeft : IsByte d.1.IR
  ir2Left : IsByte d.1.IR2
  current : IsByte d.1.Current
  version : IsByte d.1.Version
  speedRight : IsSpeed d.2.SpeedFront
  batteryRight : d.2.BatLevel = 0
  irRight : IsByte d.2.IR
  ir2Right : IsByte d.2.IR2
  currentRight : d.2.Current = d.1.Current
  versionRight : d.2.Version = d.1.Version

/-- The records of the Windows server for a report. -/
def Report.windowsRecords (r : Report) : Windows.SensorData × Windows.SensorData :=
  ({ SpeedFront := r.speedLeft.toInt
     BatLevel := Byte.int r.battery
     IR := Byte.int r.irLeft
     IR2 := Byte.int r.ir2Left
     odometry := r.odometryLeft
     Current := Byte.int r.current
     Version := Byte.int r.version },
    { SpeedFront := r.speedRight.toInt
      BatLevel := 0
      IR := Byte.int r.irRight
      IR2 := Byte.int r.ir2Right
      odometry := r.odometryRight
      Current := Byte.int r.current
      Version := Byte.int r.version })

/-- The report of a pair of records. -/
def Report.ofWindowsRecords (d : Windows.SensorData × Windows.SensorData) : Report where
  speedLeft := BitVec.ofInt 16 d.1.SpeedFront
  battery := BitVec.ofInt 8 d.1.BatLevel
  irLeft := BitVec.ofInt 8 d.1.IR
  ir2Left := BitVec.ofInt 8 d.1.IR2
  odometryLeft := d.1.odometry
  speedRight := BitVec.ofInt 16 d.2.SpeedFront
  irRight := BitVec.ofInt 8 d.2.IR
  ir2Right := BitVec.ofInt 8 d.2.IR2
  odometryRight := d.2.odometry
  current := BitVec.ofInt 8 d.1.Current
  version := BitVec.ofInt 8 d.1.Version

/-- **The decoder of the Windows server**, by the report in the payload, from any state. -/
lemma windows_decodePayload_eq_records (s : Windows.State) (p : Payload) :
    ((Windows.decodePayload s p).dataL, (Windows.decodePayload s p).dataR) =
      (reportOf p).windowsRecords := by
  simp only [Windows.decodePayload, Report.windowsRecords, reportOf, speedOf_eq_toInt]

/-- The records of a report are well formed. -/
lemma wellFormed_windowsRecords (r : Report) : Windows.WellFormed r.windowsRecords :=
  ⟨isSpeed_toInt _, isByte_int _, isByte_int _, isByte_int _, isByte_int _, isByte_int _,
    isSpeed_toInt _, rfl, isByte_int _, isByte_int _, rfl, rfl⟩

/-- A report comes back from its records. -/
lemma ofWindowsRecords_windowsRecords (r : Report) :
    Report.ofWindowsRecords r.windowsRecords = r := by
  simp only [Report.ofWindowsRecords, Report.windowsRecords, BitVec.ofInt_toInt, ofInt_byteInt]

/-- Well-formed records come back from their report. -/
lemma windowsRecords_ofWindowsRecords {d : Windows.SensorData × Windows.SensorData}
    (hd : Windows.WellFormed d) : (Report.ofWindowsRecords d).windowsRecords = d := by
  have hbattery := hd.batteryRight
  have hcurrent := hd.currentRight
  have hversion := hd.versionRight
  rcases d with ⟨⟨_, _, _, _, _, _, _⟩, ⟨_, _, _, _, _, _, _⟩⟩
  dsimp only at hbattery hcurrent hversion
  subst hbattery hcurrent hversion
  simp only [Report.ofWindowsRecords, Report.windowsRecords, toInt_ofInt_speed hd.speedLeft,
    toInt_ofInt_speed hd.speedRight, byteInt_ofInt hd.battery, byteInt_ofInt hd.irLeft,
    byteInt_ofInt hd.ir2Left, byteInt_ofInt hd.irRight, byteInt_ofInt hd.ir2Right,
    byteInt_ofInt hd.current, byteInt_ofInt hd.version]

/-! ## The format -/

/-- A decoder that puts the fields of the report into records, from which the report comes back, is
a bijection from the accepted payloads to these records. -/
lemma bijOn_of_records {β : Type*} {decode : Payload → β} {records : Report → β}
    {ofRecords : β → Report} {Ok : β → Prop} (hdecode : ∀ p, decode p = records (reportOf p))
    (hok : ∀ r, Ok (records r)) (hleft : ∀ r, ofRecords (records r) = r)
    (hright : ∀ d, Ok d → records (ofRecords d) = d) :
    Set.BijOn decode {p | payloadOk p = true} {d | Ok d} := by
  refine Set.InvOn.bijOn (show Set.InvOn (fun d => (ofRecords d).payload) _ _ _ from ⟨?_, ?_⟩)
    ?_ ?_
  · intro p hp
    simp only [hdecode, hleft]
    exact payload_reportOf hp
  · intro d hd
    simp only [hdecode, reportOf_payload]
    exact hright d hd
  · intro p _
    show Ok (decode p)
    rw [hdecode]
    exact hok _
  · intro d _
    exact payloadOk_payload _

/-- **The telemetry format.** With a `long` of at least 32 bits, the decoder of the raw server is a
bijection from the payloads that it accepts to its well-formed pairs of records; so is that of the
Windows server, from any state; and encoding the report of the raw server's records gives the
payload back.

**Proof sketch.** A payload that passes is a message with its checksum, so it is the encoding of its
report. Both decoders are the report followed by a map that can be inverted on its image. -/
theorem telemetry_format (h : 32 ≤ longBits) (s : Windows.State) :
    Set.BijOn
        (fun p => ((decodePayload longBits p).dataL, (decodePayload longBits p).dataR))
        {p | payloadOk p = true} {d | WellFormed d} ∧
      Set.BijOn
        (fun p => ((Windows.decodePayload s p).dataL, (Windows.decodePayload s p).dataR))
        {p | payloadOk p = true} {d | Windows.WellFormed d} ∧
      ∀ p, payloadOk p = true → (Report.ofRecords
        ((decodePayload longBits p).dataL, (decodePayload longBits p).dataR)).payload = p := by
  refine ⟨?_, ?_, fun p hp => ?_⟩
  · exact bijOn_of_records (decodePayload_eq_records h) wellFormed_records (ofRecords_records h)
      fun _ => records_ofRecords
  · exact bijOn_of_records (windows_decodePayload_eq_records s) wellFormed_windowsRecords
      ofWindowsRecords_windowsRecords fun _ => windowsRecords_ofWindowsRecords
  · rw [decodePayload_eq_records h, ofRecords_records h, payload_reportOf hp]

/-- The format with a `long` of 64 bits. -/
theorem telemetry_format_64 :
    Set.BijOn (fun p => ((decodePayload 64 p).dataL, (decodePayload 64 p).dataR))
        {p | payloadOk p = true} {d | WellFormed d} ∧
      Set.BijOn
        (fun p => ((Windows.decodePayload Windows.State.start p).dataL,
          (Windows.decodePayload Windows.State.start p).dataR))
        {p | payloadOk p = true} {d | Windows.WellFormed d} ∧
      ∀ p, payloadOk p = true → (Report.ofRecords
        ((decodePayload 64 p).dataL, (decodePayload 64 p).dataR)).payload = p :=
  telemetry_format (by decide) Windows.State.start

end Wifibot
