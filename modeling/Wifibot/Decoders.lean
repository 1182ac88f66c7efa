import Wifibot.Library.LittleEndian
import Wifibot.RawServer.WheelIsolation
import Wifibot.WindowsServer.Server
import Wifibot.Dashboard.Telemetry

set_option relaxedAutoImplicit false
set_option autoImplicit false

/-!
# The three decoders of a payload

The raw server, the Windows server and the dashboard each decode the payload by hand. What the
payload means is one record: little-endian signed speeds and odometries, and single bytes. The
Windows server, the dashboard, and the raw server where a C `long` has 32 bits compute that record.
Where a `long` has 64 bits the raw server does not extend the sign of an odometry.

## Main definitions

* `Wifibot.SharedFields`, `Wifibot.wireFields` — the shared fields, and their values on the wire.
* `Wifibot.DecodersAgree` — all decoders compute these values.

## Main results

* `Wifibot.decoders_agree_iff` — they do iff both odometries are below `2 ^ 31`.
* `Wifibot.fields_32`, `Wifibot.Windows.fields_robotPayload`, `Wifibot.Dashboard.fields_onMessage` —
  the decoders that always do.
-/

namespace Wifibot

/-- The fields that all decoders compute. -/
structure SharedFields where
  speedLeft : ℤ
  speedRight : ℤ
  odometryLeft : ℤ
  odometryRight : ℤ
  battery : ℤ
  current : ℤ
  irLeft : ℤ
  ir2Left : ℤ
  irRight : ℤ
  ir2Right : ℤ
  deriving DecidableEq

/-- What a payload says: signed little-endian speeds and odometries, and single bytes. -/
def wireFields (p : Payload) : SharedFields where
  speedLeft := signedLE [p[0]!, p[1]!]
  speedRight := signedLE [p[9]!, p[10]!]
  odometryLeft := signedLE [p[5]!, p[6]!, p[7]!, p[8]!]
  odometryRight := signedLE [p[13]!, p[14]!, p[15]!, p[16]!]
  battery := Byte.int p[2]!
  current := Byte.int p[17]!
  irLeft := Byte.int p[3]!
  ir2Left := Byte.int p[4]!
  irRight := Byte.int p[11]!
  ir2Right := Byte.int p[12]!

/-- The shared fields in the records of the raw server. -/
def Telemetry.fields {longBits : ℕ} (t : Telemetry longBits) : SharedFields where
  speedLeft := t.dataL.SpeedFront
  speedRight := t.dataR.SpeedFront
  odometryLeft := t.dataL.odometry.toInt
  odometryRight := t.dataR.odometry.toInt
  battery := t.dataL.robot_voltage
  current := t.dataL.robot_current
  irLeft := t.dataL.IR
  ir2Left := t.dataL.IR2
  irRight := t.dataR.IR
  ir2Right := t.dataR.IR2

/-- The shared fields in the records of the Windows server. -/
def Windows.State.fields (s : Windows.State) : SharedFields where
  speedLeft := s.dataL.SpeedFront
  speedRight := s.dataR.SpeedFront
  odometryLeft := s.dataL.odometry.toInt
  odometryRight := s.dataR.odometry.toInt
  battery := s.dataL.BatLevel
  current := s.dataL.Current
  irLeft := s.dataL.IR
  ir2Left := s.dataL.IR2
  irRight := s.dataR.IR
  ir2Right := s.dataR.IR2

/-- The shared fields among what the dashboard computes. -/
def Dashboard.Message.fields (m : Dashboard.Message) : SharedFields where
  speedLeft := m.speedLeft
  speedRight := m.speedRight
  odometryLeft := m.odometry_left
  odometryRight := m.odometry_right
  battery := m.battery
  current := m.current
  irLeft := m.tl
  ir2Left := m.bl
  irRight := m.tr
  ir2Right := m.br

/-! ## Speeds and odometries -/

/-- The unsigned value of an odometry's bytes. -/
lemma unsignedLE_four (b₀ b₁ b₂ b₃ : Byte) :
    unsignedLE [b₀, b₁, b₂, b₃] =
      b₀.toNat + 2 ^ 8 * b₁.toNat + 2 ^ 16 * b₂.toNat + 2 ^ 24 * b₃.toNat := by
  simp only [unsignedLE_cons, unsignedLE_nil]
  ring

/-- A byte shifted by `k` bits fits the `w` bits of a word when `8 + k ≤ w`. -/
lemma toNat_setWidth_shiftLeft {w k : ℕ} (h : 8 + k ≤ w) (b : Byte) :
    (b.setWidth w <<< k).toNat = 2 ^ k * b.toNat := by
  have hb : b.toNat < 2 ^ w := b.isLt.trans_le (Nat.pow_le_pow_right (by decide) (by omega))
  have hlt : b.toNat * 2 ^ k < 2 ^ w :=
    calc b.toNat * 2 ^ k < 2 ^ 8 * 2 ^ k := (Nat.mul_lt_mul_right (Nat.two_pow_pos k)).mpr b.isLt
      _ = 2 ^ (8 + k) := (pow_add 2 8 k).symm
      _ ≤ 2 ^ w := Nat.pow_le_pow_right (by decide) h
  rw [BitVec.toNat_shiftLeft, BitVec.toNat_setWidth, Nat.mod_eq_of_lt hb, Nat.shiftLeft_eq,
    Nat.mod_eq_of_lt hlt, Nat.mul_comm]

/-- In a `long` of at least 32 bits an odometry is the unsigned value of its bytes. -/
lemma toNat_odometryOf {w : ℕ} (hw : 32 ≤ w) (b₃ b₂ b₁ b₀ : Byte) :
    (odometryOf w b₃ b₂ b₁ b₀).toNat = unsignedLE [b₀, b₁, b₂, b₃] := by
  have hlt : unsignedLE [b₀, b₁, b₂, b₃] < 2 ^ w :=
    calc unsignedLE [b₀, b₁, b₂, b₃] < 2 ^ 32 := by simpa using unsignedLE_lt [b₀, b₁, b₂, b₃]
      _ ≤ 2 ^ w := Nat.pow_le_pow_right (by decide) hw
  have hb₀ : (b₀.setWidth w).toNat = b₀.toNat := by
    simpa using toNat_setWidth_shiftLeft (k := 0) (by omega : 8 + 0 ≤ w) b₀
  rw [unsignedLE_four] at hlt ⊢
  rw [odometryOf, BitVec.toNat_add, BitVec.toNat_add, BitVec.toNat_add, hb₀,
    toNat_setWidth_shiftLeft (by omega), toNat_setWidth_shiftLeft (by omega),
    toNat_setWidth_shiftLeft (by omega)]
  simp (disch := omega) only [Nat.mod_eq_of_lt]
  omega

/-- With a 32-bit `long` the odometry is the signed value of its bytes. -/
lemma toInt_odometryOf_32 (b₃ b₂ b₁ b₀ : Byte) :
    (odometryOf 32 b₃ b₂ b₁ b₀).toInt = signedLE [b₀, b₁, b₂, b₃] := by
  have hmod : (2 ^ 32 : ℕ) = 256 ^ [b₀, b₁, b₂, b₃].length := by simp
  rw [BitVec.toInt_eq_toNat_bmod, toNat_odometryOf le_rfl, hmod, signedLE]

/-- With a 64-bit `long` the odometry is the unsigned value of its bytes. -/
lemma toInt_odometryOf_64 (b₃ b₂ b₁ b₀ : Byte) :
    (odometryOf 64 b₃ b₂ b₁ b₀).toInt = unsignedLE [b₀, b₁, b₂, b₃] := by
  have hlt : unsignedLE [b₀, b₁, b₂, b₃] < 256 ^ 4 := unsignedLE_lt [b₀, b₁, b₂, b₃]
  have hnat := toNat_odometryOf (by decide : 32 ≤ 64) b₃ b₂ b₁ b₀
  rw [BitVec.toInt_eq_toNat_of_lt (by omega), hnat]

/-- A speed is the signed value of its bytes. -/
lemma speedOf_eq (lo hi : Byte) : speedOf lo hi = signedLE [lo, hi] := by
  have hlo := lo.isLt
  have hhi := hi.isLt
  have hval : ((hi.toNat <<< 8 : ℕ) : ℤ) + Byte.int lo = unsignedLE [lo, hi] := by
    rw [Nat.shiftLeft_eq, Byte.int, unsignedLE_cons, unsignedLE_cons, unsignedLE_nil]
    omega
  have hsigned : signedLE [lo, hi] = (lo.toNat : ℤ) + 256 * hi.toInt := by
    simpa using signedLE_concat [lo] hi
  rw [speedOf, hsigned, BitVec.toInt_eq_toNat_cond]
  simp only [hval, unsignedLE_cons, unsignedLE_nil]
  split_ifs <;> omega

/-- A shift of a byte in JavaScript, as a shift of a 32-bit word. -/
lemma jsShiftLeft_eq (b : Byte) (k : ℕ) :
    Dashboard.jsShiftLeft (Byte.int b) k = (b.setWidth 32 <<< k).toInt := by
  rw [Dashboard.jsShiftLeft, Byte.int, BitVec.ofInt_natCast, BitVec.ofNat_toNat]

/-- Shifted by less than 24 bits, a byte stays positive. -/
lemma jsShiftLeft_of_lt {k : ℕ} (hk : k < 24) (b : Byte) :
    Dashboard.jsShiftLeft (Byte.int b) k = 2 ^ k * b.toNat := by
  have hnat := toNat_setWidth_shiftLeft (by omega : 8 + k ≤ 32) b
  have hlt : 2 ^ k * b.toNat < 2 ^ 31 :=
    calc 2 ^ k * b.toNat < 2 ^ k * 2 ^ 8 := (Nat.mul_lt_mul_left (Nat.two_pow_pos k)).mpr b.isLt
      _ = 2 ^ (k + 8) := (pow_add 2 k 8).symm
      _ ≤ 2 ^ 31 := Nat.pow_le_pow_right (by decide) (by omega)
  rw [jsShiftLeft_eq, BitVec.toInt_eq_toNat_of_lt (by omega), hnat]
  push_cast
  rfl

/-- Shifted by 24 bits, a byte becomes a signed one. -/
lemma jsShiftLeft_24 (b : Byte) :
    Dashboard.jsShiftLeft (Byte.int b) 24 = 2 ^ 24 * b.toInt := by
  have hnat := toNat_setWidth_shiftLeft (by decide : 8 + 24 ≤ 32) b
  rw [jsShiftLeft_eq, BitVec.toInt_eq_toNat_cond, BitVec.toInt_eq_toNat_cond, hnat]
  split_ifs <;> omega

/-- The dashboard's odometry is the signed value of its bytes. -/
lemma jsOdometry_eq (b₃ b₂ b₁ b₀ : Byte) :
    Dashboard.jsOdometry b₃ b₂ b₁ b₀ = signedLE [b₀, b₁, b₂, b₃] := by
  have hsigned : signedLE [b₀, b₁, b₂, b₃] = unsignedLE [b₀, b₁, b₂] + 256 ^ 3 * b₃.toInt :=
    signedLE_concat [b₀, b₁, b₂] b₃
  rw [hsigned, Dashboard.jsOdometry, jsShiftLeft_24, jsShiftLeft_of_lt (by decide),
    jsShiftLeft_of_lt (by decide), Byte.int]
  simp only [unsignedLE_cons, unsignedLE_nil]
  push_cast
  ring

/-- The dashboard computes a speed as the servers do. -/
lemma jsSpeed_eq (lo hi : Byte) : Dashboard.jsSpeed lo hi = speedOf lo hi := by
  rw [Dashboard.jsSpeed, jsShiftLeft_of_lt (by decide), speedOf, Nat.shiftLeft_eq, Nat.mul_comm]
  push_cast
  rfl

/-! ## Agreement -/

/-- With a 32-bit `long` the raw server computes what the payload says. -/
lemma fields_32 (p : Payload) : (decodePayload 32 p).fields = wireFields p := by
  simp [Telemetry.fields, decodePayload, wireFields, speedOf_eq, toInt_odometryOf_32]

/-- With a 64-bit `long` it computes what the payload says but for the odometries, which are the
unsigned values. -/
lemma fields_64 (p : Payload) :
    (decodePayload 64 p).fields =
      { wireFields p with
        odometryLeft := unsignedLE [p[5]!, p[6]!, p[7]!, p[8]!]
        odometryRight := unsignedLE [p[13]!, p[14]!, p[15]!, p[16]!] } := by
  simp [Telemetry.fields, decodePayload, wireFields, speedOf_eq, toInt_odometryOf_64]

/-- The Windows server computes what an accepted payload says. -/
lemma Windows.fields_robotPayload (s : Windows.State) {p : Payload} (hp : payloadOk p = true) :
    (Windows.robotPayload s p).1.fields = wireFields p := by
  simp [Windows.robotPayload, hp, Windows.State.fields, Windows.decodePayload, wireFields,
    speedOf_eq, toInt_odometryOf_32]

/-- The dashboard computes what the payload says. -/
lemma Dashboard.fields_onMessage (p : Payload) : (Dashboard.onMessage p).fields = wireFields p := by
  simp [Dashboard.onMessage, Dashboard.Message.fields, wireFields, jsSpeed_eq, speedOf_eq,
    jsOdometry_eq]

/-- All decoders compute what the payload says. -/
def DecodersAgree (p : Payload) (t₃₂ : Telemetry 32) (t₆₄ : Telemetry 64) (w : Windows.State)
    (d : Dashboard.Message) : Prop :=
  t₃₂.fields = wireFields p ∧ t₆₄.fields = wireFields p ∧ w.fields = wireFields p ∧
    d.fields = wireFields p

/-- With a 64-bit `long` the odometries are right iff their top bits are clear. -/
lemma fields_64_eq_iff (p : Payload) :
    (decodePayload 64 p).fields = wireFields p ↔ p[8]! < 128 ∧ p[16]! < 128 := by
  have hleft := signedLE_concat_eq_iff [p[5]!, p[6]!, p[7]!] p[8]!
  have hright := signedLE_concat_eq_iff [p[13]!, p[14]!, p[15]!] p[16]!
  rw [fields_64, ← hleft, ← hright]
  constructor
  · intro h
    exact ⟨(congrArg SharedFields.odometryLeft h).symm,
      (congrArg SharedFields.odometryRight h).symm⟩
  · rintro ⟨h₁, h₂⟩
    simp only [List.cons_append, List.nil_append] at h₁ h₂
    rw [← h₁, ← h₂]
    rfl

/-- **When the decoders agree.** On every accepted payload, the raw server with a 32-bit and with a
64-bit `long`, the Windows server and the dashboard compute the same values, namely those of the
payload, iff the top byte of neither odometry has its top bit set. -/
theorem decoders_agree_iff {p : Payload} {t₃₂ : Telemetry 32} {t₆₄ : Telemetry 64}
    (h₃₂ : Decodes p t₃₂) (h₆₄ : Decodes p t₆₄) (s : Windows.State) :
    DecodersAgree p t₃₂ t₆₄ (Windows.robotPayload s p).1 (Dashboard.onMessage p) ↔
      p[8]! < 128 ∧ p[16]! < 128 := by
  obtain ⟨hok, rfl⟩ := decodes_iff.mp h₃₂
  obtain ⟨-, rfl⟩ := decodes_iff.mp h₆₄
  rw [DecodersAgree, ← fields_64_eq_iff]
  constructor
  · rintro ⟨-, h, -⟩
    exact h
  · intro h
    exact ⟨fields_32 p, h, Windows.fields_robotPayload s hok, Dashboard.fields_onMessage p⟩

/-- A payload whose left odometry is `-1`. -/
def backwardPayload : Payload :=
  #v[0, 0, 0, 0, 0, 255, 255, 255, 255, 0, 0, 0, 0, 0, 0, 0, 0, 0, 0, 0xEB, 0x27]

lemma payloadOk_backwardPayload : payloadOk backwardPayload = true := by decide +kernel

/-- The decoders agree on a robot at rest. -/
theorem decoders_agree_restPayload :
    DecodersAgree restPayload (decodePayload 32 restPayload) (decodePayload 64 restPayload)
      (Windows.robotPayload Windows.State.start restPayload).1
      (Dashboard.onMessage restPayload) :=
  (decoders_agree_iff (decodes_iff.mpr ⟨payloadOk_restPayload, rfl⟩)
    (decodes_iff.mpr ⟨payloadOk_restPayload, rfl⟩) _).mpr (by decide)

/-- They do not on an odometry of `-1`. -/
theorem not_decoders_agree :
    ¬ ∀ (p : Payload) (t₃₂ : Telemetry 32) (t₆₄ : Telemetry 64), Decodes p t₃₂ → Decodes p t₆₄ →
      ∀ s, DecodersAgree p t₃₂ t₆₄ (Windows.robotPayload s p).1 (Dashboard.onMessage p) := by
  intro h
  obtain ⟨-, h₆₄, -⟩ := h backwardPayload _ _ (decodes_iff.mpr ⟨payloadOk_backwardPayload, rfl⟩)
    (decodes_iff.mpr ⟨payloadOk_backwardPayload, rfl⟩) Windows.State.start
  exact absurd ((fields_64_eq_iff _).mp h₆₄).1 (by decide)

end Wifibot
