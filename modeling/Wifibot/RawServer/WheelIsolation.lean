import Wifibot.RawServer.AlignedStream

set_option relaxedAutoImplicit false
set_option autoImplicit false

/-!
# Which payload bytes a wheel's record depends on

Bytes `0` to `8` of a payload are about the left wheel, bytes `9` to `16` about the right wheel,
and bytes `17` and `18` about both. The record of a wheel should depend on its own bytes and the
shared ones only. `GetRS232Motor33f` takes the voltage of the right wheel from byte `1`, the high
byte of the left speed; every other field is as it should be.

## Main definitions

* `Wifibot.Decodes` — a call that accepts a payload leaves this telemetry.
* `Wifibot.AgreeOn`, `Wifibot.leftBytes`, `Wifibot.rightBytes` — payloads that agree on the bytes of
  a wheel.

## Main results

* `Wifibot.wheels_isolated_iff` — when two payloads show no leak from wheel to wheel.
* `Wifibot.dataR_isolated` — everything but the voltage of the right wheel never leaks.
-/

namespace Wifibot

variable {longBits : ℕ}

/-- Some call of `GetRS232Motor33f` accepts the payload `p` and leaves the telemetry `t`. -/
def Decodes (p : Payload) (t : Telemetry longBits) : Prop :=
  ∃ fuel hUSB port sbuf data pos r,
    GetRS232Motor33f fuel hUSB port sbuf data pos = some r ∧ r.accepted = some p ∧
      r.telemetry = t

/-- What a call that accepts leaves depends on the payload alone. -/
lemma decodes_iff {p : Payload} {t : Telemetry longBits} :
    Decodes p t ↔ payloadOk p = true ∧ t = decodePayload longBits p := by
  constructor
  · rintro ⟨fuel, hUSB, port, sbuf, data, pos, r, hcall, hacc, rfl⟩
    rcases GetRS232Motor33f_returned hcall with ⟨hnone, -⟩ | ⟨q, hsome, hok, hdata⟩
    · rw [hnone] at hacc
      exact absurd hacc (by simp)
    · rw [hsome] at hacc
      obtain rfl := Option.some.inj hacc
      exact ⟨hok, hdata⟩
  · rintro ⟨hok, rfl⟩
    obtain ⟨hcall, -⟩ := GetRS232Motor33f_aligned (show (1 : ℤ) ≠ 0 by decide)
      (bytesPort_delivers (frameBytes [p])) hok Nat.one_pos (Vector.replicate 30 0)
      (Telemetry.zero : Telemetry longBits)
    exact ⟨_, _, _, _, _, _, _, hcall, rfl, rfl⟩

/-- Two payloads agree on the bytes of a set. -/
def AgreeOn (S : ℕ → Prop) (p q : Payload) : Prop := ∀ i, S i → p[i]! = q[i]!

/-- The bytes of the left wheel and the shared bytes. -/
def leftBytes (i : ℕ) : Prop := i ≤ 8 ∨ i = 17 ∨ i = 18

/-- The bytes of the right wheel and the shared bytes. -/
def rightBytes (i : ℕ) : Prop := 9 ≤ i ∧ i ≤ 18

/-- **The left wheel is isolated.** -/
lemma dataL_isolated {p q : Payload} (h : AgreeOn leftBytes p q) :
    (decodePayload longBits p).dataL = (decodePayload longBits q).dataL := by
  have hcell : ∀ i, i ≤ 8 → p[i]! = q[i]! := fun i hi => h i (Or.inl hi)
  simp only [decodePayload, hcell 0 (by decide), hcell 1 (by decide), hcell 2 (by decide),
    hcell 3 (by decide), hcell 4 (by decide), hcell 5 (by decide), hcell 6 (by decide),
    hcell 7 (by decide), hcell 8 (by decide), h 17 (Or.inr (Or.inl rfl)),
    h 18 (Or.inr (Or.inr rfl))]

/-- The record of the right wheel, by its own bytes and byte `1`. -/
lemma dataR_eq {p q : Payload} (h : AgreeOn rightBytes p q) :
    (decodePayload longBits p).dataR =
      { (decodePayload longBits q).dataR with robot_voltage := Byte.int p[1]! } := by
  have hcell : ∀ i, 9 ≤ i → i ≤ 18 → p[i]! = q[i]! := fun i h₁ h₂ => h i ⟨h₁, h₂⟩
  simp only [decodePayload, hcell 9 (by decide) (by decide), hcell 10 (by decide) (by decide),
    hcell 11 (by decide) (by decide), hcell 12 (by decide) (by decide),
    hcell 13 (by decide) (by decide), hcell 14 (by decide) (by decide),
    hcell 15 (by decide) (by decide), hcell 16 (by decide) (by decide),
    hcell 17 (by decide) (by decide), hcell 18 (by decide) (by decide)]

/-- **The right wheel is isolated but for its voltage.** -/
lemma dataR_isolated {p q : Payload} (h : AgreeOn rightBytes p q) (v : ℤ) :
    { (decodePayload longBits p).dataR with robot_voltage := v } =
      { (decodePayload longBits q).dataR with robot_voltage := v } := by
  rw [dataR_eq h]

/-- Bytes are told apart by their values. -/
lemma Byte.int_inj {b c : Byte} : Byte.int b = Byte.int c ↔ b = c := by
  rw [Byte.int, Byte.int, Nat.cast_inj, BitVec.toNat_inj]

/-- On payloads that agree on the bytes of the right wheel, its records agree iff byte `1` does. -/
lemma dataR_eq_iff {p q : Payload} (h : AgreeOn rightBytes p q) :
    (decodePayload longBits p).dataR = (decodePayload longBits q).dataR ↔ p[1]! = q[1]! := by
  constructor
  · intro heq
    exact Byte.int_inj.mp (congrArg SensorData.robot_voltage heq)
  · intro hbyte
    rw [dataR_eq h, hbyte]
    rfl

/-- **When no wheel leaks into the other's record.** For two accepted payloads, the records of a
wheel are equal whenever its own and the shared bytes agree, iff, where the bytes of the right
wheel agree, the high byte of the left speed does too. -/
theorem wheels_isolated_iff {p q : Payload} {t u : Telemetry longBits} (hp : Decodes p t)
    (hq : Decodes q u) :
    ((AgreeOn rightBytes p q → t.dataR = u.dataR) ∧ (AgreeOn leftBytes p q → t.dataL = u.dataL)) ↔
      (AgreeOn rightBytes p q → p[1]! = q[1]!) := by
  obtain ⟨-, rfl⟩ := decodes_iff.mp hp
  obtain ⟨-, rfl⟩ := decodes_iff.mp hq
  constructor
  · rintro ⟨hright, -⟩ hagree
    exact (dataR_eq_iff hagree).mp (hright hagree)
  · intro h
    exact ⟨fun hagree => (dataR_eq_iff hagree).mpr (h hagree), dataL_isolated⟩

/-- A payload that differs from `restPayload` in the left speed and the checksum. -/
def leftTurnPayload : Payload :=
  #v[0, 1, 0, 0, 0, 0, 0, 0, 0, 0, 0, 0, 0, 0, 0, 0, 0, 0, 0, 0x75, 0xD8]

lemma payloadOk_leftTurnPayload : payloadOk leftTurnPayload = true := by decide +kernel

lemma agreeOn_rightBytes_leftTurnPayload : AgreeOn rightBytes restPayload leftTurnPayload := by
  rintro i ⟨hlo, hhi⟩
  interval_cases i <;> rfl

/-- A payload that differs from `restPayload` in the low byte of the left speed and the checksum. -/
def leftCreepPayload : Payload :=
  #v[1, 0, 0, 0, 0, 0, 0, 0, 0, 0, 0, 0, 0, 0, 0, 0, 0, 0, 0, 0x19, 0xD8]

lemma payloadOk_leftCreepPayload : payloadOk leftCreepPayload = true := by decide +kernel

lemma agreeOn_rightBytes_leftCreepPayload : AgreeOn rightBytes restPayload leftCreepPayload := by
  rintro i ⟨hlo, hhi⟩
  interval_cases i <;> rfl

/-- The low byte of the left speed does not show in the record of the right wheel. -/
theorem wheels_isolated_leftCreepPayload :
    restPayload ≠ leftCreepPayload ∧ AgreeOn rightBytes restPayload leftCreepPayload ∧
      (decodePayload 64 restPayload).dataR = (decodePayload 64 leftCreepPayload).dataR := by
  have hisolated := (wheels_isolated_iff
    (decodes_iff.mpr ⟨payloadOk_restPayload, rfl⟩ : Decodes restPayload (decodePayload 64 _))
    (decodes_iff.mpr ⟨payloadOk_leftCreepPayload, rfl⟩)).mpr fun _ => rfl
  exact ⟨by decide, agreeOn_rightBytes_leftCreepPayload,
    hisolated.1 agreeOn_rightBytes_leftCreepPayload⟩

/-- The left speed shows in the record of the right wheel. -/
theorem not_wheels_isolated :
    ¬ ∀ p q (t u : Telemetry 64), Decodes p t → Decodes q u →
      (AgreeOn rightBytes p q → t.dataR = u.dataR) ∧
        (AgreeOn leftBytes p q → t.dataL = u.dataL) := by
  intro h
  obtain ⟨hright, -⟩ := h restPayload leftTurnPayload _ _
    (decodes_iff.mpr ⟨payloadOk_restPayload, rfl⟩)
    (decodes_iff.mpr ⟨payloadOk_leftTurnPayload, rfl⟩)
  have hbyte := (dataR_eq_iff agreeOn_rightBytes_leftTurnPayload).mp
    (hright agreeOn_rightBytes_leftTurnPayload)
  exact absurd hbyte (by decide)

end Wifibot
