import Wifibot.Crc16
import Wifibot.WindowsServer.Server

set_option relaxedAutoImplicit false
set_option autoImplicit false

/-!
# The checksum as a remainder

The reference meaning of `crc16`: the message, its bytes in order and the lowest bit of each first,
is a polynomial over `GF(2)`, and the checksum is the remainder of that polynomial times `X ^ 16`,
modulo `X ^ 16 + X ^ 15 + X ^ 2 + 1`, with the bits of the remainder in reverse. The register starts
with all bits set, which adds the all-ones polynomial of degree `15` behind the message. The loop
works on an `unsigned int`, of which it never uses more than sixteen bits.

## Main definitions

* `Wifibot.crcRemainder` — the remainder that the checksum stands for.
* `Wifibot.crcRegisters` — all values of the loop's register.

## Main results

* `Wifibot.crc16_eq_remainder` — the checksum of both servers is that remainder, and the register
  stays within sixteen bits.
-/

namespace Wifibot

open Polynomial BitPoly ShiftRegister

/-- The remainder of a message modulo the generator, with the polynomial of the register's start. -/
noncomputable def crcRemainder (l : List Byte) : (ZMod 2)[X] :=
  (ofBits (wireBits l) * X ^ 16 + (∑ i ∈ Finset.range 16, X ^ i) * X ^ (8 * l.length)) %
    (X ^ 16 + X ^ 15 + X ^ 2 + 1)

/-- The checksum's polynomial is the remainder. -/
lemma toPoly_crc16 {a : List Byte} {n : Byte} :
    toPoly (crc16 a n) = crcRemainder (a.take n.toNat) := by
  have hinit : toPoly crcInit = ∑ i ∈ Finset.range 16, X ^ i := toPoly_allOnes
  have hrem := toPoly_eq_mod poly16 (mk_feedAll crcInit (a.take n.toNat))
  rw [crc16_eq_feedAll, hrem, ← crcGen, crcGen_eq, hinit, crcRemainder, add_comm, mul_comm (X ^ 16),
    mul_comm (X ^ (8 * _))]

/-- A bit of the checksum is the coefficient on the other side of the remainder. -/
lemma getLsbD_crc16 {a : List Byte} {n : Byte} {i : ℕ} (hi : i < 16) :
    (crc16 a n).getLsbD i = true ↔ (crcRemainder (a.take n.toNat)).coeff (15 - i) = 1 := by
  rw [← toPoly_crc16, coeff_toPoly _ hi]
  cases (crc16 a n).getLsbD i <;> simp

/-! ## The register -/

/-- The values of `Crc` in one turn of the loop over `CptBit`. -/
def crcBitRegisters (Crc : BitVec 32) : List (BitVec 32) := [Crc >>> 1, crcBit Crc]

/-- The values of `Crc` in one turn of the loop over `CptOctet`. -/
def crcOctetRegisters (Crc : BitVec 32) (octet : Byte) : List (BitVec 32) :=
  (Crc ^^^ octet.setWidth 32) ::
    (List.range 8).flatMap fun CptBit =>
      crcBitRegisters (crcBit^[CptBit] (Crc ^^^ octet.setWidth 32))

/-- The values of `Crc` from its start on, over the bytes `l`. -/
def crcRegisters : BitVec 32 → List Byte → List (BitVec 32)
  | Crc, [] => [Crc]
  | Crc, octet :: l =>
    Crc :: crcOctetRegisters Crc octet ++ crcRegisters (crcOctet Crc octet) l

/-- A value of the loop's `unsigned int` that needs sixteen bits at most. -/
def Within16 (Crc : BitVec 32) : Prop := Crc.toNat < 2 ^ 16

/-- The register at its start. -/
lemma within16_start : Within16 0xFFFF := by
  rw [Within16]
  decide

/-- A byte added to the register. -/
lemma Within16.xor_octet {Crc : BitVec 32} (h : Within16 Crc) (octet : Byte) :
    Within16 (Crc ^^^ octet.setWidth 32) := by
  rw [Within16, BitVec.toNat_xor]
  refine Nat.xor_lt_two_pow h ?_
  rw [BitVec.toNat_setWidth]
  have hlt := octet.isLt
  omega

/-- The register shifted. -/
lemma Within16.ushiftRight {Crc : BitVec 32} (h : Within16 Crc) : Within16 (Crc >>> 1) := by
  rw [Within16, BitVec.toNat_ushiftRight]
  exact (Nat.shiftRight_le _ _).trans_lt h

/-- One turn of the loop over `CptBit`. -/
lemma Within16.crcBit {Crc : BitVec 32} (h : Within16 Crc) : Within16 (crcBit Crc) := by
  unfold Wifibot.crcBit
  dsimp only
  split_ifs
  · rw [Within16, BitVec.toNat_xor]
    exact Nat.xor_lt_two_pow h.ushiftRight (by decide)
  · exact h.ushiftRight

/-- Some turns of it. -/
lemma Within16.iterate_crcBit {Crc : BitVec 32} (h : Within16 Crc) (k : ℕ) :
    Within16 (Wifibot.crcBit^[k] Crc) := by
  induction k with
  | zero => exact h
  | succ k ih =>
    rw [Function.iterate_succ_apply']
    exact ih.crcBit

/-- The values in one turn of the loop over `CptOctet`. -/
lemma Within16.crcOctetRegisters {Crc : BitVec 32} (h : Within16 Crc) (octet : Byte) :
    ∀ r ∈ crcOctetRegisters Crc octet, Within16 r := by
  have hsum := h.xor_octet octet
  intro r hr
  rw [Wifibot.crcOctetRegisters, List.mem_cons, List.mem_flatMap] at hr
  obtain rfl | ⟨k, -, hr⟩ := hr
  · exact hsum
  · rw [crcBitRegisters, List.mem_pair] at hr
    obtain rfl | rfl := hr
    · exact (hsum.iterate_crcBit k).ushiftRight
    · exact (hsum.iterate_crcBit k).crcBit

/-- **The register stays within sixteen bits.** -/
lemma Within16.crcRegisters {Crc : BitVec 32} (h : Within16 Crc) (l : List Byte) :
    ∀ r ∈ crcRegisters Crc l, Within16 r := by
  induction l generalizing Crc with
  | nil =>
    intro r hr
    obtain rfl := List.mem_singleton.mp hr
    exact h
  | cons octet l ih =>
    intro r hr
    rw [Wifibot.crcRegisters, List.cons_append, List.mem_cons, List.mem_append] at hr
    obtain rfl | hr | hr := hr
    · exact h
    · exact h.crcOctetRegisters octet r hr
    · exact ih ((h.xor_octet octet).iterate_crcBit 8) r hr

/-- The last value of the register is the one that is returned. -/
lemma getLast_crcRegisters (Crc : BitVec 32) (l : List Byte) :
    (crcRegisters Crc l).getLast? = some (l.foldl crcOctet Crc) := by
  induction l generalizing Crc with
  | nil => rfl
  | cons octet l ih =>
    rw [crcRegisters, List.getLast?_append, ih, List.foldl_cons]
    rfl

/-- **The reference meaning of the checksum.** For every array of at least `n` bytes, `crc16` of `n`
bytes is the bit reversal of the remainder, modulo `X ^ 16 + X ^ 15 + X ^ 2 + 1`, of the message
times `X ^ 16` plus the all-ones polynomial of degree `15` times `X ^ (8 * n)`. So is the `Crc16` of
the Windows server; it is the last value of the register, of which none exceeds sixteen bits.

**Proof sketch.** Modulo the generator the register after a message is the message times `X ^ 16`
plus the register before it, moved up by the length of the message. Its own degree is below sixteen,
so it is the remainder. -/
theorem crc16_eq_remainder (a : List Byte) (n : Byte) (hn : n.toNat ≤ a.length) :
    (∀ i < 16, (crc16 a n).getLsbD i = true ↔
        ((ofBits (wireBits (a.take n.toNat)) * X ^ 16 +
            (∑ j ∈ Finset.range 16, X ^ j) * X ^ (8 * n.toNat)) %
          (X ^ 16 + X ^ 15 + X ^ 2 + 1)).coeff (15 - i) = 1) ∧
      Windows.Crc16 a n = crc16 a n ∧
      (crcRegisters 0xFFFF (a.take n.toNat)).getLast?.map (BitVec.setWidth 16) =
        some (crc16 a n) ∧
      ∀ r ∈ crcRegisters 0xFFFF (a.take n.toNat), r.toNat < 2 ^ 16 := by
  have hlen : (a.take n.toNat).length = n.toNat := by
    rw [List.length_take, Nat.min_eq_left hn]
  refine ⟨fun i hi => ?_, rfl, ?_, within16_start.crcRegisters _⟩
  · rw [getLsbD_crc16 hi, crcRemainder, hlen]
  · rw [getLast_crcRegisters, Option.map_some, crc16]

/-- The digits from `1` to `9`. -/
def digits : List Byte := [0x31, 0x32, 0x33, 0x34, 0x35, 0x36, 0x37, 0x38, 0x39]

/-- The checksum of the digits, `0x4B37`. -/
theorem crc16_eq_remainder_digits :
    (∀ i < 16, (crc16 digits 9).getLsbD i = true ↔
        ((ofBits (wireBits (digits.take (9 : Byte).toNat)) * X ^ 16 +
            (∑ j ∈ Finset.range 16, X ^ j) * X ^ (8 * (9 : Byte).toNat)) %
          (X ^ 16 + X ^ 15 + X ^ 2 + 1)).coeff (15 - i) = 1) ∧
      Windows.Crc16 digits 9 = crc16 digits 9 ∧
      (crcRegisters 0xFFFF (digits.take (9 : Byte).toNat)).getLast?.map (BitVec.setWidth 16) =
        some (crc16 digits 9) ∧
      ∀ r ∈ crcRegisters 0xFFFF (digits.take (9 : Byte).toNat), r.toNat < 2 ^ 16 :=
  crc16_eq_remainder digits 9 (by decide)

end Wifibot
