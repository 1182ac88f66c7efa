import Wifibot.Crc16Detection

set_option relaxedAutoImplicit false
set_option autoImplicit false

/-!
# Frames that carry their checksum

The receivers of the protocol test a frame by two of its bytes. The frames that pass are the
messages followed by their checksum and no others, so a frame that passes is known from its message,
and what corruption it survives is known from the error alone.

## Main results

* `Wifibot.crcTest_iff_eq_withCrc` — the frames that pass.
* `Wifibot.crcTest_xor_iff` — the errors that a frame survives.
-/

namespace Wifibot

open Polynomial BitPoly ShiftRegister

/-- The low byte of the `short` made of two bytes. -/
@[simp] lemma loByte_leShort (lo hi : Byte) : loByte (leShort lo hi) = lo := by
  rw [leShort_eq_append, loByte]
  apply BitVec.eq_of_getLsbD_eq
  intro i hi'
  rw [BitVec.getLsbD_setWidth, BitVec.getLsbD_append]
  simp [hi']

/-- The high byte of the `short` made of two bytes. -/
@[simp] lemma hiByte_leShort (lo hi : Byte) : hiByte (leShort lo hi) = hi := by
  rw [leShort_eq_append, hiByte]
  apply BitVec.eq_of_getLsbD_eq
  intro i hi'
  rw [BitVec.getLsbD_setWidth, BitVec.getLsbD_sshiftRight, BitVec.getLsbD_append]
  have hlt : ¬ 8 + i < 8 := by omega
  have hsub : 8 + i - 8 = i := by omega
  simp [hi', hlt, hsub, show ¬ 16 ≤ i by omega, show 8 + i < 16 by omega]

/-- **The frames that pass the test** are the messages followed by their checksum. -/
lemma crcTest_iff_eq_withCrc {l : List Byte} {k : ℕ} (hk : k ≤ 253) (hl : l.length = k + 2) :
    crcTest l (BitVec.ofNat 8 k) = true ↔ l = withCrc (l.take k) := by
  have htake : (l.take k).length = k := List.length_take_of_le (by omega)
  have hn : (BitVec.ofNat 8 k).toNat = k := by
    rw [BitVec.toNat_ofNat, Nat.mod_eq_of_lt (by omega)]
  constructor
  · intro h
    have hcrc : crc16 (l.take k) (BitVec.ofNat 8 k) = crc16 l (BitVec.ofNat 8 k) := by
      refine crc16_congr ?_
      rw [hn, List.take_take, min_self]
    have h₁ : k < l.length := by omega
    have h₂ : k + 1 < l.length := by omega
    rw [crcTest, hn, List.getD_eq_getElem _ _ h₁, List.getD_eq_getElem _ _ h₂, beq_iff_eq] at h
    have hsplit : l = l.take k ++ [l[k], l[k + 1]] :=
      calc l = l.take (k + 2) := (List.take_of_length_le (Nat.le_of_eq hl)).symm
        _ = l.take k ++ [l[k], l[k + 1]] := by
          rw [List.take_succ_eq_append_getElem h₂, List.take_succ_eq_append_getElem h₁,
            List.append_assoc]
          rfl
    rw [withCrc, htake, hcrc, ← h, loByte_leShort, hiByte_leShort]
    exact hsplit
  · intro h
    have hok := crcTest_withCrc (l.take k) (by omega)
    rwa [htake, ← h] at hok

/-- **What corruption a frame survives**: the errors that the generator divides. -/
lemma crcTest_xor_iff {l e : List Byte} {k : ℕ} (hk : k ≤ 253) (hl : l.length = k + 2)
    (he : e.length = k + 2) (hok : crcTest l (BitVec.ofNat 8 k) = true) :
    crcTest (xorBytes l e) (BitVec.ofNat 8 k) = true ↔ crcGen ∣ ofBits (wireBits e) := by
  have htake : (l.take k).length = k := List.length_take_of_le (by omega)
  have h := crcTest_withCrc_xor_iff (l.take k) e (by omega) (by rw [he, htake])
  rwa [← (crcTest_iff_eq_withCrc hk hl).mp hok, htake] at h

end Wifibot
