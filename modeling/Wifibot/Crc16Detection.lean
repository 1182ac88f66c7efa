import Wifibot.Crc16

set_option relaxedAutoImplicit false
set_option autoImplicit false

/-!
# What the checksum detects

Every frame of the protocol carries the `crc16` of its bytes in two trailing bytes, low byte
first, and a receiver recomputes it. A corrupted frame passes this test iff the generator divides
the polynomial of the error, so what goes undetected does not depend on the message. The
generator `X ^ 16 + X ^ 15 + X ^ 2 + 1` has degree sixteen, a constant term, the factor `X + 1`,
and divides no `X ^ d + 1` up to the length of the longest frame; hence short bursts, odd weights
and pairs of bits are all rejected.

## Main definitions

* `Wifibot.withCrc` — a message followed by its checksum.
* `Wifibot.ErrorPattern` — the error patterns the checksum is meant for.

## Main results

* `Wifibot.crcTest_withCrc_xor_iff` — a corrupted frame passes iff the generator divides the error.
* `Wifibot.crc16_rejects_corrupted` — every frame corrupted by such a pattern is rejected.
-/

namespace Wifibot

open Polynomial BitPoly ShiftRegister

/-- The message with its checksum, low byte first. -/
def withCrc (m : List Byte) : List Byte :=
  m ++ [loByte (crc16 m (BitVec.ofNat 8 m.length)), hiByte (crc16 m (BitVec.ofNat 8 m.length))]

/-- Byte strings added bit by bit. -/
def xorBytes (l m : List Byte) : List Byte := List.zipWith (· ^^^ ·) l m

/-- At most three flipped bits, or an odd number, or all within sixteen places on the wire. -/
def ErrorPattern (e : List Byte) : Prop :=
  (wireBits e).count true ≤ 3 ∨ Odd ((wireBits e).count true) ∨
    ∃ s, ∀ i, (wireBits e)[i]? = some true → s ≤ i ∧ i < s + 16

/-- A string has a set bit on the wire iff one of its bytes is not zero. -/
lemma true_mem_wireBits_iff (e : List Byte) : true ∈ wireBits e ↔ ∃ b ∈ e, b ≠ 0 := by
  have hwire : ∀ b : Byte, true ∈ wire b ↔ b ≠ 0 := by
    intro b
    rw [← not_iff_not, not_not]
    constructor
    · intro h
      refine BitVec.eq_of_getLsbD_eq fun i hi => ?_
      simp only [wire, List.mem_map, List.mem_range, not_exists, not_and] at h
      simpa using h i hi
    · rintro rfl
      simp [wire]
  simp only [wireBits, List.mem_flatMap, hwire]

/-! ## The order of `X` -/

/-- The register `c` and its next `k - 1` shifts all differ from `r`. -/
def avoids (r c : BitVec 16) : ℕ → Bool
  | 0 => true
  | k + 1 => c != r && avoids r (step poly16 c) k

/-- What `avoids` computes. -/
lemma iterate_step_ne_of_avoids {r c : BitVec 16} {k : ℕ} (h : avoids r c k = true) {d : ℕ}
    (hd : d < k) : (step poly16)^[d] c ≠ r := by
  induction k generalizing c d with
  | zero => omega
  | succ k ih =>
    simp only [avoids, Bool.and_eq_true, bne_iff_ne] at h
    cases d with
    | zero => exact h.1
    | succ d =>
      rw [Function.iterate_succ_apply]
      exact ih h.2 (by omega)

/-- The register whose polynomial is `1`. -/
def unitReg : BitVec 16 := 0x8000

/-- The polynomial of the unit register. -/
lemma toPoly_unitReg : toPoly unitReg = 1 := by
  have hwire : wire unitReg = List.replicate 15 false ++ [true] := by decide
  rw [toPoly, hwire, ofBits_append]
  simp

/-- The register started at `1` does not come back to it within the bits of the longest frame. -/
lemma avoids_unitReg : avoids unitReg (step poly16 unitReg) 2039 = true := by decide +kernel

/-- The generator divides no `X ^ d + 1` with `d` below the bits of the longest frame. -/
lemma crcGen_not_dvd (d : ℕ) (hd0 : 0 < d) (hd : d < 2040) : ¬ crcGen ∣ X ^ d + 1 := by
  intro hdvd
  obtain ⟨k, rfl⟩ : ∃ k, d = k + 1 := ⟨d - 1, by omega⟩
  refine iterate_step_ne_of_avoids avoids_unitReg (show k < 2039 by omega) ?_
  rw [← Function.iterate_succ_apply]
  refine eq_of_mk_toPoly_eq poly16 ?_
  rw [mk_toPoly_iterate_step poly16 (by decide), toPoly_unitReg, map_one, mul_one,
    ← AdjoinRoot.mk_X, ← map_pow, ← map_one (AdjoinRoot.mk (gen poly16)), AdjoinRoot.mk_eq_mk,
    CharTwo.sub_eq_add]
  exact hdvd

/-! ## Detection -/

/-- A message of at most `253` bytes has its length in an `unsigned char`. -/
lemma toNat_ofNat_length {m : List Byte} (hm : m.length ≤ 253) :
    (BitVec.ofNat 8 m.length).toNat = m.length := by
  rw [BitVec.toNat_ofNat, Nat.mod_eq_of_lt (by omega)]

@[simp] lemma length_withCrc (m : List Byte) : (withCrc m).length = m.length + 2 := by
  simp [withCrc]

/-- A message with its checksum passes the test. -/
lemma crcTest_withCrc (m : List Byte) (hm : m.length ≤ 253) :
    crcTest (withCrc m) (BitVec.ofNat 8 m.length) = true := by
  set n := BitVec.ofNat 8 m.length with hn
  have hlen : n.toNat = m.length := toNat_ofNat_length hm
  have hcrc : crc16 (withCrc m) n = crc16 m n := by
    refine crc16_congr ?_
    rw [hlen, withCrc, List.take_left', List.take_length]
    rfl
  have hlo : (withCrc m).getD n.toNat 0 = loByte (crc16 m n) := by
    rw [hlen, withCrc]
    simp [hn]
  have hhi : (withCrc m).getD (n.toNat + 1) 0 = hiByte (crc16 m n) := by
    rw [hlen, withCrc]
    simp [hn]
  rw [crcTest, hcrc, hlo, hhi, leShort_loByte_hiByte, beq_self_eq_true]

/-- **A corrupted frame passes the test iff the generator divides the error.**

**Proof sketch.** The sent frame brings the register to zero, so the received one does iff the
two leave one register, which is a matter of their sum. -/
lemma crcTest_withCrc_xor_iff (m e : List Byte) (hm : m.length ≤ 253)
    (he : e.length = m.length + 2) :
    crcTest (xorBytes (withCrc m) e) (BitVec.ofNat 8 m.length) = true ↔
      crcGen ∣ ofBits (wireBits e) := by
  have hlen : (xorBytes (withCrc m) e).length = m.length + 2 := by
    simp [xorBytes, he]
  have hn : (BitVec.ofNat 8 m.length).toNat + 2 = m.length + 2 := by
    rw [toNat_ofNat_length hm]
  have hsent : feedAll poly16 crcInit (withCrc m) = 0#16 := by
    have h := (crcTest_iff_feedAll (withCrc m) (BitVec.ofNat 8 m.length)
      (by rw [hn, length_withCrc])).mp (crcTest_withCrc m hm)
    rwa [hn, List.take_of_length_le (by simp)] at h
  rw [crcTest_iff_feedAll _ _ (by rw [hn, hlen]), hn, List.take_of_length_le (by rw [hlen]),
    ← hsent, feedAll_eq_iff_dvd (by rw [hlen, length_withCrc]), xorBytes,
    wireBits_zipWith_xor (by simp [he]), ofBits_zipWith_xor (by simp [he]), add_right_comm,
    CharTwo.add_self_eq_zero, zero_add]

/-- **The checksum rejects every frame corrupted by an error pattern it is meant for**: at most
three bits, an odd number of bits, or a burst of sixteen places, checksum bytes included.

**Proof sketch.** By the weight of the error. An odd weight is ruled out by the factor `X + 1`;
the only even weight up to three that is not zero is two, ruled out by the order of `X`; a burst
is ruled out by the degree. -/
theorem crc16_rejects_corrupted (m e : List Byte) (hm : m.length ≤ 253)
    (he : e.length = m.length + 2) (hne : ∃ b ∈ e, b ≠ 0) (hpat : ErrorPattern e) :
    crcTest (xorBytes (withCrc m) e) (BitVec.ofNat 8 m.length) = false := by
  rw [← true_mem_wireBits_iff] at hne
  rw [← Bool.not_eq_true, crcTest_withCrc_xor_iff m e hm he]
  have hodd : Odd ((wireBits e).count true) → ¬ crcGen ∣ ofBits (wireBits e) :=
    not_dvd_of_odd crcGen_eval_one
  rcases hpat with hthree | h | ⟨s, hs⟩
  · have hpos : 0 < (wireBits e).count true := List.count_pos_iff.mpr hne
    rcases Nat.even_or_odd ((wireBits e).count true) with heven | h
    · have htwo : (wireBits e).count true = 2 := by
        obtain ⟨k, hk⟩ := heven
        omega
      refine not_dvd_of_count_two crcGen_coeff_zero (fun d hd0 hd => ?_) htwo
      rw [length_wireBits] at hd
      exact crcGen_not_dvd d hd0 (by omega)
    · exact hodd h
  · exact hodd h
  · exact not_dvd_of_burst crcGen_coeff_zero (by rw [crcGen_degree]; rfl) hne hs

/-- A burst of sixteen places, from the flag byte of a command into both bytes of its checksum. -/
def burst : List Byte := [0x00, 0x00, 0x00, 0x00, 0x00, 0xF0, 0xFF, 0x0F]

lemma errorPattern_burst : ErrorPattern burst := by
  have hplaces : ∀ i < 64, (wireBits burst)[i]? = some true → 44 ≤ i ∧ i < 44 + 16 := by decide
  refine Or.inr (Or.inr ⟨44, fun i hi => hplaces i ?_ hi⟩)
  exact (List.getElem?_eq_some_iff.mp hi).1

/-- A command to the robot that the burst hits. -/
theorem crc16_rejects_flipped_burst :
    crcTest (xorBytes (withCrc [0x07, 0x78, 0x00, 0x78, 0x00, 0xA0]) burst) 6 = false :=
  crc16_rejects_corrupted [0x07, 0x78, 0x00, 0x78, 0x00, 0xA0] burst (by decide) rfl
    ⟨0xF0, by decide, by decide⟩ errorPattern_burst

end Wifibot
