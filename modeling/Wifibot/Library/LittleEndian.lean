import Mathlib.Data.Nat.Digits.Lemmas

set_option relaxedAutoImplicit false
set_option autoImplicit false

/-!
# Little-endian numbers

The unsigned and the two's complement value of a little-endian list of bytes. All that the two
differ by is the weight of the last byte, which is read as a signed number in the one and as an
unsigned number in the other.

## Main definitions

* `unsignedLE`, `signedLE` — the two values.

## Main results

* `signedLE_concat` — the last byte of a two's complement number is a signed byte.
* `signedLE_concat_eq_iff` — the two values agree iff the top bit is clear.
-/

/-- The number with the given little-endian bytes. -/
def unsignedLE (l : List (BitVec 8)) : ℕ := Nat.ofDigits 256 (l.map BitVec.toNat)

/-- The two's complement number with the given little-endian bytes. -/
def signedLE (l : List (BitVec 8)) : ℤ := (unsignedLE l : ℤ).bmod (256 ^ l.length)

@[simp] lemma unsignedLE_nil : unsignedLE [] = 0 := rfl

@[simp] lemma unsignedLE_cons (b : BitVec 8) (l : List (BitVec 8)) :
    unsignedLE (b :: l) = b.toNat + 256 * unsignedLE l := by
  simp [unsignedLE, Nat.ofDigits_cons]

/-- One more byte at the high end. -/
lemma unsignedLE_concat (l : List (BitVec 8)) (b : BitVec 8) :
    unsignedLE (l ++ [b]) = unsignedLE l + 256 ^ l.length * b.toNat := by
  simp [unsignedLE, Nat.ofDigits_append]

/-- `n` bytes hold the numbers below `256 ^ n`. -/
lemma unsignedLE_lt (l : List (BitVec 8)) : unsignedLE l < 256 ^ l.length := by
  have hlt : ∀ d ∈ l.map BitVec.toNat, d < 256 := by
    intro d hd
    obtain ⟨b, -, rfl⟩ := List.mem_map.mp hd
    exact b.isLt
  simpa [unsignedLE] using Nat.ofDigits_lt_base_pow_length (by decide) hlt

/-- **The last byte of a two's complement number is a signed byte.**

**Proof sketch.** The right-hand side differs from the unsigned value by a multiple of the modulus,
and lies in the balanced range as the lower bytes stay below their own modulus. -/
lemma signedLE_concat (l : List (BitVec 8)) (b : BitVec 8) :
    signedLE (l ++ [b]) = unsignedLE l + 256 ^ l.length * b.toInt := by
  set k : ℤ := 256 ^ l.length with hk
  have hpos : 0 < k := by positivity
  have hlow : (unsignedLE l : ℤ) < k := by
    rw [hk]
    exact_mod_cast unsignedLE_lt l
  have hlen : ((256 ^ (l ++ [b]).length : ℕ) : ℤ) = k * 256 := by simp [hk, pow_succ]
  have hmin : k * -128 ≤ k * b.toInt :=
    mul_le_mul_of_nonneg_left (by simpa using b.le_toInt) hpos.le
  have hmax : k * b.toInt ≤ k * 127 :=
    mul_le_mul_of_nonneg_left (by simpa using Int.le_sub_one_of_lt b.toInt_lt) hpos.le
  have hdvd : k * 256 ∣ k * (b.toInt - b.toNat) := by
    refine mul_dvd_mul_left k ?_
    rw [BitVec.toInt_eq_toNat_bmod]
    exact Int.dvd_bmod_sub_self
  rw [signedLE, unsignedLE_concat, Int.bmod_eq_iff (by positivity), hlen]
  refine ⟨by omega, by omega, ?_⟩
  push_cast
  rw [← hk, show unsignedLE l + k * b.toInt - (unsignedLE l + k * b.toNat) =
    k * (b.toInt - b.toNat) by ring]
  exact hdvd

/-- The two values agree iff the top bit of the last byte is clear. -/
lemma signedLE_concat_eq_iff (l : List (BitVec 8)) (b : BitVec 8) :
    signedLE (l ++ [b]) = unsignedLE (l ++ [b]) ↔ b < 128 := by
  have hpos : (256 ^ l.length : ℤ) ≠ 0 := by positivity
  rw [signedLE_concat, unsignedLE_concat]
  push_cast
  rw [add_right_inj, mul_right_inj' hpos, BitVec.toInt_eq_toNat_cond, BitVec.lt_def]
  split_ifs with h
  · exact iff_of_true rfl (by simpa using by omega)
  · exact iff_of_false (by omega) (by simpa using by omega)
