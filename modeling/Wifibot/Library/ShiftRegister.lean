import Mathlib.RingTheory.AdjoinRoot
import Wifibot.Library.BitPoly

set_option relaxedAutoImplicit false
set_option autoImplicit false

/-!
# Reflected shift registers

A reflected cyclic redundancy check keeps a register of `w` bits, shifts it right once per bit and
adds a constant when a set bit falls out. Read with its lowest bit as the highest coefficient, the
register is a polynomial of degree below `w`, and one shift is multiplication by `X` modulo the
generator `X ^ w + P`, `P` the polynomial of the constant. The file proves this for any width and
constant, and for data fed in symbols of any size up to the width.

## Main definitions

* `ShiftRegister.step`, `ShiftRegister.feed`, `ShiftRegister.feedAll` — one shift, one symbol, a
  list of symbols.
* `ShiftRegister.wire` — the bits of a word in transmission order, lowest first.
* `ShiftRegister.toPoly`, `ShiftRegister.gen` — the polynomial of a register, the generator.

## Main results

* `ShiftRegister.mk_toPoly_feedAll` — the register after a message, modulo the generator.
* `ShiftRegister.toPoly_eq_mod` — the register is the remainder modulo the generator.
* `ShiftRegister.eq_of_mk_toPoly_eq` — registers that agree modulo the generator are equal.
-/

namespace ShiftRegister

open Polynomial BitPoly

variable {w v : ℕ}

/-- One shift to the right, adding `P` when a set bit falls out. -/
def step (P c : BitVec w) : BitVec w :=
  if c.getLsbD 0 then (c >>> 1) ^^^ P else c >>> 1

/-- One symbol: added to the low end of the register, then shifted through. -/
def feed (P c : BitVec w) (b : BitVec v) : BitVec w := (step P)^[v] (c ^^^ b.setWidth w)

/-- A message, symbol by symbol. -/
def feedAll (P c : BitVec w) (l : List (BitVec v)) : BitVec w := l.foldl (feed P) c

/-- The bits of a word in transmission order, lowest first. -/
def wire (b : BitVec v) : List Bool := (List.range v).map b.getLsbD

/-- The polynomial of a register: its lowest bit is the highest coefficient. -/
noncomputable def toPoly (c : BitVec w) : (ZMod 2)[X] := ofBits (wire c)

/-- The generator of a register with the constant `P`. -/
noncomputable def gen (P : BitVec w) : (ZMod 2)[X] := X ^ w + toPoly P

@[simp] lemma feedAll_nil (P c : BitVec w) : feedAll P c ([] : List (BitVec v)) = c := rfl

@[simp] lemma feedAll_cons (P c : BitVec w) (b : BitVec v) (l : List (BitVec v)) :
    feedAll P c (b :: l) = feedAll P (feed P c b) l := rfl

/-- A message in two parts. -/
lemma feedAll_append (P c : BitVec w) (l m : List (BitVec v)) :
    feedAll P c (l ++ m) = feedAll P (feedAll P c l) m := by
  simp [feedAll]

@[simp] lemma length_wire (b : BitVec v) : (wire b).length = v := by simp [wire]

/-- The polynomial of a word has degree below its width. -/
lemma degree_toPoly_lt (c : BitVec w) : (toPoly c).degree < w := by
  have h := degree_ofBits_lt (wire c)
  rwa [length_wire] at h

/-- The coefficients of a register are its bits, in reverse. -/
lemma coeff_toPoly (c : BitVec w) {i : ℕ} (hi : i < w) :
    (toPoly c).coeff (w - 1 - i) = coeffBit (c.getLsbD i) := by
  have hlen : i < (wire c).length := by simpa using hi
  have hbit : (wire c)[i] = c.getLsbD i := by simp [wire]
  rw [toPoly, ← hbit, ← coeff_ofBits (wire c) hlen, length_wire]

/-- The register of set bits is the all-ones polynomial. -/
lemma toPoly_allOnes : toPoly (BitVec.allOnes w) = ∑ i ∈ Finset.range w, X ^ i := by
  have hwire : wire (BitVec.allOnes w) = List.replicate w true := by
    refine List.eq_replicate_of_mem ?_ |>.trans (by rw [length_wire])
    intro b hb
    obtain ⟨i, hi, rfl⟩ := List.mem_map.mp hb
    simpa using hi
  rw [toPoly, hwire, ofBits_replicate_true]

/-- Exclusive or of words, bit by bit on the wire. -/
lemma wire_xor (b c : BitVec v) : wire (b ^^^ c) = List.zipWith (· ^^ ·) (wire b) (wire c) := by
  simp [wire, List.zipWith_map, List.zipWith_self]

/-- Exclusive or of registers is addition. -/
lemma toPoly_xor (c d : BitVec w) : toPoly (c ^^^ d) = toPoly c + toPoly d := by
  rw [toPoly, wire_xor, ofBits_zipWith_xor (by simp)]
  rfl

/-- The zero register is the zero polynomial, and no other is. -/
lemma toPoly_eq_zero_iff (c : BitVec w) : toPoly c = 0 ↔ c = 0#w := by
  constructor
  · intro h
    apply BitVec.eq_of_getLsbD_eq
    intro i hi
    by_contra hne
    have hbit : c.getLsbD i = true := by simpa using hne
    exact ofBits_ne_zero (List.mem_map.mpr ⟨i, by simpa using hi, hbit⟩) h
  · rintro rfl
    exact ofBits_eq_zero_of_forall fun b hb => by simp [wire] at hb; exact hb.2

/-- A symbol widened to the register's width sits at the top of the polynomial. -/
lemma toPoly_setWidth (hvw : v ≤ w) (b : BitVec v) :
    toPoly (b.setWidth w) = X ^ (w - v) * ofBits (wire b) := by
  obtain ⟨k, rfl⟩ : ∃ k, w = v + k := ⟨w - v, by omega⟩
  have hwire : wire (b.setWidth (v + k)) = wire b ++ List.replicate k false := by
    apply List.ext_getElem
    · simp
    · intro i h₁ h₂
      rw [length_wire] at h₁
      rcases Nat.lt_or_ge i v with hi | hi
      · rw [List.getElem_append_left (by simpa using hi)]
        simp [wire, h₁]
      · rw [List.getElem_append_right (by simpa using hi)]
        simp [wire, BitVec.getLsbD_of_ge b i hi]
  rw [toPoly, hwire, ofBits_append]
  simp

/-- **One shift** multiplies by `X`, less the generator when a set bit falls out.

**Proof sketch.** On the wire a shift drops the first bit and appends a zero. The dropped bit is
the coefficient of `X ^ w` in the product, and the constant supplies the rest of the generator. -/
lemma toPoly_step (hw : 0 < w) (P c : BitVec w) :
    toPoly (step P c) = X * toPoly c + C (coeffBit (c.getLsbD 0)) * gen P := by
  obtain ⟨k, rfl⟩ : ∃ k, w = k + 1 := ⟨w - 1, by omega⟩
  have hwire : wire c = c.getLsbD 0 :: (List.range k).map fun i => c.getLsbD (i + 1) := by
    simp [wire, List.range_succ_eq_map, Function.comp_def]
  have hshift : wire (c >>> 1) = ((List.range k).map fun i => c.getLsbD (i + 1)) ++ [false] := by
    simp [wire, List.range_succ, add_comm]
  have hpoly : toPoly (c >>> 1) =
      X * toPoly c + C (coeffBit (c.getLsbD 0)) * X ^ (k + 1) := by
    rw [toPoly, hshift, ofBits_append, toPoly, hwire]
    simp only [ofBits_cons, ofBits_nil, List.length_map, List.length_range, List.length_cons,
      List.length_nil, coeffBit_false, C_0, zero_mul, add_zero, zero_add, pow_succ]
    linear_combination (-C (coeffBit (c.getLsbD 0)) * X ^ k * X) *
      (CharTwo.two_eq_zero : (2 : (ZMod 2)[X]) = 0)
  unfold step
  cases h0 : c.getLsbD 0 with
  | false =>
    rw [h0] at hpoly
    simpa using hpoly
  | true =>
    rw [h0] at hpoly
    simp only [↓reduceIte, toPoly_xor, hpoly, coeffBit_true, C_1, one_mul, gen]
    ring

section Modulo

variable (P : BitVec w)

/-- One shift is multiplication by the root. -/
lemma mk_toPoly_step (hw : 0 < w) (c : BitVec w) :
    AdjoinRoot.mk (gen P) (toPoly (step P c)) =
      AdjoinRoot.root (gen P) * AdjoinRoot.mk (gen P) (toPoly c) := by
  rw [toPoly_step hw]
  simp

/-- Several shifts are multiplication by a power of the root. -/
lemma mk_toPoly_iterate_step (hw : 0 < w) (c : BitVec w) (k : ℕ) :
    AdjoinRoot.mk (gen P) (toPoly ((step P)^[k] c)) =
      AdjoinRoot.root (gen P) ^ k * AdjoinRoot.mk (gen P) (toPoly c) := by
  induction k with
  | zero => simp
  | succ k ih => rw [Function.iterate_succ_apply', mk_toPoly_step P hw, ih, pow_succ']; ring

/-- One symbol moves the register up by the symbol's width and adds the symbol at the top. -/
lemma mk_toPoly_feed (hw : 0 < w) (hvw : v ≤ w) (c : BitVec w) (b : BitVec v) :
    AdjoinRoot.mk (gen P) (toPoly (feed P c b)) =
      AdjoinRoot.root (gen P) ^ v * AdjoinRoot.mk (gen P) (toPoly c) +
        AdjoinRoot.root (gen P) ^ w * AdjoinRoot.mk (gen P) (ofBits (wire b)) := by
  have hpow : AdjoinRoot.root (gen P) ^ w =
      AdjoinRoot.root (gen P) ^ v * AdjoinRoot.root (gen P) ^ (w - v) := by
    rw [← pow_add]
    congr 1
    omega
  rw [feed, mk_toPoly_iterate_step P hw, toPoly_xor, toPoly_setWidth hvw, hpow]
  simp only [map_add, map_mul, map_pow, AdjoinRoot.mk_X]
  ring

/-- **A message** moves the register up by its length in bits and adds `X ^ w` times its
polynomial, modulo the generator.

**Proof sketch.** Induction on the message, one symbol by `mk_toPoly_feed`. -/
lemma mk_toPoly_feedAll (hw : 0 < w) (hvw : v ≤ w) (c : BitVec w) (l : List (BitVec v)) :
    AdjoinRoot.mk (gen P) (toPoly (feedAll P c l)) =
      AdjoinRoot.root (gen P) ^ (v * l.length) * AdjoinRoot.mk (gen P) (toPoly c) +
        AdjoinRoot.root (gen P) ^ w * AdjoinRoot.mk (gen P) (ofBits (l.flatMap wire)) := by
  induction l generalizing c with
  | nil => simp
  | cons b l ih =>
    have hlen : (l.flatMap wire).length = v * l.length := by
      simp [List.length_flatMap, mul_comm]
    rw [feedAll_cons, ih, mk_toPoly_feed P hw hvw, List.flatMap_cons, ofBits_append, hlen]
    simp only [List.length_cons, map_add, map_mul, map_pow, AdjoinRoot.mk_X, Nat.mul_succ, pow_add]
    ring

/-- The generator's degree is the register's width. -/
lemma degree_gen : (gen P).degree = w := by
  rw [gen, degree_add_eq_left_of_degree_lt, degree_X_pow]
  rw [degree_X_pow]
  exact degree_toPoly_lt P

/-- Only the zero register is a multiple of the generator: any other has too small a degree. -/
lemma mk_toPoly_eq_zero_iff (c : BitVec w) : AdjoinRoot.mk (gen P) (toPoly c) = 0 ↔ c = 0#w := by
  constructor
  · intro h
    rw [← toPoly_eq_zero_iff]
    by_contra hne
    have hle := degree_le_of_dvd (AdjoinRoot.mk_eq_zero.mp h) hne
    rw [degree_gen] at hle
    exact not_lt.mpr hle (degree_toPoly_lt _)
  · intro h
    rw [(toPoly_eq_zero_iff c).mpr h, map_zero]

/-- A register that is a polynomial modulo the generator is its remainder: its own degree is below
the generator's. -/
lemma toPoly_eq_mod {c : BitVec w} {f : (ZMod 2)[X]}
    (h : AdjoinRoot.mk (gen P) (toPoly c) = AdjoinRoot.mk (gen P) f) : toPoly c = f % gen P := by
  have hself : toPoly c % gen P = toPoly c := by
    refine (mod_eq_self_iff (fun h0 => ?_)).mpr ?_
    · have hdeg := degree_gen P
      rw [h0, degree_zero] at hdeg
      exact WithBot.bot_ne_natCast w hdeg
    · rw [degree_gen]
      exact degree_toPoly_lt c
  rw [← hself]
  exact mod_eq_of_dvd_sub (AdjoinRoot.mk_eq_mk.mp h)

/-- Registers that agree modulo the generator are equal. -/
lemma eq_of_mk_toPoly_eq {c d : BitVec w}
    (h : AdjoinRoot.mk (gen P) (toPoly c) = AdjoinRoot.mk (gen P) (toPoly d)) : c = d := by
  rw [← BitVec.xor_eq_zero_iff, ← mk_toPoly_eq_zero_iff P, toPoly_xor, map_add, h, ← map_add,
    CharTwo.add_self_eq_zero, map_zero]

end Modulo

end ShiftRegister
