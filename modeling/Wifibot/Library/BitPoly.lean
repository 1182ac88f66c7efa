import Mathlib.Algebra.Polynomial.FieldDivision
import Mathlib.Algebra.Polynomial.Eval.Degree
import Mathlib.Data.ZMod.Basic
import Mathlib.Algebra.CharP.Two
import Mathlib.Algebra.Field.ZMod
import Mathlib.RingTheory.PrincipalIdealDomain

set_option relaxedAutoImplicit false
set_option autoImplicit false

/-!
# Bit strings as polynomials over `GF(2)`

A bit string in transmission order is the polynomial whose highest coefficient is the first bit.
The file has the algebra of this reading, and the three facts about divisibility by a generator
polynomial on which error detection by a cyclic code rests.

## Main definitions

* `BitPoly.ofBits` — the polynomial of a bit string, first bit highest.

## Main results

* `BitPoly.ofBits_append`, `BitPoly.ofBits_zipWith_xor` — concatenation and exclusive or.
* `BitPoly.coeff_ofBits` — the coefficients are the bits.
* `BitPoly.not_dvd_of_burst` — a short non-zero window is no multiple of the generator.
* `BitPoly.not_dvd_of_odd` — nor is an odd number of bits, if `X + 1` divides the generator.
* `BitPoly.not_dvd_of_count_two` — nor are two bits closer than the order of `X`.
-/

namespace BitPoly

open Polynomial

/-- A bit as a coefficient. -/
def coeffBit (b : Bool) : ZMod 2 := if b then 1 else 0

/-- The polynomial of a bit string; the first bit is the coefficient of the highest degree. -/
noncomputable def ofBits : List Bool → (ZMod 2)[X]
  | [] => 0
  | b :: l => C (coeffBit b) * X ^ l.length + ofBits l

@[simp] lemma coeffBit_true : coeffBit true = 1 := rfl

@[simp] lemma coeffBit_false : coeffBit false = 0 := rfl

/-- Exclusive or of bits is addition of coefficients. -/
lemma coeffBit_xor (a b : Bool) : coeffBit (a ^^ b) = coeffBit a + coeffBit b := by
  cases a <;> cases b <;> decide

@[simp] lemma ofBits_nil : ofBits [] = 0 := rfl

@[simp] lemma ofBits_cons (b : Bool) (l : List Bool) :
    ofBits (b :: l) = C (coeffBit b) * X ^ l.length + ofBits l := rfl

/-- Appending bits shifts the first part up. -/
lemma ofBits_append (l m : List Bool) :
    ofBits (l ++ m) = X ^ m.length * ofBits l + ofBits m := by
  induction l with
  | nil => simp
  | cons b l ih =>
    simp only [List.cons_append, ofBits_cons, ih, List.length_append, pow_add]
    ring

/-- A string of zero bits is the zero polynomial. -/
@[simp] lemma ofBits_replicate_false (n : ℕ) : ofBits (List.replicate n false) = 0 := by
  induction n with
  | zero => rfl
  | succ n ih => simp [List.replicate_succ, ih]

/-- A string without a set bit is the zero polynomial. -/
lemma ofBits_eq_zero_of_forall {l : List Bool} (h : ∀ b ∈ l, b = false) : ofBits l = 0 := by
  rw [List.eq_replicate_of_mem h, ofBits_replicate_false]

/-- The degree is below the number of bits. -/
lemma degree_ofBits_lt (l : List Bool) : (ofBits l).degree < l.length := by
  induction l with
  | nil => simp [bot_lt_iff_ne_bot]
  | cons b l ih =>
    refine lt_of_le_of_lt (degree_add_le _ _) (max_lt ?_ ?_)
    · refine lt_of_le_of_lt (degree_C_mul_X_pow_le _ _) ?_
      exact_mod_cast Nat.lt_succ_self l.length
    · refine ih.trans ?_
      exact_mod_cast Nat.lt_succ_self l.length

/-- The first bit of a string is its highest coefficient, the last its lowest. -/
lemma coeff_ofBits (l : List Bool) {i : ℕ} (hi : i < l.length) :
    (ofBits l).coeff (l.length - 1 - i) = coeffBit l[i] := by
  induction l generalizing i with
  | nil => simp at hi
  | cons b l ih =>
    rw [ofBits_cons, coeff_add, coeff_C_mul_X_pow, List.length_cons, Nat.add_sub_cancel]
    cases i with
    | zero =>
      rw [Nat.sub_zero, if_pos rfl, coeff_eq_zero_of_degree_lt (degree_ofBits_lt l), add_zero]
      rfl
    | succ i =>
      have hil : i < l.length := by simpa using hi
      rw [if_neg (by omega), zero_add, List.getElem_cons_succ, ← ih hil, Nat.sub_sub,
        Nat.add_comm 1]

/-- A string of set bits is the all-ones polynomial. -/
lemma ofBits_replicate_true (n : ℕ) :
    ofBits (List.replicate n true) = ∑ i ∈ Finset.range n, X ^ i := by
  induction n with
  | zero => rfl
  | succ n ih =>
    rw [List.replicate_succ, ofBits_cons, ih, Finset.sum_range_succ, List.length_replicate]
    simp [add_comm]

/-- A string with a set bit is not the zero polynomial. -/
lemma ofBits_ne_zero {l : List Bool} (h : true ∈ l) : ofBits l ≠ 0 := by
  induction l with
  | nil => simp at h
  | cons b l ih =>
    cases b with
    | false => simpa using ih (by simpa using h)
    | true =>
      intro h0
      have hlt := degree_ofBits_lt l
      have heq : ofBits l = X ^ l.length := by
        have h1 : X ^ l.length + ofBits l = 0 := by simpa using h0
        exact (CharTwo.add_eq_zero.mp h1).symm
      rw [heq, degree_X_pow] at hlt
      exact lt_irrefl _ hlt

/-- Exclusive or of strings of one length is addition. -/
lemma ofBits_zipWith_xor {l m : List Bool} (h : l.length = m.length) :
    ofBits (List.zipWith (· ^^ ·) l m) = ofBits l + ofBits m := by
  induction l generalizing m with
  | nil =>
    cases m with
    | nil => simp
    | cons b m => simp at h
  | cons a l ih =>
    cases m with
    | nil => simp at h
    | cons b m =>
      have hlm : l.length = m.length := by simpa using h
      simp only [List.zipWith_cons_cons, ofBits_cons, ih hlm, coeffBit_xor, C_add,
        List.length_zipWith, hlm, Nat.min_self]
      ring

/-- The value at `1` counts the set bits. -/
lemma eval_one_ofBits (l : List Bool) : (ofBits l).eval 1 = (l.count true : ZMod 2) := by
  induction l with
  | nil => simp
  | cons b l ih => cases b <;> simp [ih, add_comm]

/-! ## Shapes of bit strings -/

/-- A string with a set bit has a first one. -/
lemma exists_first_true {l : List Bool} {k : ℕ} (h : l.count true = k + 1) :
    ∃ a rest, l = List.replicate a false ++ true :: rest ∧ rest.count true = k := by
  induction l with
  | nil => simp at h
  | cons b l ih =>
    cases b with
    | true => exact ⟨0, l, rfl, by simpa using h⟩
    | false =>
      obtain ⟨a, rest, rfl, hrest⟩ := ih (by simpa using h)
      exact ⟨a + 1, rest, rfl, hrest⟩

/-- A string with two set bits is a power of `X` times `X ^ d + 1`, `d` the distance. -/
lemma ofBits_of_count_two {l : List Bool} (h : l.count true = 2) :
    ∃ k d, 0 < d ∧ d < l.length ∧ ofBits l = X ^ k * (X ^ d + 1) := by
  obtain ⟨a, r, rfl, hr⟩ := exists_first_true (k := 1) h
  obtain ⟨c, r', rfl, hr'⟩ := exists_first_true (k := 0) hr
  have h0 : ofBits r' = 0 := by
    refine ofBits_eq_zero_of_forall fun b hb => ?_
    cases b with
    | false => rfl
    | true => exact absurd hb (List.count_eq_zero.mp hr')
  refine ⟨r'.length, c + 1, by omega, by simp; omega, ?_⟩
  simp only [ofBits_append, ofBits_cons, ofBits_replicate_false, coeffBit_true, C_1, one_mul,
    mul_zero, zero_add, add_zero, h0, List.length_append, List.length_replicate,
    List.length_cons]
  ring

/-- A string whose set bits lie within `w` consecutive places is a power of `X` times a
polynomial of degree below `w`. -/
lemma ofBits_of_window {l : List Bool} {s w : ℕ}
    (h : ∀ i, l[i]? = some true → s ≤ i ∧ i < s + w) :
    ∃ (k : ℕ) (B : (ZMod 2)[X]), B.degree < (w : WithBot ℕ) ∧ ofBits l = X ^ k * B := by
  have hsplit : l = l.take s ++ ((l.drop s).take w ++ (l.drop s).drop w) := by simp
  have hfalse : ∀ i b, l[i]? = some b → (i < s ∨ s + w ≤ i) → b = false := by
    intro i b hi hout
    cases b with
    | false => rfl
    | true => have := h i hi; omega
  have hfst : ofBits (l.take s) = 0 := by
    refine ofBits_eq_zero_of_forall fun b hb => ?_
    obtain ⟨i, hi, rfl⟩ := List.mem_iff_getElem.mp hb
    rw [List.length_take] at hi
    exact hfalse i _ (by simp [show i < l.length by omega]) (by omega)
  have hthd : ofBits ((l.drop s).drop w) = 0 := by
    refine ofBits_eq_zero_of_forall fun b hb => ?_
    obtain ⟨i, hi, rfl⟩ := List.mem_iff_getElem.mp hb
    simp only [List.length_drop] at hi
    exact hfalse (s + w + i) _ (by simp [add_assoc])
      (by omega)
  refine ⟨((l.drop s).drop w).length, ofBits ((l.drop s).take w), ?_, ?_⟩
  · refine lt_of_lt_of_le (degree_ofBits_lt _) ?_
    exact_mod_cast List.length_take_le _ _
  · conv_lhs => rw [hsplit]
    rw [ofBits_append, ofBits_append, hfst, hthd]
    ring

/-! ## Multiples of a generator -/

section Generator

variable {g : (ZMod 2)[X]}

/-- Without the factor `X`, the generator is prime to every power of it. -/
lemma isCoprime_X_pow (hg : g.coeff 0 ≠ 0) (k : ℕ) : IsCoprime g (X ^ k) := by
  refine IsCoprime.pow_right (IsCoprime.symm ?_)
  have hX : Irreducible (X : (ZMod 2)[X]) := irreducible_X
  rw [hX.coprime_iff_not_dvd, X_dvd_iff]
  exact hg

/-- A power of `X` can be dropped from a multiple of the generator. -/
lemma dvd_X_pow_mul_iff (hg : g.coeff 0 ≠ 0) (k : ℕ) (B : (ZMod 2)[X]) :
    g ∣ X ^ k * B ↔ g ∣ B :=
  ⟨(isCoprime_X_pow hg k).dvd_of_dvd_mul_left, fun h => h.mul_left _⟩

/-- **Bursts.** A non-zero string whose set bits lie within at most as many places as the
generator's degree is no multiple of the generator. -/
lemma not_dvd_of_burst (hg : g.coeff 0 ≠ 0) {l : List Bool} {s w : ℕ}
    (hw : (w : WithBot ℕ) ≤ g.degree) (hl : true ∈ l)
    (h : ∀ i, l[i]? = some true → s ≤ i ∧ i < s + w) : ¬ g ∣ ofBits l := by
  obtain ⟨k, B, hB, hlB⟩ := ofBits_of_window h
  have hB0 : B ≠ 0 := by
    rintro rfl
    exact ofBits_ne_zero hl (by rw [hlB, mul_zero])
  rw [hlB, dvd_X_pow_mul_iff hg]
  exact fun hdvd => not_lt.mpr (degree_le_of_dvd hdvd hB0) (lt_of_lt_of_le hB hw)

/-- **Odd weight.** If `X + 1` divides the generator, that is, its value at `1` is zero, no string
with an odd number of set bits is a multiple of it. -/
lemma not_dvd_of_odd (hg : g.eval 1 = 0) {l : List Bool} (h : Odd (l.count true)) :
    ¬ g ∣ ofBits l := by
  rintro ⟨q, hq⟩
  have h1 := eval_one_ofBits l
  rw [hq, eval_mul, hg, zero_mul] at h1
  rw [(ZMod.natCast_eq_one_iff_odd).mpr h] at h1
  exact zero_ne_one h1

/-- **Two bits.** A string with two set bits is no multiple of a generator that divides no
`X ^ d + 1` with `d` below the string's length. -/
lemma not_dvd_of_count_two (hg : g.coeff 0 ≠ 0) {l : List Bool}
    (hord : ∀ d, 0 < d → d < l.length → ¬ g ∣ X ^ d + 1) (h : l.count true = 2) :
    ¬ g ∣ ofBits l := by
  obtain ⟨k, d, hd0, hdl, hl⟩ := ofBits_of_count_two h
  rw [hl, dvd_X_pow_mul_iff hg]
  exact hord d hd0 hdl

end Generator

end BitPoly
