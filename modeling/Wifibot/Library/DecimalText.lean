import Mathlib.Algebra.Order.Group.Int
import Mathlib.Algebra.Order.Ring.Int
import Mathlib.Tactic.Ring

set_option relaxedAutoImplicit false
set_option autoImplicit false

/-!
# Decimal texts of integers

The decimal text of an integer is a sign if it is negative, and its digits without leading zeros.
This file says what such a text determines when only its first characters are seen.

## Main definitions

* `decimalText` — the text of an integer.

## Main results

* `decimalText_injective` — the whole text determines the integer.
* `length_decimalText_le_iff` — which integers have a short text.
* `exists_ne_take_decimalText_eq` — a text that fills the first characters shares them with that of
  another integer.
-/

/-- The decimal text of an integer. -/
def decimalText (z : ℤ) : List Char :=
  if z < 0 then '-' :: Nat.toDigits 10 z.natAbs else Nat.toDigits 10 z.natAbs

/-- The characters of such texts. -/
lemma mem_decimalText {z : ℤ} {c : Char} (hc : c ∈ decimalText z) : c = '-' ∨ c.isDigit = true := by
  have hdigit : ∀ {n : ℕ}, c ∈ Nat.toDigits 10 n → c.isDigit = true :=
    fun h => Nat.isDigit_of_mem_toDigits (by decide) (by decide) h
  rw [decimalText] at hc
  split_ifs at hc
  · exact (List.mem_cons.mp hc).imp id hdigit
  · exact Or.inr (hdigit hc)

/-- Digits determine the number that they spell. -/
lemma toDigits_injective : Function.Injective (Nat.toDigits 10) := fun m n h => by
  rw [← Nat.ofDigitChars_toDigits (by decide : 1 < 10) (by decide) (n := m), h,
    Nat.ofDigitChars_toDigits (by decide) (by decide)]

/-- Digits do not start with a sign. -/
lemma toDigits_ne_sign_cons (m : ℕ) (l : List Char) : Nat.toDigits 10 m ≠ '-' :: l := by
  intro h
  have hmem : '-' ∈ Nat.toDigits 10 m := by simp [h]
  have hdigit := Nat.isDigit_of_mem_toDigits (by decide) (by decide) hmem
  exact absurd hdigit (by decide)

/-- The whole text determines the integer. -/
lemma decimalText_injective : Function.Injective decimalText := by
  intro z w h
  simp only [decimalText] at h
  split_ifs at h with hz hw hw
  · have habs := toDigits_injective (List.cons.inj h).2
    omega
  · exact absurd h.symm (toDigits_ne_sign_cons _ _)
  · exact absurd h (toDigits_ne_sign_cons _ _)
  · have habs := toDigits_injective h
    omega

/-- The integer without its last digit, by the division of magnitudes. -/
lemma tdiv_ten (z : ℤ) : (0 ≤ z ∧ z.tdiv 10 = z / 10) ∨ (z < 0 ∧ z.tdiv 10 = -(-z / 10)) := by
  rcases le_or_gt 0 z with hz | hz
  · exact Or.inl ⟨hz, Int.tdiv_eq_ediv_of_nonneg hz⟩
  · refine Or.inr ⟨hz, ?_⟩
    rw [← Int.tdiv_eq_ediv_of_nonneg (by omega : 0 ≤ -z), Int.neg_tdiv, neg_neg]

/-- A text of at least two digits is that of the integer without its last digit, and that digit. -/
lemma decimalText_of_ten_le {z : ℤ} (hz : 10 ≤ z.natAbs) :
    decimalText z = decimalText (z.tdiv 10) ++ [Nat.digitChar (z.natAbs % 10)] := by
  have habs : (z.tdiv 10).natAbs = z.natAbs / 10 := Int.natAbs_tdiv z 10
  have hsign : z.tdiv 10 < 0 ↔ z < 0 := by
    have hdiv := tdiv_ten z
    omega
  rw [decimalText, decimalText, habs, Nat.toDigits_of_base_le (by decide) hz]
  simp only [hsign]
  split_ifs <;> rfl

/-- The integers whose text has at most `k + 1` characters. -/
lemma length_decimalText_le_iff {z : ℤ} {k : ℕ} (hk : 0 < k) :
    (decimalText z).length ≤ k + 1 ↔ -10 ^ k < z ∧ z < 10 ^ (k + 1) := by
  have hle : ∀ {j : ℕ}, 0 < j → ((Nat.toDigits 10 z.natAbs).length ≤ j ↔ z.natAbs < 10 ^ j) :=
    fun hj => Nat.length_toDigits_le_iff (by decide) hj
  have hpow : ((10 ^ k : ℕ) : ℤ) = 10 ^ k := by push_cast; rfl
  have hpow' : ((10 ^ (k + 1) : ℕ) : ℤ) = 10 ^ (k + 1) := by push_cast; rfl
  rw [decimalText, ← hpow, ← hpow']
  split_ifs with hz
  · rw [List.length_cons, Nat.add_le_add_iff_right, hle hk]
    omega
  · rw [hle (Nat.succ_pos k)]
    omega

/-- A text of one digit has at most two characters. -/
lemma ten_le_of_length_decimalText {z : ℤ} (hz : 2 < (decimalText z).length) : 10 ≤ z.natAbs := by
  by_contra hlt
  have hshort := (length_decimalText_le_iff (z := z) (by decide : 0 < 1)).mpr
  have hle := hshort (by omega)
  omega

/-- **A text that fills the first `k` characters** shares them with that of another integer, which
is not much larger: one with a digit more or one with a digit less. -/
lemma exists_ne_take_decimalText_eq {z : ℤ} {k : ℕ} (hk : 2 ≤ k) (hz : k ≤ (decimalText z).length) :
    ∃ w, w ≠ z ∧ (w.natAbs < 10 ^ (k + 1) ∨ w.natAbs < z.natAbs) ∧
      k ≤ (decimalText w).length ∧ (decimalText w).take k = (decimalText z).take k := by
  rcases Nat.lt_or_eq_of_le hz with hlt | heq
  · -- the last digit is not among the first characters
    have hten := ten_le_of_length_decimalText (by omega : 2 < (decimalText z).length)
    have htext := decimalText_of_ten_le hten
    have hlen : (decimalText z).length = (decimalText (z.tdiv 10)).length + 1 := by simp [htext]
    have hdiv := tdiv_ten z
    refine ⟨z.tdiv 10, ?_, Or.inr ?_, by omega, ?_⟩
    · omega
    · omega
    · rw [htext, List.take_append_of_le_length (by omega)]
  · -- a digit more is not seen
    have hne : z ≠ 0 := by
      rintro rfl
      have hone : (decimalText 0).length = 1 := by decide
      omega
    have hdiv : (10 * z).tdiv 10 = z := by
      have h := tdiv_ten (10 * z)
      omega
    have htext := decimalText_of_ten_le (z := 10 * z) (by omega)
    rw [hdiv] at htext
    refine ⟨10 * z, by omega, Or.inl ?_, ?_, ?_⟩
    · obtain ⟨j, rfl⟩ : ∃ j, k = j + 1 := ⟨k - 1, by omega⟩
      have hbound := (length_decimalText_le_iff (by omega)).mp heq.ge
      have hpow : ((10 ^ j : ℕ) : ℤ) = 10 ^ j := by push_cast; rfl
      have hpow' : ((10 ^ (j + 1) : ℕ) : ℤ) = 10 ^ (j + 1) := by push_cast; rfl
      rw [← hpow, ← hpow', pow_succ] at hbound
      rw [pow_succ, pow_succ]
      omega
    · rw [htext, List.length_append]
      omega
    · rw [htext, List.take_append_of_le_length hz]
