import Mathlib.Algebra.Order.Ring.Rat
import Mathlib.Algebra.Ring.Int.Parity
import Mathlib.Data.Int.Log
import Mathlib.Data.Option.NAry
import Mathlib.Data.Rat.Floor
import Mathlib.Tactic.Linarith

set_option relaxedAutoImplicit false
set_option autoImplicit false

/-!
# Numbers of a rounded format

A floating-point format has some of the rationals, and an operation rounds its exact result to one
of them. What the results of this file need of the rounding is that it is symmetric, that it keeps
what it has rounded, and that it keeps the integers up to a power of two. The sign of zero is not
kept, and overflow is left out.

## Main definitions

* `Rounding` — the rounding of a format with so many bits of precision.
* `Rounding.Number` — a number of the format, or not a number.
* `Rounding.nearest` — the rounding to the nearest number, of two to the one with the even mantissa.

## Main results

* `Rounding.Number.zero_add`, `Rounding.Number.zero_sub` — adding to zero and subtracting from it
  round nothing.
* `Rounding.Number.val_mul_ofInt` — nor does a product of integers that has room.
* `Rounding.toNearest_mul_zpow` — the rounding to the nearest number keeps what has room.
-/

/-- The rounding of exact results to the numbers of a format with a precision of `p` bits. -/
structure Rounding (p : ℕ) where
  round : ℚ → ℚ
  round_neg : ∀ q, round (-q) = -round q
  round_round : ∀ q, round (round q) = round q
  round_int : ∀ n : ℤ, n.natAbs ≤ 2 ^ p → round n = n

namespace Rounding

variable {p : ℕ}

/-- Exact arithmetic rounds nothing. -/
instance : Inhabited (Rounding p) where
  default :=
    { round := id
      round_neg := fun _ => rfl
      round_round := fun _ => rfl
      round_int := fun _ _ => rfl }

/-- Zero is kept. -/
lemma round_zero (R : Rounding p) : R.round 0 = 0 := by
  have h := R.round_int 0 (Nat.zero_le _)
  rwa [Int.cast_zero] at h

/-- A number of the format, `none` if it is not a number. -/
structure Number (R : Rounding p) where
  val : Option ℚ
  rounded : val.map R.round = val
  deriving DecidableEq

namespace Number

variable {R : Rounding p}

@[ext] lemma ext {x y : Number R} (h : x.val = y.val) : x = y := by
  cases x
  cases y
  congr

/-- An exact result is rounded. -/
def ofExact (x : Option ℚ) : Number R where
  val := x.map R.round
  rounded := by cases x <;> simp [R.round_round]

/-- An integer. -/
def ofInt (n : ℤ) : Number R := ofExact (some (n : ℚ))

instance : Zero (Number R) := ⟨⟨some 0, by simp [R.round_zero]⟩⟩

instance : Neg (Number R) where
  neg x :=
    { val := x.val.map Neg.neg
      rounded := by
        have hx := x.rounded
        cases hval : x.val with
        | none => rfl
        | some q =>
          rw [hval, Option.map_some, Option.some.injEq] at hx
          simp [R.round_neg, hx] }

instance : Add (Number R) := ⟨fun x y => ofExact (Option.map₂ (· + ·) x.val y.val)⟩

instance : Sub (Number R) := ⟨fun x y => ofExact (Option.map₂ (· - ·) x.val y.val)⟩

instance : Mul (Number R) := ⟨fun x y => ofExact (Option.map₂ (· * ·) x.val y.val)⟩

/-- The format has no infinities, so that a quotient by zero is not a number. -/
instance : Div (Number R) :=
  ⟨fun x y =>
    ofExact (Option.map₂ (fun a b => if b = 0 then none else some (a / b)) x.val y.val).join⟩

@[simp] lemma val_zero : (0 : Number R).val = some 0 := rfl

@[simp] lemma val_neg (x : Number R) : (-x).val = x.val.map Neg.neg := rfl

lemma val_add (x y : Number R) :
    (x + y).val = (Option.map₂ (· + ·) x.val y.val).map R.round := rfl

lemma val_sub (x y : Number R) :
    (x - y).val = (Option.map₂ (· - ·) x.val y.val).map R.round := rfl

lemma val_mul (x y : Number R) :
    (x * y).val = (Option.map₂ (· * ·) x.val y.val).map R.round := rfl

/-- An integer that has room is kept. -/
lemma val_ofInt {n : ℤ} (hn : n.natAbs ≤ 2 ^ p) : (ofInt n : Number R).val = some (n : ℚ) := by
  simp [ofInt, ofExact, R.round_int n hn]

@[simp] lemma neg_zero : -(0 : Number R) = 0 := by
  ext1
  simp

/-- Adding to zero rounds nothing. -/
@[simp] lemma zero_add (x : Number R) : 0 + x = x := by
  ext1
  rw [val_add, ← x.rounded]
  cases x.val <;> simp [R.round_round]

/-- Subtracting from zero rounds nothing. -/
@[simp] lemma zero_sub (x : Number R) : 0 - x = -x := by
  ext1
  rw [val_sub, val_neg, ← x.rounded]
  cases x.val <;> simp [R.round_neg, R.round_round]

/-- A product of integers that has room is not rounded. -/
lemma val_mul_ofInt {m n : ℤ} (hm : m.natAbs ≤ 2 ^ p) (hn : n.natAbs ≤ 2 ^ p)
    (hmn : (m * n).natAbs ≤ 2 ^ p) :
    (ofInt m * ofInt n : Number R).val = some ((m * n : ℤ) : ℚ) := by
  rw [val_mul, val_ofInt hm, val_ofInt hn, ← R.round_int _ hmn]
  simp

end Number

/-! ## Rounding to the nearest number -/

/-- The nearest integer, of two the even one. -/
def halfEven (x : ℚ) : ℤ :=
  if x - ⌊x⌋ < 1 / 2 ∨ (x - ⌊x⌋ = 1 / 2 ∧ Even ⌊x⌋) then ⌊x⌋ else ⌊x⌋ + 1

/-- The integer is nearest to the number, and if there are two, it is even. -/
def IsHalfEven (x : ℚ) (n : ℤ) : Prop := |x - n| ≤ 1 / 2 ∧ (|x - n| = 1 / 2 → Even n)

lemma isHalfEven_halfEven (x : ℚ) : IsHalfEven x (halfEven x) := by
  have hlo : 0 ≤ x - ⌊x⌋ := sub_nonneg.mpr (Int.floor_le x)
  have hhi := Int.lt_floor_add_one x
  rw [IsHalfEven, halfEven]
  split_ifs with h
  · rw [abs_of_nonneg hlo]
    rcases h with h | ⟨h, heven⟩
    · exact ⟨h.le, fun heq => absurd heq h.ne⟩
    · exact ⟨h.le, fun _ => heven⟩
  · obtain ⟨hle, hodd⟩ := not_or.mp h
    push_cast
    rw [abs_of_neg (by linarith)]
    refine ⟨by linarith, fun heq => Int.even_add_one.mpr fun heven => hodd ⟨by linarith, heven⟩⟩

/-- There is only one. -/
lemma IsHalfEven.unique {x : ℚ} {m n : ℤ} (hm : IsHalfEven x m) (hn : IsHalfEven x n) : m = n := by
  wlog hle : m ≤ n generalizing m n
  · exact (this hn hm (by omega)).symm
  obtain ⟨hm₁, hm₂⟩ := abs_le.mp hm.1
  obtain ⟨hn₁, hn₂⟩ := abs_le.mp hn.1
  have hnear : (n : ℚ) ≤ ((m + 1 : ℤ) : ℚ) := by
    push_cast
    linarith
  rcases hle.eq_or_lt with h | hlt
  · exact h
  · -- halfway between two integers only one of them is even
    obtain rfl : n = m + 1 := by
      have := Int.cast_le.mp hnear
      omega
    push_cast at hn₁ hn
    have hhalf : x - m = 1 / 2 := by linarith
    have hm_even := hm.2 (by rw [hhalf]; norm_num)
    have hn_even := hn.2 (by push_cast; rw [← sub_sub, hhalf]; norm_num)
    exact absurd hm_even (Int.even_add_one.mp hn_even)

/-- The rounding is symmetric. -/
lemma halfEven_neg (x : ℚ) : halfEven (-x) = -halfEven x := by
  refine (isHalfEven_halfEven (-x)).unique ?_
  have habs : |-x - (-halfEven x : ℤ)| = |x - halfEven x| := by
    rw [Int.cast_neg, neg_sub_neg, abs_sub_comm]
  obtain ⟨hnear, heven⟩ := isHalfEven_halfEven x
  rw [IsHalfEven, habs]
  exact ⟨hnear, fun h => (heven h).neg⟩

@[simp] lemma halfEven_intCast (n : ℤ) : halfEven n = n :=
  (isHalfEven_halfEven n).unique (by simp [IsHalfEven])

/-- A bound that is an integer is kept. -/
lemma halfEven_le {x : ℚ} {n : ℤ} (h : x ≤ n) : halfEven x ≤ n := by
  have hfloor : ⌊x⌋ ≤ n := by
    rw [← Int.floor_intCast (R := ℚ) n]
    exact Int.floor_mono h
  rw [halfEven]
  split_ifs with hlow
  · exact hfloor
  · rcases hfloor.lt_or_eq with hlt | rfl
    · omega
    · exact absurd (Or.inl (by linarith)) hlow

/-- The unit in the last of `p` bits. -/
def ulp (p : ℕ) (q : ℚ) : ℚ := 2 ^ (Int.log 2 |q| + 1 - p)

lemma ulp_pos (p : ℕ) (q : ℚ) : 0 < ulp p q := zpow_pos two_pos _

lemma ulp_neg (p : ℕ) (q : ℚ) : ulp p (-q) = ulp p q := by
  rw [ulp, ulp, abs_neg]

/-- A number of `p` bits is a whole number of units. -/
lemma exists_mul_ulp {p : ℕ} [NeZero p] {n : ℤ} (hn : n.natAbs ≤ 2 ^ p) (k : ℤ) :
    ∃ m : ℤ, (n * 2 ^ k : ℚ) = m * ulp p (n * 2 ^ k) := by
  rcases eq_or_ne n 0 with rfl | hne
  · exact ⟨0, by simp⟩
  have htwo : (0 : ℚ) < 2 ^ k := zpow_pos two_pos k
  have habs : |(n * 2 ^ k : ℚ)| = n.natAbs * 2 ^ k := by
    rw [abs_mul, abs_of_pos htwo, Nat.cast_natAbs, Int.cast_abs]
  have hpos : (0 : ℚ) < n.natAbs * 2 ^ k :=
    mul_pos (by exact_mod_cast Int.natAbs_pos.mpr hne) htwo
  rw [ulp, habs]
  rcases hn.lt_or_eq with hlt | heq
  · -- the unit is not above the power
    have hlog : Int.log 2 (n.natAbs * 2 ^ k : ℚ) < p + k := by
      rw [← Int.lt_zpow_iff_log_lt one_lt_two hpos, Nat.cast_ofNat, zpow_add₀ two_ne_zero,
        zpow_natCast]
      exact mul_lt_mul_of_pos_right (by exact_mod_cast hlt) htwo
    obtain ⟨j, hj⟩ := Int.le.dest
      (show Int.log 2 (n.natAbs * 2 ^ k : ℚ) + 1 - p ≤ k by omega)
    refine ⟨n * 2 ^ j, ?_⟩
    rw [Int.cast_mul, Int.cast_pow, Int.cast_ofNat, mul_assoc, ← zpow_natCast,
      ← zpow_add₀ two_ne_zero, add_comm (j : ℤ), hj]
  · -- a power of two of `p + 1` bits is even
    have hlog : Int.log 2 (n.natAbs * 2 ^ k : ℚ) = p + k := by
      rw [heq, Nat.cast_pow, ← zpow_natCast, Nat.cast_ofNat, ← zpow_add₀ two_ne_zero]
      exact Int.log_zpow one_lt_two _
    obtain ⟨m, rfl⟩ : (2 : ℤ) ∣ n := by
      rw [← Int.natAbs_dvd_natAbs, heq]
      exact dvd_pow_self 2 (NeZero.ne p)
    refine ⟨m, ?_⟩
    rw [hlog, show (p + k + 1 - p : ℤ) = k + 1 by ring, zpow_add_one₀ two_ne_zero]
    push_cast
    ring

/-- The nearest number of `p` bits. -/
def toNearest (p : ℕ) (q : ℚ) : ℚ := halfEven (q / ulp p q) * ulp p q

/-- **A number of `p` bits is kept.** -/
lemma toNearest_mul_zpow {p : ℕ} [NeZero p] {n : ℤ} (hn : n.natAbs ≤ 2 ^ p) (k : ℤ) :
    toNearest p (n * 2 ^ k) = n * 2 ^ k := by
  obtain ⟨m, hm⟩ := exists_mul_ulp hn k
  rw [toNearest, (div_eq_iff (ulp_pos _ _).ne').mpr hm, halfEven_intCast, ← hm]

/-- The mantissa of what is rounded has room. -/
lemma natAbs_halfEven_div_ulp_le (p : ℕ) (q : ℚ) : (halfEven (q / ulp p q)).natAbs ≤ 2 ^ p := by
  have habs : |q / ulp p q| ≤ ((2 ^ p : ℕ) : ℤ) := by
    rw [abs_div, abs_of_pos (ulp_pos p q), div_le_iff₀ (ulp_pos p q), ulp]
    push_cast
    rw [← zpow_natCast, ← zpow_add₀ two_ne_zero, add_sub_cancel]
    exact (Int.lt_zpow_succ_log_self one_lt_two _).le
  have hle : halfEven (q / ulp p q) ≤ (2 ^ p : ℕ) := halfEven_le ((le_abs_self _).trans habs)
  have hge : -halfEven (q / ulp p q) ≤ (2 ^ p : ℕ) := by
    rw [← halfEven_neg]
    exact halfEven_le ((neg_le_abs _).trans habs)
  omega

/-- **The rounding to the nearest number** of `p` bits, of two to the one with the even mantissa. -/
def nearest (p : ℕ) [NeZero p] : Rounding p where
  round := toNearest p
  round_neg q := by
    rw [toNearest, toNearest, ulp_neg, neg_div, halfEven_neg, Int.cast_neg, neg_mul]
  round_round q := toNearest_mul_zpow (natAbs_halfEven_div_ulp_le p q) _
  round_int n hn := by
    have h := toNearest_mul_zpow hn 0
    rwa [zpow_zero, mul_one] at h

end Rounding
