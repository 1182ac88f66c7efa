import Mathlib.Algebra.Order.Field.Basic
import Mathlib.Tactic.Ring
import Wifibot.Dashboard.Map

set_option relaxedAutoImplicit false
set_option autoImplicit false

/-!
# The texts of numbers

`Number::toString` of the language gives a number as the shortest decimal that is rounded to it. The
integers of the search are the ones that the language asks for: of those with the fewest digits the
decimal closest to the number. A decimal of 17 digits is enough for every number of the format of
the language; how many an abstract rounding needs is not known, so that the search may fail.

## Main definitions

* `Wifibot.Dashboard.formatDigits` — the text of a decimal, with or without an exponent.
* `Wifibot.Dashboard.shortest` — the digits of a number.
* `Wifibot.Dashboard.numberText` — the text of a number.

## Main results

* `Wifibot.Dashboard.unsignedDecimal_formatDigits` — a decimal is read back from its text.
* `Wifibot.Dashboard.parseFloat_numberText` — and so is a number.
-/

namespace Wifibot.Dashboard

variable {R : Rounding 53}

/-! ## Formats of decimals -/

/-- The text of an exponent. -/
def exponentText (e : ℤ) : List Char :=
  'e' :: (if 0 ≤ e then '+' else '-') :: Nat.toDigits 10 e.natAbs

/-- The text of the decimal with the digits `ds` whose point is `n` places behind their start. -/
def formatDigits (ds : List Char) (n : ℤ) : List Char :=
  let k : ℤ := ds.length
  if k ≤ n ∧ n ≤ 21 then ds ++ List.replicate (n - k).toNat '0'
  else if 0 < n ∧ n ≤ 21 then ds.take n.toNat ++ '.' :: ds.drop n.toNat
  else if -6 < n ∧ n ≤ 0 then '0' :: '.' :: (List.replicate (-n).toNat '0' ++ ds)
  else if ds.length = 1 then ds ++ exponentText (n - 1)
  else ds.take 1 ++ '.' :: (ds.drop 1 ++ exponentText (n - 1))

/-- The text has no digit at its start. -/
def NoDigit (t : List Char) : Prop := ∀ a, t.head? = some a → a.isDigit = false

section Texts

variable {w f t : List Char}

/-- A run of digits ends where there is no digit. -/
lemma takeWhile_isDigit (hw : ∀ a ∈ w, a.isDigit = true) (ht : NoDigit t) :
    (w ++ t).takeWhile Char.isDigit = w ∧ (w ++ t).dropWhile Char.isDigit = t := by
  rw [List.takeWhile_append_of_pos hw, List.dropWhile_append_of_pos hw]
  cases t with
  | nil => simp
  | cons a t =>
    have ha : ¬ a.isDigit = true := by simp [ht a rfl]
    rw [List.takeWhile_cons_of_neg ha, List.dropWhile_cons_of_neg ha, List.append_nil]
    exact ⟨rfl, rfl⟩

/-- A text with a point. -/
lemma unsignedDecimal_point (hw : ∀ a ∈ w, a.isDigit = true) (hne : w ≠ [])
    (hf : ∀ a ∈ f, a.isDigit = true) (ht : NoDigit t) :
    unsignedDecimal (w ++ '.' :: (f ++ t)) =
      some ((digitsValue (w ++ f) : ℚ) * 10 ^ (exponentPart t - f.length)) := by
  obtain ⟨htake, hdrop⟩ := takeWhile_isDigit hw (t := '.' :: (f ++ t))
    (fun a ha => by rw [← Option.some.inj ha]; rfl)
  obtain ⟨htake', hdrop'⟩ := takeWhile_isDigit hf ht
  simp only [unsignedDecimal, htake, hdrop, List.head?_cons, List.tail_cons, if_true, htake',
    hdrop']
  rw [if_neg fun h => hne h.1]

/-- A text without one. -/
lemma unsignedDecimal_whole (hw : ∀ a ∈ w, a.isDigit = true) (hne : w ≠ []) (ht : NoDigit t)
    (hpoint : t.head? ≠ some '.') :
    unsignedDecimal (w ++ t) = some ((digitsValue w : ℚ) * 10 ^ exponentPart t) := by
  obtain ⟨htake, hdrop⟩ := takeWhile_isDigit hw ht
  simp only [unsignedDecimal, htake, hdrop, if_neg hpoint]
  rw [if_neg fun h => hne h.1]
  simp

end Texts

/-- The digits of a number spell it. -/
lemma digitsValue_toDigits (s : ℕ) : digitsValue (Nat.toDigits 10 s) = s :=
  Nat.ofDigitChars_toDigits (by decide) (by decide)

/-- The digits of a number are digits. -/
lemma isDigit_toDigits (s : ℕ) : ∀ a ∈ Nat.toDigits 10 s, a.isDigit = true := fun _ ha =>
  Nat.isDigit_of_mem_toDigits (by decide) (by decide) ha

/-- Zeros behind the digits. -/
lemma digitsValue_append_zeros (ds : List Char) (m : ℕ) :
    digitsValue (ds ++ List.replicate m '0') = digitsValue ds * 10 ^ m := by
  show Nat.ofDigitChars 10 (ds ++ List.replicate m '0') 0 = Nat.ofDigitChars 10 ds 0 * 10 ^ m
  rw [Nat.ofDigitChars_append, Nat.ofDigitChars_replicate_zero, Nat.mul_comm]

/-- Zeros before the digits. -/
lemma digitsValue_zeros_append (ds : List Char) (m : ℕ) :
    digitsValue (List.replicate m '0' ++ ds) = digitsValue ds := by
  show Nat.ofDigitChars 10 (List.replicate m '0' ++ ds) 0 = Nat.ofDigitChars 10 ds 0
  rw [Nat.ofDigitChars_append, Nat.ofDigitChars_replicate_zero, Nat.mul_zero]

/-- An exponent of either sign. -/
lemma exponentPart_exponentText (n : ℤ) : exponentPart (exponentText n) = n := by
  rw [exponentText]
  obtain ⟨htake, -⟩ := takeWhile_isDigit (isDigit_toDigits n.natAbs) (t := []) nofun
  rw [List.append_nil] at htake
  split_ifs with hn
  · simp only [exponentPart, htake, digitsValue_toDigits]
    simp [abs_of_nonneg hn]
  · simp only [exponentPart, htake, digitsValue_toDigits]
    simp [abs_of_neg (not_le.mp hn)]

/-- An exponent starts with its letter. -/
lemma noDigit_exponentText (e : ℤ) : NoDigit (exponentText e) := fun a ha => by
  rw [← Option.some.inj ha]
  rfl

/-- **A decimal is read back from its text**, whatever the place of its point. -/
lemma unsignedDecimal_formatDigits {ds : List Char} (hds : ∀ a ∈ ds, a.isDigit = true)
    (hne : ds ≠ []) (n : ℤ) :
    unsignedDecimal (formatDigits ds n) = some ((digitsValue ds : ℚ) * 10 ^ (n - ds.length)) := by
  have hlen : 0 < ds.length := List.length_pos_iff.mpr hne
  have hzeros : ∀ m : ℕ, ∀ a ∈ List.replicate m '0', a.isDigit = true := fun m a ha => by
    rw [List.eq_of_mem_replicate ha]
    rfl
  have hnil : NoDigit [] := nofun
  rw [formatDigits]
  split_ifs with hint hpoint hzero hone
  · -- zeros behind the digits
    have hm : n - ds.length = ((n - ds.length).toNat : ℤ) := (Int.toNat_of_nonneg (by omega)).symm
    have hall : ∀ a ∈ ds ++ List.replicate (n - ds.length).toNat '0', a.isDigit = true :=
      fun a ha => (List.mem_append.mp ha).elim (hds a) (hzeros _ a)
    have h := unsignedDecimal_whole hall (by simp [hne]) hnil (by simp)
    rw [List.append_nil, digitsValue_append_zeros] at h
    rw [h, hm]
    simp [exponentPart]
  · -- a point between the digits
    have hsplit : ds.take n.toNat ++ ds.drop n.toNat = ds := List.take_append_drop _ _
    have htake : ∀ a ∈ ds.take n.toNat, a.isDigit = true :=
      fun a ha => hds a (List.mem_of_mem_take ha)
    have hdrop : ∀ a ∈ ds.drop n.toNat, a.isDigit = true :=
      fun a ha => hds a (List.mem_of_mem_drop ha)
    have hfirst : ds.take n.toNat ≠ [] := by
      rw [Ne, List.take_eq_nil_iff, not_or]
      exact ⟨by omega, hne⟩
    have h := unsignedDecimal_point htake hfirst hdrop hnil
    rw [List.append_nil, hsplit] at h
    have hexp : exponentPart [] - ((ds.drop n.toNat).length : ℤ) = n - ds.length := by
      rw [List.length_drop, exponentPart]
      omega
    rw [h, hexp]
  · -- zeros before the digits
    have hall : ∀ a ∈ List.replicate (-n).toNat '0' ++ ds, a.isDigit = true :=
      fun a ha => (List.mem_append.mp ha).elim (hzeros _ a) (hds a)
    have h := unsignedDecimal_point (List.forall_mem_singleton.mpr (rfl : '0'.isDigit = true))
      (List.cons_ne_nil _ _) hall hnil
    have hvalue :
        digitsValue (['0'] ++ (List.replicate (-n).toNat '0' ++ ds)) = digitsValue ds := by
      rw [← List.append_assoc]
      exact digitsValue_zeros_append ds ((-n).toNat + 1)
    have hexp : exponentPart [] - ((List.replicate (-n).toNat '0' ++ ds).length : ℤ) =
        n - ds.length := by
      rw [List.length_append, List.length_replicate, exponentPart]
      omega
    rw [List.append_nil, hvalue, hexp] at h
    exact h
  · -- one digit and an exponent
    have h := unsignedDecimal_whole hds hne (noDigit_exponentText (n - 1)) (by simp [exponentText])
    rw [exponentPart_exponentText] at h
    rw [h, hone]
    rfl
  · -- a point behind the first digit, and an exponent
    have htake : ∀ a ∈ ds.take 1, a.isDigit = true := fun a ha => hds a (List.mem_of_mem_take ha)
    have hdrop : ∀ a ∈ ds.drop 1, a.isDigit = true := fun a ha => hds a (List.mem_of_mem_drop ha)
    have hfirst : ds.take 1 ≠ [] := by
      rw [Ne, List.take_eq_nil_iff, not_or]
      exact ⟨by decide, hne⟩
    have h := unsignedDecimal_point htake hfirst hdrop (noDigit_exponentText (n - 1))
    rw [List.take_append_drop, exponentPart_exponentText] at h
    have hexp : n - 1 - ((ds.drop 1).length : ℤ) = n - ds.length := by
      rw [List.length_drop]
      omega
    rw [h, hexp]

/-! ## Texts of numbers -/

/-- The exponent of a positive number: it is below the power of ten with it, and not below the one
before. -/
def decimalExponent (q : ℚ) : ℤ :=
  let n : ℤ := (Nat.toDigits 10 q.num.natAbs).length - (Nat.toDigits 10 q.den).length
  if q < 10 ^ n then n else n + 1

/-- The decimals of `k` digits next to a number, the closer one first and of two the even one. That
above it may have its point one place later. -/
def candidates (k : ℕ) (q : ℚ) : List (ℕ × ℤ) :=
  let n := decimalExponent q
  let t := q * 10 ^ ((k : ℤ) - n)
  let s := ⌊t⌋.toNat
  let above := if s + 1 = 10 ^ k then (10 ^ (k - 1), n + 1) else (s + 1, n)
  if t - s < s + 1 - t ∨ (t - s = s + 1 - t ∧ s % 2 = 0) then [(s, n), above] else [above, (s, n)]

/-- The decimal has `k` digits and is rounded to the number. -/
def Spells (R : Rounding 53) (q : ℚ) (k : ℕ) (c : ℕ × ℤ) : Prop :=
  10 ^ (k - 1) ≤ c.1 ∧ c.1 < 10 ^ k ∧ R.round (c.1 * 10 ^ (c.2 - k)) = q

instance (R : Rounding 53) (q : ℚ) (k : ℕ) (c : ℕ × ℤ) : Decidable (Spells R q k c) :=
  inferInstanceAs (Decidable (_ ∧ _ ∧ _))

/-- The digits of a positive number and the place of its point. -/
def shortest (R : Rounding 53) (q : ℚ) : Option (ℕ × ℤ) :=
  (List.range' 1 17).findSome? fun k => (candidates k q).find? fun c => Spells R q k c

/-- `Number::toString`. -/
def numberText (x : JsNumber R) : List Char :=
  match x.val with
  | none => ['N', 'a', 'N']
  | some q =>
    if q = 0 then ['0']
    else
      match shortest R |q| with
      | none => []
      | some (s, n) => (if q < 0 then ['-'] else []) ++ formatDigits (Nat.toDigits 10 s) n

/-- A decimal of at most 17 digits is rounded to the number. -/
def HasText (x : JsNumber R) : Prop :=
  match x.val with
  | none => True
  | some q => q ≠ 0 → (shortest R |q|).isSome

instance (x : JsNumber R) : Decidable (HasText x) :=
  match h : x.val with
  | none => isTrue (by rw [HasText, h]; trivial)
  | some q => decidable_of_iff (q ≠ 0 → (shortest R |q|).isSome) (by rw [HasText, h])

/-- What is found spells the number. -/
lemma spells_of_shortest {q : ℚ} {c : ℕ × ℤ} (h : shortest R q = some c) :
    ∃ k, 0 < k ∧ Spells R q k c := by
  obtain ⟨k, hk, hc⟩ := List.exists_of_findSome?_eq_some h
  have hpos := (List.mem_range'_1.mp hk).1
  have hspells := List.find?_some hc
  exact ⟨k, hpos, of_decide_eq_true hspells⟩

/-- The digits have a text. -/
lemma toDigits_ne_nil (s : ℕ) : Nat.toDigits 10 s ≠ [] := by
  intro h
  have hlen := Nat.length_toDigits_pos (b := 10) (n := s)
  rw [h] at hlen
  cases hlen

/-- A decimal of `k` digits has `k` digits. -/
lemma length_toDigits {s k : ℕ} (hk : 0 < k) (hlo : 10 ^ (k - 1) ≤ s) (hhi : s < 10 ^ k) :
    (Nat.toDigits 10 s).length = k := by
  refine Nat.le_antisymm ((Nat.length_toDigits_le_iff (by decide) hk).mpr hhi) ?_
  by_contra hlt
  rcases Nat.eq_zero_or_pos (k - 1) with hone | hpos
  · have hlen := Nat.length_toDigits_pos (b := 10) (n := s)
    omega
  · have hle := (Nat.length_toDigits_le_iff (b := 10) (n := s) (by decide) hpos).mp (by omega)
    omega

/-- A decimal starts with a digit. -/
lemma exists_digit_formatDigits {ds : List Char} (hds : ∀ a ∈ ds, a.isDigit = true) (hne : ds ≠ [])
    (n : ℤ) : ∃ a t, a.isDigit = true ∧ formatDigits ds n = a :: t := by
  obtain ⟨a, l, rfl⟩ := List.exists_cons_of_ne_nil hne
  have ha := hds a List.mem_cons_self
  rw [formatDigits]
  split_ifs with hint hpoint hzero hone
  · exact ⟨a, _, ha, rfl⟩
  · obtain ⟨m, hm⟩ : ∃ m, n.toNat = m + 1 := ⟨n.toNat - 1, by omega⟩
    rw [hm]
    exact ⟨a, _, ha, rfl⟩
  · exact ⟨'0', _, rfl, rfl⟩
  · exact ⟨a, _, ha, rfl⟩
  · exact ⟨a, _, ha, rfl⟩

/-- A digit is no white space and no sign. -/
lemma isDigit_ne {a : Char} (ha : a.isDigit = true) :
    isStrWhiteSpace a = false ∧ a ≠ '+' ∧ a ≠ '-' := by
  have hrange : 48 ≤ a.toNat ∧ a.toNat ≤ 57 := by
    simpa [Char.isDigit, UInt32.le_iff_toNat_le] using ha
  refine ⟨?_, ?_, ?_⟩
  · simp only [isStrWhiteSpace, List.mem_cons, List.not_mem_nil, or_false, Bool.or_eq_false_iff,
      decide_eq_false_iff_not, Bool.and_eq_false_iff]
    omega
  · rintro rfl
    exact absurd ha (by decide)
  · rintro rfl
    exact absurd ha (by decide)

/-- A text that starts with a digit is read as it is, and one with a minus before that is
negated. -/
lemma parseFloat_digit {a : Char} (ha : a.isDigit = true) (t : List Char) :
    parseFloat (some (a :: t)) = (.ofExact (unsignedDecimal (a :: t)) : JsNumber R) ∧
      parseFloat (some ('-' :: a :: t)) =
        (-.ofExact (unsignedDecimal (a :: t)) : JsNumber R) := by
  obtain ⟨hspace, hplus, hminus⟩ := isDigit_ne ha
  constructor
  · rw [parseFloat, List.dropWhile_cons_of_neg (by simp [hspace])]
    split
    · next h => exact absurd (List.cons.inj h).1 hplus
    · next h => exact absurd (List.cons.inj h).1 hminus
    · rfl
  · rw [parseFloat, List.dropWhile_cons_of_neg (by decide)]
    rfl

/-- **A number is read back from its text.** -/
lemma parseFloat_numberText {x : JsNumber R} (hx : HasText x) :
    parseFloat (some (numberText x)) = x := by
  rw [HasText] at hx
  rw [numberText]
  cases hval : x.val with
  | none =>
    ext1
    rw [hval]
    rfl
  | some q =>
    rw [hval] at hx
    dsimp only
    by_cases hzero : q = 0
    · -- the text of zero
      rw [if_pos hzero]
      have hread := (parseFloat_digit (R := R) (a := '0') rfl []).1
      have hdec : unsignedDecimal ['0'] = some 0 := by decide +kernel
      rw [hread, hdec]
      ext1
      rw [hval, hzero]
      exact congrArg some R.round_zero
    · rw [if_neg hzero]
      obtain ⟨⟨s, n⟩, hc⟩ := Option.isSome_iff_exists.mp (hx hzero)
      obtain ⟨k, hk, hlo, hhi, hround⟩ := spells_of_shortest hc
      have hdec := unsignedDecimal_formatDigits (isDigit_toDigits s) (toDigits_ne_nil s) n
      rw [length_toDigits hk hlo hhi, digitsValue_toDigits] at hdec
      obtain ⟨a, t, ha, htext⟩ := exists_digit_formatDigits (isDigit_toDigits s)
        (toDigits_ne_nil s) n
      rw [htext] at hdec
      obtain ⟨hread, hread'⟩ := parseFloat_digit (R := R) ha t
      rw [hc]
      dsimp only
      rw [htext]
      ext1
      rw [hval]
      by_cases hneg : q < 0
      · rw [if_pos hneg, List.singleton_append, hread', hdec]
        show some (-R.round _) = some q
        rw [hround, abs_of_neg hneg, neg_neg]
      · rw [if_neg hneg, List.nil_append, hread, hdec]
        show some (R.round _) = some q
        rw [hround, abs_of_nonneg (not_lt.mp hneg)]

/-- There is no comma in the text of a number. -/
lemma notMem_numberText (x : JsNumber R) : ',' ∉ numberText x := by
  have hdigits : ∀ {l : List Char}, (∀ a ∈ l, a.isDigit = true) → ',' ∉ l := fun hl h => by
    have hcomma := hl _ h
    revert hcomma
    decide
  have hexp : ∀ e : ℤ, ',' ∉ exponentText e := fun e => by
    have h := hdigits (isDigit_toDigits e.natAbs)
    rw [exponentText]
    split_ifs <;> simp [h]
  have hformat : ∀ (s : ℕ) (n : ℤ), ',' ∉ formatDigits (Nat.toDigits 10 s) n := fun s n => by
    have h := hdigits (isDigit_toDigits s)
    have htake : ∀ m, ',' ∉ (Nat.toDigits 10 s).take m := fun m hm => h (List.mem_of_mem_take hm)
    have hdrop : ∀ m, ',' ∉ (Nat.toDigits 10 s).drop m := fun m hm => h (List.mem_of_mem_drop hm)
    rw [formatDigits]
    split_ifs <;>
      simp only [List.mem_append, List.mem_cons, List.mem_replicate, h, htake, hdrop, hexp] <;> simp
  rw [numberText]
  cases x.val with
  | none => simp
  | some q =>
    dsimp only
    by_cases hzero : q = 0
    · simp [hzero]
    · rw [if_neg hzero]
      cases shortest R |q| with
      | none => exact List.not_mem_nil
      | some c =>
        have hsign : ',' ∉ if q < 0 then ['-'] else [] := by split_ifs <;> simp
        exact fun h => (List.mem_append.mp h).elim hsign (hformat c.1 c.2)

end Wifibot.Dashboard
