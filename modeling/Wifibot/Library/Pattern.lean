import Mathlib.Data.List.Basic
import Mathlib.Data.List.TakeWhile

set_option relaxedAutoImplicit false
set_option autoImplicit false

/-!
# Patterns with groups

The part of regular expressions that is a sequence of greedy runs of one class of characters, of
options and of groups, matched by backtracking. The first success in the order of the search is the
match, and it captures a text for each group that took part.

## Main definitions

* `Pattern`, `Pattern.successes` — a pattern, and its ways to match the start of a text, in the
  order of the search.
* `Pattern.exec`, `Pattern.search` — the match of a whole text, and the first one inside of a text.
* `Pattern.Lang` — the texts of a pattern with what its groups capture.

## Main results

* `Pattern.mem_successes_iff` — the search finds the texts of the pattern and no others.
* `Pattern.exec_isSome_iff`, `Pattern.exec_eq` — which texts match, and their captures.
-/

/-- A pattern. `chars p lo hi` is a run of `lo` to `hi` characters that satisfy `p`. -/
inductive Pattern (α : Type*)
  | chars (p : α → Bool) (lo : ℕ) (hi : Option ℕ)
  | seq (r t : Pattern α)
  | opt (r : Pattern α)
  | group (r : Pattern α)

namespace Pattern

variable {α : Type*}

/-- One character that satisfies `p`. -/
def set (p : α → Bool) : Pattern α := chars p 1 (some 1)

/-- The character `a`. -/
def lit [DecidableEq α] (a : α) : Pattern α := set (· = a)

/-- One pattern after the other. -/
def seqs (rs : List (Pattern α)) : Pattern α := rs.foldr seq (chars (fun _ => false) 0 (some 0))

/-- The number of groups. -/
def groups : Pattern α → ℕ
  | chars _ _ _ => 0
  | seq r t => r.groups + t.groups
  | opt r => r.groups
  | group r => r.groups + 1

/-- The lengths that a run tries, the longest first. -/
def runLengths (lo : ℕ) (hi : Option ℕ) (n : ℕ) : List ℕ :=
  ((List.range (hi.elim n (min n) + 1)).filter (lo ≤ ·)).reverse

/-- The successes of a search at the start of a text: what the groups capture, and what is left of
the text. An option that takes part takes some character. -/
def successes : Pattern α → List α → List (List (Option (List α)) × List α)
  | chars p lo hi, s => (runLengths lo hi (s.takeWhile p).length).map fun k => ([], s.drop k)
  | seq r t, s =>
    (r.successes s).flatMap fun x => (t.successes x.2).map fun y => (x.1 ++ y.1, y.2)
  | opt r, s =>
    (r.successes s).filter (fun x => x.2.length < s.length) ++ [(List.replicate r.groups none, s)]
  | group r, s =>
    (r.successes s).map fun x => (some (s.take (s.length - x.2.length)) :: x.1, x.2)

/-- The match of a whole text: the text, and what the groups capture. -/
def exec (r : Pattern α) (s : List α) : Option (List (Option (List α))) :=
  ((r.successes s).find? fun x => x.2.isEmpty).map fun x => some s :: x.1

/-- The first match inside of a text. -/
def search (r : Pattern α) : List α → Option (List (Option (List α)))
  | [] => (r.successes []).head?.map fun x => some [] :: x.1
  | a :: s =>
    match (r.successes (a :: s)).head? with
    | some x => some (some ((a :: s).take ((a :: s).length - x.2.length)) :: x.1)
    | none => r.search s

/-! ## Texts -/

/-- The texts of a pattern with what its groups capture. -/
def Lang : Pattern α → List α → List (Option (List α)) → Prop
  | chars p lo hi, w, caps =>
    caps = [] ∧ (∀ a ∈ w, p a = true) ∧ lo ≤ w.length ∧ ∀ h, hi = some h → w.length ≤ h
  | seq r t, w, caps =>
    ∃ u v cu cv, w = u ++ v ∧ caps = cu ++ cv ∧ r.Lang u cu ∧ t.Lang v cv
  | opt r, w, caps => (w ≠ [] ∧ r.Lang w caps) ∨ (w = [] ∧ caps = List.replicate r.groups none)
  | group r, w, caps => ∃ cs, caps = some w :: cs ∧ r.Lang w cs

/-- The pattern matches the text. -/
def Matches (r : Pattern α) (w : List α) : Prop := ∃ caps, r.Lang w caps

section Texts

variable {r : Pattern α} {rs ts : List (Pattern α)} {w : List α} {caps : List (Option (List α))}

lemma lang_set {p : α → Bool} : (set p).Lang w caps ↔ ∃ a, p a = true ∧ w = [a] ∧ caps = [] := by
  constructor
  · rintro ⟨rfl, hw, hlo, hhi⟩
    obtain ⟨a, rfl⟩ := List.length_eq_one_iff.mp (Nat.le_antisymm (hhi 1 rfl) hlo)
    exact ⟨a, hw a (List.mem_singleton_self a), rfl, rfl⟩
  · rintro ⟨a, ha, rfl, rfl⟩
    exact ⟨rfl, fun b hb => List.mem_singleton.mp hb ▸ ha, Nat.le_refl 1, fun h hh =>
      Nat.le_of_eq (Option.some.inj hh)⟩

lemma lang_seqs_nil : (seqs []).Lang w caps ↔ w = [] ∧ caps = [] := by
  constructor
  · rintro ⟨rfl, -, -, hhi⟩
    exact ⟨List.eq_nil_of_length_eq_zero (Nat.le_zero.mp (hhi 0 rfl)), rfl⟩
  · rintro ⟨rfl, rfl⟩
    exact ⟨rfl, fun a ha => absurd ha List.not_mem_nil, Nat.le_refl 0, fun h _ => Nat.zero_le h⟩

lemma lang_seqs_cons : (seqs (r :: rs)).Lang w caps ↔
    ∃ u v cu cv, w = u ++ v ∧ caps = cu ++ cv ∧ r.Lang u cu ∧ (seqs rs).Lang v cv := Iff.rfl

lemma lang_seqs_lit [DecidableEq α] {a : α} : (seqs (lit a :: rs)).Lang w caps ↔
    ∃ v, w = a :: v ∧ (seqs rs).Lang v caps := by
  rw [lang_seqs_cons]
  constructor
  · rintro ⟨u, v, cu, cv, rfl, rfl, hu, hv⟩
    obtain ⟨b, hb, rfl, rfl⟩ := lang_set.mp hu
    exact ⟨v, by rw [of_decide_eq_true hb, List.singleton_append], hv⟩
  · rintro ⟨v, rfl, hv⟩
    exact ⟨[a], v, [], caps, rfl, rfl, lang_set.mpr ⟨a, decide_eq_true rfl, rfl, rfl⟩, hv⟩

lemma lang_seqs_group : (seqs (group r :: rs)).Lang w caps ↔
    ∃ u v cu cv, w = u ++ v ∧ caps = some u :: (cu ++ cv) ∧ r.Lang u cu ∧ (seqs rs).Lang v cv := by
  rw [lang_seqs_cons]
  constructor
  · rintro ⟨u, v, -, cv, rfl, rfl, ⟨cu, rfl, hu⟩, hv⟩
    exact ⟨u, v, cu, cv, rfl, rfl, hu, hv⟩
  · rintro ⟨u, v, cu, cv, rfl, rfl, hu, hv⟩
    exact ⟨u, v, some u :: cu, cv, rfl, rfl, ⟨cu, rfl, hu⟩, hv⟩

/-- **A sequence in two parts.** -/
lemma lang_seqs_append : (seqs (rs ++ ts)).Lang w caps ↔
    ∃ u v cu cv, w = u ++ v ∧ caps = cu ++ cv ∧ (seqs rs).Lang u cu ∧ (seqs ts).Lang v cv := by
  induction rs generalizing w caps with
  | nil =>
    constructor
    · intro h
      exact ⟨[], w, [], caps, rfl, rfl, lang_seqs_nil.mpr ⟨rfl, rfl⟩, h⟩
    · rintro ⟨u, v, cu, cv, rfl, rfl, hu, hv⟩
      obtain ⟨rfl, rfl⟩ := lang_seqs_nil.mp hu
      exact hv
  | cons r rs ih =>
    rw [List.cons_append, lang_seqs_cons]
    constructor
    · rintro ⟨u, v, cu, cv, rfl, rfl, hu, hv⟩
      obtain ⟨x, y, cx, cy, rfl, rfl, hx, hy⟩ := ih.mp hv
      exact ⟨u ++ x, y, cu ++ cx, cy, (List.append_assoc _ _ _).symm,
        (List.append_assoc _ _ _).symm, lang_seqs_cons.mpr ⟨u, x, cu, cx, rfl, rfl, hu, hx⟩, hy⟩
    · rintro ⟨v, y, cv, cy, rfl, rfl, hv, hy⟩
      obtain ⟨u, x, cu, cx, rfl, rfl, hu, hx⟩ := lang_seqs_cons.mp hv
      exact ⟨u, x ++ y, cu, cx ++ cy, List.append_assoc _ _ _, List.append_assoc _ _ _, hu,
        ih.mpr ⟨x, y, cx, cy, rfl, rfl, hx, hy⟩⟩

/-- A run in which every character satisfies `p`. -/
lemma lang_chars {p : α → Bool} {lo : ℕ} {hi : Option ℕ} (hw : ∀ a ∈ w, p a = true)
    (hlo : lo ≤ w.length) (hhi : ∀ h, hi = some h → w.length ≤ h) :
    (chars p lo hi).Lang w [] := ⟨rfl, hw, hlo, hhi⟩

end Texts

/-- **The first place of a character** parts a text in one way only. -/
lemma append_cons_inj {a : α} {u u' v v' : List α} (hu : a ∉ u) (hu' : a ∉ u')
    (h : u ++ a :: v = u' ++ a :: v') : u = u' ∧ v = v' := by
  induction u generalizing u' with
  | nil =>
    cases u' with
    | nil => exact ⟨rfl, (List.cons.inj h).2⟩
    | cons b u' => exact absurd ((List.cons.inj h).1 ▸ List.mem_cons_self) hu'
  | cons b u ih =>
    cases u' with
    | nil => exact absurd ((List.cons.inj h).1 ▸ List.mem_cons_self) hu
    | cons b' u' =>
      obtain ⟨rfl, htail⟩ := List.cons.inj h
      obtain ⟨rfl, hv⟩ := ih (fun hm => hu (List.mem_cons_of_mem _ hm))
        (fun hm => hu' (List.mem_cons_of_mem _ hm)) htail
      exact ⟨rfl, hv⟩

/-- The lengths of a run. -/
lemma mem_runLengths {lo : ℕ} {hi : Option ℕ} {n k : ℕ} :
    k ∈ runLengths lo hi n ↔ lo ≤ k ∧ k ≤ n ∧ ∀ h, hi = some h → k ≤ h := by
  have hrange : ∀ m, k ∈ List.range (m + 1) ↔ k ≤ m := fun m =>
    List.mem_range.trans Nat.lt_succ_iff
  rw [runLengths, List.mem_reverse, List.mem_filter, hrange, decide_eq_true_iff, and_comm]
  refine and_congr_right fun _ => ?_
  cases hi with
  | none => exact ⟨fun hk => ⟨hk, nofun⟩, And.left⟩
  | some h =>
    rw [Option.elim_some, Nat.le_min]
    refine and_congr_right fun _ => ⟨?_, fun hk => hk h rfl⟩
    rintro hk _ ⟨⟩
    exact hk

/-- A first part of the text whose characters all satisfy `p` is within their run. -/
lemma le_length_takeWhile {p : α → Bool} {w rest : List α} (hw : ∀ a ∈ w, p a = true) :
    w.length ≤ ((w ++ rest).takeWhile p).length := by
  rw [List.takeWhile_append_of_pos hw, List.length_append]
  exact Nat.le_add_right _ _

/-- **The search finds the texts of the pattern** and no others.

**Proof sketch.** By induction on the pattern. -/
lemma mem_successes_iff {r : Pattern α} {s rest : List α} {caps : List (Option (List α))} :
    (caps, rest) ∈ r.successes s ↔ ∃ w, s = w ++ rest ∧ r.Lang w caps := by
  induction r generalizing s rest caps with
  | chars p lo hi =>
    simp only [successes, List.mem_map, mem_runLengths, Prod.mk.injEq, Lang]
    constructor
    · rintro ⟨k, ⟨hlo, hk, hhi⟩, rfl, rfl⟩
      have hle : k ≤ s.length := Nat.le_trans hk (List.takeWhile_prefix p).length_le
      refine ⟨s.take k, (List.take_append_drop k s).symm, rfl, fun a ha => ?_, ?_⟩
      · have hstarts : s.take k <+: s.takeWhile p := by
          refine List.prefix_of_prefix_length_le (List.take_prefix k s) (List.takeWhile_prefix p) ?_
          rw [List.length_take]
          omega
        exact List.mem_takeWhile_imp (hstarts.subset ha)
      · rw [List.length_take, Nat.min_eq_left hle]
        exact ⟨hlo, hhi⟩
    · rintro ⟨w, rfl, rfl, hw, hlo, hhi⟩
      exact ⟨w.length, ⟨hlo, le_length_takeWhile hw, hhi⟩, rfl, List.drop_left⟩
  | seq r t ihr iht =>
    simp only [successes, List.mem_flatMap, List.mem_map, Prod.mk.injEq, Lang]
    constructor
    · rintro ⟨⟨cu, m⟩, hsu, ⟨cv, m'⟩, hsv, rfl, rfl⟩
      obtain ⟨u, rfl, hu⟩ := ihr.mp hsu
      obtain ⟨v, rfl, hv⟩ := iht.mp hsv
      exact ⟨u ++ v, (List.append_assoc _ _ _).symm, u, v, cu, cv, rfl, rfl, hu, hv⟩
    · rintro ⟨w, rfl, u, v, cu, cv, rfl, rfl, hu, hv⟩
      exact ⟨(cu, v ++ rest), ihr.mpr ⟨u, List.append_assoc _ _ _, hu⟩, (cv, rest),
        iht.mpr ⟨v, rfl, hv⟩, rfl, rfl⟩
  | opt r ih =>
    simp only [successes, List.mem_append, List.mem_filter, List.mem_singleton, Prod.mk.injEq,
      decide_eq_true_eq, Lang]
    constructor
    · rintro (⟨h, hlt⟩ | ⟨rfl, rfl⟩)
      · obtain ⟨w, rfl, hw⟩ := ih.mp h
        refine ⟨w, rfl, Or.inl ⟨?_, hw⟩⟩
        rintro rfl
        exact absurd hlt (Nat.lt_irrefl _)
      · exact ⟨[], rfl, Or.inr ⟨rfl, rfl⟩⟩
    · rintro ⟨w, rfl, ⟨hne, hw⟩ | ⟨rfl, rfl⟩⟩
      · refine Or.inl ⟨ih.mpr ⟨w, rfl, hw⟩, ?_⟩
        have hpos := List.length_pos_iff.mpr hne
        rw [List.length_append]
        omega
      · exact Or.inr ⟨rfl, rfl⟩
  | group r ih =>
    simp only [successes, List.mem_map, Prod.mk.injEq, Lang]
    constructor
    · rintro ⟨⟨cs, m⟩, h, rfl, rfl⟩
      obtain ⟨w, rfl, hw⟩ := ih.mp h
      exact ⟨w, rfl, cs, by simp, hw⟩
    · rintro ⟨w, rfl, cs, rfl, hw⟩
      exact ⟨(cs, rest), ih.mpr ⟨w, rfl, hw⟩, by simp, rfl⟩

/-- A match is a text of the pattern. -/
lemma lang_of_exec {r : Pattern α} {s : List α} {m : List (Option (List α))}
    (h : r.exec s = some m) : ∃ caps, m = some s :: caps ∧ r.Lang s caps := by
  obtain ⟨⟨caps, rest⟩, hfind, rfl⟩ := Option.map_eq_some_iff.mp h
  obtain ⟨w, rfl, hw⟩ := mem_successes_iff.mp (List.mem_of_find?_eq_some hfind)
  have hempty := List.find?_some hfind
  obtain rfl := List.isEmpty_iff.mp hempty
  rw [List.append_nil]
  exact ⟨caps, rfl, hw⟩

/-- **Which texts match.** -/
lemma exec_isSome_iff {r : Pattern α} {s : List α} :
    (r.exec s).isSome ↔ ∃ caps, r.Lang s caps := by
  constructor
  · intro h
    obtain ⟨m, hm⟩ := Option.isSome_iff_exists.mp h
    obtain ⟨caps, -, hcaps⟩ := lang_of_exec hm
    exact ⟨caps, hcaps⟩
  · rintro ⟨caps, hcaps⟩
    have hmem : (caps, []) ∈ r.successes s :=
      mem_successes_iff.mpr ⟨s, (List.append_nil s).symm, hcaps⟩
    rw [exec, Option.isSome_map, List.find?_isSome]
    exact ⟨_, hmem, rfl⟩

/-- The captures of a match at the start of a text, if they are the only ones there. -/
lemma exists_search {r : Pattern α} {w rest : List α} {caps : List (Option (List α))}
    (hw : r.Lang w caps)
    (hunique : ∀ u m cu, w ++ rest = u ++ m → r.Lang u cu → cu = caps) :
    ∃ t, r.search (w ++ rest) = some (some t :: caps) := by
  have hmem : (caps, rest) ∈ r.successes (w ++ rest) := mem_successes_iff.mpr ⟨w, rfl, hw⟩
  obtain ⟨x, hx⟩ : ∃ x, (r.successes (w ++ rest)).head? = some x :=
    ⟨_, List.head?_eq_some_head (List.ne_nil_of_mem hmem)⟩
  obtain ⟨u, hu, hlang⟩ := mem_successes_iff.mp (List.mem_of_head? hx)
  have hcaps := hunique u x.2 x.1 hu hlang
  cases hs : w ++ rest with
  | nil =>
    rw [hs] at hx
    exact ⟨[], by rw [search, hx, Option.map_some, hcaps]⟩
  | cons a s =>
    rw [hs] at hx
    refine ⟨(a :: s).take ((a :: s).length - x.2.length), ?_⟩
    rw [search, hx, ← hcaps]

/-- A text has as many captures as the pattern has groups. -/
lemma length_of_lang {r : Pattern α} {w : List α} {caps : List (Option (List α))}
    (h : r.Lang w caps) : caps.length = r.groups := by
  induction r generalizing w caps with
  | chars p lo hi =>
    obtain ⟨rfl, -⟩ := h
    rfl
  | seq r t ihr iht =>
    obtain ⟨u, v, cu, cv, -, rfl, hu, hv⟩ := h
    rw [List.length_append, ihr hu, iht hv]
    rfl
  | opt r ih =>
    rcases h with ⟨-, h⟩ | ⟨-, rfl⟩
    · exact ih h
    · exact List.length_replicate
  | group r ih =>
    obtain ⟨cs, rfl, hcs⟩ := h
    rw [List.length_cons, ih hcs]
    rfl

/-- No class of the pattern has the character. -/
def avoids (a : α) : Pattern α → Bool
  | chars p _ _ => !p a
  | seq r t => r.avoids a && t.avoids a
  | opt r => r.avoids a
  | group r => r.avoids a

/-- Then no text of it has the character. -/
lemma notMem_of_lang {a : α} {r : Pattern α} (hr : r.avoids a = true) {w : List α}
    {caps : List (Option (List α))} (h : r.Lang w caps) : a ∉ w := by
  induction r generalizing w caps with
  | chars p lo hi =>
    intro ha
    simp [avoids, h.2.1 a ha] at hr
  | seq r t ihr iht =>
    obtain ⟨u, v, cu, cv, rfl, -, hu, hv⟩ := h
    simp only [avoids, Bool.and_eq_true] at hr
    simp [ihr hr.1 hu, iht hr.2 hv]
  | opt r ih =>
    rcases h with ⟨-, h⟩ | ⟨rfl, -⟩
    · exact ih hr h
    · exact List.not_mem_nil
  | group r ih =>
    obtain ⟨cs, -, hcs⟩ := h
    exact ih hr hcs

end Pattern
