import Wifibot.Library.Machine
import Mathlib.Order.Lattice

set_option relaxedAutoImplicit false
set_option autoImplicit false

/-!
# Dead-man's switches

A dead-man's switch lets a machine act only while it is fed. The abstract switch has one number,
the ticks since the last feeding, and falls when there was no feeding yet or that number has
reached a bound `N`. The usual implementation has a counter and a limit, both zero at first: a
feeding sets the counter to zero and the limit to `N`, a tick below the limit counts, and a tick at
the limit stops the machine. The counter then is the abstract number cut at `N`.

## Main definitions

* `Deadman.since` — the ticks since the last feeding of a run.
* `Deadman.Due` — the abstract switch falls.
* `Deadman.Implements` — what each step does to a counter and its limit.

## Main results

* `Deadman.Implements.represents_run` — the counter represents the abstract number after every run.
* `Deadman.Represents.at_limit_iff` — the counter is at its limit iff the abstract switch falls.
* `Deadman.due_since_or` — a switch with two kinds of feeding falls iff it would with each alone.
-/

namespace Deadman

variable {σ ε ο : Type*}

/-! ## The abstract switch -/

/-- One step of the number of ticks since the last feeding. -/
def sinceStep (feeds : σ → ε → Bool) (tick : ε → Bool) (s : σ) (e : ε) (n : Option ℕ) :
    Option ℕ :=
  if feeds s e then some 0 else if tick e then n.map (· + 1) else n

/-- The ticks since the last feeding of a run, `none` before the first. -/
def since (M : Machine σ ε ο) (feeds : σ → ε → Bool) (tick : ε → Bool) (s : σ) (es : List ε) :
    Option ℕ :=
  M.history (sinceStep feeds tick) s none es

/-- There were `N` ticks since the last feeding, or no feeding. -/
def Due (N : ℕ) (n : Option ℕ) : Prop := ∀ k ∈ n, N ≤ k

instance (N : ℕ) : ∀ n, Decidable (Due N n)
  | none => isTrue fun _ h => nomatch h
  | some k => decidable_of_iff (N ≤ k) ⟨fun h _ hk => Option.some.inj hk ▸ h, fun h => h k rfl⟩

@[simp] lemma due_none (N : ℕ) : Due N none := fun _ h => nomatch h

@[simp] lemma due_some (N k : ℕ) : Due N (some k) ↔ N ≤ k :=
  ⟨fun h => h k rfl, fun h _ hk => Option.some.inj hk ▸ h⟩

/-- The smaller of two numbers falls iff both do. -/
lemma due_merge (N : ℕ) (m n : Option ℕ) : Due N (m.merge min n) ↔ Due N m ∧ Due N n := by
  cases m with
  | none => simp
  | some j =>
    cases n with
    | none => simp
    | some k => simp

/-- The smaller of two numbers, after a step. -/
lemma sinceStep_or (f g : σ → ε → Bool) (tick : ε → Bool) (s : σ) (e : ε) (m n : Option ℕ) :
    sinceStep (fun s e => f s e || g s e) tick s e (m.merge min n) =
      (sinceStep f tick s e m).merge min (sinceStep g tick s e n) := by
  by_cases hf : f s e = true <;> by_cases hg : g s e = true
  · simp [sinceStep, hf, hg]
  · cases hn : sinceStep g tick s e n <;> simp [sinceStep, hf]
  · cases hm : sinceStep f tick s e m <;> simp [sinceStep, hg]
  · -- a tick adds one on both sides of the minimum
    by_cases ht : tick e = true <;> cases m <;> cases n <;> simp [sinceStep, hf, hg, ht]

/-- **Two kinds of feeding**: the ticks since the last of either are the smaller of the ticks since
the last of each. -/
lemma since_or (M : Machine σ ε ο) (f g : σ → ε → Bool) (tick : ε → Bool) (s : σ) (es : List ε) :
    since M (fun s e => f s e || g s e) tick s es =
      (since M f tick s es).merge min (since M g tick s es) := by
  suffices h : ∀ s m n,
      M.history (sinceStep (fun s e => f s e || g s e) tick) s (m.merge min n) es =
      (M.history (sinceStep f tick) s m es).merge min (M.history (sinceStep g tick) s n es) from
    h s none none
  induction es with
  | nil => exact fun _ _ _ => rfl
  | cons e es ih =>
    intro s m n
    rw [Machine.history_cons, Machine.history_cons, Machine.history_cons, sinceStep_or, ih]

/-- A switch with two kinds of feeding falls iff it would with each alone. -/
lemma due_since_or (M : Machine σ ε ο) (f g : σ → ε → Bool) (tick : ε → Bool) (s : σ)
    (es : List ε) (N : ℕ) :
    Due N (since M (fun s e => f s e || g s e) tick s es) ↔
      Due N (since M f tick s es) ∧ Due N (since M g tick s es) := by
  rw [since_or, due_merge]

/-! ## The implementation -/

/-- The counter `c` and the limit `l` represent the number `n`: before the first feeding both are
zero, then the limit is `N` and the counter is the number cut at it. -/
structure Represents (N : ℕ) (n : Option ℕ) (c l : ℤ) : Prop where
  counter : c = n.elim 0 fun k => min (k : ℤ) N
  limit : l = n.elim 0 fun _ => (N : ℤ)

/-- Both zero represent that there was no feeding. -/
lemma represents_none (N : ℕ) : Represents N none 0 0 := ⟨rfl, rfl⟩

/-- **The counter is at its limit iff the abstract switch falls.** -/
lemma Represents.at_limit_iff {N : ℕ} {n : Option ℕ} {c l : ℤ} (h : Represents N n c l) :
    (¬ c < l ∧ c = l) ↔ Due N n := by
  obtain ⟨rfl, rfl⟩ := h
  cases n with
  | none => simp
  | some k =>
    simp only [Option.elim_some, due_some]
    omega

/-- What each step of a machine does to a counter and its limit, in the states that meet `Ok`. -/
structure Implements (M : Machine σ ε ο) (feeds : σ → ε → Bool) (tick : ε → Bool) (N : ℕ)
    (Ok : σ → Prop) (counter limit : σ → ℤ) : Prop where
  ok_next : ∀ s e, Ok s → Ok (M.next s e)
  counter_next : ∀ s e, Ok s → counter (M.next s e) =
    if feeds s e then 0
    else if tick e ∧ counter s < limit s then counter s + 1 else counter s
  limit_next : ∀ s e, Ok s → limit (M.next s e) = if feeds s e then (N : ℤ) else limit s

variable {M : Machine σ ε ο} {feeds : σ → ε → Bool} {tick : ε → Bool} {N : ℕ} {Ok : σ → Prop}
  {counter limit : σ → ℤ}

/-- **One step** keeps the counter in agreement with the abstract switch.

**Proof sketch.** By the kind of step. A feeding resets both. A tick below the limit counts in
both; at the limit the number is past it already. Nothing else touches either. -/
lemma Implements.represents_next (hM : Implements M feeds tick N Ok counter limit) {s : σ}
    (hs : Ok s) (e : ε) {n : Option ℕ} (h : Represents N n (counter s) (limit s)) :
    Represents N (sinceStep feeds tick s e n) (counter (M.next s e)) (limit (M.next s e)) := by
  obtain ⟨hc, hl⟩ := h
  rw [hM.counter_next s e hs, hM.limit_next s e hs, sinceStep]
  by_cases hfeed : feeds s e = true
  · rw [if_pos hfeed, if_pos hfeed, if_pos hfeed]
    exact ⟨by simp, rfl⟩
  rw [if_neg hfeed, if_neg hfeed, if_neg hfeed]
  by_cases htick : tick e = true
  · simp only [htick, if_true, true_and]
    cases n with
    | none =>
      rw [Option.elim_none] at hc hl
      exact ⟨by simp [hc, hl], hl⟩
    | some k =>
      rw [Option.elim_some] at hc hl
      refine ⟨?_, hl⟩
      rw [Option.map_some, Option.elim_some]
      split_ifs <;> omega
  · rw [if_neg htick, if_neg fun h => htick h.1]
    exact ⟨hc, hl⟩

/-- **The counter represents the abstract number after every run** from a state in which both are
zero. -/
lemma Implements.represents_run (hM : Implements M feeds tick N Ok counter limit) {s : σ}
    (hs : Ok s) (hc : counter s = 0) (hl : limit s = 0) (es : List ε) :
    Represents N (since M feeds tick s es) (counter (M.run s es)) (limit (M.run s es)) := by
  have hrun := M.history_invariant (sinceStep feeds tick)
    (R := fun s n => Ok s ∧ Represents N n (counter s) (limit s))
    (fun s n e h => ⟨hM.ok_next s e h.1, hM.represents_next h.1 e h.2⟩)
    ⟨hs, by rw [hc, hl]; exact represents_none N⟩ es
  exact hrun.2

end Deadman
