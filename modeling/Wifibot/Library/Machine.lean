import Mathlib.Data.Nat.Notation
import Mathlib.Tactic.TypeStar

set_option relaxedAutoImplicit false
set_option autoImplicit false

/-!
# Deterministic machines with outputs

A component whose handlers are atomic is a function from a state and an event to the next state
and the outputs of that step. This file has the runs of such a machine over lists of events and
the rules by which facts about one step become facts about every run.

## Main definitions

* `Machine` — a step function with outputs.
* `Machine.run`, `Machine.outputs` — the state after a list of events, and what it emitted.
* `Machine.Along` — every step of a run meets a condition on the state before it and the event.
* `Machine.history` — a value that each step of a run updates and the machine does not have.

## Main results

* `Machine.along_iff` — `Along` as a statement about every split of the list of events.
* `Machine.run_invariant`, `Machine.outputs_induction` — the invariant rule for states and for
  outputs.
* `Machine.run_foldl` — the rule for a part of the state that collects what the events carry.
* `Machine.outputs_iff_along` — when the outputs of a run are all right.
* `Machine.history_induction` — the invariant rule for what relates the state to a history variable.
* `Machine.filterMap_outputs_eq`, `Machine.outputs_filter` — the outputs of two machines compared,
  and the outputs without the events that do nothing.
-/

/-- A deterministic machine: the state after one event, and the outputs of that step. -/
structure Machine (σ ε ο : Type*) where
  step : σ → ε → σ × List ο

namespace Machine

variable {σ ε ο : Type*} (M : Machine σ ε ο)

/-- The state after one event. -/
def next (s : σ) (e : ε) : σ := (M.step s e).1

/-- The outputs of one event. -/
def emit (s : σ) (e : ε) : List ο := (M.step s e).2

/-- The state after a list of events. -/
def run (s : σ) (es : List ε) : σ := es.foldl M.next s

/-- The outputs of a list of events, in order. -/
def outputs : σ → List ε → List ο
  | _, [] => []
  | s, e :: es => M.emit s e ++ outputs (M.next s e) es

/-- Every step of the run satisfies `C` of the state before it and its event. -/
def Along (C : σ → ε → Prop) : σ → List ε → Prop
  | _, [] => True
  | s, e :: es => C s e ∧ Along C (M.next s e) es

@[simp] lemma run_nil (s : σ) : M.run s [] = s := rfl

@[simp] lemma run_cons (s : σ) (e : ε) (es : List ε) :
    M.run s (e :: es) = M.run (M.next s e) es := rfl

@[simp] lemma run_append (s : σ) (es fs : List ε) :
    M.run s (es ++ fs) = M.run (M.run s es) fs := by
  simp [run]

@[simp] lemma outputs_nil (s : σ) : M.outputs s [] = [] := rfl

@[simp] lemma outputs_cons (s : σ) (e : ε) (es : List ε) :
    M.outputs s (e :: es) = M.emit s e ++ M.outputs (M.next s e) es := rfl

@[simp] lemma along_nil (C : σ → ε → Prop) (s : σ) : M.Along C s [] := trivial

@[simp] lemma along_cons (C : σ → ε → Prop) (s : σ) (e : ε) (es : List ε) :
    M.Along C s (e :: es) ↔ C s e ∧ M.Along C (M.next s e) es := Iff.rfl

/-- A condition holds along a run in two parts iff it holds along both. -/
lemma along_append (C : σ → ε → Prop) (s : σ) (es fs : List ε) :
    M.Along C s (es ++ fs) ↔ M.Along C s es ∧ M.Along C (M.run s es) fs := by
  induction es generalizing s with
  | nil => simp
  | cons e es ih => simp [ih, and_assoc]

instance decidableAlong (C : σ → ε → Prop) [∀ s e, Decidable (C s e)] :
    ∀ (s : σ) (es : List ε), Decidable (M.Along C s es)
  | _, [] => inferInstanceAs (Decidable True)
  | s, e :: es =>
    have := decidableAlong C (M.next s e) es
    inferInstanceAs (Decidable (C s e ∧ M.Along C (M.next s e) es))

/-- Two conditions hold along a run iff each does. -/
lemma along_and {C D : σ → ε → Prop} {s : σ} {es : List ε} :
    M.Along (fun s e => C s e ∧ D s e) s es ↔ M.Along C s es ∧ M.Along D s es := by
  induction es generalizing s with
  | nil => simp
  | cons e es ih =>
    rw [along_cons, along_cons, along_cons, ih]
    exact and_and_and_comm

/-- A condition on the event alone holds along a run iff it holds of every event. -/
lemma along_event_iff {P : ε → Prop} {s : σ} {es : List ε} :
    M.Along (fun _ e => P e) s es ↔ ∀ e ∈ es, P e := by
  induction es generalizing s with
  | nil => simp
  | cons e es ih => simp [ih]

/-- A condition holds along a run iff it holds at every split of its events. -/
lemma along_iff (C : σ → ε → Prop) (s : σ) (es : List ε) :
    M.Along C s es ↔ ∀ pre e post, es = pre ++ e :: post → C (M.run s pre) e := by
  constructor
  · rintro h pre e post rfl
    rw [along_append] at h
    exact h.2.1
  · intro h
    induction es generalizing s with
    | nil => trivial
    | cons e es ih =>
      refine ⟨h [] e es rfl, ih _ fun pre e' post hes => ?_⟩
      exact h (e :: pre) e' post (by rw [hes]; rfl)

/-- **The invariant rule**: what every step preserves holds after every run. -/
lemma run_invariant {I : σ → Prop} (hstep : ∀ s e, I s → I (M.next s e)) {s : σ} (hs : I s)
    (es : List ε) : I (M.run s es) := by
  induction es generalizing s with
  | nil => exact hs
  | cons e es ih => exact ih (hstep s e hs)

/-- **The invariant rule** for runs whose steps meet `C`. -/
lemma run_induction {C : σ → ε → Prop} {I : σ → Prop} (hstep : ∀ s e, C s e → I s → I (M.next s e))
    {s : σ} {es : List ε} (hs : I s) (hC : M.Along C s es) : I (M.run s es) := by
  induction es generalizing s with
  | nil => exact hs
  | cons e es ih => exact ih (hstep s e hC.1 hs) hC.2

/-- A part `f` of the state into which each step puts what its event carries, by `g`: after a run
everything that its events carry has been put there. -/
lemma run_foldl {α β : Type*} {f : σ → α} {m : ε → Option β} {g : α → β → α}
    (hstep : ∀ s e, f (M.next s e) = (m e).toList.foldl g (f s)) (s : σ) (es : List ε) :
    f (M.run s es) = (es.filterMap m).foldl g (f s) := by
  induction es generalizing s with
  | nil => rfl
  | cons e es ih =>
    rw [run_cons, ih, hstep]
    cases hm : m e with
    | none => simp [hm]
    | some b => simp [hm]

/-- An output of a run is an output of one of its steps. -/
lemma mem_outputs_iff {s : σ} {es : List ε} {o : ο} :
    o ∈ M.outputs s es ↔ ∃ pre e post, es = pre ++ e :: post ∧ o ∈ M.emit (M.run s pre) e := by
  induction es generalizing s with
  | nil => simp
  | cons e es ih =>
    rw [outputs_cons, List.mem_append, ih]
    constructor
    · rintro (ho | ⟨pre, e', post, rfl, ho⟩)
      · exact ⟨[], e, es, rfl, ho⟩
      · exact ⟨e :: pre, e', post, rfl, ho⟩
    · rintro ⟨pre, e', post, hes, ho⟩
      cases pre with
      | nil =>
        obtain ⟨rfl, rfl⟩ := List.cons.inj hes
        exact Or.inl ho
      | cons d pre =>
        obtain ⟨rfl, rfl⟩ := List.cons.inj hes
        exact Or.inr ⟨pre, e', post, rfl, ho⟩

/-- **The invariant rule for outputs**: what an invariant of the steps that meet `C` says of each
output holds of every output of a run of such steps. -/
lemma outputs_induction {C : σ → ε → Prop} {I : σ → Prop} {P : ο → Prop}
    (hstep : ∀ s e, C s e → I s → I (M.next s e))
    (hemit : ∀ s e, C s e → I s → ∀ o ∈ M.emit s e, P o) {s : σ} {es : List ε} (hs : I s)
    (hC : M.Along C s es) : ∀ o ∈ M.outputs s es, P o := by
  induction es generalizing s with
  | nil => simp
  | cons e es ih =>
    intro o ho
    rw [outputs_cons, List.mem_append] at ho
    rcases ho with ho | ho
    · exact hemit s e hC.1 hs o ho
    · exact ih (hstep s e hC.1 hs) hC.2 o ho

/-- **When every output of a run is right**: if `I` is kept by the steps that meet `C`, and in a
state that meets `I` a step's outputs are all right iff the step meets `C`, then a run's outputs are
all right iff all its steps meet `C`. -/
lemma outputs_iff_along {C : σ → ε → Prop} {I : σ → Prop} {P : ο → Prop}
    (hstep : ∀ s e, C s e → I s → I (M.next s e))
    (hemit : ∀ s e, I s → ((∀ o ∈ M.emit s e, P o) ↔ C s e)) {s : σ} (hs : I s) (es : List ε) :
    (∀ o ∈ M.outputs s es, P o) ↔ M.Along C s es := by
  induction es generalizing s with
  | nil => simp
  | cons e es ih =>
    rw [outputs_cons, List.forall_mem_append, hemit s e hs, along_cons]
    constructor
    · rintro ⟨he, hes⟩
      exact ⟨he, (ih (hstep s e he hs)).mp hes⟩
    · rintro ⟨he, hes⟩
      exact ⟨he, (ih (hstep s e he hs)).mpr hes⟩

/-! ## History variables -/

section History

variable {α : Type*} (g : σ → ε → α → α)

/-- The value of a history variable after a run: `g` updates it at each step, from the state before
the step and the event. -/
def history : σ → α → List ε → α
  | _, a, [] => a
  | s, a, e :: es => history (M.next s e) (g s e a) es

@[simp] lemma history_nil (s : σ) (a : α) : M.history g s a [] = a := rfl

@[simp] lemma history_cons (s : σ) (a : α) (e : ε) (es : List ε) :
    M.history g s a (e :: es) = M.history g (M.next s e) (g s e a) es := rfl

/-- The history of a run in two parts. -/
@[simp] lemma history_append (s : σ) (a : α) (es fs : List ε) :
    M.history g s a (es ++ fs) = M.history g (M.run s es) (M.history g s a es) fs := by
  induction es generalizing s a with
  | nil => rfl
  | cons e es ih => simp [ih]

/-- **The invariant rule with a history variable**, for runs whose steps meet `C`. -/
lemma history_induction {C : σ → ε → Prop} {R : σ → α → Prop}
    (hstep : ∀ s a e, C s e → R s a → R (M.next s e) (g s e a)) {s : σ} {a : α} {es : List ε}
    (h : R s a) (hC : M.Along C s es) : R (M.run s es) (M.history g s a es) := by
  induction es generalizing s a with
  | nil => exact h
  | cons e es ih => exact ih (hstep s a e hC.1 h) hC.2

/-- The invariant rule with a history variable, for a step that preserves `R` unconditionally. -/
lemma history_invariant {R : σ → α → Prop} (hstep : ∀ s a e, R s a → R (M.next s e) (g s e a))
    {s : σ} {a : α} (h : R s a) (es : List ε) : R (M.run s es) (M.history g s a es) := by
  induction es generalizing s a with
  | nil => exact h
  | cons e es ih => exact ih (hstep s a e h)

end History

/-! ## Comparing outputs -/

/-- Two machines on the same events, compared by what `π` keeps of the outputs of the one. -/
lemma filterMap_outputs_eq {τ ο' : Type*} {N : Machine τ ε ο'} {π : ο → Option ο'} {s : σ} {t : τ}
    {es : List ε}
    (h : ∀ pre e post, es = pre ++ e :: post →
      (M.emit (M.run s pre) e).filterMap π = N.emit (N.run t pre) e) :
    (M.outputs s es).filterMap π = N.outputs t es := by
  induction es generalizing s t with
  | nil => rfl
  | cons e es ih =>
    have hhead := h [] e es rfl
    have htail := ih fun pre e' post hes => h (e :: pre) e' post (by rw [hes]; rfl)
    rw [outputs_cons, outputs_cons, List.filterMap_append, htail]
    exact congrArg (· ++ _) hhead

/-- Conversely, if the two emit equally much at each step, equal outputs are equal at each step. -/
lemma filterMap_outputs_eq_iff {τ ο' : Type*} {N : Machine τ ε ο'} {π : ο → Option ο'} {s : σ}
    {t : τ} {es : List ε}
    (hlen : ∀ pre e post, es = pre ++ e :: post →
      ((M.emit (M.run s pre) e).filterMap π).length = (N.emit (N.run t pre) e).length) :
    (M.outputs s es).filterMap π = N.outputs t es ↔
      ∀ pre e post, es = pre ++ e :: post →
        (M.emit (M.run s pre) e).filterMap π = N.emit (N.run t pre) e := by
  refine ⟨fun h => ?_, M.filterMap_outputs_eq⟩
  induction es generalizing s t with
  | nil =>
    intro pre e post hes
    simp at hes
  | cons e es ih =>
    rw [outputs_cons, outputs_cons, List.filterMap_append] at h
    obtain ⟨hhead, htail⟩ := List.append_inj h (hlen [] e es rfl)
    intro pre e' post hes
    cases pre with
    | nil =>
      obtain ⟨rfl, rfl⟩ := List.cons.inj hes
      exact hhead
    | cons d pre =>
      obtain ⟨rfl, rfl⟩ := List.cons.inj hes
      refine ih (fun pre' e'' post' hes' => ?_) htail pre e' post rfl
      exact hlen (e :: pre') e'' post' (by rw [hes', List.cons_append])

/-- Events that neither change the state nor emit anything can be left out. -/
lemma outputs_filter {p : ε → Bool} (h : ∀ s e, p e = false → M.step s e = (s, [])) (s : σ)
    (es : List ε) : M.outputs s (es.filter p) = M.outputs s es := by
  induction es generalizing s with
  | nil => rfl
  | cons e es ih =>
    cases hp : p e with
    | true => rw [List.filter_cons_of_pos hp, outputs_cons, outputs_cons, ih]
    | false =>
      rw [List.filter_cons_of_neg (by simp [hp]), ih, outputs_cons, next, emit, h s e hp]
      rfl

end Machine
