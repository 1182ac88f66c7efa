import Wifibot.Library.Machine

set_option relaxedAutoImplicit false
set_option autoImplicit false

/-!
# Simulations between machines

A machine follows another if from related states each of its steps can be answered by steps of the
other that lead to related states again. A detailed model of a component follows a coarse one in
this way, two components that do the same follow each other, and a machine follows itself without
the events that do not matter to some observer.

## Main definitions

* `Machine.translate` — the events by which another machine answers a run.
* `Machine.Follows`, `Machine.Answers` — the answers keep the states related, and show an observer
  the same outputs.
* `Machine.Unwinds` — the events that do not matter to an observer neither change what the observer
  may depend on nor show.

## Main results

* `Machine.Follows.run`, `Machine.Follows.outputs` — from one step to every run.
* `Machine.lockstep` — the same for two machines on the same events.
* `Machine.run_of_refines`, `Machine.outputs_of_refines` — the same for a refinement mapping.
* `Machine.Unwinds.outputs_congr` — what an observer sees of a run depends on the events that matter
  only.
-/

namespace Machine

variable {σ τ ε δ ο π α κ : Type*} (M : Machine σ ε ο) (N : Machine τ δ π)

/-- The outputs of a run in two parts. -/
lemma outputs_append (s : σ) (es fs : List ε) :
    M.outputs s (es ++ fs) = M.outputs s es ++ M.outputs (M.run s es) fs := by
  induction es generalizing s with
  | nil => rfl
  | cons e es ih =>
    rw [List.cons_append, outputs_cons, outputs_cons, run_cons, ih, List.append_assoc]

/-! ## Answering a run -/

/-- The events by which another machine answers a run: `f` gives those that answer one step, from
the state before it and its event. -/
def translate (f : σ → ε → List δ) : σ → List ε → List δ
  | _, [] => []
  | s, e :: es => f s e ++ translate f (M.next s e) es

@[simp] lemma translate_nil (f : σ → ε → List δ) (s : σ) : M.translate f s [] = [] := rfl

@[simp] lemma translate_cons (f : σ → ε → List δ) (s : σ) (e : ε) (es : List ε) :
    M.translate f s (e :: es) = f s e ++ M.translate f (M.next s e) es := rfl

/-- If `f` looks at the event alone, so do the answers. -/
lemma translate_eq_flatMap (f : ε → List δ) (s : σ) (es : List ε) :
    M.translate (fun _ e => f e) s es = es.flatMap f := by
  induction es generalizing s with
  | nil => rfl
  | cons e es ih => rw [translate_cons, ih, List.flatMap_cons]

/-- What a projection keeps of the answers to a run is what it keeps of the events themselves, if it
is so for each step. -/
lemma filterMap_translate {f : σ → ε → List δ} {p : δ → Option κ} {q : ε → Option κ}
    (h : ∀ s e, (f s e).filterMap p = (q e).toList) (s : σ) (es : List ε) :
    (M.translate f s es).filterMap p = es.filterMap q := by
  induction es generalizing s with
  | nil => rfl
  | cons e es ih =>
    rw [translate_cons, List.filterMap_append, h, ih, List.filterMap_cons]
    cases q e <;> rfl

/-! ## Forward simulations -/

/-- **A forward simulation** of the steps that meet `C`: from states related by `R`, a step and its
answer lead to related states. -/
def Follows (C : σ → ε → Prop) (R : σ → τ → Prop) (f : σ → ε → List δ) : Prop :=
  ∀ s t e, C s e → R s t → R (M.next s e) (N.run t (f s e))

/-- Of a step and of its answer an observer sees the same, by `v` and `w`. -/
def Answers (C : σ → ε → Prop) (R : σ → τ → Prop) (f : σ → ε → List δ) (v : ο → Option κ)
    (w : π → Option κ) : Prop :=
  ∀ s t e, C s e → R s t → (M.emit s e).filterMap v = (N.outputs t (f s e)).filterMap w

variable {M N} {C : σ → ε → Prop} {R : σ → τ → Prop} {f : σ → ε → List δ}

/-- **A run and its answer** lead to related states. -/
lemma Follows.run (h : M.Follows N C R f) {s : σ} {t : τ} (hR : R s t) {es : List ε}
    (hC : M.Along C s es) : R (M.run s es) (N.run t (M.translate f s es)) := by
  induction es generalizing s t with
  | nil => exact hR
  | cons e es ih =>
    rw [run_cons, translate_cons, run_append]
    exact ih (h s t e hC.1 hR) hC.2

/-- **A run and its answer** show an observer the same. -/
lemma Follows.outputs (h : M.Follows N C R f) {v : ο → Option κ} {w : π → Option κ}
    (ha : M.Answers N C R f v w) {s : σ} {t : τ} (hR : R s t) {es : List ε}
    (hC : M.Along C s es) :
    (M.outputs s es).filterMap v = (N.outputs t (M.translate f s es)).filterMap w := by
  induction es generalizing s t with
  | nil => rfl
  | cons e es ih =>
    rw [outputs_cons, translate_cons, outputs_append, List.filterMap_append, List.filterMap_append,
      ha s t e hC.1 hR, ih (h s t e hC.1 hR) hC.2]

/-- **Machines in lockstep**: where related states take the same steps with the same outputs to
related states, they do so in every run. -/
lemma lockstep {N' : Machine τ ε ο}
    (h : ∀ s t e, R s t → R (M.next s e) (N'.next t e) ∧ M.emit s e = N'.emit t e) {s : σ} {t : τ}
    (hR : R s t) (es : List ε) :
    R (M.run s es) (N'.run t es) ∧ M.outputs s es = N'.outputs t es := by
  induction es generalizing s t with
  | nil => exact ⟨hR, rfl⟩
  | cons e es ih =>
    obtain ⟨hnext, hemit⟩ := h s t e hR
    obtain ⟨hrun, houtputs⟩ := ih hnext
    exact ⟨hrun, by rw [outputs_cons, outputs_cons, hemit, houtputs]⟩

/-- **A refinement mapping**: where each step is exactly the answer under `g`, so is each run. -/
lemma run_of_refines {g : σ → τ} (h : ∀ s e, g (M.next s e) = N.run (g s) (f s e)) (s : σ)
    (es : List ε) : g (M.run s es) = N.run (g s) (M.translate f s es) := by
  have hfollows : M.Follows N (fun _ _ => True) (fun s t => g s = t) f := by
    rintro s _ e - rfl
    exact h s e
  exact hfollows.run rfl (M.along_event_iff.mpr fun _ _ => trivial)

/-- Under a refinement mapping the outputs of a run are those of its answer, if it is so for each
step. -/
lemma outputs_of_refines {N' : Machine τ δ ο} {g : σ → τ}
    (h : ∀ s e, g (M.next s e) = N'.run (g s) (f s e))
    (hemit : ∀ s e, M.emit s e = N'.outputs (g s) (f s e)) (s : σ) (es : List ε) :
    M.outputs s es = N'.outputs (g s) (M.translate f s es) := by
  induction es generalizing s with
  | nil => rfl
  | cons e es ih =>
    rw [outputs_cons, translate_cons, outputs_append, hemit, ih, h]

/-! ## Events that do not matter -/

/-- **The unwinding conditions.** What an observer sees through `v` depends on the part `obs` of the
state. Events that matter do the same to states with the same part; the others neither change the
part nor show. -/
structure Unwinds (M : Machine σ ε ο) (matters : ε → Bool) (obs : σ → α) (v : ο → Option κ) :
    Prop where
  next_congr : ∀ s t e, matters e = true → obs s = obs t → obs (M.next s e) = obs (M.next t e)
  emit_congr : ∀ s t e, matters e = true → obs s = obs t →
    (M.emit s e).filterMap v = (M.emit t e).filterMap v
  next_other : ∀ s e, matters e = false → obs (M.next s e) = obs s
  emit_other : ∀ s e, matters e = false → (M.emit s e).filterMap v = []

variable {matters : ε → Bool} {obs : σ → α} {v : ο → Option κ}

/-- **Without the events that do not matter** an observer sees the same. -/
lemma Unwinds.outputs_filter (h : Unwinds M matters obs v) {s t : σ} (hobs : obs s = obs t)
    (es : List ε) :
    (M.outputs s es).filterMap v = (M.outputs t (es.filter matters)).filterMap v := by
  induction es generalizing s t with
  | nil => rfl
  | cons e es ih =>
    cases he : matters e with
    | true =>
      rw [List.filter_cons_of_pos he, outputs_cons, outputs_cons, List.filterMap_append,
        List.filterMap_append, h.emit_congr s t e he hobs, ih (h.next_congr s t e he hobs)]
    | false =>
      rw [List.filter_cons_of_neg (by simp [he]), outputs_cons, List.filterMap_append,
        h.emit_other s e he, List.nil_append, ih ((h.next_other s e he).trans hobs)]

/-- **Two runs with the same events that matter** look the same. -/
lemma Unwinds.outputs_congr (h : Unwinds M matters obs v) {s t : σ} (hobs : obs s = obs t)
    {es fs : List ε} (hes : es.filter matters = fs.filter matters) :
    (M.outputs s es).filterMap v = (M.outputs t fs).filterMap v := by
  rw [h.outputs_filter hobs es, hes, ← h.outputs_filter rfl fs]

end Machine
