import Mathlib.Data.List.GetD
import Mathlib.Data.Nat.Notation
import Mathlib.Tactic.TypeStar

set_option relaxedAutoImplicit false
set_option autoImplicit false

/-!
# Writing over the front of a fixed-size buffer

`recv`, `memcpy` and `memset` write a run of values over the first cells of a buffer and leave
the other cells alone. This is `Vector.overlay`; the file has its lemmas.

## Main definitions

* `Vector.overlay` — a list written over the front of a buffer, cut to the buffer's size.

## Main results

* `Vector.getElem_overlay` — each cell holds the new value if the list reaches it.
* `Vector.toList_overlay` — the buffer is the list followed by the cells it does not reach.
-/

namespace Vector

variable {α : Type*} {n : ℕ}

/-- The list `l` written over the first cells of the buffer, cut to the buffer's size. -/
def overlay (buf : Vector α n) (l : List α) : Vector α n :=
  Vector.ofFn fun i => l.getD i buf[i]

/-- A cell of the buffer after the write. -/
lemma getElem_overlay (buf : Vector α n) (l : List α) (i : ℕ) (hi : i < n) :
    (buf.overlay l)[i] = l.getD i buf[i] := by
  simp [overlay]

@[simp] lemma overlay_nil (buf : Vector α n) : buf.overlay [] = buf := by
  ext i hi
  simp [getElem_overlay]

/-- The cells after the write: the list, then the cells it does not reach. -/
lemma toList_overlay (buf : Vector α n) (l : List α) (h : l.length ≤ n) :
    (buf.overlay l).toList = l ++ buf.toList.drop l.length := by
  apply List.ext_getElem
  · simp; omega
  · intro i h₁ h₂
    rw [Vector.getElem_toList, getElem_overlay]
    rcases Nat.lt_or_ge i l.length with hil | hil
    · simp [List.getElem_append_left hil, hil]
    · simp [List.getElem_append_right hil, hil]

/-- A list of the buffer's size is the buffer afterwards. -/
lemma toList_overlay_of_length_eq (buf : Vector α n) (l : List α) (h : l.length = n) :
    (buf.overlay l).toList = l := by
  rw [toList_overlay buf l (Nat.le_of_eq h), List.drop_of_length_le (by simp [h]),
    List.append_nil]

/-- The front of the buffer is the list. -/
lemma take_toList_overlay (buf : Vector α n) (l : List α) (h : l.length ≤ n) :
    (buf.overlay l).toList.take l.length = l := by
  rw [toList_overlay buf l h, List.take_left]

/-- Writing the whole of another buffer of the same size copies it. -/
@[simp] lemma overlay_toList (buf src : Vector α n) : buf.overlay src.toList = src := by
  ext i hi
  simp [getElem_overlay, hi]

/-- Filling a buffer from its start to its end. -/
@[simp] lemma overlay_replicate (buf : Vector α n) (a : α) :
    buf.overlay (List.replicate n a) = Vector.replicate n a := by
  refine Vector.ext fun i hi => ?_
  rw [getElem_overlay, List.getD_eq_getElem _ _ (by simpa using hi), List.getElem_replicate,
    Vector.getElem_replicate]

end Vector
