import Mathlib.Data.List.Basic
import Mathlib.Data.List.DropRight

set_option relaxedAutoImplicit false
set_option autoImplicit false

/-!
# Lines of a stream that comes in chunks

A reader of lines that splits each chunk of a stream by itself takes the end of one chunk and the
start of the next for two lines. This file says what becomes of a processor of lines behind such a
reader, if it may stop for good, and if it does nothing with what is left of a line behind a cut.

## Main definitions

* `Lines.pieces` — the parts between separators that are not empty.
* `Lines.process` — the outputs of a processor that may stop, and whether it has not.
* `Lines.Tolerant` — the start of a line does what the line does, nothing, or stops, and the rest of
  it does nothing.

## Main results

* `Lines.Tolerant.sublist_process` — whatever the chunks are, no output is added.
* `Lines.Tolerant.process_chunks_iff` — the chunks that lose nothing.
-/

namespace Lines

variable {α β : Type*}

/-! ## Pieces -/

section Pieces

variable [DecidableEq α] (sep : α)

/-- The parts between separators that are not empty. -/
def pieces (l : List α) : List (List α) := (l.splitOn sep).filter (· ≠ [])

/-- What follows the last separator. -/
def openPart (l : List α) : List α := l.rtakeWhile (· ≠ sep)

/-- What comes before the first separator. -/
def restPart (l : List α) : List α := l.takeWhile (· ≠ sep)

variable {sep}

@[simp] lemma pieces_nil : pieces sep [] = [] := rfl

/-- A separator parts the pieces. -/
lemma pieces_append_sep (l m : List α) :
    pieces sep (l ++ sep :: m) = pieces sep l ++ pieces sep m := by
  rw [pieces, List.splitOn_append_cons_self, List.filter_append]
  rfl

/-- Without a separator there is one piece. -/
lemma pieces_of_notMem {l : List α} (hl : sep ∉ l) (hne : l ≠ []) : pieces sep l = [l] := by
  simp [pieces, List.splitOn_eq_singleton hl, hne]

/-- What follows the last separator has none. -/
lemma notMem_openPart (l : List α) : sep ∉ openPart sep l := by
  intro h
  have hne := List.mem_rtakeWhile_imp (p := (· ≠ sep)) (l := l) h
  simp at hne

/-- What comes before the first separator has none. -/
lemma notMem_restPart (l : List α) : sep ∉ restPart sep l := by
  intro h
  have hne := List.mem_takeWhile_imp (p := (· ≠ sep)) (l := l) h
  simp at hne

/-- The end of a chunk: its pieces are those up to its last separator, and what follows. -/
lemma pieces_append_of_openPart (l m : List α) :
    pieces sep (l ++ m) =
      pieces sep (l.rdropWhile (· ≠ sep)) ++ pieces sep (openPart sep l ++ m) := by
  have hl : l.rdropWhile (· ≠ sep) ++ openPart sep l = l := List.rdropWhile_append_rtakeWhile
  conv_lhs => rw [← hl, List.append_assoc]
  rcases List.eq_nil_or_concat (l.rdropWhile (· ≠ sep)) with h | ⟨l', x, h⟩
  · rw [h]
    rfl
  · have hne : l.rdropWhile (· ≠ sep) ≠ [] := by
      rw [h]
      simp
    have hlast := List.rdropWhile_last_not (p := (· ≠ sep)) l hne
    simp only [h, List.concat_eq_append, List.getLast_append_singleton, decide_eq_true_eq,
      not_not] at hlast
    rw [h, hlast, List.concat_eq_append, List.append_assoc, List.singleton_append,
      pieces_append_sep, pieces_append_sep, pieces_nil, List.append_nil]

/-- The start of a chunk: its pieces are what comes before its first separator, and the others. -/
lemma pieces_append_of_restPart (l m : List α) :
    pieces sep (l ++ m) =
      pieces sep (l ++ restPart sep m) ++ pieces sep (m.dropWhile (· ≠ sep)) := by
  have hm : restPart sep m ++ m.dropWhile (· ≠ sep) = m := List.takeWhile_append_dropWhile
  conv_lhs => rw [← hm, ← List.append_assoc]
  cases h : m.dropWhile (· ≠ sep) with
  | nil => simp
  | cons x m' =>
    have hne : m.dropWhile (· ≠ sep) ≠ [] := by
      rw [h]
      simp
    have hhead := List.head_dropWhile_not (· ≠ sep) hne
    simp only [h, List.head_cons, decide_eq_false_iff_not, not_not] at hhead
    rw [hhead, pieces_append_sep, ← List.nil_append (sep :: m'), pieces_append_sep, pieces_nil,
      List.nil_append]

/-- **Two chunks.** The first one's unfinished line and the start of the second are one piece of
the stream, and two of the reader. -/
lemma pieces_append (l m : List α) :
    ∃ before after, pieces sep l = before ++ pieces sep (openPart sep l) ∧
      pieces sep m = pieces sep (restPart sep m) ++ after ∧
      pieces sep (l ++ m) = before ++ pieces sep (openPart sep l ++ restPart sep m) ++ after := by
  refine ⟨pieces sep (l.rdropWhile (· ≠ sep)), pieces sep (m.dropWhile (· ≠ sep)), ?_, ?_, ?_⟩
  · simpa only [List.append_nil] using pieces_append_of_openPart l []
  · exact pieces_append_of_restPart [] m
  · rw [pieces_append_of_openPart, pieces_append_of_restPart (openPart sep l) m, List.append_assoc]

/-- The piece across two chunks. -/
lemma pieces_open_rest (l m : List α) (hne : openPart sep l ++ restPart sep m ≠ []) :
    pieces sep (openPart sep l ++ restPart sep m) = [openPart sep l ++ restPart sep m] := by
  refine pieces_of_notMem (fun h => ?_) hne
  rcases List.mem_append.mp h with h | h
  · exact notMem_openPart l h
  · exact notMem_restPart m h

/-- The piece across two chunks is one of the stream. -/
lemma mem_pieces_open_rest {l m : List α} (hne : openPart sep l ++ restPart sep m ≠ []) :
    openPart sep l ++ restPart sep m ∈ pieces sep (l ++ m) := by
  obtain ⟨before, after, -, -, h⟩ := @pieces_append _ _ sep l m
  rw [h, pieces_open_rest l m hne]
  exact List.mem_append_left _ (List.mem_append_right _ (List.mem_singleton_self _))

end Pieces

/-! ## Processing -/

/-- The outputs of a processor that may stop, and whether it has not. -/
def process (f : List α → Option (List β)) : List (List α) → List β × Bool
  | [] => ([], true)
  | l :: ls =>
    match f l with
    | none => ([], false)
    | some out => (out ++ (process f ls).1, (process f ls).2)

variable {f : List α → Option (List β)} {ok : List α → Prop}

@[simp] lemma process_nil : process f [] = ([], true) := rfl

lemma process_cons_none {l : List α} (ls : List (List α)) (hl : f l = none) :
    process f (l :: ls) = ([], false) := by
  simp [process, hl]

lemma process_cons_some {l : List α} (ls : List (List α)) {out : List β} (hl : f l = some out) :
    process f (l :: ls) = (out ++ (process f ls).1, (process f ls).2) := by
  simp [process, hl]

/-- A processor goes on as long as no line stops it. -/
lemma process_snd_iff {ls : List (List α)} :
    (process f ls).2 = true ↔ ∀ l ∈ ls, (f l).isSome := by
  induction ls with
  | nil => simp
  | cons l ls ih =>
    cases hl : f l with
    | none => simp [process_cons_none _ hl, hl]
    | some out => simp [process_cons_some _ hl, hl, ih]

/-- Lines in two parts: the second part is processed if the first one has not stopped. -/
lemma process_append_eq (ls ms : List (List α)) :
    process f (ls ++ ms) =
      if (process f ls).2 then ((process f ls).1 ++ (process f ms).1, (process f ms).2)
      else process f ls := by
  induction ls with
  | nil => rfl
  | cons l ls ih =>
    cases hl : f l with
    | none => simp [process_cons_none _ hl]
    | some out =>
      rw [List.cons_append, process_cons_some _ hl, process_cons_some _ hl, ih]
      split_ifs <;> simp

/-- Lines that do not stop the processor. -/
lemma process_append {ls : List (List α)} (hls : ∀ l ∈ ls, (f l).isSome) (ms : List (List α)) :
    process f (ls ++ ms) =
      ((ls.flatMap fun l => (f l).getD []) ++ (process f ms).1, (process f ms).2) := by
  induction ls with
  | nil => rfl
  | cons l ls ih =>
    obtain ⟨out, hout⟩ := Option.isSome_iff_exists.mp (hls l List.mem_cons_self)
    rw [List.cons_append, process_cons_some _ hout,
      ih fun k hk => hls k (List.mem_cons_of_mem l hk), List.flatMap_cons, hout,
      Option.getD_some, List.append_assoc]

/-- A processor that does not stop at a line that is `ok`. What is cut off at the start of such a
line stops it, does nothing or does what the line does, and what is left behind does nothing. -/
structure Tolerant (f : List α → Option (List β)) (ok : List α → Prop) : Prop where
  whole : ∀ l, ok l → (f l).isSome
  start : ∀ a b, ok (a ++ b) → f a = none ∨ f a = some [] ∨ f a = f (a ++ b)
  rest : ∀ a b, ok (a ++ b) → a ≠ [] → b ≠ [] → ok b ∧ f b = some []

namespace Tolerant

/-- Lines that are `ok` are all processed. -/
lemma process_ok (h : Tolerant f ok) {ls : List (List α)} (hok : ∀ l ∈ ls, ok l) :
    process f ls = (ls.flatMap fun l => (f l).getD [], true) := by
  have happend := process_append (fun l hl => h.whole l (hok l hl)) []
  rwa [List.append_nil, process_nil, List.append_nil] at happend

variable [DecidableEq α] {sep : α}

/-- What is left of a line does nothing. -/
lemma process_rest (h : Tolerant f ok) {a b : List α} (hok : ok (a ++ b)) (ha : a ≠ [])
    (hb : sep ∉ b) (ls : List (List α)) : process f (pieces sep b ++ ls) = process f ls := by
  rcases eq_or_ne b [] with rfl | hne
  · rfl
  · rw [pieces_of_notMem hb hne, List.singleton_append,
      process_cons_some _ (h.rest a b hok ha hne).2, List.nil_append]

/-- **The lines behind a chunk are `ok`** if those of the stream are. -/
lemma ok_rest (h : Tolerant f ok) {c m : List α} (hok : ∀ l ∈ pieces sep (c ++ m), ok l) :
    ∀ l ∈ pieces sep m, ok l := by
  have hall := hok
  obtain ⟨before, after, -, hm, hcm⟩ := @pieces_append _ _ sep c m
  rw [hcm] at hok
  rw [hm]
  intro l hl
  rcases List.mem_append.mp hl with hl | hl
  · rcases eq_or_ne (restPart sep m) [] with hb | hb
    · rw [hb] at hl
      cases hl
    · have hopen := hall _ (mem_pieces_open_rest (l := c) (m := m) (by simp [hb]))
      rw [pieces_of_notMem (notMem_restPart m) hb, List.mem_singleton] at hl
      rw [hl]
      rcases eq_or_ne (openPart sep c) [] with ha | ha
      · rwa [ha, List.nil_append] at hopen
      · exact (h.rest _ _ hopen ha hb).1
  · exact hok l (List.mem_append_right _ hl)

/-- What the chunk `c` ends with does what it does with the rest of its line, with which `m`
starts. -/
def WholeAt (f : List α → Option (List β)) (sep : α) (c m : List α) : Prop :=
  openPart sep c ≠ [] → f (openPart sep c) = f (openPart sep c ++ restPart sep m)

/-- **What a chunk does.** The stream from this chunk on has outputs of the lines before its last
one, those of that line, and those of the stream behind it. The chunk has them all if it cuts
nothing off; if it does, it has none of its last line, or stops there. -/
lemma chunk_cases (h : Tolerant f ok) {c m : List α} (hok : ∀ l ∈ pieces sep (c ++ m), ok l) :
    ∃ pre out tail, process f (pieces sep (c ++ m)) = (pre ++ (out ++ tail), true) ∧
      process f (pieces sep m) = (tail, true) ∧
      ((WholeAt f sep c m ∧ ∀ ls, process f (pieces sep c ++ ls) =
          (pre ++ (out ++ (process f ls).1), (process f ls).2)) ∨
        (¬ WholeAt f sep c m ∧ out ≠ [] ∧ ∀ ls, process f (pieces sep c ++ ls) =
          (pre ++ (process f ls).1, (process f ls).2)) ∨
        (¬ WholeAt f sep c m ∧ ∀ ls, process f (pieces sep c ++ ls) = (pre, false))) := by
  have hall := hok
  have htail := h.process_ok (h.ok_rest hok)
  obtain ⟨before, after, hc, hm, hcm⟩ := @pieces_append _ _ sep c m
  rw [hcm] at hok ⊢
  have hbefore : ∀ l ∈ before, (f l).isSome := fun l hl =>
    h.whole l (hok l (List.mem_append_left _ (List.mem_append_left _ hl)))
  simp only [hc, List.append_assoc, process_append hbefore]
  rcases eq_or_ne (openPart sep c) [] with ha | ha
  · -- the chunk ends with a line
    refine ⟨before.flatMap fun l => (f l).getD [], [], _, ?_, htail,
      Or.inl ⟨fun hne => absurd ha hne, fun ls => ?_⟩⟩
    · rw [ha, List.nil_append, ← hm, htail]
      rfl
    · rw [ha]
      rfl
  · have hne : openPart sep c ++ restPart sep m ≠ [] := by simp [ha]
    have hopen := hall _ (mem_pieces_open_rest hne)
    have hrest := h.process_rest hopen ha (notMem_restPart m) after
    rw [← hm, htail] at hrest
    obtain ⟨out, hout⟩ := Option.isSome_iff_exists.mp (h.whole _ hopen)
    refine ⟨before.flatMap fun l => (f l).getD [], out, _, ?_, htail, ?_⟩
    · rw [pieces_open_rest c _ hne, List.singleton_append, process_cons_some after hout, ← hrest]
    · simp only [pieces_of_notMem (notMem_openPart c) ha, List.singleton_append]
      by_cases hwhole : WholeAt f sep c m
      · refine Or.inl ⟨hwhole, fun ls => ?_⟩
        rw [process_cons_some ls ((hwhole ha).trans hout)]
      · have hcut : f (openPart sep c) ≠ f (openPart sep c ++ restPart sep m) := fun heq =>
          hwhole fun _ => heq
        rcases h.start _ _ hopen with hstart | hstart | hstart
        · refine Or.inr (Or.inr ⟨hwhole, fun ls => ?_⟩)
          rw [process_cons_none ls hstart, List.append_nil]
        · refine Or.inr (Or.inl ⟨hwhole, ?_, fun ls => ?_⟩)
          · rintro rfl
            exact hcut (hstart.trans hout.symm)
          · rw [process_cons_some ls hstart, List.nil_append]
        · exact absurd hstart hcut

/-- **No output is added**, whatever the chunks are. -/
lemma sublist_process (h : Tolerant f ok) {cs : List (List α)}
    (hok : ∀ l ∈ pieces sep cs.flatten, ok l) :
    (process f (cs.flatMap (pieces sep))).1.Sublist (process f (pieces sep cs.flatten)).1 := by
  induction cs with
  | nil => exact List.Sublist.refl _
  | cons c cs ih =>
    rw [List.flatten_cons] at hok ⊢
    have ih := ih (h.ok_rest hok)
    obtain ⟨pre, out, tail, hall, hm, hcases⟩ := h.chunk_cases hok
    rw [hm] at ih
    rw [List.flatMap_cons, hall]
    rcases hcases with ⟨-, hstep⟩ | ⟨-, -, hstep⟩ | ⟨-, hstep⟩
    · rw [hstep]
      exact (ih.append_left out).append_left pre
    · rw [hstep]
      exact (ih.trans (List.sublist_append_right out tail)).append_left pre
    · rw [hstep]
      exact List.sublist_append_left pre _

/-- **When nothing is lost.** The chunks have the outputs of the stream, and the processor has not
stopped, iff no chunk cuts off anything.

**Proof sketch.** By induction on the chunks. A chunk that cuts something off has fewer outputs, and
the later ones do not make up for them. -/
lemma process_chunks_iff (h : Tolerant f ok) {cs : List (List α)}
    (hok : ∀ l ∈ pieces sep cs.flatten, ok l) :
    process f (cs.flatMap (pieces sep)) = process f (pieces sep cs.flatten) ↔
      ∀ pre c post, cs = pre ++ c :: post → WholeAt f sep c post.flatten := by
  induction cs with
  | nil =>
    refine ⟨fun _ pre c post hcs => ?_, fun _ => rfl⟩
    simp at hcs
  | cons c cs ih =>
    have hsplit : (∀ pre c' post, c :: cs = pre ++ c' :: post → WholeAt f sep c' post.flatten) ↔
        WholeAt f sep c cs.flatten ∧
          ∀ pre c' post, cs = pre ++ c' :: post → WholeAt f sep c' post.flatten := by
      refine ⟨fun hall => ⟨hall [] c cs rfl, fun pre c' post hcs => ?_⟩,
        fun hall pre c' post hcs => ?_⟩
      · exact hall (c :: pre) c' post (by rw [hcs, List.cons_append])
      · cases pre with
        | nil =>
          obtain ⟨rfl, rfl⟩ := List.cons.inj hcs
          exact hall.1
        | cons d pre => exact hall.2 pre c' post (List.cons.inj hcs).2
    rw [List.flatten_cons] at hok ⊢
    have hsub := h.sublist_process (h.ok_rest hok)
    obtain ⟨pre, out, tail, hall, hm, hcases⟩ := h.chunk_cases hok
    rw [hsplit, ← ih (h.ok_rest hok), List.flatMap_cons, hall, hm]
    rw [hm] at hsub
    rcases hcases with ⟨hwhole, hstep⟩ | ⟨hcut, hout, hstep⟩ | ⟨hcut, hstep⟩
    · rw [hstep, Prod.mk.injEq, List.append_cancel_left_eq, List.append_cancel_left_eq,
        Prod.ext_iff]
      exact ⟨fun heq => ⟨hwhole, heq⟩, fun heq => heq.2⟩
    · refine ⟨fun heq => ?_, fun heq => absurd heq.1 hcut⟩
      rw [hstep, Prod.mk.injEq, List.append_cancel_left_eq] at heq
      have hlen : _ ≤ tail.length := hsub.length_le
      rw [heq.1, List.length_append] at hlen
      have hpos := List.length_pos_iff.mpr hout
      omega
    · refine ⟨fun heq => ?_, fun heq => absurd heq.1 hcut⟩
      rw [hstep, Prod.mk.injEq] at heq
      exact absurd heq.2 Bool.false_ne_true

end Tolerant

end Lines
