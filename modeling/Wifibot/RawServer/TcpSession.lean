import Wifibot.RawServer.Command

set_option relaxedAutoImplicit false
set_option autoImplicit false

/-!
# A session on TCP

A client sends whole commands of nine bytes, and TCP delivers the stream in pieces. `Thread_TCP`
takes each piece for a command: it answers the piece and writes it over the front of the motor
frame. So the frame is right only while every `recv` returns nine bytes.

Where a byte of the frame comes from is followed with a second frame, of places in the client's
stream, that is written in step with the first.

## Main definitions

* `Wifibot.received` — a buffer after a list of pieces.
* `Wifibot.held` — for each byte of the motor frame, its place in the client's stream.
* `Wifibot.SessionOk` — the last command is held, each command was answered once, and the frame
  never mixes or shifts commands.

## Main results

* `Wifibot.getElem_received` — the places are those of the bytes that the frame holds.
* `Wifibot.sessionOk_iff` — a session goes right iff every `recv` returns nine bytes.
-/

namespace Wifibot

variable {longBits : ℕ}

/-! ## Pieces of a stream -/

section Pieces

variable {α : Type*}

/-- A buffer after each of the pieces was written over its front. -/
def received (f : Vector α 9) (chunks : List (List α)) : Vector α 9 := chunks.foldl Vector.overlay f

/-- The places in the stream of the bytes of each piece, from the place `p` on. -/
def positions : ℕ → List (List α) → List (List (Option ℕ))
  | _, [] => []
  | p, c :: chunks => (List.range' p c.length).map some :: positions (p + c.length) chunks

/-- The places in the stream of what the buffer holds; `none` for what it held before. -/
def held (chunks : List (List α)) : Vector (Option ℕ) 9 :=
  received (Vector.replicate 9 none) (positions 0 chunks)

/-- Everything held is from the command number `j`, and in its place there. -/
def FromOneCommand (v : Vector (Option ℕ) 9) : Prop :=
  ∃ j, ∀ i (hi : i < 9) q, v[i] = some q → q = 9 * j + i

/-- The places of pieces in two parts. -/
lemma positions_append (p : ℕ) (chunks chunks' : List (List α)) :
    positions p (chunks ++ chunks') =
      positions p chunks ++ positions (p + chunks.flatten.length) chunks' := by
  induction chunks generalizing p with
  | nil => rfl
  | cons c chunks ih =>
    rw [List.cons_append, positions, ih, positions, List.cons_append, List.flatten_cons,
      List.length_append, Nat.add_assoc]

/-- The places held after one more piece. -/
lemma held_concat (chunks : List (List α)) (c : List α) :
    held (chunks ++ [c]) =
      (held chunks).overlay ((List.range' chunks.flatten.length c.length).map some) := by
  rw [held, positions_append, received, List.foldl_append, Nat.zero_add]
  rfl

/-- **The places are right**: a buffer holds the bytes of the stream at the places it is said to
hold, and elsewhere what it held before.

**Proof sketch.** Induction on the pieces: a piece writes bytes and places over the same cells. -/
lemma getElem_received [Inhabited α] (stream : List α) (a : α) {i : ℕ} (hi : i < 9)
    (chunks : List (List α)) (p : ℕ) (f : Vector α 9) (v : Vector (Option ℕ) 9)
    (hstream : chunks.flatten <+: stream.drop p)
    (hv : f[i] = v[i].elim a fun q => stream.getD q default) :
    (received f chunks)[i] =
      (received v (positions p chunks))[i].elim a fun q => stream.getD q default := by
  induction chunks generalizing p f v with
  | nil => exact hv
  | cons piece chunks ih =>
    rw [received, positions, received, List.foldl_cons, List.foldl_cons]
    rw [List.flatten_cons] at hstream
    obtain ⟨rest, hrest⟩ := hstream
    rw [List.append_assoc] at hrest
    refine ih (p + piece.length) _ _ ⟨rest, ?_⟩ ?_
    · rw [← List.drop_drop, ← hrest, List.drop_left]
    · rw [Vector.getElem_overlay, Vector.getElem_overlay]
      rcases Nat.lt_or_ge i piece.length with hic | hic
      · have hplace : stream.getD (p + i) default = piece[i] := by
          rw [List.getD_eq_getElem?_getD, ← List.getElem?_drop, ← hrest,
            List.getElem?_append_left hic, List.getElem?_eq_getElem hic]
          rfl
        rw [List.getD_eq_getElem _ _ hic, List.getD_eq_getElem _ _ (by simpa using hic)]
        simpa using hplace.symm
      · rw [List.getD_eq_default _ _ hic, List.getD_eq_default _ _ (by simpa using hic)]
        exact hv

/-- Pieces of at most nine bytes that add up to nine bytes each are of nine bytes. -/
lemma length_eq_nine_of_flatten {chunks : List (List α)} (hle : ∀ c ∈ chunks, c.length ≤ 9)
    (hlen : 9 * chunks.length ≤ chunks.flatten.length) : ∀ c ∈ chunks, c.length = 9 := by
  induction chunks with
  | nil => simp
  | cons c chunks ih =>
    have hc : c.length ≤ 9 := hle c List.mem_cons_self
    have hrest : ∀ d ∈ chunks, d.length ≤ 9 := fun d hd => hle d (List.mem_cons_of_mem c hd)
    have hsum : chunks.flatten.length ≤ 9 * chunks.length := by
      rw [List.length_flatten, Nat.mul_comm]
      exact (List.sum_le_card_nsmul _ 9 (by simpa using hrest)).trans (by simp)
    rw [List.flatten_cons, List.length_append, List.length_cons] at hlen
    intro d hd
    rcases List.mem_cons.mp hd with rfl | hd
    · omega
    · exact ih hrest (by omega) d hd

/-- The length of pieces of nine bytes. -/
lemma length_flatten_of_nine {chunks : List (List α)} (hnine : ∀ c ∈ chunks, c.length = 9) :
    chunks.flatten.length = 9 * chunks.length := by
  rw [List.length_flatten, List.map_eq_replicate_iff.mpr hnine, List.sum_replicate, Nat.mul_comm]
  rfl

/-- Pieces of nine bytes that make up whole commands are the commands. -/
lemma eq_map_toList_of_flatten {chunks : List (List α)} {cmds : List (Vector α 9)}
    (hnine : ∀ c ∈ chunks, c.length = 9)
    (hstream : chunks.flatten = (cmds.map Vector.toList).flatten) :
    chunks = cmds.map Vector.toList := by
  have hcmds : ∀ c ∈ cmds.map Vector.toList, c.length = 9 := by simp
  have hlen : chunks.length = (cmds.map Vector.toList).length := by
    have h := length_flatten_of_nine hnine
    rw [hstream, length_flatten_of_nine hcmds] at h
    omega
  refine List.eq_iff_flatten_eq.mpr ⟨hstream, ?_⟩
  rw [List.map_eq_replicate_iff.mpr hnine, List.map_eq_replicate_iff.mpr hcmds, hlen]

/-- Pieces of nine bytes leave the last of them, in its place. -/
lemma fromOneCommand_held {chunks : List (List α)} (hnine : ∀ c ∈ chunks, c.length = 9) :
    FromOneCommand (held chunks) := by
  rcases List.eq_nil_or_concat chunks with rfl | ⟨cs, c, rfl⟩
  · exact ⟨0, fun i hi q hq => by simp [held, received, positions] at hq⟩
  · refine ⟨cs.length, fun i hi q hq => ?_⟩
    have hc : c.length = 9 := hnine c (by simp)
    have hcs : ∀ d ∈ cs, d.length = 9 := fun d hd => hnine d (by simp [hd])
    rw [List.concat_eq_append, held_concat, Vector.getElem_overlay,
      List.getD_eq_getElem _ _ (by simp [hc, hi])] at hq
    simp only [List.getElem_map, List.getElem_range', Option.some.injEq] at hq
    rw [length_flatten_of_nine hcs] at hq
    omega

end Pieces

/-! ## Sessions -/

/-- The `recv` calls of a session. -/
def sessionEvents (chunks : List (List Byte)) : List Event :=
  chunks.map fun c => .tcpRecv (.data c)

/-- An answer of 21 bytes to the client. -/
def IsAnswer (o : Output) : Prop := ∃ bytes, o = .tcp bytes ∧ bytes.length = 21

/-- At the end of a session the motor frame is the last command, each command was answered once,
and between the `recv` calls the frame held nothing of two commands and nothing shifted. `held` says
which byte of the client's stream each byte of the frame is, as `getElem_frame_run_session` shows of
`buffso_Raw_Data_In`. -/
structure SessionOk (s : State longBits) (cmds : List (Vector Byte 9)) (chunks : List (List Byte)) :
    Prop where
  last : ∀ cmd ∈ cmds.getLast?,
    ((server longBits).run s (sessionEvents chunks)).buffso_Raw_Data_In = cmd
  answers : ((server longBits).outputs s (sessionEvents chunks)).length = cmds.length ∧
    ∀ o ∈ (server longBits).outputs s (sessionEvents chunks), IsAnswer o
  whole : ∀ k, FromOneCommand (held (chunks.take k))

/-- The frame in a session. -/
lemma frame_run_session (s : State longBits) {chunks : List (List Byte)}
    (hchunks : ∀ c ∈ chunks, 1 ≤ c.length ∧ c.length ≤ 9) :
    ((server longBits).run s (sessionEvents chunks)).buffso_Raw_Data_In =
      received s.buffso_Raw_Data_In chunks := by
  induction chunks generalizing s with
  | nil => rfl
  | cons c chunks ih =>
    obtain ⟨hpos, hnine⟩ := hchunks c List.mem_cons_self
    have hstored : (Received.data c).stored 9 = c := Received.stored_data hnine
    have hcmd : isCommand s (.tcpRecv (.data c)) = true := by
      simpa [isCommand, Received.size] using hpos
    rw [sessionEvents, List.map_cons, Machine.run_cons]
    refine (ih _ fun d hd => hchunks d (List.mem_cons_of_mem c hd)).trans ?_
    rw [frame_next, if_pos hcmd, commandFrame, hstored]
    rfl

/-- **Each byte of the frame** in a session is the byte of the client's stream at the place held for
it, or what the frame held before. -/
lemma getElem_frame_run_session (s : State longBits) {chunks : List (List Byte)}
    (hchunks : ∀ c ∈ chunks, 1 ≤ c.length ∧ c.length ≤ 9) {i : ℕ} (hi : i < 9) :
    ((server longBits).run s (sessionEvents chunks)).buffso_Raw_Data_In[i] =
      (held chunks)[i].elim s.buffso_Raw_Data_In[i] fun q => chunks.flatten.getD q default := by
  rw [frame_run_session s hchunks]
  exact getElem_received chunks.flatten _ hi chunks 0 _ _ (List.prefix_refl _) (by simp)

/-- Each `recv` of a session is answered. -/
lemma outputs_session {s : State longBits} (hs : s.debug = 0) {chunks : List (List Byte)}
    (hchunks : ∀ c ∈ chunks, 1 ≤ c.length) :
    (server longBits).outputs s (sessionEvents chunks) =
      List.replicate chunks.length (.tcp s.buffso_Raw_Data_Out.toList) := by
  induction chunks generalizing s with
  | nil => rfl
  | cons c chunks ih =>
    have hsize : ¬ (Received.data c).size 9 < 1 := by
      have hpos := hchunks c List.mem_cons_self
      simp only [Received.size, List.length_take]
      omega
    have hemit : (server longBits).emit s (.tcpRecv (.data c)) =
        [.tcp s.buffso_Raw_Data_Out.toList] := by
      simp [Machine.emit, server, Thread_TCP, hsize, hs]
    have hout : ((server longBits).next s (.tcpRecv (.data c))).buffso_Raw_Data_Out =
        s.buffso_Raw_Data_Out := by
      simp [Machine.next, server, Thread_TCP, hsize, hs]
    rw [sessionEvents, List.map_cons, Machine.outputs_cons, hemit]
    refine (congrArg _ (ih (by rw [debug_next, hs]) fun d hd =>
      hchunks d (List.mem_cons_of_mem c hd))).trans ?_
    rw [hout, List.length_cons, List.replicate_succ]
    rfl

/-- **When a session goes right**: every `recv` returns nine bytes.

**Proof sketch.** Each `recv` is answered, so one answer a command means as many pieces as
commands, and these cannot be short. Conversely pieces of nine bytes are the commands. -/
theorem sessionOk_iff {s : State longBits} (hs : s.debug = 0) (cmds : List (Vector Byte 9))
    (chunks : List (List Byte)) (hchunks : ∀ c ∈ chunks, 1 ≤ c.length ∧ c.length ≤ 9)
    (hstream : chunks.flatten = (cmds.map Vector.toList).flatten) :
    SessionOk s cmds chunks ↔ ∀ c ∈ chunks, c.length = 9 := by
  have hanswers := outputs_session hs fun c hc => (hchunks c hc).1
  constructor
  · intro h
    have hlen : chunks.length = cmds.length := by
      have h₁ := h.answers.1
      rwa [hanswers, List.length_replicate] at h₁
    refine length_eq_nine_of_flatten (fun c hc => (hchunks c hc).2) ?_
    rw [hstream, length_flatten_of_nine (by simp), List.length_map, hlen]
  · intro hnine
    have hcmds := eq_map_toList_of_flatten hnine hstream
    refine ⟨fun cmd hcmd => ?_, ⟨?_, fun o ho => ?_⟩, fun k => ?_⟩
    · obtain ⟨front, rfl⟩ := List.getLast?_eq_some_iff.mp hcmd
      rw [frame_run_session s hchunks, hcmds, received, List.map_append, List.foldl_append]
      exact Vector.overlay_toList _ _
    · rw [hanswers, List.length_replicate, hcmds, List.length_map]
    · rw [hanswers] at ho
      exact ⟨_, List.eq_of_mem_replicate ho, by simp⟩
    · exact fromOneCommand_held fun c hc => hnine c (List.mem_of_mem_take hc)

/-- Three commands, each in one piece. -/
theorem sessionOk_whole_pieces :
    SessionOk (State.start 0 3 : State 32)
      [#v[0xFF, 0x07, 0x78, 0x00, 0x78, 0x00, 0xA0, 0x21, 0xC7],
        #v[0xFF, 0x07, 0x01, 0x01, 0x01, 0x01, 0xA0, 0x01, 0x01],
        #v[0xFF, 0x07, 0x02, 0x02, 0x02, 0x02, 0xA0, 0x02, 0x02]]
      [[0xFF, 0x07, 0x78, 0x00, 0x78, 0x00, 0xA0, 0x21, 0xC7],
        [0xFF, 0x07, 0x01, 0x01, 0x01, 0x01, 0xA0, 0x01, 0x01],
        [0xFF, 0x07, 0x02, 0x02, 0x02, 0x02, 0xA0, 0x02, 0x02]] :=
  (sessionOk_iff rfl _ _ (by decide) rfl).mpr (by decide)

/-- The first of them in two pieces is answered twice. -/
theorem not_sessionOk_two_pieces :
    ¬ SessionOk (State.start 0 3 : State 32)
      [#v[0xFF, 0x07, 0x78, 0x00, 0x78, 0x00, 0xA0, 0x21, 0xC7]]
      [[0xFF, 0x07, 0x78, 0x00], [0x78, 0x00, 0xA0, 0x21, 0xC7]] := by
  intro h
  have hcount := h.answers.1
  rw [outputs_session rfl (by decide)] at hcount
  exact absurd hcount (by decide)

end Wifibot
