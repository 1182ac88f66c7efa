import Wifibot.RawServer.Command

set_option relaxedAutoImplicit false
set_option autoImplicit false

/-!
# The frames on the serial line

`driveraw` hands `buffso_Raw_Data_In` itself to `writers232`, which writes it byte by byte. The
locks around the call and around the copy of a datagram are commented out in the source, so the
other threads may replace the buffer between two bytes, and the line then carries bytes of two
commands in one frame.

Here a call is as many steps as it writes bytes, and any steps of the other threads fall between
them. What the call has written, completed by what the buffer holds beyond it, is what the call
will have written if nothing more changes.

## Main definitions

* `Wifibot.wire` — the server with the writes of a call of `driveraw` as steps of their own.
* `Wifibot.moments` — what the buffer held at each moment of the call in progress.
* `Wifibot.WireFramesWhole` — each frame on the line is what the buffer held at one moment.
* `Wifibot.LeavesWritten` — a step does not mix new bytes with bytes already written.

## Main results

* `Wifibot.wire_frames_whole` — in a run of such steps each frame on the line is one that the buffer
  held.
* `Wifibot.outputs_uninterrupted_call` — without steps in between, a call is the atomic `driveraw`.
-/

namespace Wifibot

variable {longBits : ℕ}

/-- The globals, and the bytes that the call of `driveraw` in progress has written. -/
structure WireState (longBits : ℕ) where
  globals : State longBits
  written : Option (List Byte)

/-- A step of another thread, the beginning of a call of `driveraw`, and one of its writes. -/
inductive WireEvent
  | thread (e : Event)
  | call
  | write
  deriving DecidableEq

/-- The bytes of the motor frame. -/
def WireState.frame (s : WireState longBits) : List Byte := s.globals.buffso_Raw_Data_In.toList

/-- The call begins: without a handle it writes nothing. -/
def WireState.call (s : WireState longBits) : WireState longBits :=
  if s.written.isNone ∧ s.globals.hUSB1 ≠ 0 then { s with written := some [] } else s

/-- `write(hUSB, buffer + kk, 1)` of the call in progress; after the ninth byte the call returns. -/
def WireState.write (s : WireState longBits) : WireState longBits × List (List Byte) :=
  match s.written with
  | none => (s, [])
  | some w =>
    let w := w ++ [s.globals.buffso_Raw_Data_In[w.length]!]
    if w.length = 9 then ({ s with written := none }, [w]) else ({ s with written := some w }, [])

/-- **The server with the single writes of `driveraw`.** Its outputs are the frames on the line. -/
def wire (longBits : ℕ) : Machine (WireState longBits) WireEvent (List Byte) where
  step s
    | .thread e => ({ s with globals := (server longBits).next s.globals e }, [])
    | .call => (s.call, [])
    | .write => s.write

/-- The globals when the threads start, no call being in progress. -/
def WireState.start (debug hUSB1 : ℤ) : WireState longBits where
  globals := State.start debug hUSB1
  written := none

/-- What the buffer held at the moments of the call in progress: what it held when the call began,
and what each step of another thread left in it. -/
def momentsStep (s : WireState longBits) (e : WireEvent) (m : List (List Byte)) :
    List (List Byte) :=
  match e with
  | .thread e => m ++ [((server longBits).next s.globals e).buffso_Raw_Data_In.toList]
  | .call => if s.written.isNone then [s.frame] else m
  | .write => m

/-- What the buffer held at the moments of the last call of a run. -/
def moments (s : WireState longBits) (es : List WireEvent) : List (List Byte) :=
  (wire longBits).history momentsStep s [] es

/-- The motor frame after a step of another thread. -/
def frameAfter (s : State longBits) (e : Event) : List Byte :=
  if isCommand s e then (commandFrame s e).toList
  else if e = .dog ∧ stops s then (clearSpeeds s.buffso_Raw_Data_In).toList
  else s.buffso_Raw_Data_In.toList

/-- A step of another thread during a call either leaves the bytes that are still to be written as
they are, or agrees with all the bytes that are written already. -/
def LeavesWritten (s : WireState longBits) : WireEvent → Prop
  | .thread e => ∀ w ∈ s.written,
      (frameAfter s.globals e).drop w.length = s.frame.drop w.length ∨
        (frameAfter s.globals e).take w.length = w
  | _ => True

instance (s : WireState longBits) : ∀ e, Decidable (LeavesWritten s e)
  | .thread _ => inferInstanceAs (Decidable (∀ w ∈ s.written, _ ∨ _))
  | .call => isTrue trivial
  | .write => isTrue trivial

/-- What a step of another thread leaves in the buffer. -/
lemma frameAfter_eq (s : State longBits) (e : Event) :
    ((server longBits).next s e).buffso_Raw_Data_In.toList = frameAfter s e := by
  rw [frame_next, frameAfter]
  split_ifs <;> rfl

@[simp] lemma length_frameAfter (s : State longBits) (e : Event) :
    (frameAfter s e).length = 9 := by
  rw [← frameAfter_eq, Vector.length_toList]

@[simp] lemma length_frame (s : WireState longBits) : s.frame.length = 9 :=
  Vector.length_toList

/-- What a call in progress has written and the rest of the buffer together were in the buffer at
one moment of the call. -/
def WriteInv (s : WireState longBits) (m : List (List Byte)) : Prop :=
  ∀ w, s.written = some w → w.length < 9 ∧ w ++ s.frame.drop w.length ∈ m

/-- The next byte taken from the rest of the buffer. -/
lemma frame_drop (s : WireState longBits) {k : ℕ} (hk : k < 9) :
    s.frame.drop k = s.globals.buffso_Raw_Data_In[k]! :: s.frame.drop (k + 1) := by
  rw [List.drop_eq_getElem_cons (by simpa using hk), getElem!_pos _ k hk]
  rfl

/-- A step of another thread. -/
lemma writeInv_thread {s : WireState longBits} {m : List (List Byte)} {e : Event}
    (he : LeavesWritten s (.thread e)) (h : WriteInv s m) :
    WriteInv ((wire longBits).next s (.thread e)) (momentsStep s (.thread e) m) := by
  intro w hw
  obtain ⟨hlen, hmem⟩ := h w hw
  have hframe : ((wire longBits).next s (.thread e)).frame = frameAfter s.globals e :=
    frameAfter_eq s.globals e
  rw [hframe, momentsStep, frameAfter_eq]
  refine ⟨hlen, ?_⟩
  rcases he w hw with hdrop | htake
  · rw [hdrop]
    exact List.mem_append_left _ hmem
  · have hwhole : w ++ (frameAfter s.globals e).drop w.length = frameAfter s.globals e :=
      calc w ++ (frameAfter s.globals e).drop w.length
          = (frameAfter s.globals e).take w.length ++ (frameAfter s.globals e).drop w.length := by
            rw [htake]
        _ = frameAfter s.globals e := List.take_append_drop _ _
    rw [hwhole]
    exact List.mem_append_right _ (List.mem_singleton_self _)

/-- The beginning of a call. -/
lemma writeInv_call {s : WireState longBits} {m : List (List Byte)} (h : WriteInv s m) :
    WriteInv ((wire longBits).next s .call) (momentsStep s .call m) := by
  intro w hw
  simp only [Machine.next, wire, WireState.call] at hw ⊢
  cases hs : s.written with
  | none =>
    simp only [hs, Option.isNone_none, true_and] at hw ⊢
    split_ifs at hw ⊢
    · obtain rfl : [] = w := Option.some.inj hw
      exact ⟨by decide, by simp [momentsStep, hs, WireState.frame]⟩
    · exact absurd (hw.symm.trans hs) (by simp)
  | some v =>
    simp only [hs, Option.isNone_some, Bool.false_eq_true, false_and, if_false, momentsStep] at hw ⊢
    exact h w (hs.trans hw)

/-- A write of the call in progress. -/
lemma write_of_written {s : WireState longBits} {w : List Byte} (hw : s.written = some w)
    (hlen : w.length < 9) :
    ∃ b, w ++ s.frame.drop w.length = (w ++ [b]) ++ s.frame.drop (w.length + 1) ∧
      s.write = if w.length = 8 then ({ s with written := none }, [w ++ [b]])
        else ({ s with written := some (w ++ [b]) }, []) := by
  refine ⟨s.globals.buffso_Raw_Data_In[w.length]!, by rw [frame_drop s hlen]; simp, ?_⟩
  rw [WireState.write, hw]
  simp

/-- **One step** of a run without mixing.

**Proof sketch.** A write moves one byte from the rest of the buffer to what is written. A step of
another thread that leaves the rest as it is changes neither part; one that agrees with what is
written makes the two together the buffer's new contents. -/
lemma writeInv_next (s : WireState longBits) (m : List (List Byte)) (e : WireEvent)
    (he : LeavesWritten s e) (h : WriteInv s m) :
    WriteInv ((wire longBits).next s e) (momentsStep s e m) := by
  cases e with
  | thread e => exact writeInv_thread he h
  | call => exact writeInv_call h
  | write =>
    cases hs : s.written with
    | none =>
      simp only [Machine.next, wire, WireState.write, hs]
      exact h
    | some v =>
      obtain ⟨hlen, hmem⟩ := h v hs
      obtain ⟨b, hrest, hwrite⟩ := write_of_written hs hlen
      intro w hw
      simp only [Machine.next, wire, hwrite] at hw ⊢
      split_ifs at hw ⊢ with h8
      obtain rfl : v ++ [b] = w := Option.some.inj hw
      refine ⟨by simp; omega, ?_⟩
      rw [hrest] at hmem
      simpa [momentsStep, WireState.frame] using hmem

/-- The frame that a write completes was in the buffer at one moment of the call. -/
lemma mem_of_mem_emit_write {s : WireState longBits} {m : List (List Byte)} (h : WriteInv s m)
    {w : List Byte} (hw : w ∈ (wire longBits).emit s .write) : w ∈ m := by
  cases hs : s.written with
  | none => simp [Machine.emit, wire, WireState.write, hs] at hw
  | some v =>
    obtain ⟨hlen, hmem⟩ := h v hs
    obtain ⟨b, hrest, hwrite⟩ := write_of_written hs hlen
    simp only [Machine.emit, wire, hwrite] at hw
    split_ifs at hw with h8
    · obtain rfl := List.mem_singleton.mp hw
      have hend : s.frame.drop (v.length + 1) = [] := List.drop_of_length_le (by simp [h8])
      rwa [hrest, hend, List.append_nil] at hmem
    · simp at hw

/-- The nine bytes that each call of a run puts on the line are what the buffer held at one moment
of that call. -/
def WireFramesWhole (s₀ : WireState longBits) (es : List WireEvent) : Prop :=
  ∀ pre post, es = pre ++ .write :: post →
    ∀ w ∈ (wire longBits).emit ((wire longBits).run s₀ pre) .write, w ∈ moments s₀ pre

/-- **When the frames on the line are whole.** In a run in which every step of another thread during
a call of `driveraw` leaves the bytes still to be written as they are, or agrees with all the bytes
already written, the nine bytes each call puts on the line are what `buffso_Raw_Data_In` held at one
moment of that call. -/
theorem wire_frames_whole (debug hUSB1 : ℤ) (es : List WireEvent)
    (hes : (wire longBits).Along LeavesWritten (WireState.start debug hUSB1) es) :
    WireFramesWhole (WireState.start debug hUSB1 : WireState longBits) es := by
  rintro pre post rfl w hw
  refine mem_of_mem_emit_write ?_ hw
  exact (wire longBits).history_induction momentsStep (R := WriteInv)
    (fun s m e he h => writeInv_next s m e he h) (fun w hw => by simp [WireState.start] at hw)
    ((wire longBits).along_append _ _ _ _ |>.mp hes).1

/-! ## Calls without steps in between -/

/-- The remaining `j` writes of a call, nothing else happening. -/
lemma outputs_writes {s : WireState longBits} {w : List Byte} (hw : s.written = some w) {j : ℕ}
    (hj : w.length + j = 9) (hpos : 0 < j) :
    (wire longBits).outputs s (List.replicate j .write) = [w ++ s.frame.drop w.length] ∧
      (wire longBits).run s (List.replicate j .write) = { s with written := none } := by
  induction j generalizing s w with
  | zero => exact absurd hpos (lt_irrefl 0)
  | succ j ih =>
    obtain ⟨b, hrest, hwrite⟩ := write_of_written hw (by omega)
    rw [List.replicate_succ, Machine.outputs_cons, Machine.run_cons, hrest]
    simp only [Machine.next, Machine.emit, wire, hwrite]
    rcases Nat.eq_zero_or_pos j with rfl | hpos'
    · have hend : s.frame.drop (w.length + 1) = [] := List.drop_of_length_le (by simp; omega)
      rw [if_pos (by omega), hend]
      simp
    · rw [if_neg (by omega)]
      have htail := ih (s := { s with written := some (w ++ [b]) }) rfl (by simp; omega) hpos'
      rw [List.length_append] at htail
      exact htail

/-- **A call without steps in between** is the atomic `driveraw`: it puts the buffer on the line and
changes nothing. -/
lemma outputs_uninterrupted_call {s : WireState longBits} (hs : s.written = none)
    (hh : s.globals.hUSB1 ≠ 0) :
    (wire longBits).outputs s (.call :: List.replicate 9 .write) = [s.frame] ∧
      (wire longBits).run s (.call :: List.replicate 9 .write) = s := by
  have hcall : (wire longBits).step s .call = ({ s with written := some [] }, []) := by
    simp [wire, WireState.call, hs, hh]
  obtain ⟨hout, hrun⟩ := outputs_writes (s := { s with written := some [] }) rfl (j := 9) rfl
    (by decide)
  rw [Machine.outputs_cons, Machine.run_cons, Machine.next, Machine.emit, hcall, hrun, hout, ← hs]
  exact ⟨rfl, rfl⟩

/-! ## Runs -/

/-- A run in which, during a call, the next command comes when the two bytes have gone out that it
has in common with the one before, `Thread_Dog` counts and the robot answers. -/
def wholeRun : List WireEvent :=
  [.thread (.tcpRecv (.data [0xFF, 0x07, 0x01, 0x01, 0x01, 0x01, 0xA0, 0x01, 0x01])), .call,
    .write, .write,
    .thread (.tcpRecv (.data [0xFF, 0x07, 0x02, 0x02, 0x02, 0x02, 0xA0, 0x02, 0x02])), .write,
    .write, .thread .dog, .write, .write, .thread (.robot restPayload), .write, .write, .write]

/-- Its frame is whole. -/
theorem wire_frames_whole_wholeRun :
    WireFramesWhole (WireState.start 0 3 : WireState 32) wholeRun :=
  wire_frames_whole 0 3 wholeRun (by decide +kernel)

/-- The first writes of a call, before which one command comes and in the middle of which the
next. -/
def tornRun : List WireEvent :=
  [.thread (.tcpRecv (.data [0xFF, 0x07, 0x01, 0x01, 0x01, 0x01, 0xA0, 0x01, 0x01])), .call,
    .write, .write, .write, .write,
    .thread (.tcpRecv (.data [0xFF, 0x07, 0x02, 0x02, 0x02, 0x02, 0xA0, 0x02, 0x02])), .write,
    .write, .write, .write]

/-- The frame on the line has the left speed of the one and the right speed of the other. -/
theorem not_wire_frames_whole_tornRun :
    ¬ ∀ (debug hUSB1 : ℤ) (es : List WireEvent),
      WireFramesWhole (WireState.start debug hUSB1 : WireState 32) es := by
  intro h
  have hmem := h 0 3 (tornRun ++ [.write]) tornRun [] rfl
    [0xFF, 0x07, 0x01, 0x01, 0x02, 0x02, 0xA0, 0x02, 0x02] (by decide +kernel)
  exact absurd hmem (by decide +kernel)

end Wifibot
