import Wifibot.RawServer.Watchdog

set_option relaxedAutoImplicit false
set_option autoImplicit false

/-!
# The checksum of the stop frame

The stop branch of `Thread_Dog` clears the wheel speeds of the motor frame in place and leaves the
checksum in bytes `7` and `8` as it was. Every encoder of the source, `SetRS232Motor33f` and its
siblings, computes the checksum anew. So a frame that is stopped keeps its checksum right only if
the speeds it loses did not count in the checksum.

## Main definitions

* `Wifibot.speedResidue` — what the speed bytes of a frame contribute to its checksum.
* `Wifibot.DrivenFramesOk` — the frames that `driveraw` writes in a run are all valid.
* `Wifibot.KeepsChecksum` — a step does not stop a frame whose speeds count.

## Main results

* `Wifibot.frameOk_clearSpeeds_iff` — when a stopped frame is still valid.
* `Wifibot.drivenFramesOk_iff` — without a client on TCP, the frames written in a run are valid iff
  no step stops a frame whose speeds count.
-/

namespace Wifibot

open ShiftRegister

variable {longBits : ℕ}

/-- What the four speed bytes of a frame leave in the checksum's register, started at zero. -/
def speedResidue (f : Vector Byte 9) : BitVec 32 :=
  [f[2]!, f[3]!, f[4]!, f[5]!].foldl crcOctet 0

/-- The residue is that of the sixteen-bit register. -/
lemma speedResidue_eq_zero_iff (f : Vector Byte 9) :
    speedResidue f = 0 ↔ feedAll poly16 0 [f[2]!, f[3]!, f[4]!, f[5]!] = 0 := by
  rw [speedResidue, show (0 : BitVec 32) = (0 : BitVec 16).setWidth 32 from rfl, foldl_crcOctet,
    setWidth_inj]

/-- The bytes of a frame from byte `1` on, the speeds set apart. -/
lemma toList_drop_one (f : Vector Byte 9) :
    f.toList.drop 1 = [f[1]!] ++ [f[2]!, f[3]!, f[4]!, f[5]!] ++ [f[6]!, f[7]!, f[8]!] := by
  apply List.ext_getElem
  · simp
  · intro i h₁ h₂
    simp only [List.length_drop, Vector.length_toList] at h₁
    rw [List.getElem_drop, Vector.getElem_toList]
    interval_cases i <;> rfl

/-- The test on a frame asks that its bytes from `1` on bring the register to zero. -/
lemma frameOk_iff_feedAll (f : Vector Byte 9) :
    frameOk f = true ↔ feedAll poly16 crcInit (f.toList.drop 1) = 0 := by
  rw [frameOk, crcTest_iff_feedAll _ _ (by simp), List.take_of_length_le (by simp)]
  rfl

/-- **A stopped frame** is still valid iff its speeds did not count.

**Proof sketch.** Clearing the speeds replaces four bytes in the middle of the message, and that
changes the register at the end by what they leave in a register started at zero. -/
lemma frameOk_clearSpeeds_iff {f : Vector Byte 9} (hf : frameOk f = true) :
    frameOk (clearSpeeds f) = true ↔ speedResidue f = 0 := by
  have hzero : feedAll poly16 0 ([0, 0, 0, 0] : List Byte) = 0 := by decide +kernel
  have hclear : (clearSpeeds f).toList.drop 1 =
      [f[1]!] ++ ([0, 0, 0, 0] : List Byte) ++ [f[6]!, f[7]!, f[8]!] := by
    rw [toList_drop_one]
    simp [clearSpeeds]
  have hmiddle := feedAll_middle_iff (l := ([0, 0, 0, 0] : List Byte))
    (m := [f[2]!, f[3]!, f[4]!, f[5]!]) rfl crcInit 0 [f[1]!] [f[6]!, f[7]!, f[8]!]
  rw [frameOk_iff_feedAll, toList_drop_one] at hf
  rw [hf, hzero, ← hclear, ← frameOk_iff_feedAll] at hmiddle
  rw [hmiddle, speedResidue_eq_zero_iff, eq_comm]

/-! ## Runs without a client on TCP -/

/-- The step is not a `recv` of `Thread_TCP`. -/
def notTcp : Event → Bool
  | .tcpRecv _ => false
  | _ => true

/-- The step does not stop a frame whose speeds count in its checksum. -/
def KeepsChecksum (s : State longBits) (e : Event) : Prop :=
  e = .dog → stops s → speedResidue s.buffso_Raw_Data_In = 0

instance (s : State longBits) (e : Event) : Decidable (KeepsChecksum s e) :=
  inferInstanceAs (Decidable (_ → _ → _))

/-- Wherever in the run after the first command `driveraw` is called, the frame it writes is
valid. -/
def DrivenFramesOk (s : State longBits) (es : List Event) : Prop :=
  ∀ pre post, es = pre ++ post → sinceCommand s pre ≠ none →
    ∀ f, .serial f ∈ (server longBits).emit ((server longBits).run s pre) .driveraw →
      frameOk f = true

/-- A datagram that is accepted leaves a valid frame. -/
lemma frameOk_commandFrame {s : State longBits} {e : Event} (he : isCommand s e = true)
    (htcp : notTcp e = true) : frameOk (commandFrame s e) = true := by
  cases e with
  | trooperIn r =>
    rw [commandFrame, frameOk_overlay_take]
    exact he
  | tcpRecv r => simp [notTcp] at htcp
  | _ => simp [isCommand] at he

/-- Before the first command the frame is all zero. -/
lemma frame_next_of_no_command {s : State longBits} {e : Event} (he : isCommand s e = false)
    (hs : s.buffso_Raw_Data_In = Vector.replicate 9 0) :
    ((server longBits).next s e).buffso_Raw_Data_In = Vector.replicate 9 0 := by
  have hclear : clearSpeeds (Vector.replicate 9 0) = Vector.replicate 9 0 := by decide
  rw [frame_next, if_neg (by simp [he]), hs, hclear, ite_self]

/-- A step that keeps the checksum keeps a valid frame valid. -/
lemma frameOk_next {s : State longBits} {e : Event} (htcp : notTcp e = true)
    (he : KeepsChecksum s e) (hs : isCommand s e = false → frameOk s.buffso_Raw_Data_In = true) :
    frameOk ((server longBits).next s e).buffso_Raw_Data_In = true := by
  rw [frame_next]
  split_ifs with hcmd hstop
  · exact frameOk_commandFrame hcmd htcp
  · exact (frameOk_clearSpeeds_iff (hs (by simpa using hcmd))).mpr (he hstop.1 hstop.2)
  · exact hs (by simpa using hcmd)

/-- Before the first command of a run the frame is all zero. -/
lemma frame_run_of_no_command (hUSB1 : ℤ) {es : List Event}
    (h : sinceCommand (State.start 0 hUSB1 : State longBits) es = none) :
    ((server longBits).run (State.start 0 hUSB1) es).buffso_Raw_Data_In = Vector.replicate 9 0 := by
  refine (server longBits).history_invariant countSinceCommand
    (R := fun s n => n = none → s.buffso_Raw_Data_In = Vector.replicate 9 0)
    (fun s n e hs hn => ?_) (fun _ => rfl) es h
  rw [countSinceCommand] at hn
  split_ifs at hn with hcmd hdog
  · exact frame_next_of_no_command (by simpa using hcmd) (hs (by simpa using hn))
  · exact frame_next_of_no_command (by simpa using hcmd) (hs hn)

/-- After the first command of a run without TCP whose steps keep the checksum the frame is
valid. -/
lemma frameOk_run (hUSB1 : ℤ) {es : List Event} (htcp : ∀ e ∈ es, notTcp e = true)
    (hkeep : (server longBits).Along KeepsChecksum (State.start 0 hUSB1) es)
    (h : sinceCommand (State.start 0 hUSB1 : State longBits) es ≠ none) :
    frameOk ((server longBits).run (State.start 0 hUSB1) es).buffso_Raw_Data_In = true := by
  refine (server longBits).history_induction countSinceCommand
    (R := fun s n => n ≠ none → frameOk s.buffso_Raw_Data_In = true)
    (fun s n e hC hs hn => frameOk_next hC.1 hC.2 fun hcmd => hs ?_) (fun h => absurd rfl h)
    ((server longBits).along_and.mpr ⟨(server longBits).along_event_iff.mpr htcp, hkeep⟩) h
  rintro rfl
  simp [countSinceCommand, hcmd] at hn

/-- **When the frames written are valid.** In a run without a client on TCP, every frame that
`driveraw` writes after the first accepted datagram is valid iff there is no serial handle or no
iteration of `Thread_Dog` stops a frame whose speed bytes count in its checksum.

**Proof sketch.** Such an iteration turns a valid frame into one that is not, and the next
`driveraw` writes it. All other steps keep a valid frame valid. -/
theorem drivenFramesOk_iff (hUSB1 : ℤ) (es : List Event) (htcp : ∀ e ∈ es, notTcp e = true) :
    DrivenFramesOk (State.start 0 hUSB1 : State longBits) es ↔
      hUSB1 = 0 ∨ (server longBits).Along KeepsChecksum (State.start 0 hUSB1) es := by
  set start : State longBits := State.start 0 hUSB1 with hstart
  have hhandle : ∀ pre, ((server longBits).run start pre).hUSB1 = hUSB1 := fun pre => hUSB1_run _ _
  constructor
  · intro h
    rcases eq_or_ne hUSB1 0 with hzero | hne
    · exact Or.inl hzero
    refine Or.inr (((server longBits).along_iff _ _ _).mpr fun pre e post hes hdog hstop => ?_)
    subst hes hdog
    rcases eq_or_ne (sinceCommand start pre) none with hnone | hsome
    · rw [frame_run_of_no_command hUSB1 hnone]
      decide +kernel
    have hbefore : frameOk ((server longBits).run start pre).buffso_Raw_Data_In = true := by
      refine h pre (.dog :: post) rfl hsome _ ?_
      rw [emit_driveraw, hhandle, if_neg hne]
      exact List.mem_singleton_self _
    refine (frameOk_clearSpeeds_iff hbefore).mp (h (pre ++ [.dog]) post (by simp) ?_ _ ?_)
    · rw [sinceCommand_concat]
      simpa [countSinceCommand, isCommand] using hsome
    · rw [emit_driveraw, hhandle, if_neg hne, Machine.run_append, Machine.run_cons,
        Machine.run_nil, frame_next, if_neg (by simp [isCommand]), if_pos ⟨rfl, hstop⟩]
      exact List.mem_singleton_self _
  · rintro (rfl | hkeep) pre post rfl hsome f hf
    · rw [emit_driveraw, hhandle, if_pos rfl] at hf
      simp at hf
    · obtain ⟨-, rfl⟩ := serial_mem_emit hf
      rw [Machine.along_append] at hkeep
      exact frameOk_run hUSB1 (fun e he => htcp e (by simp [he])) hkeep.1 hsome

/-- A command to stand still is still valid when it is stopped. -/
theorem drivenFramesOk_standing :
    DrivenFramesOk (State.start 0 3 : State 32)
      [.trooperIn (.data [0xFF, 0x07, 0x00, 0x00, 0x00, 0x00, 0xA0, 0x01, 0xD4]), .dog, .dog, .dog,
        .dog] :=
  (drivenFramesOk_iff 3 _ (by decide)).mpr (Or.inr (by decide +kernel))

/-- A command to drive on is not: after four iterations of `Thread_Dog` the frame has lost its
checksum. -/
theorem not_drivenFramesOk_driving :
    ¬ DrivenFramesOk (State.start 0 3 : State 32)
      [.trooperIn (.data [0xFF, 0x07, 0x78, 0x00, 0x78, 0x00, 0xA0, 0x21, 0xC7]), .dog, .dog, .dog,
        .dog] := by
  intro h
  have hbad : frameOk ((server 32).run (State.start 0 3)
      [.trooperIn (.data [0xFF, 0x07, 0x78, 0x00, 0x78, 0x00, 0xA0, 0x21, 0xC7]), .dog, .dog, .dog,
        .dog]).buffso_Raw_Data_In = false := by decide +kernel
  rw [h _ [] (List.append_nil _).symm (by decide +kernel) _ ?_] at hbad
  · exact absurd hbad (by decide)
  · rw [emit_driveraw, hUSB1_run, if_neg (by decide)]
    exact List.mem_singleton_self _

end Wifibot
