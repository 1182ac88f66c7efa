import Wifibot.Crc16Detection
import Wifibot.WindowsServer.Command

set_option relaxedAutoImplicit false
set_option autoImplicit false

/-!
# The checksum of the frames on the COM port

`Thread_RS23233f` sets bit `0` of the flag byte of the shared frame before it writes the frame, and
leaves the checksum in bytes `7` and `8` as the client computed it. Every encoder of the source,
`SetMotorRS23233f` and its siblings, computes the checksum of the bytes it sends. A single changed
byte always shows in the checksum, so a frame is written valid only if its client had set the bit.

## Main definitions

* `Wifibot.Windows.frameOk` — the checksum test on a written frame.
* `Wifibot.Windows.WrittenFramesOk` — every frame that a run writes passes it.
* `Wifibot.Windows.Quiet` — a step without a command and without a stop.

## Main results

* `Wifibot.feedAll_byte_injective` — one changed byte shows in the checksum.
* `Wifibot.Windows.writtenFramesOk_iff` — when the frames written after an accepted datagram are
  valid.
-/

namespace Wifibot

open Polynomial BitPoly ShiftRegister

/-- One byte fed to the register determines it.

**Proof sketch.** The sum of two different bytes is a burst of at most eight places, which the
generator does not divide. -/
lemma feedAll_byte_injective (c : BitVec 16) :
    Function.Injective fun b : Byte => feedAll poly16 c [b] := by
  intro b b' h
  change feedAll poly16 c [b] = feedAll poly16 c [b'] at h
  by_contra hne
  have hdvd : crcGen ∣ ofBits (wireBits [b ^^^ b']) := by
    have hxor := wireBits_zipWith_xor (l := [b]) (m := [b']) rfl
    rw [List.zipWith_cons_cons, List.zipWith_nil_left] at hxor
    rw [hxor, ofBits_zipWith_xor (by simp)]
    exact (feedAll_eq_iff_dvd (l := [b]) (m := [b']) rfl c).mp h
  have hset : true ∈ wireBits [b ^^^ b'] :=
    (true_mem_wireBits_iff _).mpr
      ⟨_, List.mem_singleton_self _, mt BitVec.xor_eq_zero_iff.mp hne⟩
  refine not_dvd_of_burst crcGen_coeff_zero (s := 0) (w := 16) (by rw [crcGen_degree]; rfl) hset
    (fun i hi => ?_) hdvd
  obtain ⟨hlt, -⟩ := List.getElem?_eq_some_iff.mp hi
  rw [length_wireBits] at hlt
  exact ⟨i.zero_le, hlt.trans (by simp)⟩

namespace Windows

/-- The checksum test on a written frame: bytes `7` and `8` are the checksum of bytes `1` to
`6`. -/
def frameOk (frame : List Byte) : Bool := crcTest (frame.drop 1) 6

/-- The frame at the front of a buffer. -/
def frameOf {n : ℕ} (buf : Vector Byte n) : List Byte := buf.toList.take 9

/-- The bytes of a frame from byte `1` on, the flag byte set apart. -/
lemma frameOf_drop_one (buf : Vector Byte 30) :
    (frameOf buf).drop 1 =
      [buf[1]!, buf[2]!, buf[3]!, buf[4]!, buf[5]!] ++ [buf[6]!] ++ [buf[7]!, buf[8]!] := by
  apply List.ext_getElem
  · simp [frameOf]
  · intro i h₁ h₂
    simp only [frameOf, List.length_drop, List.length_take, Vector.length_toList] at h₁
    simp only [frameOf, List.getElem_drop, List.getElem_take, Vector.getElem_toList]
    have hi : i < 8 := by omega
    interval_cases i <;> simp

/-- The test on a frame asks that its bytes from `1` on bring the register to zero. -/
lemma frameOk_iff_feedAll (buf : Vector Byte 30) :
    frameOk (frameOf buf) = true ↔ feedAll poly16 crcInit ((frameOf buf).drop 1) = 0 := by
  rw [frameOk, crcTest_iff_feedAll _ _ (by simp [frameOf]),
    List.take_of_length_le (by simp [frameOf])]
  rfl

/-- The test of `Thread_UDP_In` on its buffer is that of the frame it copies. -/
lemma udpInTest_eq (buf : Vector Byte 100) : udpInTest buf = frameOk (frameOf buf) := by
  have hbuf : udpInTest buf = crcTest (buf.toList.drop 1) 6 := by
    simp [udpInTest, crcTest, Crc16]
  have htake : (buf.toList.drop 1).take 8 = (((frameOf buf).drop 1).take 8) := by
    rw [frameOf, List.drop_take, List.take_take]
    rfl
  rw [Bool.eq_iff_iff, hbuf, frameOk, crcTest_iff_feedAll _ _ (by simp),
    crcTest_iff_feedAll _ _ (by simp [frameOf])]
  exact htake ▸ Iff.rfl

/-- **Setting the flag** of a valid frame leaves it valid iff the flag was set before. -/
lemma frameOk_setFlag_iff {buf : Vector Byte 30} (h : frameOk (frameOf buf) = true) :
    frameOk (frameOf (setFlag buf)) = true ↔ buf[6]! &&& 1 ≠ 0 := by
  by_cases hflag : buf[6]! &&& 1 = 0
  · refine iff_of_false (fun hok => ?_) (not_not.mpr hflag)
    have hset : (frameOf (setFlag buf)).drop 1 =
        [buf[1]!, buf[2]!, buf[3]!, buf[4]!, buf[5]!] ++ [buf[6]! + 1] ++
          [buf[7]!, buf[8]!] := by
      rw [frameOf_drop_one, setFlag, if_pos hflag]
      simp
    rw [frameOk_iff_feedAll, hset] at hok
    rw [frameOk_iff_feedAll, frameOf_drop_one, ← hok,
      feedAll_middle_iff (l := [buf[6]!]) (m := [buf[6]! + 1]) rfl crcInit 0] at h
    have hbyte : buf[6]! = buf[6]! + 1 := feedAll_byte_injective 0 h
    exact flag_add_one hflag (by rw [← hbyte]; exact hflag)
  · rw [setFlag, if_neg hflag]
    exact iff_of_true h hflag

/-! ## The frames after an accepted datagram -/

/-- The step is neither a command nor a stop of the watchdog. -/
def Quiet (s : State) (e : Event) : Prop := isCommand s e = false ∧ ¬ (e = .dog ∧ stops s)

instance (s : State) (e : Event) : Decidable (Quiet s e) :=
  inferInstanceAs (Decidable (_ ∧ _))

/-- A quiet step changes the motor frame at most by setting its flag. -/
lemma setFlag_next {s : State} {e : Event} (he : Quiet s e) :
    setFlag (server.next s e).buffso_rcvIN_Tcp = setFlag s.buffso_rcvIN_Tcp := by
  rw [motorBuffer_next he.1, if_neg he.2]
  split_ifs
  · exact setFlag_setFlag _
  · rfl

/-- **What quiet steps write**: the frame they found, with its flag set. -/
lemma serial_mem_outputs_iff {s : State} {es : List Event} (hes : server.Along Quiet s es)
    {f : List Byte} :
    .serial f ∈ server.outputs s es ↔
      .serialWrite ∈ es ∧ f = frameOf (setFlag s.buffso_rcvIN_Tcp) := by
  have hrun : ∀ pre post, es = pre ++ post →
      setFlag (server.run s pre).buffso_rcvIN_Tcp = setFlag s.buffso_rcvIN_Tcp := by
    rintro pre post rfl
    exact server.run_induction
      (I := fun t => setFlag t.buffso_rcvIN_Tcp = setFlag s.buffso_rcvIN_Tcp)
      (fun t e he ht => (setFlag_next he).trans ht) rfl ((server.along_append _ _ _ _).mp hes).1
  rw [Machine.mem_outputs_iff]
  constructor
  · rintro ⟨pre, e, post, hsplit, hf⟩
    obtain ⟨rfl, rfl⟩ := serial_mem_emit_iff.mp hf
    exact ⟨by simp [hsplit], by rw [hrun pre _ hsplit]; rfl⟩
  · rintro ⟨hmem, rfl⟩
    obtain ⟨pre, post, hsplit⟩ := List.append_of_mem hmem
    refine ⟨pre, .serialWrite, post, hsplit, serial_mem_emit_iff.mpr ⟨rfl, ?_⟩⟩
    rw [hrun pre _ hsplit]
    rfl

/-- An accepted datagram becomes the motor frame. -/
lemma frameOf_next_udpIn {s : State} {r : Received}
    (h : udpInTest (s.buffso_rcvIN.overlay (r.stored 9)) = true) :
    (server.next s (.udpIn r)).buffso_rcvIN_Tcp =
      s.buffso_rcvIN_Tcp.overlay (frameOf (s.buffso_rcvIN.overlay (r.stored 9))) := by
  rw [udpInTest, beq_iff_eq] at h
  simp only [Machine.next, server, Thread_UDP_In, if_pos h]
  rfl

/-- Every frame that a run writes to the COM port is valid. -/
def WrittenFramesOk (s : State) (es : List Event) : Prop :=
  ∀ f, .serial f ∈ server.outputs s es → frameOk f = true

/-- **When the frames written are valid.** From any state, after an accepted datagram, let any steps
follow without a command and without a stop of the watchdog. The frames they write to the COM port
are all valid iff there is none or the datagram's flag byte has bit `0` set.

**Proof sketch.** All they write is the accepted frame with that bit set. Where it was clear, one
byte of a valid frame has changed. -/
theorem writtenFramesOk_iff {s : State} {r : Received}
    (hacc : isCommand s (.udpIn r) = true) {es : List Event}
    (hes : server.Along Quiet (server.next s (.udpIn r)) es) :
    WrittenFramesOk (server.next s (.udpIn r)) es ↔
      (.serialWrite ∈ es → (s.buffso_rcvIN.overlay (r.stored 9))[6]! &&& 1 ≠ 0) := by
  have hbuf := frameOf_next_udpIn hacc
  set buf := (server.next s (.udpIn r)).buffso_rcvIN_Tcp with hbufdef
  set rcv := s.buffso_rcvIN.overlay (r.stored 9) with hrcv
  have hframe : frameOf buf = frameOf rcv := by
    rw [hbuf, frameOf]
    simpa [frameOf] using Vector.take_toList_overlay s.buffso_rcvIN_Tcp (frameOf rcv)
      (by simp [frameOf])
  have hok : frameOk (frameOf buf) = true := by
    rw [hframe, ← udpInTest_eq]
    exact hacc
  have hflag : buf[6]! = rcv[6]! := by
    rw [hbuf, getElem!_pos (s.buffso_rcvIN_Tcp.overlay _) 6 (by decide), Vector.getElem_overlay]
    simp [frameOf]
  rw [← hflag, ← frameOk_setFlag_iff hok]
  constructor
  · intro h hmem
    exact h _ ((serial_mem_outputs_iff hes).mpr ⟨hmem, rfl⟩)
  · intro h f hf
    obtain ⟨hmem, rfl⟩ := (serial_mem_outputs_iff hes).mp hf
    exact h hmem

/-- A client that sets the bit itself has its frames written valid. -/
theorem writtenFramesOk_flag_set :
    WrittenFramesOk
      (server.next State.start
        (.udpIn (.data [0xFF, 0x07, 0x78, 0x00, 0x78, 0x00, 0xA1, 0xE0, 0x07])))
      [.serialWrite, .robot restPayload, .dog, .serialWrite] :=
  (writtenFramesOk_iff (by decide +kernel) (by decide +kernel)).mpr (by decide +kernel)

/-- A client that does not has its frames dropped by the robot. -/
theorem not_writtenFramesOk_flag_clear :
    ¬ ∀ s r es, isCommand s (.udpIn r) = true →
      server.Along Quiet (server.next s (.udpIn r)) es →
      WrittenFramesOk (server.next s (.udpIn r)) es := by
  intro h
  have hok := h State.start (.data [0xFF, 0x07, 0x78, 0x00, 0x78, 0x00, 0xA0, 0x21, 0xC7])
    [.serialWrite] (by decide +kernel) (by decide +kernel)
    [0xFF, 0x07, 0x78, 0x00, 0x78, 0x00, 0xA1, 0x21, 0xC7] (by decide +kernel)
  exact absurd hok (by decide +kernel)

end Windows

end Wifibot
