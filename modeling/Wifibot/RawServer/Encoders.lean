import Wifibot.Crc16Detection
import Wifibot.RawServer.Command

set_option relaxedAutoImplicit false
set_option autoImplicit false

/-!
# The encoders of the raw server

`SetRS232Motor33f`, `SetRS232Motor33f_low_res` and `SetRS232MotorPID33f` fill the front of a local
buffer with a frame and hand it to `writers232`. A plain `char` is signed on some targets and
unsigned on others; it shows where one is promoted to `int`, in the low-resolution encoder. The
local buffer starts with what the stack held.

## Main definitions

* `Wifibot.charInt` — a plain `char` promoted to `int`.
* `Wifibot.motorBuffer`, `Wifibot.lowResBuffer`, `Wifibot.pidBuffer` — the buffers that the encoders
  hand over.

## Main results

* `Wifibot.motorFrame_eq`, `Wifibot.lowResFrame_eq`, `Wifibot.pidFrame_eq` — the frames in full: a
  header and a body with its checksum.
* `Wifibot.encoders_roundTrip` — every frame carries its checksum and its arguments.
-/

namespace Wifibot

/-! ## Writing to the port -/

/-- The result of `write(hUSB, buffer + kk, 1)`: the byte went out, it did not, or an error. -/
inductive WriteResult
  | written
  | zero
  | error
  deriving DecidableEq

/-- What `write` returns, as it is added to an `unsigned int`. -/
def WriteResult.ret : WriteResult → BitVec 32
  | .written => 1
  | .zero => 0
  | .error => -1

/-- The byte count of a call, the number of writes made on the port, and (not part of the source)
the bytes that went out. -/
structure WriteState where
  n : BitVec 32
  pos : ℕ
  sent : List Byte

/-- `*lpNumberOfBytesWritten += write(hUSB, buffer + kk, 1)`, with the results of successive
writes. -/
def WriteState.write (results : ℕ → WriteResult) (buffer : List Byte) (kk : ℕ) (st : WriteState) :
    WriteState where
  n := st.n + (results st.pos).ret
  pos := st.pos + 1
  sent := if results st.pos = .written then st.sent ++ [buffer.getD kk 0] else st.sent

/-- The loop of `writers232`: the bytes still to write, and `kk`. -/
def writeLoop (results : ℕ → WriteResult) (buffer : List Byte) : ℕ → ℕ → WriteState → WriteState
  | 0, _, st => st
  | k + 1, kk, st => writeLoop results buffer k (kk + 1) (st.write results buffer kk)

/-- `writers232`: without a handle it returns `0` and touches nothing; otherwise its status is the
comparison of an unsigned number with zero. -/
def writers232 (hUSB : ℤ) (results : ℕ → WriteResult) (buffer : List Byte)
    (nNumberOfBytesToWrite : ℕ) (st : WriteState) : ℤ × WriteState :=
  if hUSB = 0 then (0, st)
  else
    let st := writeLoop results buffer nNumberOfBytesToWrite 0 { st with n := 0 }
    (if st.n ≥ 0 then 1 else 0, st)

/-! ## The buffers -/

/-- A plain `char` promoted to `int`. -/
def charInt (signed : Bool) (x : Byte) : BitVec 32 :=
  if signed then x.signExtend 32 else x.setWidth 32

/-- The local buffer that `SetRS232Motor33f` hands to `writers232`. -/
def motorBuffer (sbuf : Vector Byte 20) (speed1 speed2 : BitVec 16) (SpeedFlag : Byte) :
    Vector Byte 20 :=
  let sbuf := (sbuf.set! 0 255).set! 1 0x07
  let sbuf := (sbuf.set! 2 (loByte speed1)).set! 3 (hiByte speed1)
  let sbuf := (sbuf.set! 4 (loByte speed2)).set! 5 (hiByte speed2)
  let sbuf := sbuf.set! 6 SpeedFlag
  let mycrcsend := crc16 (sbuf.toList.drop 1) 6
  (sbuf.set! 7 (loByte mycrcsend)).set! 8 (hiByte mycrcsend)

/-- The local buffer that `SetRS232Motor33f_low_res` hands to `writers232`. -/
def lowResBuffer (signed : Bool) (sbuf : Vector Byte 20) (speed1 speed2 : Byte) :
    Vector Byte 20 :=
  let tt : Byte := 0
  let sbuf := (sbuf.set! 0 255).set! 1 0x07
  let tmp1 := 8 * (charInt signed speed1 &&& 0x3F)
  let tmp2 := 8 * (charInt signed speed2 &&& 0x3F)
  let tt := if charInt signed speed2 &&& 0x80 ≠ 0 then tt + 32 else tt
  let tt := if charInt signed speed2 &&& 0x40 ≠ 0 then tt + 16 else tt
  let sbuf := (sbuf.set! 2 (tmp1.setWidth 8)).set! 3 ((tmp1.sshiftRight 8).setWidth 8)
  let sbuf := (sbuf.set! 4 (tmp2.setWidth 8)).set! 5 ((tmp2.sshiftRight 8).setWidth 8)
  let sbuf := sbuf.set! 6
    (((charInt signed speed1 &&& 0x80) + (charInt signed speed1 &&& 0x40) +
      tt.setWidth 32).setWidth 8)
  let mycrcsend := crc16 (sbuf.toList.drop 1) 6
  (sbuf.set! 7 (loByte mycrcsend)).set! 8 (hiByte mycrcsend)

/-- The local buffer that `SetRS232MotorPID33f` hands to `writers232`. -/
def pidBuffer (sbuf : Vector Byte 20) (speed1 speed2 pp ii dd : Byte) (maxspeed : BitVec 16) :
    Vector Byte 20 :=
  let sbuf := (sbuf.set! 0 255).set! 1 0x09
  let sbuf := (sbuf.set! 2 speed1).set! 3 speed2
  let sbuf := ((sbuf.set! 4 pp).set! 5 ii).set! 6 dd
  let sbuf := (sbuf.set! 7 (loByte maxspeed)).set! 8 (hiByte maxspeed)
  let mycrcsend := crc16 (sbuf.toList.drop 1) 8
  (sbuf.set! 9 (loByte mycrcsend)).set! 10 (hiByte mycrcsend)

/-- `SetRS232Motor33f`. -/
def SetRS232Motor33f (hUSB : ℤ) (results : ℕ → WriteResult) (sbuf : Vector Byte 20)
    (st : WriteState) (speed1 speed2 : BitVec 16) (SpeedFlag : Byte) : ℤ × WriteState :=
  writers232 hUSB results (motorBuffer sbuf speed1 speed2 SpeedFlag).toList 9 st

/-- `SetRS232Motor33f_low_res`. -/
def SetRS232Motor33f_low_res (signed : Bool) (hUSB : ℤ) (results : ℕ → WriteResult)
    (sbuf : Vector Byte 20) (st : WriteState) (speed1 speed2 : Byte) : ℤ × WriteState :=
  writers232 hUSB results (lowResBuffer signed sbuf speed1 speed2).toList 9 st

/-- `SetRS232MotorPID33f`. -/
def SetRS232MotorPID33f (hUSB : ℤ) (results : ℕ → WriteResult) (sbuf : Vector Byte 20)
    (st : WriteState) (speed1 speed2 pp ii dd : Byte) (maxspeed : BitVec 16) : ℤ × WriteState :=
  writers232 hUSB results (pidBuffer sbuf speed1 speed2 pp ii dd maxspeed).toList 11 st

/-! ## The frames -/

/-- The cells of a buffer between two places. -/
lemma drop_take_toList {n : ℕ} (sbuf : Vector Byte n) {i k : ℕ} (h : i + k ≤ n) :
    (sbuf.toList.drop i).take k = (List.range k).map fun j => sbuf[i + j]! := by
  apply List.ext_getElem
  · simp
    omega
  · intro j h₁ h₂
    have hj : i + j < n := by
      simp only [List.length_map, List.length_range] at h₂
      omega
    simp [hj]

/-- Two cells written at the end of the front of a list. -/
lemma take_set_set {l : List Byte} {k : ℕ} (h : k + 2 ≤ l.length) (a b : Byte) :
    ((l.set k a).set (k + 1) b).take (k + 2) = l.take k ++ [a, b] := by
  have h₁ : k + 1 < ((l.set k a).set (k + 1) b).length := by
    simp
    omega
  rw [List.take_succ_eq_append_getElem h₁, List.take_succ_eq_append_getElem (Nat.lt_of_succ_lt h₁),
    List.take_set_of_le (by omega), List.take_set_of_le le_rfl]
  simp

/-- **Sealing a buffer**: when the checksum of `k` bytes from offset `1` on is written behind them,
the front of the buffer is its first byte and these bytes with their checksum. -/
lemma take_sealed {n : ℕ} (sbuf : Vector Byte n) {k : ℕ} (hk : k + 3 ≤ n) {x : BitVec 16}
    (hx : x = crc16 (sbuf.toList.drop 1) (BitVec.ofNat 8 k)) (hn : n ≤ 255 := by omega) :
    ((sbuf.set! (k + 1) (loByte x)).set! (k + 2) (hiByte x)).toList.take (k + 3) =
      sbuf[0]! :: withCrc ((sbuf.toList.drop 1).take k) := by
  have hlen : ((sbuf.toList.drop 1).take k).length = k := by
    simp
    omega
  have hcrc : crc16 ((sbuf.toList.drop 1).take k) (BitVec.ofNat 8 k) = x := by
    rw [hx]
    refine crc16_congr ?_
    rw [BitVec.toNat_ofNat, Nat.mod_eq_of_lt (by omega), List.take_take, Nat.min_self]
  have hcons : sbuf.toList = sbuf[0]! :: sbuf.toList.drop 1 := by
    rw [← List.drop_zero (l := sbuf.toList), List.drop_eq_getElem_cons (by simp; omega)]
    simp [show 0 < n by omega]
  rw [withCrc, hlen, hcrc, Vector.toList_set!, Vector.toList_set!, hcons, List.set_cons_succ,
    List.set_cons_succ, List.take_succ_cons, take_set_set (by simp; omega)]
  rfl

/-- The frame of `SetRS232Motor33f`: the bytes that `writers232` is asked to write. -/
def motorFrame (sbuf : Vector Byte 20) (speed1 speed2 : BitVec 16) (SpeedFlag : Byte) :
    List Byte :=
  (motorBuffer sbuf speed1 speed2 SpeedFlag).toList.take 9

/-- The frame of `SetRS232Motor33f_low_res`. -/
def lowResFrame (signed : Bool) (sbuf : Vector Byte 20) (speed1 speed2 : Byte) : List Byte :=
  (lowResBuffer signed sbuf speed1 speed2).toList.take 9

/-- The frame of `SetRS232MotorPID33f`. -/
def pidFrame (sbuf : Vector Byte 20) (speed1 speed2 pp ii dd : Byte) (maxspeed : BitVec 16) :
    List Byte :=
  (pidBuffer sbuf speed1 speed2 pp ii dd maxspeed).toList.take 11

/-- The frame of `SetRS232Motor33f` in full. -/
lemma motorFrame_eq (sbuf : Vector Byte 20) (speed1 speed2 : BitVec 16) (SpeedFlag : Byte) :
    motorFrame sbuf speed1 speed2 SpeedFlag =
      255 :: withCrc [0x07, loByte speed1, hiByte speed1, loByte speed2, hiByte speed2,
        SpeedFlag] := by
  refine (take_sealed _ (by omega : 6 + 3 ≤ 20) rfl).trans ?_
  rw [drop_take_toList _ (by omega)]
  simp [List.range_succ]

/-- The frame of `SetRS232MotorPID33f` in full. -/
lemma pidFrame_eq (sbuf : Vector Byte 20) (speed1 speed2 pp ii dd : Byte)
    (maxspeed : BitVec 16) :
    pidFrame sbuf speed1 speed2 pp ii dd maxspeed =
      255 :: withCrc [0x09, speed1, speed2, pp, ii, dd, loByte maxspeed, hiByte maxspeed] := by
  refine (take_sealed _ (by omega : 8 + 3 ≤ 20) rfl).trans ?_
  rw [drop_take_toList _ (by omega)]
  simp [List.range_succ]

/-! ## The low-resolution frame -/

/-- A wheel's low six bits times `8`, as its two bytes carry them. -/
def sixBits (x : Byte) : BitVec 16 := 8 * (x &&& 0x3F).setWidth 16

/-- The flag byte: the upper two bits of the one speed, and behind them those of the other. -/
def controlBits (speed1 speed2 : Byte) : Byte := (speed1 &&& 0xC0) + ((speed2 >>> 2) &&& 0x30)

/-- The low byte of a wheel's value, for both kinds of `char`. -/
lemma lowRes_loByte (signed : Bool) (x : Byte) :
    (8 * (charInt signed x &&& 0x3F)).setWidth 8 = loByte (sixBits x) := by
  revert signed x
  decide +kernel

/-- The high byte of a wheel's value. -/
lemma lowRes_hiByte (signed : Bool) (x : Byte) :
    ((8 * (charInt signed x &&& 0x3F)).sshiftRight 8).setWidth 8 = hiByte (sixBits x) := by
  revert signed x
  decide +kernel

/-- The part of the flag byte that comes from the first speed. -/
lemma lowRes_speed1 (signed : Bool) (x : Byte) :
    (charInt signed x &&& 0x80) + (charInt signed x &&& 0x40) = (x &&& 0xC0).setWidth 32 := by
  revert signed x
  decide +kernel

/-- The part that comes from the second speed, as `tt` collects it. -/
lemma lowRes_tt (signed : Bool) (x : Byte) :
    (if charInt signed x &&& 0x40 ≠ 0 then
        (if charInt signed x &&& 0x80 ≠ 0 then (0 : Byte) + 32 else 0) + 16
      else if charInt signed x &&& 0x80 ≠ 0 then (0 : Byte) + 32 else 0) =
      (x >>> 2) &&& 0x30 := by
  revert signed x
  decide +kernel

/-- Bytes are added as `int`s and cut. -/
lemma setWidth_add_setWidth (x y : Byte) : (x.setWidth 32 + y.setWidth 32).setWidth 8 = x + y := by
  rw [BitVec.setWidth_add _ _ (by decide)]
  simp

/-- **The low-resolution encoder** is the other one on the wheels' values, for both kinds of
`char`. -/
lemma lowResFrame_eq (signed : Bool) (sbuf : Vector Byte 20) (speed1 speed2 : Byte) :
    lowResFrame signed sbuf speed1 speed2 =
      motorFrame sbuf (sixBits speed1) (sixBits speed2) (controlBits speed1 speed2) := by
  simp only [lowResFrame, lowResBuffer, lowRes_loByte, lowRes_hiByte, lowRes_speed1, lowRes_tt,
    setWidth_add_setWidth]
  rfl

/-- The two control bits of each wheel are in the flag byte. -/
lemma controlBits_and (speed1 speed2 : Byte) :
    controlBits speed1 speed2 &&& 0xC0 = speed1 &&& 0xC0 ∧
      (controlBits speed1 speed2 <<< 2) &&& 0xC0 = speed2 &&& 0xC0 := by
  have hmem₁ : ∀ x : Byte, x &&& 0xC0 ∈ [(0 : Byte), 0x40, 0x80, 0xC0] := by decide
  have hmem₂ : ∀ x : Byte, ((x >>> 2) &&& 0x30, x &&& 0xC0) ∈
      [((0 : Byte), (0 : Byte)), (0x10, 0x40), (0x20, 0x80), (0x30, 0xC0)] := by decide
  have hsum : ∀ u ∈ [(0 : Byte), 0x40, 0x80, 0xC0], ∀ v ∈
      [((0 : Byte), (0 : Byte)), (0x10, 0x40), (0x20, 0x80), (0x30, 0xC0)],
      (u + v.1) &&& 0xC0 = u ∧ ((u + v.1) <<< 2) &&& 0xC0 = v.2 := by
    simp only [List.forall_mem_cons, List.not_mem_nil, false_imp_iff, implies_true, and_true]
    decide
  exact hsum _ (hmem₁ speed1) _ (hmem₂ speed2)

/-- A byte from its low six bits and its upper two. -/
lemma byte_of_bits (x : Byte) : x = (x &&& 0x3F) ||| (x &&& 0xC0) := by
  revert x
  decide

/-! ## Round trips -/

/-- The two trailing bytes of a frame are the checksum of its bytes from offset `1` on, `n` of
them. -/
def CarriesCrc (frame : List Byte) (n : ℕ) : Prop :=
  frame.length = n + 3 ∧
    leShort (frame.getD (n + 1) 0) (frame.getD (n + 2) 0) =
      crc16 (frame.drop 1) (BitVec.ofNat 8 n)

/-- A datagram passes the test of `Thread_TCP_Trooper_In`, whatever its buffer held. -/
def PassesTrooperIn (frame : List Byte) : Prop :=
  ∀ buffso_rcvIN : Vector Byte 100,
    trooperInTest (buffso_rcvIN.overlay ((Received.data frame).stored 9)) = true

/-- A header and a body with its checksum. -/
lemma carriesCrc_withCrc {m : List Byte} (hm : m.length ≤ 253) :
    CarriesCrc (255 :: withCrc m) m.length := by
  have htest := crcTest_withCrc m hm
  rw [crcTest, beq_iff_eq, toNat_ofNat_length hm] at htest
  exact ⟨by simp, htest⟩

/-- A motor frame with its checksum passes the test. -/
lemma CarriesCrc.passesTrooperIn {frame : List Byte} (h : CarriesCrc frame 6) :
    PassesTrooperIn frame := by
  intro buf
  have hlen : frame.length = 9 := h.1
  have htake : (buf.overlay frame).toList.take 9 = frame := by
    rw [← hlen]
    exact Vector.take_toList_overlay _ _ (by omega)
  have hcrc : leShort (frame.getD 7 0) (frame.getD 8 0) = crc16 (frame.drop 1) 6 := h.2
  rw [Received.stored_data (Nat.le_of_eq hlen), ← frameOk_overlay_take (Vector.replicate 9 0),
    htake, frameOk, Vector.toList_overlay_of_length_eq _ _ hlen, crcTest, beq_iff_eq, ← hcrc]
  simp

/-- Every motor frame carries its checksum and passes the test. -/
lemma motorFrame_crc (sbuf : Vector Byte 20) (speed1 speed2 : BitVec 16) (SpeedFlag : Byte) :
    CarriesCrc (motorFrame sbuf speed1 speed2 SpeedFlag) 6 ∧
      PassesTrooperIn (motorFrame sbuf speed1 speed2 SpeedFlag) := by
  have hcrc : CarriesCrc (motorFrame sbuf speed1 speed2 SpeedFlag) 6 := by
    rw [motorFrame_eq]
    exact carriesCrc_withCrc (by simp)
  exact ⟨hcrc, hcrc.passesTrooperIn⟩

/-- The speeds that a low-resolution frame carries. -/
def lowResSpeeds (frame : List Byte) : Byte × Byte :=
  ((leShort (frame.getD 2 0) (frame.getD 3 0) / 8).setWidth 8 ||| (frame.getD 6 0 &&& 0xC0),
    (leShort (frame.getD 4 0) (frame.getD 5 0) / 8).setWidth 8 |||
      ((frame.getD 6 0 <<< 2) &&& 0xC0))

/-- A wheel's value as a number. -/
lemma toNat_sixBits (x : Byte) : (sixBits x).toNat = 8 * (x &&& 0x3F).toNat := by
  revert x
  decide

/-- A wheel's value gives its low six bits back. -/
lemma sixBits_div (x : Byte) : (sixBits x / 8).setWidth 8 = x &&& 0x3F := by
  revert x
  decide

/-- The low-resolution speeds come back. -/
lemma lowResSpeeds_lowResFrame (signed : Bool) (sbuf : Vector Byte 20) (speed1 speed2 : Byte) :
    lowResSpeeds (lowResFrame signed sbuf speed1 speed2) = (speed1, speed2) := by
  obtain ⟨hbits₁, hbits₂⟩ := controlBits_and speed1 speed2
  rw [lowResFrame_eq, motorFrame_eq, lowResSpeeds]
  simp only [withCrc, List.cons_append, List.getD_cons_zero, List.getD_cons_succ,
    leShort_loByte_hiByte, sixBits_div, hbits₁, hbits₂, ← byte_of_bits]

/-- **Round trips of the encoders**, for both kinds of `char` and whatever the local buffer held.
Every frame that is handed to `writers232` carries the checksum of its bytes from offset `1` on, and
the nine-byte frames pass the test of `Thread_TCP_Trooper_In`. The fields of the payload are the
arguments; of the low-resolution form, each wheel's low six bits times `8` and its two control bits,
which determine both speed bytes.

**Proof sketch.** A frame is a header and a body with its checksum, whose bytes are the fields. The
low-resolution frame is the other motor frame on the wheels' values. -/
theorem encoders_roundTrip (signed : Bool) (sbuf : Vector Byte 20) :
    (∀ (speed1 speed2 : BitVec 16) (SpeedFlag : Byte),
        let frame := motorFrame sbuf speed1 speed2 SpeedFlag
        CarriesCrc frame 6 ∧ PassesTrooperIn frame ∧
          leShort (frame.getD 2 0) (frame.getD 3 0) = speed1 ∧
          leShort (frame.getD 4 0) (frame.getD 5 0) = speed2 ∧ frame.getD 6 0 = SpeedFlag) ∧
      (∀ speed1 speed2 : Byte,
        let frame := lowResFrame signed sbuf speed1 speed2
        CarriesCrc frame 6 ∧ PassesTrooperIn frame ∧
          (leShort (frame.getD 2 0) (frame.getD 3 0)).toNat = 8 * (speed1 &&& 0x3F).toNat ∧
          (leShort (frame.getD 4 0) (frame.getD 5 0)).toNat = 8 * (speed2 &&& 0x3F).toNat ∧
          frame.getD 6 0 &&& 0xC0 = speed1 &&& 0xC0 ∧
          (frame.getD 6 0 <<< 2) &&& 0xC0 = speed2 &&& 0xC0 ∧
          lowResSpeeds frame = (speed1, speed2)) ∧
      ∀ (speed1 speed2 pp ii dd : Byte) (maxspeed : BitVec 16),
        let frame := pidFrame sbuf speed1 speed2 pp ii dd maxspeed
        CarriesCrc frame 8 ∧ frame.getD 2 0 = speed1 ∧ frame.getD 3 0 = speed2 ∧
          frame.getD 4 0 = pp ∧ frame.getD 5 0 = ii ∧ frame.getD 6 0 = dd ∧
          leShort (frame.getD 7 0) (frame.getD 8 0) = maxspeed := by
  refine ⟨fun speed1 speed2 SpeedFlag => ?_, fun speed1 speed2 => ?_,
    fun speed1 speed2 pp ii dd maxspeed => ?_⟩
  · obtain ⟨hcrc, htest⟩ := motorFrame_crc sbuf speed1 speed2 SpeedFlag
    refine ⟨hcrc, htest, ?_⟩
    rw [motorFrame_eq]
    exact ⟨leShort_loByte_hiByte speed1, leShort_loByte_hiByte speed2, rfl⟩
  · obtain ⟨hbits₁, hbits₂⟩ := controlBits_and speed1 speed2
    have hspeeds := lowResSpeeds_lowResFrame signed sbuf speed1 speed2
    rw [lowResFrame_eq] at hspeeds ⊢
    obtain ⟨hcrc, htest⟩ := motorFrame_crc sbuf (sixBits speed1) (sixBits speed2)
      (controlBits speed1 speed2)
    refine ⟨hcrc, htest, ?_, ?_, ?_, ?_, hspeeds⟩
    · rw [motorFrame_eq, ← toNat_sixBits]
      exact congrArg BitVec.toNat (leShort_loByte_hiByte _)
    · rw [motorFrame_eq, ← toNat_sixBits]
      exact congrArg BitVec.toNat (leShort_loByte_hiByte _)
    · rw [motorFrame_eq]
      exact hbits₁
    · rw [motorFrame_eq]
      exact hbits₂
  · rw [pidFrame_eq]
    exact ⟨carriesCrc_withCrc (by simp), rfl, rfl, rfl, rfl, rfl, leShort_loByte_hiByte maxspeed⟩

end Wifibot
