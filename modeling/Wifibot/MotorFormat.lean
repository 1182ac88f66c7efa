import Wifibot.Crc16Frames
import Wifibot.RawServer.Encoders
import Wifibot.WindowsServer.Tuning
import Mathlib.Data.Set.Function

set_option relaxedAutoImplicit false
set_option autoImplicit false

/-!
# The formats of the frames to the robot

A frame to the robot is a header, a byte that says its kind, the fields of that kind, and a
checksum. Each encoder of the two servers produces the well-formed frames of its kind, every one of
them for exactly one choice of its arguments; the low-resolution encoders produce motor frames, and
those of the two servers differ in one bit of the flag byte.

## Main definitions

* `Wifibot.IsFrame` — the well-formed frames of a kind.
* `Wifibot.Windows.SetMotorRS23233f`, `Wifibot.Windows.SetMotorRS23233f_low_res` — the encoders of
  the Windows server.

## Main results

* `Wifibot.isFrame_iff` — well-formed frames are a header and a body with its checksum.
* `Wifibot.motor_format` — what the encoders of both servers produce.
-/

namespace Wifibot

/-! ## Well-formed frames -/

/-- A well-formed frame of a kind with `n` bytes of fields: the header, the kind, and the checksum
of all after the header. -/
def IsFrame (kind : Byte) (n : ℕ) (frame : List Byte) : Prop :=
  frame.length = n + 4 ∧ frame.getD 0 0 = 255 ∧ frame.getD 1 0 = kind ∧
    crcTest (frame.drop 1) (BitVec.ofNat 8 (n + 1)) = true

/-- **A well-formed frame** is the header and the body with its checksum. -/
lemma isFrame_iff {kind : Byte} {n : ℕ} (hn : n ≤ 252) {frame : List Byte} :
    IsFrame kind n frame ↔
      ∃ fields, fields.length = n ∧ frame = 255 :: withCrc (kind :: fields) := by
  constructor
  · rintro ⟨hlen, hhead, hkind, hcrc⟩
    match frame with
    | [] => simp at hlen
    | [_] => simp at hlen
    | a :: b :: l =>
      obtain rfl : a = 255 := hhead
      obtain rfl : b = kind := hkind
      have hl : (b :: l).length = n + 1 + 2 := by simpa using hlen
      refine ⟨l.take n, List.length_take_of_le ?_, ?_⟩
      · simp only [List.length_cons] at hl
        omega
      · exact congrArg (255 :: ·) ((crcTest_iff_eq_withCrc (by omega) hl).mp hcrc)
  · rintro ⟨fields, rfl, rfl⟩
    refine ⟨by simp, rfl, rfl, ?_⟩
    have hok := crcTest_withCrc (kind :: fields) (by simp; omega)
    rwa [List.length_cons] at hok

/-! ## The encoders of the raw server -/

/-- The arguments of `SetRS232Motor33f` in a frame. -/
def motorArgs (frame : List Byte) : BitVec 16 × BitVec 16 × Byte :=
  (leShort (frame.getD 2 0) (frame.getD 3 0), leShort (frame.getD 4 0) (frame.getD 5 0),
    frame.getD 6 0)

/-- The arguments of `SetRS232MotorPID33f` in a frame. -/
def pidArgs (frame : List Byte) : Byte × Byte × Byte × Byte × Byte × BitVec 16 :=
  (frame.getD 2 0, frame.getD 3 0, frame.getD 4 0, frame.getD 5 0, frame.getD 6 0,
    leShort (frame.getD 7 0) (frame.getD 8 0))

/-- **The motor frames** are what `SetRS232Motor33f` sends, each for one choice of speeds and
flag. -/
lemma bijOn_motorFrame (sbuf : Vector Byte 20) :
    Set.BijOn (fun a : BitVec 16 × BitVec 16 × Byte => motorFrame sbuf a.1 a.2.1 a.2.2) Set.univ
      {frame | IsFrame 0x07 5 frame} := by
  refine Set.InvOn.bijOn (show Set.InvOn motorArgs _ _ _ from ⟨?_, ?_⟩) ?_ (Set.mapsTo_univ _ _)
  · rintro ⟨speed1, speed2, flag⟩ _
    simp only [motorFrame_eq]
    exact Prod.ext (leShort_loByte_hiByte _) (Prod.ext (leShort_loByte_hiByte _) rfl)
  · intro frame hframe
    obtain ⟨fields, hlen, rfl⟩ := (isFrame_iff (by decide)).mp hframe
    obtain ⟨a, b, c, d, e, rfl⟩ : ∃ a b c d e, fields = [a, b, c, d, e] := by
      rcases fields with _ | ⟨a, _ | ⟨b, _ | ⟨c, _ | ⟨d, _ | ⟨e, _ | ⟨f, l⟩⟩⟩⟩⟩⟩ <;>
        simp_all
    simp only [motorFrame_eq, motorArgs, withCrc, List.cons_append, List.getD_cons_zero,
      List.getD_cons_succ, loByte_leShort, hiByte_leShort]
  · rintro ⟨speed1, speed2, flag⟩ _
    simp only [motorFrame_eq]
    exact (isFrame_iff (by decide)).mpr ⟨_, rfl, rfl⟩

/-- **The tuning frames** are what `SetRS232MotorPID33f` sends, each for one choice of its
arguments. -/
lemma bijOn_pidFrame (sbuf : Vector Byte 20) :
    Set.BijOn (fun a : Byte × Byte × Byte × Byte × Byte × BitVec 16 =>
        pidFrame sbuf a.1 a.2.1 a.2.2.1 a.2.2.2.1 a.2.2.2.2.1 a.2.2.2.2.2) Set.univ
      {frame | IsFrame 0x09 7 frame} := by
  refine Set.InvOn.bijOn (show Set.InvOn pidArgs _ _ _ from ⟨?_, ?_⟩) ?_ (Set.mapsTo_univ _ _)
  · rintro ⟨speed1, speed2, pp, ii, dd, maxspeed⟩ _
    simp only [pidFrame_eq, pidArgs, withCrc, List.cons_append, List.getD_cons_zero,
      List.getD_cons_succ, leShort_loByte_hiByte]
  · intro frame hframe
    obtain ⟨fields, hlen, rfl⟩ := (isFrame_iff (by decide)).mp hframe
    obtain ⟨a, b, c, d, e, f, g, rfl⟩ : ∃ a b c d e f g, fields = [a, b, c, d, e, f, g] := by
      rcases fields with _ | ⟨a, _ | ⟨b, _ | ⟨c, _ | ⟨d, _ | ⟨e, _ | ⟨f, _ | ⟨g, _ | ⟨i, l⟩⟩⟩⟩⟩⟩⟩⟩
        <;> simp_all
    simp only [pidFrame_eq, pidArgs, withCrc, List.cons_append, List.getD_cons_zero,
      List.getD_cons_succ, loByte_leShort, hiByte_leShort]
  · rintro ⟨speed1, speed2, pp, ii, dd, maxspeed⟩ _
    simp only [pidFrame_eq]
    exact (isFrame_iff (by decide)).mpr ⟨_, rfl, rfl⟩

/-- The control bits leave bit `3` of the flag byte clear. -/
lemma controlBits_and_8 (speed1 speed2 : Byte) : controlBits speed1 speed2 &&& 8 = 0 := by
  have hmem₁ : ∀ x : Byte, x &&& (0xC0 : Byte) ∈ [(0 : Byte), 0x40, 0x80, 0xC0] := by decide
  have hmem₂ : ∀ x : Byte, (x >>> 2) &&& (0x30 : Byte) ∈ [(0 : Byte), 0x10, 0x20, 0x30] := by
    decide
  have hsum : ∀ u ∈ [(0 : Byte), 0x40, 0x80, 0xC0], ∀ v ∈ [(0 : Byte), 0x10, 0x20, 0x30],
      (u + v) &&& (8 : Byte) = 0 := by
    simp only [List.forall_mem_cons, List.not_mem_nil, false_imp_iff, implies_true, and_true]
    decide
  exact hsum _ (hmem₁ speed1) _ (hmem₂ speed2)

/-! ## The encoders of the Windows server -/

namespace Windows

/-- `SetMotorRS23233f`: the bytes that it asks `WriteFile` to write. -/
def SetMotorRS23233f (sbuf : Vector Byte 10) (speed1 speed2 : BitVec 16) (SpeedFlag : Byte) :
    List Byte :=
  let sbuf := (sbuf.set! 0 255).set! 1 0x07
  let sbuf := (sbuf.set! 2 (loByte speed1)).set! 3 (hiByte speed1)
  let sbuf := (sbuf.set! 4 (loByte speed2)).set! 5 (hiByte speed2)
  let sbuf := sbuf.set! 6 SpeedFlag
  let mycrcsend := Crc16 (sbuf.toList.drop 1) 6
  ((sbuf.set! 7 (loByte mycrcsend)).set! 8 (hiByte mycrcsend)).toList.take 9

/-- `SetMotorRS23233f_low_res`: the bytes that it asks `WriteFile` to write. A `BYTE` is
unsigned. -/
def SetMotorRS23233f_low_res (sbuf : Vector Byte 30) (speed1 speed2 : Byte) : List Byte :=
  let tt : Byte := 0
  let sbuf := (sbuf.set! 0 255).set! 1 0x07
  let tmp1 : BitVec 32 := 8 * (speed1.setWidth 32 &&& 0x3F)
  let tmp2 : BitVec 32 := 8 * (speed2.setWidth 32 &&& 0x3F)
  let tt := if speed2 &&& 0x80 ≠ 0 then tt + 32 else tt
  let tt := if speed2 &&& 0x40 ≠ 0 then tt + 16 else tt
  let sbuf := (sbuf.set! 2 (tmp1.setWidth 8)).set! 3 ((tmp1.sshiftRight 8).setWidth 8)
  let sbuf := (sbuf.set! 4 (tmp2.setWidth 8)).set! 5 ((tmp2.sshiftRight 8).setWidth 8)
  let sbuf := sbuf.set! 6
    (((speed1.setWidth 32 &&& 0x80) + (speed1.setWidth 32 &&& 0x40) + tt.setWidth 32 + 0 + 0 +
      8).setWidth 8)
  let mycrcsend := Crc16 (sbuf.toList.drop 1) 6
  ((sbuf.set! 7 (loByte mycrcsend)).set! 8 (hiByte mycrcsend)).toList.take 9

/-- The frame of `SetMotorRS23233f` is that of the raw server. -/
lemma SetMotorRS23233f_eq (sbuf : Vector Byte 10) (sbuf' : Vector Byte 20)
    (speed1 speed2 : BitVec 16) (SpeedFlag : Byte) :
    SetMotorRS23233f sbuf speed1 speed2 SpeedFlag = motorFrame sbuf' speed1 speed2 SpeedFlag := by
  rw [motorFrame_eq]
  refine (take_sealed _ (by omega : 6 + 3 ≤ 10) rfl).trans ?_
  rw [drop_take_toList _ (by omega)]
  simp [List.range_succ]

/-- The frame of `SetMotorPIDRS23233f` is that of the raw server. -/
lemma SetMotorPIDRS23233f_eq (sbuf : Vector Byte 30) (sbuf' : Vector Byte 20)
    (speed1 speed2 pp ii dd : Byte) (maxspeed : BitVec 16) :
    SetMotorPIDRS23233f sbuf speed1 speed2 pp ii dd maxspeed =
      pidFrame sbuf' speed1 speed2 pp ii dd maxspeed := by
  rw [pidFrame_eq]
  refine (take_sealed _ (by omega : 8 + 3 ≤ 30) rfl).trans ?_
  rw [drop_take_toList _ (by omega)]
  simp [List.range_succ]

/-- The wheel values of the low-resolution encoder are those of the raw server with an unsigned
`char`. -/
lemma lowRes_bytes (x : Byte) :
    (8 * (x.setWidth 32 &&& 0x3F)).setWidth 8 = loByte (sixBits x) ∧
      ((8 * (x.setWidth 32 &&& 0x3F)).sshiftRight 8).setWidth 8 = hiByte (sixBits x) :=
  ⟨lowRes_loByte false x, lowRes_hiByte false x⟩

/-- The part of the flag byte that comes from the second speed. -/
lemma lowRes_tt (x : Byte) :
    (if x &&& 0x40 ≠ 0 then (if x &&& 0x80 ≠ 0 then (0 : Byte) + 32 else 0) + 16
      else if x &&& 0x80 ≠ 0 then (0 : Byte) + 32 else 0) = (x >>> 2) &&& 0x30 := by
  revert x
  decide

/-- The flag byte of the low-resolution encoder: the control bits, and the bit of the fast loop. -/
lemma lowRes_flag (x y : Byte) :
    ((x.setWidth 32 &&& (0x80 : BitVec 32)) + (x.setWidth 32 &&& (0x40 : BitVec 32)) +
      ((y >>> 2) &&& (0x30 : Byte)).setWidth 32 + (0 : BitVec 32) + (0 : BitVec 32) +
      (8 : BitVec 32)).setWidth 8 =
      controlBits x y + 8 := by
  have hx : (x.setWidth 32 &&& (0x80 : BitVec 32)) + (x.setWidth 32 &&& (0x40 : BitVec 32)) =
      (x &&& (0xC0 : Byte)).setWidth 32 := lowRes_speed1 false x
  have hz : ∀ z : BitVec 32, z + (0 : BitVec 32) + (0 : BitVec 32) = z := by simp
  rw [hx, hz, BitVec.setWidth_add _ _ (by decide), setWidth_add_setWidth]
  rfl

/-- **The low-resolution encoder** is the other one on the wheels' values. -/
lemma SetMotorRS23233f_low_res_eq (sbuf : Vector Byte 30) (sbuf' : Vector Byte 20)
    (speed1 speed2 : Byte) :
    SetMotorRS23233f_low_res sbuf speed1 speed2 =
      motorFrame sbuf' (sixBits speed1) (sixBits speed2) (controlBits speed1 speed2 + 8) := by
  rw [motorFrame_eq, ← lowRes_flag]
  simp only [SetMotorRS23233f_low_res, (lowRes_bytes _).1, (lowRes_bytes _).2, lowRes_tt]
  refine (take_sealed _ (by omega : 6 + 3 ≤ 30) rfl).trans ?_
  rw [drop_take_toList _ (by omega)]
  simp [List.range_succ]

end Windows

/-! ## The formats -/

/-- **The formats of the frames to the robot.** Whatever the local buffers held, `SetRS232Motor33f`
and `SetRS232MotorPID33f` send exactly the well-formed frames of their kinds, each for one choice of
their arguments; the encoders of the Windows server send the same frames for the same arguments; and
both low-resolution encoders send the motor frame of the same wheel values, for both kinds of
`char`, that of the Windows server with bit `3` of the flag byte set.

**Proof sketch.** A frame that passes the test is its body with the body's checksum, and the fields
are the body's bytes. -/
theorem motor_format (signed : Bool) (sbuf : Vector Byte 20) (sbuf₁₀ : Vector Byte 10)
    (sbuf₃₀ : Vector Byte 30) :
    Set.BijOn (fun a : BitVec 16 × BitVec 16 × Byte => motorFrame sbuf a.1 a.2.1 a.2.2) Set.univ
        {frame | IsFrame 0x07 5 frame} ∧
      Set.BijOn (fun a : Byte × Byte × Byte × Byte × Byte × BitVec 16 =>
          pidFrame sbuf a.1 a.2.1 a.2.2.1 a.2.2.2.1 a.2.2.2.2.1 a.2.2.2.2.2) Set.univ
        {frame | IsFrame 0x09 7 frame} ∧
      (∀ speed1 speed2 flag, Windows.SetMotorRS23233f sbuf₁₀ speed1 speed2 flag =
        motorFrame sbuf speed1 speed2 flag) ∧
      (∀ speed1 speed2 pp ii dd maxspeed,
        Windows.SetMotorPIDRS23233f sbuf₃₀ speed1 speed2 pp ii dd maxspeed =
          pidFrame sbuf speed1 speed2 pp ii dd maxspeed) ∧
      ∀ speed1 speed2, ∃ wheel1 wheel2 flag, flag &&& 8 = 0 ∧
        lowResFrame signed sbuf speed1 speed2 = motorFrame sbuf wheel1 wheel2 flag ∧
        Windows.SetMotorRS23233f_low_res sbuf₃₀ speed1 speed2 =
          motorFrame sbuf wheel1 wheel2 (flag ||| 8) := by
  refine ⟨bijOn_motorFrame sbuf, bijOn_pidFrame sbuf,
    Windows.SetMotorRS23233f_eq sbuf₁₀ sbuf, Windows.SetMotorPIDRS23233f_eq sbuf₃₀ sbuf,
    fun speed1 speed2 => ?_⟩
  refine ⟨sixBits speed1, sixBits speed2, controlBits speed1 speed2, ?_,
    lowResFrame_eq signed sbuf speed1 speed2, ?_⟩
  · exact controlBits_and_8 speed1 speed2
  · rw [Windows.SetMotorRS23233f_low_res_eq sbuf₃₀ sbuf,
      BitVec.add_eq_or_of_and_eq_zero _ _ (controlBits_and_8 speed1 speed2)]

end Wifibot
