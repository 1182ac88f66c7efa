import Wifibot.WindowsServer.Server

set_option relaxedAutoImplicit false
set_option autoImplicit false

/-!
# The tuning loop of the Windows console

`_tmain` of `www/wifibot/robot_server/testlab/testlab.cpp` reads keys for ever. Two keys move the
integral gain up and down by `5` and two the proportional one, and each of them sends both to the
motor controller, cut to a byte. The limits are tested for equality, and after the frame was sent.
At `100` the gain starts again at zero. At zero it is set to zero, which does nothing, so the next
key sends `-5`, cut to `251`.

The counters are taken as integers; within the limits of a byte they are what an `int` is.

## Main definitions

* `Wifibot.Windows.SetMotorPIDRS23233f` — the frame that the source hands to `WriteFile`.
* `Wifibot.Windows.tuning` — the loop as a machine; its outputs are the frames.
* `Wifibot.Windows.GainsRight` — a frame carries the loop's own gains, between `0` and `100`.

## Main results

* `Wifibot.Windows.gainsRight_iff` — all frames of a run do iff no gain is lowered at zero.
-/

namespace Wifibot.Windows

/-- `SetMotorPIDRS23233f`: the bytes that it asks `WriteFile` to write. The local buffer starts
with what the stack held. -/
def SetMotorPIDRS23233f (sbuf : Vector Byte 30) (speed1 speed2 pp ii dd : Byte)
    (maxspeed : BitVec 16) : List Byte :=
  let sbuf := (sbuf.set! 0 255).set! 1 0x09
  let sbuf := (sbuf.set! 2 speed1).set! 3 speed2
  let sbuf := ((sbuf.set! 4 pp).set! 5 ii).set! 6 dd
  let sbuf := (sbuf.set! 7 (loByte maxspeed)).set! 8 (hiByte maxspeed)
  let mycrcsend := Crc16 (sbuf.toList.drop 1) 8
  ((sbuf.set! 9 (loByte mycrcsend)).set! 10 (hiByte mycrcsend)).toList.take 11

/-- The gains of the loop in `_tmain`. -/
structure Gains where
  pidi : ℤ
  pidp : ℤ
  deriving DecidableEq

/-- A key that `getchar` returns, and what the stack holds below the call that follows. -/
structure KeyPress where
  c : Char
  sbuf : Vector Byte 30

/-- A frame, and the gains of the loop when it is sent. -/
structure PidFrame where
  frame : List Byte
  gains : Gains

/-- `SetMotorPIDRS23233f(hUSB,0x00,0x00,pidp,pidi,0,360)`, its arguments cut to bytes. -/
def sendGains (k : KeyPress) (g : Gains) : PidFrame where
  frame := SetMotorPIDRS23233f k.sbuf 0 0 (BitVec.ofInt 8 g.pidp) (BitVec.ofInt 8 g.pidi) 0 360
  gains := g

/-- One turn of the loop in `_tmain`. -/
def tuningKey (g : Gains) (k : KeyPress) : Gains × List PidFrame :=
  if k.c = 'p' then
    let g : Gains := { g with pidi := g.pidi + 5 }
    ({ g with pidi := if g.pidi = 100 then 0 else g.pidi }, [sendGains k g])
  else if k.c = 'l' then
    let g : Gains := { g with pidi := g.pidi - 5 }
    ({ g with pidi := if g.pidi = 0 then 0 else g.pidi }, [sendGains k g])
  else if k.c = 'a' then
    let g : Gains := { g with pidp := g.pidp + 5 }
    ({ g with pidp := if g.pidp = 100 then 0 else g.pidp }, [sendGains k g])
  else if k.c = 'q' then
    let g : Gains := { g with pidp := g.pidp - 5 }
    ({ g with pidp := if g.pidp = 0 then 0 else g.pidp }, [sendGains k g])
  else (g, [])

/-- **The loop as a machine.** -/
def tuning : Machine Gains KeyPress PidFrame where
  step := tuningKey

/-- The gains when the loop starts. -/
def Gains.start : Gains := ⟨0, 0⟩

/-- The frame's gain bytes are the loop's own gains, and between `0` and `100`. -/
def GainsRight (o : PidFrame) : Prop :=
  ((o.frame.getD 4 0).toNat : ℤ) = o.gains.pidp ∧ ((o.frame.getD 5 0).toNat : ℤ) = o.gains.pidi ∧
    (o.frame.getD 4 0).toNat ≤ 100 ∧ (o.frame.getD 5 0).toNat ≤ 100

/-- No gain is lowered at zero or below. -/
def NotBelowZero (g : Gains) (k : KeyPress) : Prop :=
  (k.c = 'l' → 0 < g.pidi) ∧ (k.c = 'q' → 0 < g.pidp)

/-- A gain that the loop keeps as it should: a multiple of `5` from `0` to `95`. -/
def GainOk (x : ℤ) : Prop := 0 ≤ x ∧ x ≤ 95 ∧ 5 ∣ x

/-- Both gains are kept as they should. -/
def GainsOk (g : Gains) : Prop := GainOk g.pidi ∧ GainOk g.pidp

/-! ## One turn -/

/-- The gain bytes of a frame. -/
lemma gainBytes_SetMotorPIDRS23233f (sbuf : Vector Byte 30) (speed1 speed2 pp ii dd : Byte)
    (maxspeed : BitVec 16) :
    (SetMotorPIDRS23233f sbuf speed1 speed2 pp ii dd maxspeed).getD 4 0 = pp ∧
      (SetMotorPIDRS23233f sbuf speed1 speed2 pp ii dd maxspeed).getD 5 0 = ii := by
  simp [SetMotorPIDRS23233f]

/-- A byte is the integer that was cut iff that is the integer of a byte. -/
lemma toNat_ofInt_eq_iff (x : ℤ) : ((BitVec.ofInt 8 x).toNat : ℤ) = x ↔ 0 ≤ x ∧ x < 256 := by
  rw [BitVec.toNat_ofInt]
  omega

/-- **A frame is right** iff both gains are between `0` and `100`. -/
lemma gainsRight_sendGains (k : KeyPress) (g : Gains) :
    GainsRight (sendGains k g) ↔ (0 ≤ g.pidp ∧ g.pidp ≤ 100) ∧ 0 ≤ g.pidi ∧ g.pidi ≤ 100 := by
  obtain ⟨hp, hi⟩ := gainBytes_SetMotorPIDRS23233f k.sbuf 0 0 (BitVec.ofInt 8 g.pidp)
    (BitVec.ofInt 8 g.pidi) 0 360
  rw [GainsRight, sendGains, hp, hi, toNat_ofInt_eq_iff, toNat_ofInt_eq_iff]
  have hp' := toNat_ofInt_eq_iff g.pidp
  have hi' := toNat_ofInt_eq_iff g.pidi
  constructor
  · rintro ⟨h₁, h₂, h₃, h₄⟩
    have h₅ := hp'.mpr h₁
    have h₆ := hi'.mpr h₂
    omega
  · rintro ⟨⟨h₁, h₂⟩, h₃, h₄⟩
    have h₅ := hp'.mpr ⟨h₁, by omega⟩
    have h₆ := hi'.mpr ⟨h₃, by omega⟩
    omega

/-- Raising a gain, with the limit that is tested after it. -/
lemma GainOk.raise {x : ℤ} (h : GainOk x) : GainOk (if x + 5 = 100 then 0 else x + 5) := by
  obtain ⟨h₁, h₂, h₃⟩ := h
  split_ifs with hx
  · exact ⟨le_rfl, by omega, dvd_zero 5⟩
  · exact ⟨by omega, by omega, by omega⟩

/-- Lowering a gain that is not zero. -/
lemma GainOk.lower {x : ℤ} (h : GainOk x) (hx : 0 < x) :
    GainOk (if x - 5 = 0 then 0 else x - 5) := by
  obtain ⟨h₁, h₂, h₃⟩ := h
  split_ifs
  · exact ⟨le_rfl, by omega, dvd_zero 5⟩
  · exact ⟨by omega, by omega, by omega⟩

/-- A gain that is kept as it should is between `0` and `100`. -/
lemma GainOk.range {x : ℤ} (h : GainOk x) : 0 ≤ x ∧ x ≤ 100 := by
  obtain ⟨h₁, h₂, -⟩ := h
  omega

/-- So it is when it has been raised. -/
lemma GainOk.range_raised {x : ℤ} (h : GainOk x) : 0 ≤ x + 5 ∧ x + 5 ≤ 100 := by
  obtain ⟨h₁, h₂, -⟩ := h
  omega

/-- And when it has been lowered iff it was not zero. -/
lemma GainOk.range_lowered_iff {x : ℤ} (h : GainOk x) : 0 ≤ x - 5 ∧ x - 5 ≤ 100 ↔ 0 < x := by
  obtain ⟨h₁, h₂, h₃⟩ := h
  omega

/-- **What a turn does**, by the key. -/
lemma step_cases (g : Gains) (k : KeyPress) :
    (k.c = 'p' ∧ tuning.step g k =
      ({ g with pidi := if g.pidi + 5 = 100 then 0 else g.pidi + 5 },
        [sendGains k { g with pidi := g.pidi + 5 }])) ∨
    (k.c = 'l' ∧ tuning.step g k =
      ({ g with pidi := if g.pidi - 5 = 0 then 0 else g.pidi - 5 },
        [sendGains k { g with pidi := g.pidi - 5 }])) ∨
    (k.c = 'a' ∧ tuning.step g k =
      ({ g with pidp := if g.pidp + 5 = 100 then 0 else g.pidp + 5 },
        [sendGains k { g with pidp := g.pidp + 5 }])) ∨
    (k.c = 'q' ∧ tuning.step g k =
      ({ g with pidp := if g.pidp - 5 = 0 then 0 else g.pidp - 5 },
        [sendGains k { g with pidp := g.pidp - 5 }])) ∨
    k.c ≠ 'l' ∧ k.c ≠ 'q' ∧ tuning.step g k = (g, []) := by
  by_cases hp : k.c = 'p'
  · exact Or.inl ⟨hp, if_pos hp⟩
  refine Or.inr ?_
  by_cases hl : k.c = 'l'
  · exact Or.inl ⟨hl, (if_neg hp).trans (if_pos hl)⟩
  refine Or.inr ?_
  by_cases ha : k.c = 'a'
  · exact Or.inl ⟨ha, (if_neg hp).trans ((if_neg hl).trans (if_pos ha))⟩
  refine Or.inr ?_
  by_cases hq : k.c = 'q'
  · exact Or.inl ⟨hq, (if_neg hp).trans ((if_neg hl).trans ((if_neg ha).trans (if_pos hq)))⟩
  · exact Or.inr ⟨hl, hq,
      (if_neg hp).trans ((if_neg hl).trans ((if_neg ha).trans (if_neg hq)))⟩

/-- **A turn keeps the gains** as they should be, if it lowers none at zero. -/
lemma gainsOk_next {g : Gains} {k : KeyPress} (hk : NotBelowZero g k) (hg : GainsOk g) :
    GainsOk (tuning.next g k) := by
  obtain ⟨hi, hp⟩ := hg
  rw [Machine.next]
  obtain ⟨-, h⟩ | ⟨hc, h⟩ | ⟨-, h⟩ | ⟨hc, h⟩ | ⟨-, -, h⟩ := step_cases g k
  · rw [h]
    exact ⟨hi.raise, hp⟩
  · rw [h]
    exact ⟨hi.lower (hk.1 hc), hp⟩
  · rw [h]
    exact ⟨hi, hp.raise⟩
  · rw [h]
    exact ⟨hi, hp.lower (hk.2 hc)⟩
  · rw [h]
    exact ⟨hi, hp⟩

/-- **The frames of a turn are right** iff it lowers no gain at zero. -/
lemma gainsRight_emit_iff {g : Gains} (k : KeyPress) (hg : GainsOk g) :
    (∀ o ∈ tuning.emit g k, GainsRight o) ↔ NotBelowZero g k := by
  obtain ⟨hi, hp⟩ := hg
  rw [Machine.emit, NotBelowZero]
  obtain ⟨hc, h⟩ | ⟨hc, h⟩ | ⟨hc, h⟩ | ⟨hc, h⟩ | ⟨hl, hq, h⟩ := step_cases g k
  · rw [h, List.forall_mem_singleton, gainsRight_sendGains, hc]
    simp [hp.range, hi.range_raised]
  · rw [h, List.forall_mem_singleton, gainsRight_sendGains, hc, hi.range_lowered_iff]
    simp [hp.range]
  · rw [h, List.forall_mem_singleton, gainsRight_sendGains, hc]
    simp [hi.range, hp.range_raised]
  · rw [h, List.forall_mem_singleton, gainsRight_sendGains, hc, hp.range_lowered_iff]
    simp [hi.range]
  · simp [h, hl, hq]

/-- The loop starts with gains as they should be. -/
lemma gainsOk_start : GainsOk Gains.start :=
  ⟨⟨le_rfl, by decide, dvd_zero 5⟩, le_rfl, by decide, dvd_zero 5⟩

/-- **When all frames are right.** For every sequence of keys, every frame carries the loop's own
gains, between `0` and `100`, iff no gain is lowered while it is zero or below.

**Proof sketch.** As long as none is, both gains are multiples of `5` from `0` to `95`, and a frame
is sent before a gain of `100` starts again at zero. -/
theorem gainsRight_iff (ks : List KeyPress) :
    (∀ o ∈ tuning.outputs Gains.start ks, GainsRight o) ↔
      tuning.Along NotBelowZero Gains.start ks :=
  tuning.outputs_iff_along (fun _ _ => gainsOk_next) (fun _ k hg => gainsRight_emit_iff k hg)
    gainsOk_start ks

/-- The key `l` as the first one sends the integral gain `251`. -/
theorem not_gainsRight_first_lower :
    ¬ ∀ o ∈ tuning.outputs Gains.start [⟨'l', Vector.replicate 30 0⟩], GainsRight o := by
  rw [Machine.outputs_cons, Machine.outputs_nil, List.append_nil,
    gainsRight_emit_iff _ gainsOk_start]
  intro h
  exact absurd (h.1 rfl) (by decide)

end Wifibot.Windows
