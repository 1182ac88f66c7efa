import Wifibot.RawServer.Separation
import Wifibot.WindowsServer.Separation

set_option relaxedAutoImplicit false
set_option autoImplicit false

/-!
# The two servers compared

The raw server and the Windows server are two programs for one robot and one set of clients. A
client that commands either of them drives the robot by the same frames, but for bit `0` of the flag
byte, which `Thread_RS23233f` sets on Windows. The servers part where a `recv` brings no byte, which
on Windows counts for the watchdog, and where a telemetry request comes, which on Linux clears the
telemetry whatever it asks.

## Main definitions

* `Wifibot.toWindows` — the step of the Windows server for a step of the raw server.
* `Wifibot.SameMotors`, `Wifibot.SameTelemetry` — the states in which the two do the same.
* `Wifibot.withFlag` — a frame with bit `0` of its flag byte set.

## Main results

* `Wifibot.follows_motors`, `Wifibot.follows_telemetry` — the Windows server follows the raw server.
* `Wifibot.servers_agree` — in every run the one writes the frames of the other with the bit set,
  and without telemetry requests it gives the TCP client the same answers.
-/

namespace Wifibot

variable {longBits : ℕ}

/-- The step of the Windows server for a step of the raw server. Its `main` reads no keys that
matter here. -/
def toWindows : Event → List Windows.Event
  | .tcpRecv r => [.tcpRecv r]
  | .trooperIn r => [.udpIn r]
  | .trooperOut r => [.udpOut r]
  | .dog => [.dog]
  | .key _ => []
  | .driveraw => [.serialWrite]
  | .robot sbuf => [.robot sbuf]

/-- A `recv` brings at least one byte. -/
def BringsByte (e : Event) : Prop := ∀ r, e = .tcpRecv r → 1 ≤ r.size 9

/-! ## Frames up to the flag -/

/-- A byte of a frame, bit `0` of the flag byte taken as set. -/
def flagged (i : ℕ) (b : Byte) : Byte := if i = 6 then b ||| 1 else b

/-- A frame with bit `0` of its flag byte set. -/
def withFlag (f : Vector Byte 9) : List Byte := f.toList.modify 6 (· ||| 1)

/-- The motor frames of the two servers agree up to that bit. -/
def FramesAgree (f : Vector Byte 9) (g : Vector Byte 30) : Prop :=
  ∀ i < 9, flagged i f[i]! = flagged i g[i]!

/-- Adding one to a byte with bit `0` clear sets the bit, and setting it twice is setting it
once. -/
lemma or_one (b : Byte) :
    (b &&& 1 = 0 → b + 1 = b ||| 1) ∧ (¬ b &&& 1 = 0 → b = b ||| 1) ∧
      b ||| 1 ||| 1 = b ||| 1 := by
  revert b
  decide

/-- A cell that is not written. -/
lemma getElem!_set!_ne {n i k : ℕ} {v : Vector Byte n} {b : Byte} (h : k ≠ i) :
    (v.set! k b)[i]! = v[i]! := by
  by_cases hi : i < n
  · rw [getElem!_pos _ i hi, getElem!_pos _ i hi]
    exact Vector.getElem_setIfInBounds_ne hi h
  · rw [getElem!_neg _ i hi, getElem!_neg _ i hi]

/-- What a write on Windows does to the flag byte. -/
lemma setFlag_getElem! (g : Vector Byte 30) (i : ℕ) :
    (Windows.setFlag g)[i]! = flagged i g[i]! := by
  rw [Windows.setFlag, flagged]
  obtain ⟨hclear, hset, -⟩ := or_one g[6]!
  split_ifs with hflag hi hi
  · subst hi
    simpa using hclear hflag
  · rw [getElem!_set!_ne (Ne.symm hi)]
  · subst hi
    exact hset hflag
  · rfl

variable {f : Vector Byte 9} {g : Vector Byte 30}

/-- The same bytes received into both. -/
lemma FramesAgree.overlay (h : FramesAgree f g) (l : List Byte) :
    FramesAgree (f.overlay l) (g.overlay l) := by
  intro i hi
  have hcell := h i hi
  rw [getElem!_pos f i hi, getElem!_pos g i (by omega)] at hcell
  rw [getElem!_pos (f.overlay l) i hi, getElem!_pos (g.overlay l) i (by omega),
    Vector.getElem_overlay, Vector.getElem_overlay]
  rcases Nat.lt_or_ge i l.length with hl | hl
  · rw [List.getD_eq_getElem _ _ hl, List.getD_eq_getElem _ _ hl]
  · rw [List.getD_eq_default _ _ hl, List.getD_eq_default _ _ hl, hcell]

/-- A stop of the watchdog in both. -/
lemma FramesAgree.clearSpeeds (h : FramesAgree f g) :
    FramesAgree (clearSpeeds f) (Windows.clearSpeeds g) := by
  intro i hi
  have hcell := h i hi
  rw [Wifibot.clearSpeeds, Windows.clearSpeeds]
  interval_cases i <;> simp_all

/-- A write on Windows. -/
lemma FramesAgree.setFlag (h : FramesAgree f g) : FramesAgree f (Windows.setFlag g) := by
  intro i hi
  rw [h i hi, setFlag_getElem!, flagged, flagged]
  split_ifs with h₆
  · exact (or_one _).2.2.symm
  · rfl

/-- What is written on Windows is the frame of the raw server with the bit set. -/
lemma FramesAgree.take_setFlag (h : FramesAgree f g) :
    (Windows.setFlag g).toList.take 9 = withFlag f := by
  apply List.ext_getElem
  · simp [withFlag]
  · intro i h₁ h₂
    have hi : i < 9 := by simpa [withFlag] using h₂
    have hcell := setFlag_getElem! g i
    rw [← h i hi, getElem!_pos _ i (by omega), getElem!_pos f i hi, flagged] at hcell
    rw [List.getElem_take, Vector.getElem_toList, hcell]
    simp only [withFlag, List.getElem_modify, Vector.getElem_toList, eq_comm]

/-! ## The motor side -/

/-- The states in which the two drive the robot alike. -/
structure SameMotors (s : State longBits) (t : Windows.State) : Prop where
  debug : s.debug = 0
  hUSB1 : s.hUSB1 ≠ 0
  watchdog : s.watchdog = t.watchdog
  cycles : s.cycles = t.cycles
  rcvIN : s.buffso_rcvIN = t.buffso_rcvIN
  frame : FramesAgree s.buffso_Raw_Data_In t.buffso_rcvIN_Tcp

/-- Only a datagram for the command port changes the buffer it is received into. -/
lemma rcvIN_next (s : State longBits) {e : Event} (he : ∀ r, e ≠ .trooperIn r) :
    ((server longBits).next s e).buffso_rcvIN = s.buffso_rcvIN := by
  cases e with
  | trooperIn r => exact absurd rfl (he r)
  | trooperOut r =>
    obtain ⟨_, _, h⟩ := next_trooperOut s r
    rw [h]
  | driveraw => rfl
  | _ =>
    simp only [Machine.next, server, Thread_TCP, Thread_Dog, mainKey, robotPayload]
    split_ifs <;> rfl

/-- A `recv` with a byte. -/
lemma SameMotors.tcpRecv {s : State longBits} {t : Windows.State} (h : SameMotors s t)
    {r : Received} (hr : 1 ≤ r.size 9) :
    SameMotors ((server longBits).next s (.tcpRecv r))
      (Windows.server.next t (.tcpRecv r)) where
  debug := by rw [debug_next, h.debug]
  hUSB1 := by rw [hUSB1_next]; exact h.hUSB1
  watchdog := by
    rw [watchdog_next h.debug, if_pos (by simpa [isCommand] using hr)]
    rfl
  cycles := by
    rw [cycles_next h.debug, if_pos (by simpa [isCommand] using hr)]
    rfl
  rcvIN := (rcvIN_next s fun _ => by simp).trans h.rcvIN
  frame := by
    rw [frame_next, if_pos (by simpa [isCommand] using hr)]
    exact h.frame.overlay _

/-- A datagram for the command port. -/
lemma SameMotors.udpIn {s : State longBits} {t : Windows.State} (h : SameMotors s t)
    (r : Received) :
    SameMotors ((server longBits).next s (.trooperIn r))
      (Windows.server.next t (.udpIn r)) := by
  simp only [Machine.next, server, Windows.server, Thread_TCP_Trooper_In, Windows.Thread_UDP_In,
    ← h.rcvIN, trooperInTest, beq_iff_eq, Windows.Crc16]
  split_ifs
  · exact ⟨h.debug, h.hUSB1, rfl, rfl, rfl, h.frame.overlay _⟩
  · exact ⟨h.debug, h.hUSB1, h.watchdog, h.cycles, rfl, h.frame⟩

/-- An iteration of `Thread_Dog`. -/
lemma SameMotors.dog {s : State longBits} {t : Windows.State} (h : SameMotors s t) :
    SameMotors ((server longBits).next s .dog) (Windows.server.next t .dog) where
  debug := by rw [debug_next, h.debug]
  hUSB1 := by rw [hUSB1_next]; exact h.hUSB1
  watchdog := by
    rw [watchdog_next h.debug, Windows.watchdog_next, h.watchdog, h.cycles]
    simp [isCommand, Windows.isCommand, Windows.isSilent]
  cycles := by
    rw [cycles_next h.debug, Windows.cycles_next, h.cycles]
    rfl
  rcvIN := by
    rw [rcvIN_next s fun _ => by simp, h.rcvIN]
    simp only [Machine.next, Windows.server, Windows.Thread_Dog]
    split_ifs <;> rfl
  frame := by
    have hstops : Windows.stops t ↔ stops s := by
      rw [Windows.stops, stops, h.watchdog, h.cycles]
    rw [frame_next, Windows.motorBuffer_next rfl, if_neg (by simp [isCommand])]
    by_cases hs : stops s
    · rw [if_pos ⟨rfl, hs⟩, if_pos ⟨rfl, hstops.mpr hs⟩]
      exact h.frame.clearSpeeds
    · rw [if_neg fun hc => hs hc.2, if_neg fun hc => hs (hstops.mp hc.2), if_neg (by simp)]
      exact h.frame

/-- A write to the robot. -/
lemma SameMotors.write {s : State longBits} {t : Windows.State} (h : SameMotors s t) :
    SameMotors ((server longBits).next s .driveraw) (Windows.server.next t .serialWrite) := by
  have hframe : (Windows.server.next t .serialWrite).buffso_rcvIN_Tcp =
      Windows.setFlag t.buffso_rcvIN_Tcp := by
    rw [Windows.motorBuffer_next rfl, if_neg (by simp), if_pos rfl]
  refine ⟨h.debug, h.hUSB1, ?_, ?_, ?_, hframe ▸ h.frame.setFlag⟩
  · rw [Windows.watchdog_next]
    exact h.watchdog
  · rw [Windows.cycles_next]
    exact h.cycles
  · simp only [Machine.next, Windows.server, Windows.serialWrite]
    split_ifs <;> exact h.rcvIN

/-- What does not concern the motors on either side leaves them alike. -/
lemma SameMotors.other {s s' : State longBits} {t t' : Windows.State} (h : SameMotors s t)
    (hs : s'.motorPart = s.motorPart) (ht : t'.motorPart = t.motorPart) : SameMotors s' t' := by
  obtain ⟨hdebug, husb, -, hdog, hcycles, hrcv, hframe⟩ := motorPart_eq_iff.mp hs
  simp only [Windows.State.motorPart, Prod.mk.injEq] at ht
  obtain ⟨hdog', hcycles', hrcv', hframe'⟩ := ht
  exact ⟨by rw [hdebug, h.debug], by rw [husb]; exact h.hUSB1, by rw [hdog, hdog', h.watchdog],
    by rw [hcycles, hcycles', h.cycles], by rw [hrcv, hrcv', h.rcvIN],
    by rw [hframe, hframe']; exact h.frame⟩

/-- **The Windows server follows the raw server** on the motor side, as long as every `recv` brings
a byte. -/
lemma follows_motors : (server longBits).Follows Windows.server (fun _ e => BringsByte e)
    SameMotors (fun _ e => toWindows e) := by
  intro s t e he h
  cases e with
  | tcpRecv r => exact h.tcpRecv (he r rfl)
  | trooperIn r => exact h.udpIn r
  | trooperOut r =>
    exact h.other (unwinds_motors.next_other _ _ rfl) (Windows.unwinds_motors.next_other _ _ rfl)
  | dog => exact h.dog
  | key k => exact h.other (unwinds_motors.next_other _ _ rfl) rfl
  | driveraw => exact h.write
  | robot sbuf =>
    exact h.other (unwinds_motors.next_other _ _ rfl) (Windows.unwinds_motors.next_other _ _ rfl)

/-- The frames seen at the serial port of the raw server, as Windows writes them. -/
def Output.flaggedFrame : Output → Option (List Byte)
  | .serial f => some (withFlag f)
  | .tcp _ | .udp _ | .restartTcp => none

/-- A step other than `driveraw` writes no frame. -/
lemma flaggedFrame_emit {s : State longBits} {e : Event} (he : e ≠ .driveraw) :
    ((server longBits).emit s e).filterMap Output.flaggedFrame = [] := by
  rw [List.filterMap_eq_nil_iff]
  intro o ho
  cases o with
  | serial f => exact absurd (serial_mem_emit ho).1 he
  | _ => rfl

/-- A step other than a write sends nothing to the COM port. -/
lemma toSerial_emit {t : Windows.State} {e : Windows.Event} (he : e ≠ .serialWrite) :
    (Windows.server.emit t e).filterMap Windows.Output.toSerial = [] := by
  rw [List.filterMap_eq_nil_iff]
  intro o ho
  cases o with
  | serial f => exact absurd (Windows.serial_mem_emit_iff.mp ho).1 he
  | _ => rfl

/-- The frames of one step. -/
lemma answers_motors : (server longBits).Answers Windows.server (fun _ e => BringsByte e)
    SameMotors (fun _ e => toWindows e) Output.flaggedFrame Windows.Output.toSerial := by
  intro s t e _ h
  cases e with
  | driveraw =>
    have hemit : Windows.server.emit t .serialWrite =
        [.serial ((Windows.setFlag t.buffso_rcvIN_Tcp).toList.take 9)] := by
      simp only [Machine.emit, Windows.server, Windows.serialWrite, Windows.setFlag]
      split_ifs <;> rfl
    simp only [toWindows, Machine.outputs_cons, Machine.outputs_nil, List.append_nil, hemit,
      emit_driveraw, if_neg h.hUSB1, h.frame.take_setFlag]
    rfl
  | key k => exact flaggedFrame_emit (by simp)
  | _ =>
    simp only [toWindows, Machine.outputs_cons, Machine.outputs_nil, List.append_nil]
    rw [flaggedFrame_emit (by simp), toSerial_emit (by simp)]

/-! ## The telemetry side -/

/-- The states in which the two answer their TCP client alike. -/
structure SameTelemetry (s : State longBits) (t : Windows.State) : Prop where
  debug : s.debug = 0
  out : s.buffso_Raw_Data_Out.toList = t.buffso_rcvOUT_Tcp.toList.take 21

/-- A payload taken into both buffers. -/
lemma take_overlay_payload (g : Vector Byte 30) (sbuf : Payload) :
    (g.overlay sbuf.toList).toList.take 21 = sbuf.toList := by
  simpa using g.take_toList_overlay sbuf.toList (by simp)

/-- The part of the telemetry determines what the TCP client is sent. -/
lemma take_of_udpPart {t t' : Windows.State} (h : t'.udpPart = t.udpPart) :
    t.buffso_rcvOUT_Tcp.toList.take 21 = t'.buffso_rcvOUT_Tcp.toList.take 21 := by
  simp only [Windows.State.udpPart, Prod.mk.injEq] at h
  rw [h.1]

/-- **The Windows server follows the raw server** on the telemetry side, without telemetry
requests. -/
lemma follows_telemetry : (server longBits).Follows Windows.server
    (fun _ e => BringsByte e ∧ notRequest e = true) SameTelemetry (fun _ e => toWindows e) := by
  intro s t e he h
  have hout : ((server longBits).next s e).buffso_Raw_Data_Out =
      relay.next s.buffso_Raw_Data_Out e := by rw [out_next, if_pos he.2]
  refine ⟨by rw [debug_next, h.debug], ?_⟩
  rw [hout]
  cases e with
  | robot sbuf =>
    simp only [Machine.next, relay, toWindows, Machine.run_cons, Machine.run_nil, Windows.server,
      Windows.robotPayload]
    split_ifs
    · exact (take_overlay_payload _ _).symm
    · exact h.out
  | trooperOut r => simp [notRequest] at he
  | key k => exact h.out
  | tcpRecv r => exact h.out.trans (take_of_udpPart (Windows.udpPart_next t rfl))
  | trooperIn r => exact h.out.trans (take_of_udpPart (Windows.udpPart_next t rfl))
  | dog => exact h.out.trans (take_of_udpPart (Windows.udpPart_next t rfl))
  | driveraw => exact h.out.trans (take_of_udpPart (Windows.udpPart_next t rfl))

/-- The answers of one step. -/
lemma answers_telemetry : (server longBits).Answers Windows.server
    (fun _ e => BringsByte e ∧ notRequest e = true) SameTelemetry (fun _ e => toWindows e)
    Output.toTcp Windows.Output.toTcp := by
  intro s t e he h
  rw [filterMap_emit h.debug]
  cases e with
  | tcpRecv r =>
    have hsize : ¬ r.size 9 < 1 := by
      have := he.1 r rfl
      omega
    simp only [toWindows, Machine.outputs_cons, Machine.outputs_nil, List.append_nil, Machine.emit,
      relay, Windows.server, Windows.Thread_TCP_Serial, if_neg hsize, h.out]
    rfl
  | trooperOut r => simp [notRequest] at he
  | key k => rfl
  | robot sbuf => rfl
  | driveraw => rfl
  | _ =>
    simp only [toWindows, Machine.outputs_cons, Machine.outputs_nil, List.append_nil, Machine.emit,
      relay, Windows.server, Windows.Thread_UDP_In, Windows.Thread_Dog]
    split_ifs <;> rfl

/-! ## The servers -/

/-- The states at the start do the same. -/
lemma sameMotors_start {hUSB1 : ℤ} (h : hUSB1 ≠ 0) :
    SameMotors (State.start 0 hUSB1 : State longBits) Windows.State.start where
  debug := rfl
  hUSB1 := h
  watchdog := rfl
  cycles := rfl
  rcvIN := rfl
  frame := by
    intro i hi
    interval_cases i <;> rfl

/-- **The two servers agree.** Take any run of the raw server, started with `debug` 0, in which it
has a serial handle and no `recv` is without a byte, and the same steps of the Windows server. The
frames on its COM port are those of the raw server, in order, each with bit `0` of its flag byte
set; and if there is no telemetry request in the run, its TCP client gets the same answers.

**Proof sketch.** The states stay related: watchdog, limit and receive buffer are the same, and the
motor frames agree up to the bit, which a write sets on one side only. Without requests the
telemetry buffers are the same too. -/
theorem servers_agree {hUSB1 : ℤ} (husb : hUSB1 ≠ 0) {es : List Event}
    (hes : ∀ e ∈ es, BringsByte e) :
    ((server longBits).outputs (State.start 0 hUSB1) es).filterMap Output.flaggedFrame =
        (Windows.server.outputs Windows.State.start (es.flatMap toWindows)).filterMap
          Windows.Output.toSerial ∧
      ((∀ e ∈ es, notRequest e = true) →
        tcpAnswers (State.start 0 hUSB1 : State longBits) es =
          (Windows.server.outputs Windows.State.start (es.flatMap toWindows)).filterMap
            Windows.Output.toTcp) := by
  rw [← (server longBits).translate_eq_flatMap toWindows (State.start 0 hUSB1) es]
  constructor
  · exact follows_motors.outputs answers_motors (sameMotors_start husb)
      ((server longBits).along_event_iff.mpr hes)
  · intro hquiet
    exact follows_telemetry.outputs answers_telemetry ⟨rfl, rfl⟩
      ((server longBits).along_event_iff.mpr fun e he => ⟨hes e he, hquiet e he⟩)

/-- A command that is driven, stopped and driven again. -/
theorem servers_agree_stopped :
    let es : List Event := [.tcpRecv (.data [0xFF, 0x07, 0x78, 0x00, 0x78, 0x00, 0xA0, 0x21, 0xC7]),
      .driveraw, .dog, .dog, .dog, .dog, .driveraw]
    ((server 32).outputs (State.start 0 3) es).filterMap Output.flaggedFrame =
        (Windows.server.outputs Windows.State.start (es.flatMap toWindows)).filterMap
          Windows.Output.toSerial ∧
      ((∀ e ∈ es, notRequest e = true) →
        tcpAnswers (State.start 0 3 : State 32) es =
          (Windows.server.outputs Windows.State.start (es.flatMap toWindows)).filterMap
            Windows.Output.toTcp) :=
  servers_agree (by decide) fun e he r hr => by
    subst hr
    simp only [List.mem_cons, List.not_mem_nil, or_false, Event.tcpRecv.injEq, reduceCtorEq,
      or_self] at he
    subst he
    decide

end Wifibot
