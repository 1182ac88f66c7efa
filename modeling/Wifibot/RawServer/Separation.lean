import Wifibot.Library.Simulation
import Wifibot.RawServer.Telemetry

set_option relaxedAutoImplicit false
set_option autoImplicit false

/-!
# What the halves of the raw server have to do with each other

The server carries commands to the robot and telemetry back, in one process, with one set of
globals. The way to the robot is through `buffso_Raw_Data_In`, the watchdog and the flag
`connected`; the way back is through `buffso_Raw_Data_Out` and the buffers of the telemetry
requests. `recv` of `Thread_TCP` stands in both: it brings a command and sends telemetry.

## Main definitions

* `Wifibot.drivesMotors`, `Wifibot.answersUdp`, `Wifibot.answersTcp` — the events that matter to
  the serial port and the recoveries, to the telemetry requests, and to the TCP client.

## Main results

* `Wifibot.unwinds_motors`, `Wifibot.unwinds_udp`, `Wifibot.unwinds_tcp` — the unwinding conditions
  of the three.
* `Wifibot.halves_separated` — two runs with the same events of a kind, from states that agree on
  what these depend on, are the same to the observer of that kind.
-/

namespace Wifibot

variable {longBits : ℕ}

/-! ## The way to the robot -/

/-- The events that matter to what is written to the serial port and to the recoveries. -/
def drivesMotors : Event → Bool
  | .tcpRecv _ | .trooperIn _ | .dog | .driveraw => true
  | .trooperOut _ | .key _ | .robot _ => false

/-- What is seen at the serial port, and the recoveries. -/
def Output.motorSide : Output → Option Output
  | .serial f => some (.serial f)
  | .restartTcp => some .restartTcp
  | .tcp _ | .udp _ => none

/-- What these depend on. -/
def State.motorPart (s : State longBits) :
    ℤ × ℤ × ℤ × ℤ × ℤ × Vector Byte 100 × Vector Byte 9 :=
  (s.debug, s.hUSB1, s.connected, s.watchdog, s.cycles, s.buffso_rcvIN, s.buffso_Raw_Data_In)

/-- States with the same part agree in each of its fields. -/
lemma motorPart_eq_iff {s t : State longBits} :
    s.motorPart = t.motorPart ↔ s.debug = t.debug ∧ s.hUSB1 = t.hUSB1 ∧
      s.connected = t.connected ∧ s.watchdog = t.watchdog ∧ s.cycles = t.cycles ∧
      s.buffso_rcvIN = t.buffso_rcvIN ∧ s.buffso_Raw_Data_In = t.buffso_Raw_Data_In := by
  simp only [State.motorPart, Prod.mk.injEq]

/-- **The serial port and the recoveries** depend on the commands, the watchdog and the calls of
`driveraw` only. A key adds to `speed1`, which the stop branch sets before it reads it. -/
lemma unwinds_motors :
    Machine.Unwinds (server longBits) drivesMotors State.motorPart Output.motorSide where
  next_congr s t e he hst := by
    obtain ⟨hdebug, husb, hconn, hdog, hcycles, hrcv, hframe⟩ := motorPart_eq_iff.mp hst
    rw [motorPart_eq_iff]
    cases e with
    | tcpRecv r =>
      simp only [Machine.next, server, Thread_TCP, hdebug, hframe]
      split_ifs <;> simp_all
    | trooperIn r =>
      simp only [Machine.next, server, Thread_TCP_Trooper_In, hrcv, hframe]
      split_ifs <;> simp_all
    | dog =>
      simp only [Machine.next, server, Thread_Dog, hdog, hcycles, hconn, hframe]
      split_ifs <;> simp_all
    | driveraw => exact ⟨hdebug, husb, hconn, hdog, hcycles, hrcv, hframe⟩
    | _ => simp [drivesMotors] at he
  emit_congr s t e he hst := by
    obtain ⟨hdebug, husb, hconn, hdog, hcycles, hrcv, hframe⟩ := motorPart_eq_iff.mp hst
    cases e with
    | tcpRecv r =>
      simp only [Machine.emit, server, Thread_TCP, hdebug]
      split_ifs <;> rfl
    | trooperIn r =>
      simp only [Machine.emit, server, Thread_TCP_Trooper_In]
      split_ifs <;> rfl
    | dog =>
      simp only [Machine.emit, server, Thread_Dog, hdog, hcycles, hconn]
      split_ifs <;> rfl
    | driveraw => rw [emit_driveraw, emit_driveraw, husb, hframe]
    | _ => simp [drivesMotors] at he
  next_other s e he := by
    cases e with
    | trooperOut r =>
      obtain ⟨_, _, h⟩ := next_trooperOut s r
      rw [h]
      rfl
    | key k =>
      simp only [Machine.next, server, mainKey]
      split_ifs <;> rfl
    | robot sbuf =>
      simp only [Machine.next, server, robotPayload]
      split_ifs <;> rfl
    | _ => simp [drivesMotors] at he
  emit_other s e he := by
    cases e with
    | trooperOut r =>
      simp only [Machine.emit, server, Thread_TCP_Trooper_Out, trooperOutReply]
      split_ifs <;> rfl
    | key k =>
      simp only [Machine.emit, server, mainKey]
      split_ifs <;> rfl
    | robot sbuf =>
      simp only [Machine.emit, server, robotPayload]
      split_ifs <;> rfl
    | _ => simp [drivesMotors] at he

/-! ## The way back -/

/-- The events that matter to the answers of `Thread_TCP_Trooper_Out`. -/
def answersUdp : Event → Bool
  | .trooperOut _ | .robot _ => true
  | .tcpRecv _ | .trooperIn _ | .dog | .key _ | .driveraw => false

/-- What its client sees. -/
def Output.udpSide : Output → Option (List Byte)
  | .udp bytes => some bytes
  | .serial _ | .tcp _ | .restartTcp => none

/-- What this depends on. -/
def State.udpPart (s : State longBits) : Vector Byte 21 × Vector Byte 100 × Vector Byte 100 :=
  (s.buffso_Raw_Data_Out, s.buffso_rcvOUT, s.buffso_sendOUT)

/-- What `Thread_TCP_Trooper_Out` replies and leaves in its buffers, from these buffers. -/
lemma trooperOutReply_congr {s t : State longBits} (h : s.udpPart = t.udpPart) :
    (trooperOutReply s).2 = (trooperOutReply t).2 ∧
      (trooperOutReply s).1.udpPart = (trooperOutReply t).1.udpPart := by
  obtain ⟨hout, hrcv, hsent⟩ : s.buffso_Raw_Data_Out = t.buffso_Raw_Data_Out ∧
      s.buffso_rcvOUT = t.buffso_rcvOUT ∧ s.buffso_sendOUT = t.buffso_sendOUT := by
    simpa only [State.udpPart, Prod.mk.injEq] using h
  simp only [trooperOutReply, hout, hrcv, hsent]
  split_ifs
  · exact ⟨rfl, by simp [State.udpPart, hout]⟩
  · exact ⟨rfl, by simp [State.udpPart]⟩
  · exact ⟨rfl, h⟩

/-- The step of `Thread_TCP_Trooper_Out`, from these buffers. -/
lemma trooperOut_congr {s t : State longBits} (h : s.udpPart = t.udpPart) (r : Received) :
    (server longBits).emit s (.trooperOut r) = (server longBits).emit t (.trooperOut r) ∧
      ((server longBits).next s (.trooperOut r)).udpPart =
        ((server longBits).next t (.trooperOut r)).udpPart := by
  obtain ⟨hout, hrcv, hsent⟩ : s.buffso_Raw_Data_Out = t.buffso_Raw_Data_Out ∧
      s.buffso_rcvOUT = t.buffso_rcvOUT ∧ s.buffso_sendOUT = t.buffso_sendOUT := by
    simpa only [State.udpPart, Prod.mk.injEq] using h
  have hstored : State.udpPart { s with buffso_rcvOUT := s.buffso_rcvOUT.overlay (r.stored 21) } =
      State.udpPart { t with buffso_rcvOUT := t.buffso_rcvOUT.overlay (r.stored 21) } := by
    simp only [State.udpPart, hout, hrcv, hsent]
  obtain ⟨hreply, hpart⟩ := trooperOutReply_congr hstored
  simp only [State.udpPart, Prod.mk.injEq] at hpart
  simp only [Machine.emit, Machine.next, server, Thread_TCP_Trooper_Out, State.udpPart, hreply,
    hpart, and_self]

/-- **The answers to telemetry requests** depend on the requests and on what comes from the robot
only. -/
lemma unwinds_udp :
    Machine.Unwinds (server longBits) answersUdp State.udpPart Output.udpSide where
  next_congr s t e he hst := by
    cases e with
    | trooperOut r => exact (trooperOut_congr hst r).2
    | robot sbuf =>
      have hparts := hst
      simp only [State.udpPart, Prod.mk.injEq] at hparts
      simp only [Machine.next, server, robotPayload]
      split_ifs
      · simp only [State.udpPart, hparts]
      · exact hst
    | _ => simp [answersUdp] at he
  emit_congr s t e he hst := by
    cases e with
    | trooperOut r => rw [(trooperOut_congr hst r).1]
    | robot sbuf =>
      simp only [Machine.emit, server, robotPayload]
      split_ifs <;> rfl
    | _ => simp [answersUdp] at he
  next_other s e he := by
    cases e with
    | trooperOut r => simp [answersUdp] at he
    | robot sbuf => simp [answersUdp] at he
    | driveraw => rfl
    | _ =>
      simp only [Machine.next, server, Thread_TCP, Thread_TCP_Trooper_In, Thread_Dog, mainKey]
      split_ifs <;> simp only [State.udpPart]
  emit_other s e he := by
    cases e with
    | trooperOut r => simp [answersUdp] at he
    | robot sbuf => simp [answersUdp] at he
    | driveraw =>
      rw [emit_driveraw]
      split_ifs <;> rfl
    | _ =>
      simp only [Machine.emit, server, Thread_TCP, Thread_TCP_Trooper_In, Thread_Dog, mainKey]
      split_ifs <;> rfl

/-- The events that matter to the answers of `Thread_TCP`: its own, and those of the telemetry. -/
def answersTcp : Event → Bool
  | .tcpRecv _ | .trooperOut _ | .robot _ => true
  | .trooperIn _ | .dog | .key _ | .driveraw => false

/-- What this depends on: the telemetry, and the counter of the simulation. -/
def State.tcpPart (s : State longBits) : ℤ × Vector Byte 21 × ℤ × Vector Byte 30 :=
  (s.debug, s.buffso_Raw_Data_Out, s.simu, s.buffso_send)

/-- A telemetry request sends nothing to the TCP client. -/
lemma toTcp_trooperOut (s : State longBits) (r : Received) :
    ((server longBits).emit s (.trooperOut r)).filterMap Output.toTcp = [] := by
  simp only [Machine.emit, server, Thread_TCP_Trooper_Out, trooperOutReply]
  split_ifs <;> rfl

/-- **The answers to the TCP client** depend on its own `recv`, on the telemetry requests and on
what comes from the robot only. -/
lemma unwinds_tcp :
    Machine.Unwinds (server longBits) answersTcp State.tcpPart Output.toTcp where
  next_congr s t e he hst := by
    have hparts := hst
    simp only [State.tcpPart, Prod.mk.injEq] at hparts
    obtain ⟨hdebug, hout, hsimu, hsend⟩ := hparts
    cases e with
    | tcpRecv r =>
      simp only [Machine.next, server, Thread_TCP, hdebug, hsimu, hsend]
      split_ifs <;> simp [State.tcpPart, *]
    | trooperOut r =>
      obtain ⟨_, _, hs⟩ := next_trooperOut s r
      obtain ⟨_, _, ht⟩ := next_trooperOut t r
      rw [hs, ht]
      simp only [State.tcpPart, hdebug, hsimu, hsend]
    | robot sbuf =>
      simp only [Machine.next, server, robotPayload]
      split_ifs
      · simp only [State.tcpPart, hdebug, hsimu, hsend]
      · exact hst
    | _ => simp [answersTcp] at he
  emit_congr s t e he hst := by
    simp only [State.tcpPart, Prod.mk.injEq] at hst
    obtain ⟨hdebug, hout, hsimu, hsend⟩ := hst
    cases e with
    | tcpRecv r =>
      simp only [Machine.emit, server, Thread_TCP, hdebug, hout, hsimu, hsend]
      split_ifs <;> rfl
    | trooperOut r => rw [toTcp_trooperOut, toTcp_trooperOut]
    | robot sbuf =>
      simp only [Machine.emit, server, robotPayload]
      split_ifs <;> rfl
    | _ => simp [answersTcp] at he
  next_other s e he := by
    cases e with
    | driveraw => rfl
    | tcpRecv r => simp [answersTcp] at he
    | trooperOut r => simp [answersTcp] at he
    | robot sbuf => simp [answersTcp] at he
    | _ =>
      simp only [Machine.next, server, Thread_TCP_Trooper_In, Thread_Dog, mainKey]
      split_ifs <;> simp only [State.tcpPart]
  emit_other s e he := by
    cases e with
    | driveraw =>
      rw [emit_driveraw]
      split_ifs <;> rfl
    | tcpRecv r => simp [answersTcp] at he
    | trooperOut r => simp [answersTcp] at he
    | robot sbuf => simp [answersTcp] at he
    | _ =>
      simp only [Machine.emit, server, Thread_TCP_Trooper_In, Thread_Dog, mainKey]
      split_ifs <;> rfl

/-- **The halves of the server are separate.** Take two runs, from two states that may differ in all
that the observer's part does not use. The serial port and the recoveries look the same in both with
the same commands, watchdog iterations and calls of `driveraw`, whatever requests, keys and robot
payloads come between them; the telemetry requests are answered the same with the same requests and
robot payloads; and the TCP client is answered the same if its own `recv` are the same as well. -/
theorem halves_separated (s t : State longBits) (es fs : List Event) :
    (s.motorPart = t.motorPart → es.filter drivesMotors = fs.filter drivesMotors →
      ((server longBits).outputs s es).filterMap Output.motorSide =
        ((server longBits).outputs t fs).filterMap Output.motorSide) ∧
    (s.udpPart = t.udpPart → es.filter answersUdp = fs.filter answersUdp →
      ((server longBits).outputs s es).filterMap Output.udpSide =
        ((server longBits).outputs t fs).filterMap Output.udpSide) ∧
    (s.tcpPart = t.tcpPart → es.filter answersTcp = fs.filter answersTcp →
      ((server longBits).outputs s es).filterMap Output.toTcp =
        ((server longBits).outputs t fs).filterMap Output.toTcp) :=
  ⟨fun hpart hes => unwinds_motors.outputs_congr hpart hes,
    fun hpart hes => unwinds_udp.outputs_congr hpart hes,
    fun hpart hes => unwinds_tcp.outputs_congr hpart hes⟩

end Wifibot
