import Wifibot.Library.Simulation
import Wifibot.WindowsServer.Command

set_option relaxedAutoImplicit false
set_option autoImplicit false

/-!
# What the halves of the Windows server have to do with each other

As in the raw server, the motor frame with the watchdog, and the telemetry with its requests, are
two halves that only `recv` of `Thread_TCP_Serial` has a part in both of. Unlike there, a request
that finds neither text leaves the telemetry as it is.

## Main definitions

* `Wifibot.Windows.drivesMotors`, `Wifibot.Windows.answersUdp`, `Wifibot.Windows.answersTcp` — the
  events that matter to the COM port, to the telemetry requests, and to the TCP client.

## Main results

* `Wifibot.Windows.halves_separated` — two runs with the same events of a kind are the same to the
  observer of that kind.
-/

namespace Wifibot.Windows

/-- The events that matter to what is written to the COM port. -/
def drivesMotors : Event → Bool
  | .tcpRecv _ | .udpIn _ | .dog | .serialWrite => true
  | .tcpConnect | .udpOut _ | .robot _ => false

/-- The events that matter to the answers of `Thread_UDP_Out`. -/
def answersUdp : Event → Bool
  | .udpOut _ | .robot _ => true
  | .tcpConnect | .tcpRecv _ | .udpIn _ | .dog | .serialWrite => false

/-- The events that matter to the answers of `Thread_TCP_Serial`. -/
def answersTcp : Event → Bool
  | .tcpRecv _ | .udpOut _ | .robot _ => true
  | .tcpConnect | .udpIn _ | .dog | .serialWrite => false

/-- What is seen at the COM port. -/
def Output.toSerial : Output → Option (List Byte)
  | .serial f => some f
  | .tcp _ | .udp _ => none

/-- What the client of the telemetry requests sees. -/
def Output.toUdp : Output → Option (List Byte)
  | .udp bytes => some bytes
  | .serial _ | .tcp _ => none

/-- What the TCP client sees. -/
def Output.toTcp : Output → Option (List Byte)
  | .tcp bytes => some bytes
  | .serial _ | .udp _ => none

/-- What the frames depend on. -/
def State.motorPart (s : State) : ℤ × ℤ × Vector Byte 100 × Vector Byte 30 :=
  (s.watchdog, s.cycles, s.buffso_rcvIN, s.buffso_rcvIN_Tcp)

/-- What the answers to telemetry requests depend on. -/
def State.udpPart (s : State) : Vector Byte 30 × Vector Byte 100 × Vector Byte 100 :=
  (s.buffso_rcvOUT_Tcp, s.buffso_rcvOUT, s.buffso_sendOUT)

/-- **The COM port** depends on the commands, the watchdog and the writes only. -/
lemma unwinds_motors : Machine.Unwinds server drivesMotors State.motorPart Output.toSerial where
  next_congr s t e he hst := by
    have hparts := hst
    simp only [State.motorPart, Prod.mk.injEq] at hparts
    obtain ⟨hdog, hcycles, hrcv, hframe⟩ := hparts
    cases e with
    | tcpRecv r =>
      simp only [Machine.next, server, Thread_TCP_Serial, State.motorPart, hrcv, hframe]
    | udpIn r =>
      simp only [Machine.next, server, Thread_UDP_In, hrcv, hframe]
      split_ifs <;> simp only [State.motorPart, hdog, hcycles]
    | dog =>
      simp only [Machine.next, server, Thread_Dog, hdog, hcycles, hframe]
      split_ifs <;> simp only [State.motorPart, hdog, hcycles, hrcv, hframe]
    | serialWrite =>
      simp only [Machine.next, server, serialWrite, hframe]
      split_ifs <;> simp only [State.motorPart, hdog, hcycles, hrcv, hframe]
    | _ => simp [drivesMotors] at he
  emit_congr s t e he hst := by
    simp only [State.motorPart, Prod.mk.injEq] at hst
    obtain ⟨hdog, hcycles, -, hframe⟩ := hst
    cases e with
    | tcpRecv r =>
      simp only [Machine.emit, server, Thread_TCP_Serial]
      split_ifs <;> rfl
    | udpIn r =>
      simp only [Machine.emit, server, Thread_UDP_In]
      split_ifs <;> rfl
    | dog =>
      simp only [Machine.emit, server, Thread_Dog, hdog, hcycles]
      split_ifs <;> rfl
    | serialWrite =>
      simp only [Machine.emit, server, serialWrite, hframe]
      split_ifs <;> simp only [List.filterMap_cons, Output.toSerial, hframe]
    | _ => simp [drivesMotors] at he
  next_other s e he := by
    cases e with
    | tcpConnect => rfl
    | udpOut r =>
      obtain ⟨⟨_, _, _, h⟩, -⟩ := next_udpOut s r
      rw [h]
      rfl
    | robot sbuf =>
      simp only [Machine.next, server, robotPayload]
      split_ifs <;> simp only [State.motorPart, decodePayload]
    | _ => simp [drivesMotors] at he
  emit_other s e he := by
    cases e with
    | udpOut r =>
      simp only [Machine.emit, server, Thread_UDP_Out]
      split_ifs <;> rfl
    | tcpConnect => rfl
    | robot sbuf => rfl
    | _ => simp [drivesMotors] at he

/-- The step of `Thread_UDP_Out`, from its buffers. -/
lemma udpOut_congr {s t : State} (h : s.udpPart = t.udpPart) (r : Received) :
    server.emit s (.udpOut r) = server.emit t (.udpOut r) ∧
      (server.next s (.udpOut r)).udpPart = (server.next t (.udpOut r)).udpPart := by
  simp only [State.udpPart, Prod.mk.injEq] at h
  obtain ⟨hout, hrcv, hsent⟩ := h
  simp only [Machine.emit, Machine.next, server, Thread_UDP_Out, hout, hrcv, hsent]
  split_ifs
  · simp only [State.udpPart, and_self]
  · simp only [State.udpPart, and_self]
  · simp only [State.udpPart, and_self]

/-- What comes from the robot, from these buffers. -/
lemma robot_congr {s t : State} (h : s.udpPart = t.udpPart) (sbuf : Payload) :
    (server.next s (.robot sbuf)).udpPart = (server.next t (.robot sbuf)).udpPart := by
  simp only [Machine.next, server, robotPayload]
  split_ifs
  · simp only [State.udpPart, Prod.mk.injEq] at h
    simp only [State.udpPart, decodePayload, h]
  · exact h

/-- Of the telemetry, only the requests and the robot change anything. -/
lemma udpPart_next (s : State) {e : Event} (he : answersUdp e = false) :
    (server.next s e).udpPart = s.udpPart := by
  cases e with
  | tcpConnect => rfl
  | tcpRecv r => simp only [Machine.next, server, Thread_TCP_Serial, State.udpPart]
  | udpOut r => simp [answersUdp] at he
  | robot sbuf => simp [answersUdp] at he
  | _ =>
    simp only [Machine.next, server, Thread_UDP_In, Thread_Dog, serialWrite]
    split_ifs <;> simp only [State.udpPart]

/-- **The answers to telemetry requests** depend on the requests and on what comes from the robot
only. -/
lemma unwinds_udp : Machine.Unwinds server answersUdp State.udpPart Output.toUdp where
  next_congr s t e he hst := by
    cases e with
    | udpOut r => exact (udpOut_congr hst r).2
    | robot sbuf => exact robot_congr hst sbuf
    | _ => simp [answersUdp] at he
  emit_congr s t e he hst := by
    cases e with
    | udpOut r => rw [(udpOut_congr hst r).1]
    | robot sbuf => rfl
    | _ => simp [answersUdp] at he
  next_other s e he := udpPart_next s he
  emit_other s e he := by
    cases e with
    | tcpRecv r =>
      simp only [Machine.emit, server, Thread_TCP_Serial]
      split_ifs <;> rfl
    | udpOut r => simp [answersUdp] at he
    | robot sbuf => simp [answersUdp] at he
    | serialWrite => rfl
    | tcpConnect => rfl
    | _ =>
      simp only [Machine.emit, server, Thread_UDP_In, Thread_Dog]
      split_ifs <;> rfl

/-- A telemetry request sends nothing to the TCP client. -/
lemma toTcp_udpOut (s : State) (r : Received) :
    (server.emit s (.udpOut r)).filterMap Output.toTcp = [] := by
  simp only [Machine.emit, server, Thread_UDP_Out]
  split_ifs <;> rfl

/-- **The answers to the TCP client** depend on its own `recv`, on the telemetry requests and on
what comes from the robot only. -/
lemma unwinds_tcp : Machine.Unwinds server answersTcp State.udpPart Output.toTcp where
  next_congr s t e he hst := by
    cases e with
    | tcpRecv r => rw [udpPart_next s rfl, udpPart_next t rfl, hst]
    | udpOut r => exact (udpOut_congr hst r).2
    | robot sbuf => exact robot_congr hst sbuf
    | _ => simp [answersTcp] at he
  emit_congr s t e he hst := by
    cases e with
    | tcpRecv r =>
      simp only [State.udpPart, Prod.mk.injEq] at hst
      simp only [Machine.emit, server, Thread_TCP_Serial, hst.1]
    | udpOut r => rw [toTcp_udpOut, toTcp_udpOut]
    | robot sbuf => rfl
    | _ => simp [answersTcp] at he
  next_other s e he := by
    refine udpPart_next s ?_
    cases e <;> simp_all [answersTcp, answersUdp]
  emit_other s e he := by
    cases e with
    | tcpRecv r => simp [answersTcp] at he
    | udpOut r => simp [answersTcp] at he
    | robot sbuf => simp [answersTcp] at he
    | serialWrite => rfl
    | tcpConnect => rfl
    | _ =>
      simp only [Machine.emit, server, Thread_UDP_In, Thread_Dog]
      split_ifs <;> rfl

/-- **The halves of the Windows server are separate.** From any state, the COM port shows the same
in two runs with the same commands, `recv` without a byte, watchdog iterations and writes, whatever
else comes between them; the telemetry requests are answered the same in two runs with the same
requests and robot payloads; and the TCP client is answered the same if its own `recv` are the same
as well. -/
theorem windows_halves_separated (s : State) (es fs : List Event) :
    (es.filter drivesMotors = fs.filter drivesMotors →
      (server.outputs s es).filterMap Output.toSerial =
        (server.outputs s fs).filterMap Output.toSerial) ∧
    (es.filter answersUdp = fs.filter answersUdp →
      (server.outputs s es).filterMap Output.toUdp =
        (server.outputs s fs).filterMap Output.toUdp) ∧
    (es.filter answersTcp = fs.filter answersTcp →
      (server.outputs s es).filterMap Output.toTcp =
        (server.outputs s fs).filterMap Output.toTcp) :=
  ⟨fun h => unwinds_motors.outputs_congr rfl h, fun h => unwinds_udp.outputs_congr rfl h,
    fun h => unwinds_tcp.outputs_congr rfl h⟩

end Wifibot.Windows
