import Wifibot.RawServer.Command
import Wifibot.WindowsServer.Server

set_option relaxedAutoImplicit false
set_option autoImplicit false

/-!
# Commands of the Windows server and what a step does

What one step of the Windows server can do to the watchdog, to the motor frame at the front of
`buffso_rcvIN_Tcp`, and to the COM port, said once for every kind of step. The properties of runs
are derived from these lemmas.

## Main definitions

* `Wifibot.Windows.isCommand`, `Wifibot.Windows.isSilent` — a `recv` with a byte or an accepted
  datagram, and a `recv` without a byte.
* `Wifibot.Windows.stops` — `Thread_Dog` would take its stop branch.
* `Wifibot.Windows.setFlag` — what a write does to the flag byte.

## Main results

* `Wifibot.Windows.watchdog_next`, `Wifibot.Windows.cycles_next`,
  `Wifibot.Windows.motorBuffer_next` — what any step does to the watchdog, its limit and the motor
  frame.
* `Wifibot.Windows.serial_mem_emit_iff` — what is written to the COM port.
-/

namespace Wifibot.Windows

/-- The test of `Thread_UDP_In` on its receive buffer. -/
def udpInTest (buffso_rcvIN : Vector Byte 100) : Bool :=
  leShort buffso_rcvIN[7]! buffso_rcvIN[8]! == Crc16 (buffso_rcvIN.toList.drop 1) 6

/-- A command: a `recv` of at least one byte, or a datagram that `Thread_UDP_In` accepts. -/
def isCommand (s : State) : Event → Bool
  | .tcpRecv r => 1 ≤ r.size 9
  | .udpIn r => udpInTest (s.buffso_rcvIN.overlay (r.stored 9))
  | _ => false

/-- A `recv` that brings no byte: the client has closed the connection, or it failed. -/
def isSilent : Event → Bool
  | .tcpRecv r => r.size 9 < 1
  | _ => false

/-- The next iteration of `Thread_Dog` takes its stop branch. -/
def stops (s : State) : Prop := ¬ s.watchdog < s.cycles ∧ s.watchdog = s.cycles

instance (s : State) : Decidable (stops s) :=
  inferInstanceAs (Decidable (¬ s.watchdog < s.cycles ∧ s.watchdog = s.cycles))

/-- The buffer with the wheel speeds, bytes `2` to `5`, cleared. -/
def clearSpeeds (buf : Vector Byte 30) : Vector Byte 30 :=
  (((buf.set! 2 0).set! 3 0).set! 4 0).set! 5 0

/-- Both wheel speeds are zero. -/
def SpeedsZero (buf : Vector Byte 30) : Prop :=
  buf[2]! = 0 ∧ buf[3]! = 0 ∧ buf[4]! = 0 ∧ buf[5]! = 0

/-- The buffer with bit `0` of the flag byte set, as a write sets it. -/
def setFlag (buf : Vector Byte 30) : Vector Byte 30 :=
  if buf[6]! &&& 1 = 0 then buf.set! 6 (buf[6]! + 1) else buf

lemma speedsZero_clearSpeeds (buf : Vector Byte 30) : SpeedsZero (clearSpeeds buf) := by
  simp [SpeedsZero, clearSpeeds]

/-- A byte and its successor differ in bit `0`. -/
lemma flag_add_one {b : Byte} (h : b &&& 1 = 0) : (b + 1) &&& 1 ≠ 0 := by
  revert b
  decide

/-- A flag that is set stays as it is. -/
@[simp] lemma setFlag_setFlag (buf : Vector Byte 30) : setFlag (setFlag buf) = setFlag buf := by
  by_cases h : buf[6]! &&& 1 = 0
  · have hset : setFlag buf = buf.set! 6 (buf[6]! + 1) := if_pos h
    rw [hset, setFlag, if_neg]
    simpa using flag_add_one h
  · have hset : setFlag buf = buf := if_neg h
    rw [hset, hset]

/-! ## One step -/

/-- A telemetry request touches neither the watchdog nor the motor frame, and writes nothing to the
COM port. -/
lemma next_udpOut (s : State) (r : Received) :
    (∃ rcv sent out, server.next s (.udpOut r) =
      { s with buffso_rcvOUT := rcv, buffso_sendOUT := sent, buffso_rcvOUT_Tcp := out }) ∧
      ∀ f, Output.serial f ∉ server.emit s (.udpOut r) := by
  simp only [Machine.next, Machine.emit, server, Thread_UDP_Out]
  split_ifs
  · exact ⟨⟨_, _, _, rfl⟩, fun f => by simp⟩
  · exact ⟨⟨_, _, _, rfl⟩, fun f => by simp⟩
  · exact ⟨⟨_, _, _, rfl⟩, fun f => by simp⟩

/-- **What a step does to watchdog and limit**: a command sets both, and so does a `recv` without a
byte; `Thread_Dog` counts below the limit. -/
lemma counters_next (s : State) (e : Event) :
    (server.next s e).watchdog =
        (if isCommand s e || isSilent e then 0
        else if e = .dog ∧ s.watchdog < s.cycles then s.watchdog + 1 else s.watchdog) ∧
      (server.next s e).cycles = if isCommand s e || isSilent e then 3 else s.cycles := by
  cases e with
  | udpOut r =>
    obtain ⟨⟨_, _, _, h⟩, -⟩ := next_udpOut s r
    simp [h, isCommand, isSilent]
  | tcpRecv r =>
    by_cases h : r.size 9 < 1
    · simp [Machine.next, server, Thread_TCP_Serial, isSilent, h]
    · have hsize : 1 ≤ r.size 9 := by omega
      simp [Machine.next, server, Thread_TCP_Serial, isCommand, isSilent, hsize]
  | _ =>
    simp only [Machine.next, server, Thread_UDP_In, Thread_Dog, serialWrite, robotPayload,
      decodePayload, isCommand, isSilent, udpInTest]
    split_ifs <;> simp_all

/-- The watchdog after a step. -/
lemma watchdog_next (s : State) (e : Event) :
    (server.next s e).watchdog =
      if isCommand s e || isSilent e then 0
      else if e = .dog ∧ s.watchdog < s.cycles then s.watchdog + 1 else s.watchdog :=
  (counters_next s e).1

/-- The limit after a step. -/
lemma cycles_next (s : State) (e : Event) :
    (server.next s e).cycles = if isCommand s e || isSilent e then 3 else s.cycles :=
  (counters_next s e).2

/-- **What a step other than a command does to the motor frame**: the stop branch clears its wheel
speeds, and a write sets its flag. -/
lemma motorBuffer_next {s : State} {e : Event} (he : isCommand s e = false) :
    (server.next s e).buffso_rcvIN_Tcp =
      if e = .dog ∧ stops s then clearSpeeds s.buffso_rcvIN_Tcp
      else if e = .serialWrite then setFlag s.buffso_rcvIN_Tcp
      else s.buffso_rcvIN_Tcp := by
  cases e with
  | udpOut r =>
    obtain ⟨⟨_, _, _, h⟩, -⟩ := next_udpOut s r
    simp [h]
  | tcpRecv r =>
    have hsize : r.size 9 < 1 := by simpa [isCommand] using he
    simp [Machine.next, server, Thread_TCP_Serial, Received.stored_of_size_lt hsize]
  | dog =>
    simp only [Machine.next, server, Thread_Dog, stops]
    split_ifs <;> simp_all [clearSpeeds]
  | _ =>
    simp only [Machine.next, server, Thread_UDP_In, serialWrite, robotPayload, decodePayload,
      isCommand, udpInTest, setFlag] at he ⊢
    split_ifs <;> simp_all

/-- **What is written to the COM port**: the motor frame with its flag set. -/
lemma serial_mem_emit_iff {s : State} {e : Event} {f : List Byte} :
    .serial f ∈ server.emit s e ↔
      e = .serialWrite ∧ f = (setFlag s.buffso_rcvIN_Tcp).toList.take 9 := by
  cases e with
  | udpOut r => simpa using (next_udpOut s r).2 f
  | serialWrite =>
    simp only [Machine.emit, server, serialWrite, setFlag, List.mem_singleton, true_and,
      Output.serial.injEq]
    split_ifs <;> rfl
  | tcpConnect => simp [Machine.emit, server]
  | robot sbuf => simp [Machine.emit, server, robotPayload]
  | _ =>
    simp only [Machine.emit, server, Thread_TCP_Serial, Thread_UDP_In, Thread_Dog]
    split_ifs <;> simp

end Wifibot.Windows
