import Wifibot.RawServer.SerialDecoder
import Wifibot.Library.Machine

set_option relaxedAutoImplicit false
set_option autoImplicit false

/-!
# The raw server

The threads of `raw_server/simple_server_main.c` with the globals they share, each handler one
atomic step: one `recv` of `Thread_TCP` with what follows it, one pass of the loops of
`Thread_TCP_Trooper_In` and `Thread_TCP_Trooper_Out`, one iteration of `Thread_Dog`, one key in
`main`, and the two calls of the loop of `Thread_RS232_33f`.

Globals start at zero, as in C. A `char` buffer is kept as its bytes. `Thread_TCP_Trooper_Out` is
taken from its first wait on, its first `memset` done on a buffer that is still zero.

## Main definitions

* `Wifibot.Received` — what `recv` or `recvfrom` returns.
* `Wifibot.State`, `Wifibot.Event`, `Wifibot.Output` — the server's globals, the atomic steps, and
  what leaves the server.
* `Wifibot.server` — the server as a machine.
-/

namespace Wifibot

/-- What `recv` or `recvfrom` gives: data, of any length, or a failure. -/
inductive Received
  | data (bytes : List Byte)
  | failed
  deriving DecidableEq

/-- The bytes a call with room for `len` bytes stores. -/
def Received.stored (len : ℕ) : Received → List Byte
  | .data bytes => bytes.take len
  | .failed => []

/-- The call's return value. -/
def Received.size (len : ℕ) : Received → ℤ
  | .data bytes => (bytes.take len).length
  | .failed => -1

/-- The globals of the server that its threads read. -/
structure State (longBits : ℕ) extends Telemetry longBits where
  debug : ℤ
  hUSB1 : ℤ
  connected : ℤ
  dog : ℤ
  simu : ℤ
  servermode : ℤ
  watchdog : ℤ
  cycles : ℤ
  speed1 : Byte
  speed2 : Byte
  buffso_send : Vector Byte 30
  buffso_rcvIN : Vector Byte 100
  buffso_rcvOUT : Vector Byte 100
  buffso_sendOUT : Vector Byte 100
  buffso_Raw_Data_In : Vector Byte 9

/-- The steps of the server's threads. -/
inductive Event
  | tcpRecv (r : Received)
  | trooperIn (r : Received)
  | trooperOut (r : Received)
  | dog
  | key (c : Char)
  | driveraw
  | robot (sbuf : Payload)
  deriving DecidableEq

/-- What leaves the server. -/
inductive Output
  | serial (frame : Vector Byte 9)
  | tcp (bytes : List Byte)
  | udp (bytes : List Byte)
  | restartTcp
  deriving DecidableEq

variable {longBits : ℕ}

/-- The globals when the threads start: the debug level from the command line, the serial handle
as `openrs232` returned it. -/
def State.start (debug hUSB1 : ℤ) : State longBits where
  toTelemetry := Telemetry.zero
  debug := debug
  hUSB1 := hUSB1
  connected := 0
  dog := 0
  simu := 0
  servermode := 0
  watchdog := 0
  cycles := 0
  speed1 := 0
  speed2 := 0
  buffso_send := Vector.replicate 30 0
  buffso_rcvIN := Vector.replicate 100 0
  buffso_rcvOUT := Vector.replicate 100 0
  buffso_sendOUT := Vector.replicate 100 0
  buffso_Raw_Data_In := Vector.replicate 9 0

/-! ## The handlers -/

/-- `Thread_TCP`: one `recv` straight into `buffso_Raw_Data_In`, and the answer to it. Without a
byte the session ends. -/
def Thread_TCP (s : State longBits) (r : Received) : State longBits × List Output :=
  let s : State longBits := { s with
    buffso_Raw_Data_In := s.buffso_Raw_Data_In.overlay (r.stored 9) }
  if r.size 9 < 1 then ({ s with connected := 0 }, [])
  else
    let s : State longBits := { s with connected := 1, dog := 0 }
    if s.debug = 0 then
      ({ s with watchdog := 0, cycles := 3 }, [.tcp s.buffso_Raw_Data_Out.toList])
    else if s.debug = 1 ∨ s.debug = 3 then
      let s : State longBits := { s with
        buffso_send := s.buffso_send.set! 0 (BitVec.ofInt 8 s.simu)
        simu := if s.simu + 1 = 160 then 0 else s.simu + 1 }
      (s, [.tcp (s.buffso_send.toList.take 7)])
    else (s, [])

/-- The test of `Thread_TCP_Trooper_In` on its receive buffer. -/
def trooperInTest (buffso_rcvIN : Vector Byte 100) : Bool :=
  leShort buffso_rcvIN[7]! buffso_rcvIN[8]! == crc16 (buffso_rcvIN.toList.drop 1) 6

/-- `Thread_TCP_Trooper_In`: one pass of its loop. The receive buffer keeps what the datagram does
not overwrite, and the length received is not looked at. -/
def Thread_TCP_Trooper_In (s : State longBits) (r : Received) : State longBits × List Output :=
  let s : State longBits := { s with buffso_rcvIN := s.buffso_rcvIN.overlay (r.stored 9) }
  if trooperInTest s.buffso_rcvIN then
    ({ s with
        watchdog := 0
        buffso_Raw_Data_In := s.buffso_Raw_Data_In.overlay (s.buffso_rcvIN.toList.take 9)
        cycles := 3
        servermode := 0 }, [])
  else (s, [])

/-- The bytes of a C string. -/
def cString (buf : List Byte) : List Byte := buf.takeWhile (· ≠ 0)

/-- Whether the bytes `text` occur among the bytes of a string. -/
def occurs (text : List Byte) : List Byte → Bool
  | [] => text.isEmpty
  | b :: l => text.isPrefixOf (b :: l) || occurs text l

/-- `strstr(buf, text) != NULL`. -/
def strstr (buf text : List Byte) : Bool := occurs text (cString buf)

/-- The text `init`. -/
def textInit : List Byte := [0x69, 0x6E, 0x69, 0x74]

/-- The text `data`. -/
def textData : List Byte := [0x64, 0x61, 0x74, 0x61]

/-- The text `ok` with its end. -/
def textOk : List Byte := [0x6F, 0x6B, 0x00]

/-- What `Thread_TCP_Trooper_Out` does with the request in its receive buffer. -/
def trooperOutReply (s : State longBits) : State longBits × List Output :=
  if strstr s.buffso_rcvOUT.toList textInit then
    let s : State longBits := { s with buffso_sendOUT := s.buffso_sendOUT.overlay textOk }
    (s, [.udp (s.buffso_sendOUT.toList.take 3)])
  else if strstr s.buffso_rcvOUT.toList textData then
    let mycrcsend := crc16 s.buffso_Raw_Data_Out.toList 18
    let s : State longBits := { s with
      buffso_Raw_Data_Out :=
        (s.buffso_Raw_Data_Out.set! 19 (loByte mycrcsend)).set! 20 (hiByte mycrcsend) }
    (s, [.udp s.buffso_Raw_Data_Out.toList])
  else (s, [])

/-- `Thread_TCP_Trooper_Out`: one datagram, and the `memset` that starts the next turn of the
loop. -/
def Thread_TCP_Trooper_Out (s : State longBits) (r : Received) : State longBits × List Output :=
  let (s, out) := trooperOutReply { s with buffso_rcvOUT := s.buffso_rcvOUT.overlay (r.stored 21) }
  ({ s with buffso_Raw_Data_Out := s.buffso_Raw_Data_Out.overlay (List.replicate 21 0) }, out)

/-- `Thread_Dog`: one iteration, compiled with `labusb`. When the stop branch finds a client
connected it cancels `Thread_TCP` and starts it anew. -/
def Thread_Dog (s : State longBits) : State longBits × List Output :=
  if s.watchdog < s.cycles then ({ s with watchdog := s.watchdog + 1 }, [])
  else if s.watchdog = s.cycles then
    let s : State longBits := { s with speed1 := 0, speed2 := 0 }
    let s : State longBits := { s with
      buffso_Raw_Data_In :=
        (((s.buffso_Raw_Data_In.set! 2 s.speed1).set! 3 (s.speed1 >>> 8)).set! 4 s.speed2).set! 5
          (s.speed2 >>> 8) }
    if s.connected ≠ 0 then ({ s with connected := 0 }, [.restartTcp]) else (s, [])
  else (s, [])

/-- One key in `main`. -/
def mainKey (s : State longBits) (c : Char) : State longBits × List Output :=
  if c = 'p' then ({ s with speed1 := s.speed1 + 10 }, []) else (s, [])

/-- `driveraw`: the motor frame goes to `writers232`, which without a handle writes nothing. -/
def driveraw (s : State longBits) : State longBits × List Output :=
  (s, if s.hUSB1 = 0 then [] else [.serial s.buffso_Raw_Data_In])

/-- `GetRS232Motor33f` on a payload it has read: decoded if the checksum is right. -/
def robotPayload (s : State longBits) (sbuf : Payload) : State longBits × List Output :=
  if payloadOk sbuf then ({ s with toTelemetry := decodePayload longBits sbuf }, []) else (s, [])

/-- **The server as a machine.** -/
def server (longBits : ℕ) : Machine (State longBits) Event Output where
  step s
    | .tcpRecv r => Thread_TCP s r
    | .trooperIn r => Thread_TCP_Trooper_In s r
    | .trooperOut r => Thread_TCP_Trooper_Out s r
    | .dog => Thread_Dog s
    | .key c => mainKey s c
    | .driveraw => driveraw s
    | .robot sbuf => robotPayload s sbuf

/-- A call of the serial decoder is, for the server, the step of the payload it decoded, or no step
at all. -/
lemma run_robot_of_returned {s : State longBits} {fuel : ℕ} {port : Port} {sbuf : Vector Byte 30}
    {pos : ℕ} {r : CallResult longBits}
    (h : GetRS232Motor33f fuel s.hUSB1 port sbuf s.toTelemetry pos = some r) :
    (server longBits).run s (r.accepted.toList.map Event.robot) =
      { s with toTelemetry := r.telemetry } := by
  rcases GetRS232Motor33f_returned h with ⟨hnone, hdata⟩ | ⟨p, hsome, hok, hdata⟩
  · rw [hnone, hdata]
    rfl
  · rw [hsome, hdata]
    simp [Machine.next, server, robotPayload, hok]

end Wifibot
