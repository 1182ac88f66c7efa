import Wifibot.RawServer.Server

set_option relaxedAutoImplicit false
set_option autoImplicit false

/-!
# The Windows server

The threads of `www/wifibot/robot_server/testlab/wifibot.cpp` with the globals they share, each
handler one atomic step, in the manner of the raw server: one `accept` and one `recv` of
`Thread_TCP_Serial`, one pass of the loops of `Thread_UDP_In` and `Thread_UDP_Out`, one iteration
of `Thread_Dog`, and the write and the read of the loop of `Thread_RS23233f`.

The library calls of C, the receive results and the checksum loop are those of the raw server.

## Main definitions

* `Wifibot.Windows.State`, `Wifibot.Windows.Event` — the globals and the atomic steps.
* `Wifibot.Windows.server` — the server as a machine.
-/

namespace Wifibot.Windows

/-- `SensorData` of the Windows server; its `long` has 32 bits. -/
structure SensorData where
  SpeedFront : ℤ
  BatLevel : ℤ
  IR : ℤ
  IR2 : ℤ
  odometry : BitVec 32
  Current : ℤ
  Version : ℤ
  deriving DecidableEq

/-- The globals of the server that its threads read. -/
structure State where
  rawproto : ℤ
  servermode : ℤ
  watchdog : ℤ
  cycles : ℤ
  speed1 : Byte
  speed2 : Byte
  buffso_rcv : Vector Byte 32
  buffso_rcvIN : Vector Byte 100
  buffso_rcvOUT : Vector Byte 100
  buffso_sendOUT : Vector Byte 100
  buffso_rcvIN_Tcp : Vector Byte 30
  buffso_rcvOUT_Tcp : Vector Byte 30
  dataL : SensorData
  dataR : SensorData

/-- The steps of the server's threads. -/
inductive Event
  | tcpConnect
  | tcpRecv (r : Received)
  | udpIn (r : Received)
  | udpOut (r : Received)
  | dog
  | serialWrite
  | robot (sbuf : Payload)
  deriving DecidableEq

/-- What leaves the server. -/
inductive Output
  | serial (frame : List Byte)
  | tcp (bytes : List Byte)
  | udp (bytes : List Byte)
  deriving DecidableEq

/-- `Crc16`: the loop of the raw server's `crc16`. -/
def Crc16 (Adresse_tab : List Byte) (Taille_max : Byte) : BitVec 16 := crc16 Adresse_tab Taille_max

/-- All fields zero. -/
def SensorData.zero : SensorData := ⟨0, 0, 0, 0, 0, 0, 0⟩

/-- The globals when the threads start. -/
def State.start : State where
  rawproto := 0
  servermode := 0
  watchdog := 0
  cycles := 0
  speed1 := 0
  speed2 := 0
  buffso_rcv := Vector.replicate 32 0
  buffso_rcvIN := Vector.replicate 100 0
  buffso_rcvOUT := Vector.replicate 100 0
  buffso_sendOUT := Vector.replicate 100 0
  buffso_rcvIN_Tcp := Vector.replicate 30 0
  buffso_rcvOUT_Tcp := Vector.replicate 30 0
  dataL := SensorData.zero
  dataR := SensorData.zero

/-- `Thread_TCP_Serial`: one `recv` and the answer to it. Without a byte the sending side was shut
down before, so that no answer leaves, but the watchdog is reset all the same. -/
def Thread_TCP_Serial (s : State) (r : Received) : State × List Output :=
  let s : State :=
    { s with
      buffso_rcvIN_Tcp := s.buffso_rcvIN_Tcp.overlay (r.stored 9)
      speed1 := s.buffso_rcv[0]!
      speed2 := s.buffso_rcv[1]!
      watchdog := 0
      cycles := 3 }
  (s, if r.size 9 < 1 then [] else [.tcp (s.buffso_rcvOUT_Tcp.toList.take 21)])

/-- `Thread_Dog`: one iteration. -/
def Thread_Dog (s : State) : State × List Output :=
  if s.watchdog < s.cycles then ({ s with watchdog := s.watchdog + 1 }, [])
  else if s.watchdog = s.cycles then
    let s : State := { s with speed1 := 0, speed2 := 0 }
    ({ s with
        buffso_rcvIN_Tcp :=
          (((s.buffso_rcvIN_Tcp.set! 2 s.speed1).set! 3 (s.speed1 >>> 8)).set! 4 s.speed2).set! 5
            (s.speed2 >>> 8) }, [])
  else (s, [])

/-- `Thread_UDP_In`: one pass of its loop. -/
def Thread_UDP_In (s : State) (r : Received) : State × List Output :=
  let s : State := { s with buffso_rcvIN := s.buffso_rcvIN.overlay (r.stored 9) }
  if leShort s.buffso_rcvIN[7]! s.buffso_rcvIN[8]! = Crc16 (s.buffso_rcvIN.toList.drop 1) 6 then
    ({ s with
        watchdog := 0
        buffso_rcvIN_Tcp := s.buffso_rcvIN_Tcp.overlay (s.buffso_rcvIN.toList.take 9)
        cycles := 3
        servermode := 0 }, [])
  else (s, [])

/-- `Thread_UDP_Out`: one pass of its loop. -/
def Thread_UDP_Out (s : State) (r : Received) : State × List Output :=
  let s : State := { s with buffso_rcvOUT := s.buffso_rcvOUT.overlay (r.stored 21) }
  if strstr s.buffso_rcvOUT.toList textInit then
    let s : State := { s with buffso_sendOUT := s.buffso_sendOUT.overlay textOk }
    (s, [.udp (s.buffso_sendOUT.toList.take 3)])
  else if strstr s.buffso_rcvOUT.toList textData then
    let mycrcsend := Crc16 (s.buffso_rcvOUT_Tcp.toList.drop 1) 18
    let s : State :=
      { s with
        buffso_rcvOUT_Tcp :=
          (s.buffso_rcvOUT_Tcp.set! 19 (loByte mycrcsend)).set! 20 (hiByte mycrcsend) }
    ({ s with buffso_rcvOUT_Tcp := s.buffso_rcvOUT_Tcp.overlay (List.replicate 21 0) },
      [.udp (s.buffso_rcvOUT_Tcp.toList.take 21)])
  else (s, [])

/-- The write of `Thread_RS23233f`: bit `0` of the flag byte is set first. -/
def serialWrite (s : State) : State × List Output :=
  let s : State :=
    if s.buffso_rcvIN_Tcp[6]! &&& 1 = 0 then
      { s with buffso_rcvIN_Tcp := s.buffso_rcvIN_Tcp.set! 6 (s.buffso_rcvIN_Tcp[6]! + 1) }
    else s
  (s, [.serial (s.buffso_rcvIN_Tcp.toList.take 9)])

/-- The accepting branch of `GetMotorRS23233f`, for the first 21 bytes of `sbuf`. -/
def decodePayload (s : State) (sbuf : Payload) : State :=
  { s with
    dataL :=
      { SpeedFront := speedOf sbuf[0]! sbuf[1]!
        BatLevel := Byte.int sbuf[2]!
        IR := Byte.int sbuf[3]!
        IR2 := Byte.int sbuf[4]!
        odometry := odometryOf 32 sbuf[8]! sbuf[7]! sbuf[6]! sbuf[5]!
        Current := Byte.int sbuf[17]!
        Version := Byte.int sbuf[18]! }
    dataR :=
      { SpeedFront := speedOf sbuf[9]! sbuf[10]!
        BatLevel := 0
        IR := Byte.int sbuf[11]!
        IR2 := Byte.int sbuf[12]!
        odometry := odometryOf 32 sbuf[16]! sbuf[15]! sbuf[14]! sbuf[13]!
        Current := Byte.int sbuf[17]!
        Version := Byte.int sbuf[18]! }
    buffso_rcvOUT_Tcp := s.buffso_rcvOUT_Tcp.overlay sbuf.toList }

/-- `GetMotorRS23233f` on a payload it has read: decoded if the checksum is right. -/
def robotPayload (s : State) (sbuf : Payload) : State × List Output :=
  (if payloadOk sbuf then decodePayload s sbuf else s, [])

/-- **The Windows server as a machine.** -/
def server : Machine State Event Output where
  step s
    | .tcpConnect => ({ s with rawproto := 1 }, [])
    | .tcpRecv r => Thread_TCP_Serial s r
    | .udpIn r => Thread_UDP_In s r
    | .udpOut r => Thread_UDP_Out s r
    | .dog => Thread_Dog s
    | .serialWrite => serialWrite s
    | .robot sbuf => robotPayload s sbuf

end Wifibot.Windows
