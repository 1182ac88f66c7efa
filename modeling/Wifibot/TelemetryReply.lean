import Wifibot.RawServer.Command
import Wifibot.WindowsServer.Server

set_option relaxedAutoImplicit false
set_option autoImplicit false

/-!
# The answer to a telemetry request on UDP

Both servers answer a `data` request with the last payload of the robot, its checksum computed
anew. The robot's checksum covers bytes `0` to `18`; the raw server computes it of bytes `0` to
`17`, the Windows server of bytes `1` to `18`.

## Main definitions

* `Wifibot.asksData` — the request is taken for a `data` request.
* `Wifibot.ReplyOk` — an answer has the payload's bytes and passes the test of the decoder.
* `Wifibot.lastByteQuiet` — the payload's last byte does not count in its checksum.

## Main results

* `Wifibot.telemetry_replies` — the raw server's answer is right iff the last byte does not count,
  the Windows server's never.
-/

namespace Wifibot

open ShiftRegister

variable {longBits : ℕ}

/-- The request in the receive buffer is taken for a `data` request. -/
def asksData (buffso_rcvOUT : Vector Byte 100) : Bool :=
  !strstr buffso_rcvOUT.toList textInit && strstr buffso_rcvOUT.toList textData

/-- An answer carries bytes `0` to `18` of the payload, and passes the test that the decoder makes
on a payload. -/
def ReplyOk (p : Payload) (reply : List Byte) : Prop :=
  reply.length = 21 ∧ reply.take 19 = p.toList.take 19 ∧ crcTest reply 19 = true

/-- A payload with its checksum bytes replaced by a `short`. -/
def withShort (p : Payload) (x : BitVec 16) : Payload := (p.set! 19 (loByte x)).set! 20 (hiByte x)

/-- The payload's last byte leaves the checksum's register as it finds it. -/
def lastByteQuiet (p : Payload) : Prop :=
  crcOctet ((p.toList.take 18).foldl crcOctet 0xFFFF) p[18]! =
    (p.toList.take 18).foldl crcOctet 0xFFFF

/-- **An answer with some checksum** is right iff the checksum is that of bytes `0` to `18`. -/
lemma replyOk_withShort_iff (p : Payload) (x : BitVec 16) :
    ReplyOk p (withShort p x).toList ↔ x = crc16 p.toList 19 := by
  have htake : (withShort p x).toList.take 19 = p.toList.take 19 := by
    rw [withShort, Vector.toList_set!, Vector.toList_set!, List.take_set_of_le (by decide),
      List.take_set_of_le (by decide)]
  have hcrc : crc16 (withShort p x).toList 19 = crc16 p.toList 19 := crc16_congr htake
  have htest : crcTest (withShort p x).toList 19 = true ↔ x = crc16 p.toList 19 := by
    change payloadOk (withShort p x) = true ↔ _
    rw [payloadOk_iff, hcrc]
    simp [withShort]
  rw [ReplyOk, htake, htest]
  simp

/-- The checksum without the last byte is the checksum iff that byte does not count. -/
lemma crc16_eighteen_eq_iff (p : Payload) :
    crc16 p.toList 18 = crc16 p.toList 19 ↔ lastByteQuiet p := by
  have htake : p.toList.take 19 = p.toList.take 18 ++ [p[18]!] := by
    rw [List.take_succ_eq_append_getElem (by simp), Vector.getElem_toList,
      getElem!_pos p 18 (by decide)]
  have hall : crc16 p.toList 19 =
      feed poly16 (feedAll poly16 crcInit (p.toList.take 18)) p[18]! := by
    rw [crc16_eq_feedAll]
    change feedAll poly16 crcInit (p.toList.take 19) = _
    rw [htake, feedAll_append]
    rfl
  rw [lastByteQuiet, show (0xFFFF : BitVec 32) = crcInit.setWidth 32 from rfl, foldl_crcOctet,
    crcOctet_setWidth, setWidth_inj, hall, crc16_eq_feedAll, eq_comm]
  rfl

/-- No byte leaves the register as it is at the start. -/
lemma feed_crcInit_ne (b : Byte) : feed poly16 crcInit b ≠ crcInit := by
  revert b
  decide +kernel

/-- The checksum without the first byte is never the checksum. -/
lemma crc16_drop_one_ne (p : Payload) : crc16 (p.toList.drop 1) 18 ≠ crc16 p.toList 19 := by
  have htake : p.toList.take 19 = p[0]! :: (p.toList.drop 1).take 18 := by
    apply List.ext_getElem
    · simp
    · intro i h₁ h₂
      cases i with
      | zero => simp
      | succ i => simp
  rw [crc16_eq_feedAll, crc16_eq_feedAll]
  change feedAll poly16 crcInit ((p.toList.drop 1).take 18) ≠
    feedAll poly16 crcInit (p.toList.take 19)
  rw [htake, feedAll_cons]
  intro h
  exact feed_crcInit_ne p[0]! (feedAll_injective _ h).symm

/-! ## The two servers -/

/-- The raw server's answer to a `data` request after a payload. -/
lemma emit_trooperOut_data {s : State longBits} {p : Payload} (hp : payloadOk p = true)
    {r : Received} (hr : asksData (s.buffso_rcvOUT.overlay (r.stored 21)) = true) :
    (server longBits).emit ((server longBits).next s (.robot p)) (.trooperOut r) =
      [.udp (withShort p (crc16 p.toList 18)).toList] := by
  simp only [asksData, Bool.and_eq_true, Bool.not_eq_true'] at hr
  simp [Machine.emit, Machine.next, server, robotPayload, hp, Thread_TCP_Trooper_Out,
    trooperOutReply, hr, withShort, decodePayload]

/-- The Windows server's buffer after a payload, its checksum bytes replaced, starts with the
payload so changed. -/
lemma take_withShort_overlay (buf : Vector Byte 30) (p : Payload) (x : BitVec 16) :
    (((buf.overlay p.toList).set! 19 (loByte x)).set! 20 (hiByte x)).toList.take 21 =
      (withShort p x).toList := by
  rw [withShort, Vector.toList_set!, Vector.toList_set!, Vector.toList_set!, Vector.toList_set!,
    List.take_set, List.take_set, Vector.toList_overlay _ _ (by simp), List.take_left' (by simp)]

/-- The Windows server's answer to a `data` request after a payload. -/
lemma emit_udpOut_data {s : Windows.State} {p : Payload} (hp : payloadOk p = true)
    {r : Received} (hr : asksData (s.buffso_rcvOUT.overlay (r.stored 21)) = true) :
    Windows.server.emit (Windows.server.next s (.robot p)) (.udpOut r) =
      [.udp (withShort p (crc16 (p.toList.drop 1) 18)).toList] := by
  simp only [asksData, Bool.and_eq_true, Bool.not_eq_true'] at hr
  have hcrc : crc16 ((s.buffso_rcvOUT_Tcp.overlay p.toList).toList.drop 1) 18 =
      crc16 (p.toList.drop 1) 18 := by
    refine crc16_congr ?_
    rw [Vector.toList_overlay _ _ (by simp), List.drop_append_of_le_length (by simp)]
    exact List.take_append_of_le_length (by simp)
  have hreply := take_withShort_overlay s.buffso_rcvOUT_Tcp p (crc16 (p.toList.drop 1) 18)
  rw [← hreply, ← hcrc]
  simp only [Machine.emit, Machine.next, Windows.server, Windows.robotPayload, hp, if_true,
    Windows.decodePayload, Windows.Thread_UDP_Out, hr.1, hr.2, Windows.Crc16]
  rfl

/-- **The answers to a `data` request** that comes right after an accepted payload. The raw server's
has the payload's bytes and the right checksum iff the payload's last byte leaves the checksum's
register unchanged; the Windows server's never does. So the two are never both right.

**Proof sketch.** Both answers are the payload with another checksum, so they are right iff that is
the checksum of bytes `0` to `18`. Without the last byte it is iff that byte does not count. Without
the first it never is: the register after the first byte would be the one before it. -/
theorem telemetry_replies {s : State longBits} {w : Windows.State} {p : Payload}
    (hp : payloadOk p = true) {r r' : Received}
    (hr : asksData (s.buffso_rcvOUT.overlay (r.stored 21)) = true)
    (hr' : asksData (w.buffso_rcvOUT.overlay (r'.stored 21)) = true) :
    (∃ reply, (server longBits).emit ((server longBits).next s (.robot p)) (.trooperOut r) =
        [.udp reply] ∧ (ReplyOk p reply ↔ lastByteQuiet p)) ∧
      ∃ reply, Windows.server.emit (Windows.server.next w (.robot p)) (.udpOut r') =
        [.udp reply] ∧ ¬ ReplyOk p reply := by
  refine ⟨⟨_, emit_trooperOut_data hp hr, ?_⟩, ⟨_, emit_udpOut_data hp hr', ?_⟩⟩
  · rw [replyOk_withShort_iff, crc16_eighteen_eq_iff]
  · rw [replyOk_withShort_iff]
    exact crc16_drop_one_ne p

/-- Both servers answer after `restPayload`. -/
theorem telemetry_replies_restPayload :
    (∃ reply, (server 32).emit ((server 32).next (State.start 0 3) (.robot restPayload))
        (.trooperOut (.data textData)) = [.udp reply] ∧
          (ReplyOk restPayload reply ↔ lastByteQuiet restPayload)) ∧
      ∃ reply, Windows.server.emit (Windows.server.next Windows.State.start (.robot restPayload))
        (.udpOut (.data textData)) = [.udp reply] ∧ ¬ ReplyOk restPayload reply :=
  telemetry_replies payloadOk_restPayload (by decide +kernel) (by decide +kernel)

/-- After `restPayload` neither answer is right. -/
theorem not_replyOk_restPayload :
    (¬ ∃ reply, (server 32).emit ((server 32).next (State.start 0 3) (.robot restPayload))
        (.trooperOut (.data textData)) = [.udp reply] ∧ ReplyOk restPayload reply) ∧
      ¬ ∃ reply, Windows.server.emit (Windows.server.next Windows.State.start (.robot restPayload))
        (.udpOut (.data textData)) = [.udp reply] ∧ ReplyOk restPayload reply := by
  constructor
  · rintro ⟨reply, hemit, hok⟩
    rw [emit_trooperOut_data payloadOk_restPayload (by decide +kernel)] at hemit
    simp only [List.cons.injEq, Output.udp.injEq, and_true] at hemit
    rw [← hemit, replyOk_withShort_iff] at hok
    exact absurd hok (by decide +kernel)
  · rintro ⟨reply, hemit, hok⟩
    rw [emit_udpOut_data payloadOk_restPayload (by decide +kernel)] at hemit
    simp only [List.cons.injEq, Windows.Output.udp.injEq, and_true] at hemit
    rw [← hemit, replyOk_withShort_iff] at hok
    exact crc16_drop_one_ne restPayload hok

end Wifibot
