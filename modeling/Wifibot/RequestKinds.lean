import Wifibot.TelemetryReply

set_option relaxedAutoImplicit false
set_option autoImplicit false

/-!
# What a request on UDP is taken for

Both servers look for the texts `init` and `data` in their receive buffer up to its first zero
byte. The buffer is not cleared before a datagram is received and no zero byte is put behind it, so
the search runs on into what longer datagrams left there. A short request is taken for another kind
when the bytes left behind it complete a text that it does not hold itself.

## Main definitions

* `Wifibot.ReplyKind`, `Wifibot.requestKind` — the kinds of reply, and the kind a text asks for.
* `Wifibot.outBuffer` — the receive buffer, from the datagrams received so far.
* `Wifibot.LeftoverDecides` — what is left behind a request completes a text that decides.

## Main results

* `Wifibot.requestKinds_iff` — when the servers take a request for what it is.
-/

namespace Wifibot

variable {longBits : ℕ}

/-! ## Searching a text -/

/-- A text occurs iff it stands somewhere in the string. -/
lemma occurs_iff (text l : List Byte) : occurs text l = true ↔ text <:+: l := by
  induction l with
  | nil => simp [occurs]
  | cons b l ih => rw [occurs, Bool.or_eq_true, List.isPrefixOf_iff_prefix, ih, List.infix_cons_iff]

/-- The string in a buffer behind a datagram without a zero byte. -/
lemma cString_append {d : List Byte} (hd : (0 : Byte) ∉ d) (rest : List Byte) :
    cString (d ++ rest) = d ++ cString rest := by
  refine List.takeWhile_append_of_pos fun b hb => ?_
  rw [decide_eq_true_eq]
  rintro rfl
  exact hd hb

/-! ## Kinds of requests and replies -/

/-- The kinds of reply on UDP. -/
inductive ReplyKind
  | ok
  | telemetry
  | silent
  deriving DecidableEq

/-- The datagrams of a reply, when the telemetry packet is `packet`. -/
def ReplyKind.datagrams (packet : List Byte) : ReplyKind → List (List Byte)
  | .ok => [textOk]
  | .telemetry => [packet]
  | .silent => []

/-- The reply that a text asks for. -/
def requestKind (text : List Byte) : ReplyKind :=
  if textInit <:+: text then .ok
  else if textData <:+: text then .telemetry
  else .silent

/-- Replies of different kinds are different datagrams. -/
lemma ReplyKind.datagrams_inj {packet : List Byte} (hlen : packet.length = 21) {k k' : ReplyKind} :
    k.datagrams packet = k'.datagrams packet ↔ k = k' := by
  refine ⟨fun h => ?_, congrArg _⟩
  have hne : packet ≠ textOk := by
    rintro rfl
    simp [textOk] at hlen
  cases k <;> cases k' <;> simp_all [datagrams]

/-- The bytes `left` behind the request `d` complete a text that `d` does not hold and that decides
the kind of the reply. -/
def LeftoverDecides (d left : List Byte) : Prop :=
  ¬ textInit <:+: d ∧
    (textInit <:+: d ++ left ∨ ¬ textData <:+: d ∧ textData <:+: d ++ left)

/-- **The kind of a request with something left behind it** is its own iff the rest does not
decide.

**Proof sketch.** A text in the request stays one with anything behind it. -/
lemma requestKind_append_iff (d left : List Byte) :
    requestKind (d ++ left) = requestKind d ↔ ¬ LeftoverDecides d left := by
  have hinit : textInit <:+: d → textInit <:+: d ++ left :=
    fun h => h.trans (List.prefix_append d left).isInfix
  have hdata : textData <:+: d → textData <:+: d ++ left :=
    fun h => h.trans (List.prefix_append d left).isInfix
  rw [requestKind, requestKind, LeftoverDecides]
  by_cases hi : textInit <:+: d
  · simp [hi, hinit hi]
  · by_cases hi' : textInit <:+: d ++ left
    · by_cases hd : textData <:+: d
      · simp [hi, hi', hd]
      · simp [hi, hi', hd]
    · by_cases hd : textData <:+: d
      · simp [hi, hi', hd, hdata hd]
      · simp [hi, hi', hd]

/-! ## The receive buffer -/

/-- `buffso_rcvOUT` after the receptions `rs`, in the order in which they came. -/
def outBuffer (rs : List Received) : Vector Byte 100 :=
  rs.foldl (fun buf r => buf.overlay (r.stored 21)) (Vector.replicate 100 0)

/-- What the buffer holds behind a datagram `d` received after `rs`, up to the first zero byte. -/
def leftover (rs : List Received) (d : List Byte) : List Byte :=
  cString ((outBuffer rs).toList.drop d.length)

/-- The kind of reply that a server finds in its buffer. -/
def bufferKind (buffso_rcvOUT : Vector Byte 100) : ReplyKind :=
  requestKind (cString buffso_rcvOUT.toList)

/-- The kind by the searches that a server makes. -/
lemma bufferKind_eq (buffso_rcvOUT : Vector Byte 100) :
    bufferKind buffso_rcvOUT =
      if strstr buffso_rcvOUT.toList textInit then .ok
      else if strstr buffso_rcvOUT.toList textData then .telemetry
      else .silent := by
  simp only [bufferKind, requestKind, strstr, occurs_iff]

/-- **What a server sends** after its searches is the reply that it finds in its buffer, when `udp`
is the output that sends a datagram. -/
lemma filterMap_reply {ο : Type*} {udpBytes : ο → Option (List Byte)} {udp : List Byte → ο}
    (hudp : ∀ bytes, udpBytes (udp bytes) = some bytes) (buffso_rcvOUT : Vector Byte 100)
    (packet : List Byte) :
    (if strstr buffso_rcvOUT.toList textInit then [udp textOk]
      else if strstr buffso_rcvOUT.toList textData then [udp packet]
      else []).filterMap udpBytes = (bufferKind buffso_rcvOUT).datagrams packet := by
  rw [bufferKind_eq]
  split_ifs
  · rw [List.filterMap_cons_some (hudp textOk), List.filterMap_nil, ReplyKind.datagrams]
  · rw [List.filterMap_cons_some (hudp packet), List.filterMap_nil, ReplyKind.datagrams]
  · rfl

/-- What a server finds in its buffer after a datagram. -/
lemma bufferKind_overlay {d : List Byte} (hlen : d.length ≤ 21) (hd : (0 : Byte) ∉ d)
    (rs : List Received) :
    bufferKind ((outBuffer rs).overlay ((Received.data d).stored 21)) =
      requestKind (d ++ leftover rs d) := by
  rw [bufferKind, Received.stored, List.take_of_length_le hlen,
    Vector.toList_overlay _ _ (by omega), cString_append hd]
  rfl

/-! ## The raw server -/

/-- The reception of a step of the UDP-out thread. -/
def Event.outReceived : Event → Option Received
  | .trooperOut r => some r
  | _ => none

/-- The bytes of an output on UDP. -/
def Output.udpBytes : Output → Option (List Byte)
  | .udp bytes => some bytes
  | _ => none

/-- The telemetry packet of the raw server. -/
def telemetryPacket (s : State longBits) : List Byte :=
  (withShort s.buffso_Raw_Data_Out (crc16 s.buffso_Raw_Data_Out.toList 18)).toList

/-- It has 21 bytes. -/
lemma length_telemetryPacket (s : State longBits) : (telemetryPacket s).length = 21 := by
  simp [telemetryPacket]

/-- The text `ok` in front of the send buffer. -/
lemma take_overlay_textOk (buf : Vector Byte 100) :
    (buf.overlay textOk).toList.take 3 = textOk := by
  rw [Vector.toList_overlay _ _ (by decide)]
  rfl

/-- The reply to what stands in the receive buffer, by the searches in it. -/
lemma trooperOutReply_snd (s : State longBits) :
    (trooperOutReply s).2 =
      if strstr s.buffso_rcvOUT.toList textInit then [.udp textOk]
      else if strstr s.buffso_rcvOUT.toList textData then [.udp (telemetryPacket s)]
      else [] := by
  unfold trooperOutReply
  split_ifs
  · exact congrArg (fun bytes => [Output.udp bytes]) (take_overlay_textOk _)
  · rfl
  · rfl

/-- **The reply of `Thread_TCP_Trooper_Out`** is what it finds in its buffer. -/
lemma emit_trooperOut (s : State longBits) (r : Received) :
    ((server longBits).emit s (.trooperOut r)).filterMap Output.udpBytes =
      (bufferKind (s.buffso_rcvOUT.overlay (r.stored 21))).datagrams (telemetryPacket s) := by
  have hudp : ∀ bytes, Output.udpBytes (.udp bytes) = some bytes := fun _ => rfl
  simp only [Machine.emit, server, Thread_TCP_Trooper_Out, trooperOutReply_snd, telemetryPacket]
  exact filterMap_reply hudp _ _

/-- The buffer is written by the steps of that thread alone. -/
lemma buffso_rcvOUT_next (s : State longBits) (e : Event) :
    ((server longBits).next s e).buffso_rcvOUT =
      e.outReceived.toList.foldl (fun buf r => buf.overlay (r.stored 21)) s.buffso_rcvOUT := by
  cases e with
  | tcpRecv r =>
    simp only [Machine.next, server, Thread_TCP]
    split_ifs <;> rfl
  | trooperIn r =>
    simp only [Machine.next, server, Thread_TCP_Trooper_In]
    split_ifs <;> rfl
  | trooperOut r =>
    simp only [Machine.next, server, Thread_TCP_Trooper_Out, trooperOutReply]
    split_ifs <;> rfl
  | dog =>
    simp only [Machine.next, server, Thread_Dog]
    split_ifs <;> rfl
  | key c =>
    simp only [Machine.next, server, mainKey]
    split_ifs <;> rfl
  | driveraw => rfl
  | robot p =>
    simp only [Machine.next, server, robotPayload]
    split_ifs <;> rfl

/-- **The buffer after a run** is that of the receptions of the thread. -/
lemma buffso_rcvOUT_run (debug hUSB1 : ℤ) (es : List Event) :
    ((server longBits).run (State.start debug hUSB1) es).buffso_rcvOUT =
      outBuffer (es.filterMap Event.outReceived) :=
  (server longBits).run_foldl buffso_rcvOUT_next _ es

/-! ## The Windows server -/

/-- The reception of a step of the UDP-out thread. -/
def Windows.Event.outReceived : Windows.Event → Option Received
  | .udpOut r => some r
  | _ => none

/-- The bytes of an output on UDP. -/
def Windows.Output.udpBytes : Windows.Output → Option (List Byte)
  | .udp bytes => some bytes
  | _ => none

/-- The telemetry packet of the Windows server. -/
def Windows.telemetryPacket (s : Windows.State) : List Byte :=
  let mycrcsend := Windows.Crc16 (s.buffso_rcvOUT_Tcp.toList.drop 1) 18
  ((s.buffso_rcvOUT_Tcp.set! 19 (loByte mycrcsend)).set! 20 (hiByte mycrcsend)).toList.take 21

/-- It has 21 bytes. -/
lemma Windows.length_telemetryPacket (s : Windows.State) :
    (Windows.telemetryPacket s).length = 21 := by
  simp [Windows.telemetryPacket]

/-- The reply of `Thread_UDP_Out`, by the searches in its buffer. -/
lemma Windows.Thread_UDP_Out_snd (s : Windows.State) (r : Received) :
    (Windows.Thread_UDP_Out s r).2 =
      if strstr (s.buffso_rcvOUT.overlay (r.stored 21)).toList textInit then [.udp textOk]
      else if strstr (s.buffso_rcvOUT.overlay (r.stored 21)).toList textData then
        [.udp (Windows.telemetryPacket s)]
      else [] := by
  unfold Windows.Thread_UDP_Out
  dsimp only
  split_ifs
  · exact congrArg (fun bytes => [Windows.Output.udp bytes]) (take_overlay_textOk _)
  · rfl
  · rfl

/-- The receive buffer of `Thread_UDP_Out` keeps what was received. -/
lemma Windows.Thread_UDP_Out_fst (s : Windows.State) (r : Received) :
    (Windows.Thread_UDP_Out s r).1.buffso_rcvOUT = s.buffso_rcvOUT.overlay (r.stored 21) := by
  unfold Windows.Thread_UDP_Out
  dsimp only
  split_ifs
  · rfl
  · rfl
  · rfl

/-- **The reply of `Thread_UDP_Out`** is what it finds in its buffer. -/
lemma Windows.emit_udpOut (s : Windows.State) (r : Received) :
    (Windows.server.emit s (.udpOut r)).filterMap Windows.Output.udpBytes =
      (bufferKind (s.buffso_rcvOUT.overlay (r.stored 21))).datagrams
        (Windows.telemetryPacket s) := by
  have hudp : ∀ bytes, Windows.Output.udpBytes (.udp bytes) = some bytes := fun _ => rfl
  simp only [Machine.emit, Windows.server, Windows.Thread_UDP_Out_snd]
  exact filterMap_reply hudp _ _

/-- The buffer is written by the steps of that thread alone. -/
lemma Windows.buffso_rcvOUT_next (s : Windows.State) (e : Windows.Event) :
    (Windows.server.next s e).buffso_rcvOUT =
      e.outReceived.toList.foldl (fun buf r => buf.overlay (r.stored 21)) s.buffso_rcvOUT := by
  cases e with
  | tcpConnect => rfl
  | tcpRecv r => rfl
  | udpIn r =>
    simp only [Machine.next, Windows.server, Windows.Thread_UDP_In]
    split_ifs <;> rfl
  | udpOut r =>
    simp only [Machine.next, Windows.server, Windows.Thread_UDP_Out_fst,
      Windows.Event.outReceived, Option.toList_some, List.foldl_cons, List.foldl_nil]
  | dog =>
    simp only [Machine.next, Windows.server, Windows.Thread_Dog]
    split_ifs <;> rfl
  | serialWrite =>
    simp only [Machine.next, Windows.server, Windows.serialWrite]
    split_ifs <;> rfl
  | robot p =>
    simp only [Machine.next, Windows.server, Windows.robotPayload, Windows.decodePayload]
    split_ifs <;> rfl

/-- **The buffer after a run** is that of the receptions of the thread. -/
lemma Windows.buffso_rcvOUT_run (es : List Windows.Event) :
    (Windows.server.run Windows.State.start es).buffso_rcvOUT =
      outBuffer (es.filterMap Windows.Event.outReceived) :=
  Windows.server.run_foldl Windows.buffso_rcvOUT_next _ es

/-! ## Both servers -/

/-- After the run `es` the raw server replies to the request `d` as `d` asks. -/
def RawReplies (longBits : ℕ) (debug hUSB1 : ℤ) (es : List Event) (d : List Byte) : Prop :=
  let s := (server longBits).run (State.start debug hUSB1) es
  ((server longBits).emit s (.trooperOut (.data d))).filterMap Output.udpBytes =
    (requestKind d).datagrams (telemetryPacket s)

/-- After the run `es` the Windows server replies to the request `d` as `d` asks. -/
def Windows.Replies (es : List Windows.Event) (d : List Byte) : Prop :=
  let s := Windows.server.run Windows.State.start es
  (Windows.server.emit s (.udpOut (.data d))).filterMap Windows.Output.udpBytes =
    (requestKind d).datagrams (Windows.telemetryPacket s)

/-- **When the kind of a reply depends on the request alone.** After every run, and for every
request of at most 21 bytes without a zero byte, each of the servers replies `ok`, with the
telemetry packet or not at all, as the request asks, iff what the receptions of its thread left
behind the request does not complete a text that decides.

**Proof sketch.** The buffer after a run holds what these receptions wrote. A server searches in the
request followed by what is left behind it, and the replies of different kinds differ. -/
theorem requestKinds_iff (debug hUSB1 : ℤ) (es : List Event) (es' : List Windows.Event)
    {d : List Byte} (hlen : d.length ≤ 21) (hd : (0 : Byte) ∉ d) :
    (RawReplies longBits debug hUSB1 es d ↔
        ¬ LeftoverDecides d (leftover (es.filterMap Event.outReceived) d)) ∧
      (Windows.Replies es' d ↔
        ¬ LeftoverDecides d (leftover (es'.filterMap Windows.Event.outReceived) d)) := by
  constructor
  · rw [RawReplies, emit_trooperOut, buffso_rcvOUT_run, bufferKind_overlay hlen hd,
      ReplyKind.datagrams_inj (length_telemetryPacket _), requestKind_append_iff]
  · rw [Windows.Replies, Windows.emit_udpOut, Windows.buffso_rcvOUT_run,
      bufferKind_overlay hlen hd, ReplyKind.datagrams_inj (Windows.length_telemetryPacket _),
      requestKind_append_iff]

/-- A request of 12 bytes that ends in `init`. -/
def longInit : List Byte := [0x72, 0x6F, 0x62, 0x6F, 0x74, 0x20, 0x73, 0x65] ++ textInit

/-- A `data` request that comes after it. -/
theorem requestKinds_longInit :
    (RawReplies 32 0 3 [.trooperOut (.data longInit)] textData ↔
        ¬ LeftoverDecides textData
          (leftover ([.trooperOut (.data longInit)].filterMap Event.outReceived) textData)) ∧
      (Windows.Replies [.udpOut (.data longInit)] textData ↔
        ¬ LeftoverDecides textData
          (leftover ([.udpOut (.data longInit)].filterMap Windows.Event.outReceived) textData)) :=
  requestKinds_iff 0 3 _ _ (by decide) (by decide)

/-- It is answered `ok` by both servers, and not with telemetry. -/
theorem not_replies_longInit :
    ¬ RawReplies 32 0 3 [.trooperOut (.data longInit)] textData ∧
      ¬ Windows.Replies [.udpOut (.data longInit)] textData := by
  have hleft : leftover [.data longInit] textData = longInit.drop 4 := by decide
  have hkind : requestKind (textData ++ longInit.drop 4) ≠ requestKind textData := by decide
  constructor
  · rw [RawReplies, emit_trooperOut, buffso_rcvOUT_run, bufferKind_overlay (by decide) (by decide),
      ReplyKind.datagrams_inj (length_telemetryPacket _)]
    exact hleft ▸ hkind
  · rw [Windows.Replies, Windows.emit_udpOut, Windows.buffso_rcvOUT_run,
      bufferKind_overlay (by decide) (by decide),
      ReplyKind.datagrams_inj (Windows.length_telemetryPacket _)]
    exact hleft ▸ hkind

end Wifibot
