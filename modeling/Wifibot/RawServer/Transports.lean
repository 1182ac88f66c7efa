import Wifibot.RawServer.Command

set_option relaxedAutoImplicit false
set_option autoImplicit false

/-!
# The two ways a command comes in

A command reaches the motor frame by `recv` on TCP or by `recvfrom` on UDP. The UDP path tests the
checksum of its receive buffer, which keeps the bytes of earlier datagrams, and ignores the length
received; so a short datagram may be accepted by what an earlier one left behind.

## Main definitions

* `Wifibot.CommandStored`, `Wifibot.CommandKept` — a command is stored, or things are left alone.
* `Wifibot.DatagramOk` — a pass of `Thread_TCP_Trooper_In` depends on its own datagram only.
* `Wifibot.FollowsTest` — a step stores a command iff the command passes a test.

## Main results

* `Wifibot.datagramsOk_iff` — when every pass depends on its own datagram only.
* `Wifibot.transports_agree` — both transports treat a command with the right checksum alike.
-/

namespace Wifibot

variable {longBits : ℕ}

/-- The motor frame holds these bytes, and the watchdog and its limit are as after a command. -/
def CommandStored (s : State longBits) (bytes : List Byte) : Prop :=
  s.buffso_Raw_Data_In.toList = bytes ∧ s.watchdog = 0 ∧ s.cycles = 3

/-- The step left the motor frame, the watchdog and its limit alone. -/
def CommandKept (s s' : State longBits) : Prop :=
  s'.buffso_Raw_Data_In = s.buffso_Raw_Data_In ∧ s'.watchdog = s.watchdog ∧ s'.cycles = s.cycles

/-- Where the same command is stored, the same is held. -/
lemma CommandStored.kept {s s' : State longBits} {bytes : List Byte} (h : CommandStored s bytes)
    (h' : CommandStored s' bytes) : CommandKept s s' :=
  ⟨Vector.toList_inj.mp (h'.1.trans h.1.symm), h'.2.1.trans h.2.1.symm, h'.2.2.trans h.2.2.symm⟩

/-- The bytes are nine, with the right checksum. -/
def suppliesCommand (bytes : List Byte) : Bool :=
  bytes.length == 9 && crcTest (bytes.drop 1) 6

/-! ## Datagrams -/

/-- A datagram of nine bytes fills the part of the receive buffer that the test looks at. -/
lemma trooperInTest_overlay (buf : Vector Byte 100) {l : List Byte} (hl : l.length = 9) :
    trooperInTest (buf.overlay l) = suppliesCommand l := by
  have htake : (buf.overlay l).toList.take 9 = l := by
    rw [← hl]
    exact Vector.take_toList_overlay buf l (by omega)
  rw [← frameOk_overlay_take (Vector.replicate 9 0), htake, frameOk,
    Vector.toList_overlay_of_length_eq _ _ hl, suppliesCommand, hl]
  rfl

/-- The receive buffer passes the test: the datagram is accepted. -/
lemma next_trooperIn_of_test {s : State longBits} {r : Received}
    (h : trooperInTest (s.buffso_rcvIN.overlay (r.stored 9)) = true) :
    CommandStored ((server longBits).next s (.trooperIn r))
      ((s.buffso_rcvIN.overlay (r.stored 9)).toList.take 9) := by
  have hframe := Vector.toList_overlay_of_length_eq s.buffso_Raw_Data_In
    ((s.buffso_rcvIN.overlay (r.stored 9)).toList.take 9) (by simp)
  simp only [Machine.next, server, Thread_TCP_Trooper_In, h, CommandStored]
  exact ⟨hframe, rfl, rfl⟩

/-- The receive buffer fails the test: the datagram is rejected. -/
lemma next_trooperIn_of_not_test {s : State longBits} {r : Received}
    (h : trooperInTest (s.buffso_rcvIN.overlay (r.stored 9)) = false) :
    CommandKept s ((server longBits).next s (.trooperIn r)) := by
  simp [Machine.next, server, Thread_TCP_Trooper_In, h, CommandKept]

/-- A pass of `Thread_TCP_Trooper_In` stores a command and resets the watchdog if this very
datagram supplied one, and leaves things alone if not. -/
def DatagramOk (s : State longBits) (r : Received) : Prop :=
  if suppliesCommand (r.stored 9) then
    CommandStored ((server longBits).next s (.trooperIn r)) (r.stored 9)
  else CommandKept s ((server longBits).next s (.trooperIn r))

/-- What earlier datagrams left in the receive buffer does not count: the datagram fills nine bytes,
or the buffer fails the test, or accepting it changes nothing. -/
def PastIgnored (s : State longBits) (r : Received) : Prop :=
  (r.stored 9).length = 9 ∨ trooperInTest (s.buffso_rcvIN.overlay (r.stored 9)) = false ∨
    CommandStored s ((s.buffso_rcvIN.overlay (r.stored 9)).toList.take 9)

/-- **One pass**, in any state, depends on its own datagram only iff what earlier ones left does not
count. -/
lemma datagramOk_iff (s : State longBits) (r : Received) : DatagramOk s r ↔ PastIgnored s r := by
  rw [PastIgnored]
  by_cases hlen : (r.stored 9).length = 9
  · refine iff_of_true ?_ (Or.inl hlen)
    have htake : (s.buffso_rcvIN.overlay (r.stored 9)).toList.take 9 = r.stored 9 := by
      have h := Vector.take_toList_overlay s.buffso_rcvIN (r.stored 9) (by omega)
      rwa [hlen] at h
    rw [DatagramOk, ← trooperInTest_overlay s.buffso_rcvIN hlen]
    cases htest : trooperInTest (s.buffso_rcvIN.overlay (r.stored 9)) with
    | false => exact next_trooperIn_of_not_test htest
    | true =>
      have hstored := next_trooperIn_of_test htest
      rwa [htake] at hstored
  · have hsupply : suppliesCommand (r.stored 9) = false := by simp [suppliesCommand, hlen]
    rw [DatagramOk, hsupply, if_neg (by decide)]
    cases htest : trooperInTest (s.buffso_rcvIN.overlay (r.stored 9)) with
    | false => exact iff_of_true (next_trooperIn_of_not_test htest) (Or.inr (Or.inl rfl))
    | true =>
      have hstored := next_trooperIn_of_test htest
      simp only [hlen, Bool.true_eq_false, false_or]
      refine ⟨fun hkept => ?_, fun halready => halready.kept hstored⟩
      obtain ⟨hframe, hwatchdog, hcycles⟩ := hstored
      exact ⟨by rw [← hframe, hkept.1], by rw [← hkept.2.1, hwatchdog],
        by rw [← hkept.2.2, hcycles]⟩

/-- **When every pass depends on its own datagram only.** In a run from the start, each pass of
`Thread_TCP_Trooper_In` stores a command iff its own datagram supplied one, and leaves things alone
otherwise, iff at no pass what earlier datagrams left in the receive buffer counts. -/
theorem datagramsOk_iff (debug hUSB1 : ℤ) (es : List Event) :
    (server longBits).Along (fun s e => ∀ r, e = .trooperIn r → DatagramOk s r)
        (State.start debug hUSB1) es ↔
      (server longBits).Along (fun s e => ∀ r, e = .trooperIn r → PastIgnored s r)
        (State.start debug hUSB1) es := by
  rw [Machine.along_iff, Machine.along_iff]
  constructor
  · intro h pre e post hes r he
    exact (datagramOk_iff _ r).mp (h pre e post hes r he)
  · intro h pre e post hes r he
    exact (datagramOk_iff _ r).mpr (h pre e post hes r he)

/-- A command that drives on is accepted, four iterations of `Thread_Dog` stop the robot, and an
empty datagram brings the command back. -/
theorem not_datagramsOk_revived :
    ¬ (server 32).Along (fun s e => ∀ r, e = .trooperIn r → DatagramOk s r) (State.start 0 3)
      [.trooperIn (.data [0xFF, 0x07, 0x78, 0x00, 0x78, 0x00, 0xA0, 0x21, 0xC7]), .dog, .dog, .dog,
        .dog, .trooperIn (.data [])] := by
  intro h
  obtain ⟨-, -, -, -, -, hlast, -⟩ := h
  rcases (datagramOk_iff _ _).mp (hlast _ rfl) with hlen | htest | ⟨-, hwatchdog, -⟩
  · exact absurd hlen (by decide)
  · exact absurd htest (by decide +kernel)
  · exact absurd hwatchdog (by decide +kernel)

/-! ## Whole commands -/

/-- A well-formed motor frame: header, function byte and checksum. -/
def motorFrameOk (cmd : Vector Byte 9) : Bool :=
  cmd[0]! == 0xFF && cmd[1]! == 0x07 && frameOk cmd

/-- A step stores the command and resets the watchdog if the command passes the test, and leaves
things alone if not. -/
def FollowsTest (test : Vector Byte 9 → Bool) (cmd : Vector Byte 9) (s s' : State longBits) :
    Prop :=
  if test cmd then CommandStored s' cmd.toList else CommandKept s s'

/-- A command that a datagram brings whole is judged by its checksum. -/
lemma followsTest_trooperIn (cmd : Vector Byte 9) (s : State longBits) :
    FollowsTest frameOk cmd s ((server longBits).next s (.trooperIn (.data cmd.toList))) := by
  have hstored : (Received.data cmd.toList).stored 9 = cmd.toList :=
    Received.stored_data (by simp)
  have hsupply : suppliesCommand cmd.toList = frameOk cmd := by simp [suppliesCommand, frameOk]
  have hok := (datagramOk_iff s (.data cmd.toList)).mpr (Or.inl (by simp [hstored]))
  rwa [DatagramOk, hstored, hsupply] at hok

/-- A command that a `recv` brings whole is stored. -/
lemma next_tcpRecv_whole {s : State longBits} (hs : s.debug = 0) (cmd : Vector Byte 9) :
    CommandStored ((server longBits).next s (.tcpRecv (.data cmd.toList))) cmd.toList := by
  have hcmd : isCommand s (.tcpRecv (.data cmd.toList)) = true := by
    simp [isCommand, Received.size]
  have hstored : (Received.data cmd.toList).stored 9 = cmd.toList :=
    Received.stored_data (by simp)
  refine ⟨?_, by rw [watchdog_next hs, if_pos hcmd], by rw [cycles_next hs, if_pos hcmd]⟩
  rw [frame_next, if_pos hcmd, commandFrame, hstored, Vector.overlay_toList]

/-- **The transports on whole commands.** In every reachable state, a datagram of nine bytes is
stored and resets the watchdog iff its checksum is right, and changes nothing otherwise; and a
command with the right checksum has the same effect when a `recv` brings it. -/
theorem transports_agree (hUSB1 : ℤ) (es : List Event) (cmd : Vector Byte 9) :
    let s : State longBits := (server longBits).run (State.start 0 hUSB1) es
    let udp := (server longBits).next s (.trooperIn (.data cmd.toList))
    let tcp := (server longBits).next s (.tcpRecv (.data cmd.toList))
    FollowsTest frameOk cmd s udp ∧ (frameOk cmd = true → CommandKept udp tcp) := by
  intro s udp tcp
  have hudp : FollowsTest frameOk cmd s udp := followsTest_trooperIn cmd s
  refine ⟨hudp, fun hok => ?_⟩
  have htcp : CommandStored tcp cmd.toList := next_tcpRecv_whole (debug_run _ _) cmd
  rw [FollowsTest, if_pos hok] at hudp
  exact hudp.kept htcp

/-- Neither transport looks at the first two bytes: both store a frame of another kind. -/
theorem not_followsTest_motorFrameOk :
    let start : State 32 := State.start 0 3
    let cmd : Vector Byte 9 := #v[0x00, 0x09, 0x78, 0x00, 0x78, 0x00, 0xA0, 0x20, 0xE9]
    ¬ FollowsTest motorFrameOk cmd start
        ((server 32).next start (.trooperIn (.data cmd.toList))) ∧
      ¬ FollowsTest motorFrameOk cmd start
        ((server 32).next start (.tcpRecv (.data cmd.toList))) := by
  intro start cmd
  have htest : ¬ motorFrameOk cmd = true := by decide +kernel
  rw [FollowsTest, if_neg htest, FollowsTest, if_neg htest]
  constructor
  · rintro ⟨-, -, hcycles⟩
    exact absurd hcycles (by decide +kernel)
  · rintro ⟨-, -, hcycles⟩
    exact absurd hcycles (by decide +kernel)

end Wifibot
