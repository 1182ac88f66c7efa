import Wifibot.Crc16Frames
import Wifibot.Library.Channel
import Wifibot.RawServer.Transports
import Wifibot.RawServer.Watchdog

set_option relaxedAutoImplicit false
set_option autoImplicit false

/-!
# Driving the robot over an unreliable network

A client sends motor frames with their checksum as datagrams. The network loses, doubles, reorders
and corrupts them, and the server tests their checksum and knows nothing else of the client. What
comes of all this at the serial port is a simple device: it is driven by the last command that
arrived intact, for three iterations of `Thread_Dog`, and then stands still. Corrupted datagrams do
nothing, as long as the checksum sees the corruption; it does not cover byte `0` of a frame.

## Main definitions

* `Wifibot.Command` — a motor frame that carries its checksum.
* `Wifibot.network` — the client, the datagrams in flight, and the server.
* `Wifibot.actuator` — the device: the command that drives it, and its age.
* `Wifibot.ErrorSeen` — the checksum sees the error of a datagram that is delivered.

## Main results

* `Wifibot.network_drives_actuator` — on every run of the network the serial port shows what the
  device shows on the commands that arrived intact, and each of these was sent before.
-/

namespace Wifibot

open Polynomial BitPoly

variable {longBits : ℕ}

/-! ## The network -/

/-- A motor frame that carries its checksum. -/
structure Command where
  frame : Vector Byte 9
  ok : frameOk frame = true

/-- The globals of the server, and the datagrams in flight to its command port. -/
structure NetState (longBits : ℕ) where
  globals : State longBits
  inFlight : List Command

/-- The client sends a command; a datagram in flight is lost, doubled, or delivered with an error
added to it; a thread other than the one of the command port makes a step. There is no client on
TCP. -/
inductive NetEvent
  | send (m : Command)
  | lose (i : ℕ)
  | duplicate (i : ℕ)
  | deliver (i : ℕ) (error : Vector Byte 9)
  | dog
  | key (k : Char)
  | driveraw
  | trooperOut (r : Received)
  | robot (sbuf : Payload)

/-- What a step does to the messages in flight. -/
def NetEvent.onChannel : NetEvent → List (Channel.Event Command)
  | .send m => [.send m]
  | .lose i => [.lose i]
  | .duplicate i => [.duplicate i]
  | .deliver i _ => [.deliver i]
  | .dog | .key _ | .driveraw | .trooperOut _ | .robot _ => []

/-- The bytes of a command with an error added to them. -/
def Command.received (m : Command) (error : Vector Byte 9) : List Byte :=
  xorBytes m.frame.toList error.toList

/-- What a step does to the server: it receives the datagram that is delivered, if there is one. -/
def NetState.onServer (s : NetState longBits) : NetEvent → List Event
  | .deliver i error =>
    (s.inFlight[i]?).toList.map fun m => .trooperIn (.data (m.received error))
  | .dog => [.dog]
  | .key k => [.key k]
  | .driveraw => [.driveraw]
  | .trooperOut r => [.trooperOut r]
  | .robot sbuf => [.robot sbuf]
  | .send _ | .lose _ | .duplicate _ => []

/-- **The client, the network and the server** as one machine. Its outputs are those of the
server. -/
def network (longBits : ℕ) : Machine (NetState longBits) NetEvent Output where
  step s e :=
    ({ globals := (server longBits).run s.globals (s.onServer e)
       inFlight := (channel Command).run s.inFlight e.onChannel },
      (server longBits).outputs s.globals (s.onServer e))

/-- The server has started, and nothing is in flight. -/
def NetState.start (hUSB1 : ℤ) : NetState longBits where
  globals := State.start 0 hUSB1
  inFlight := []

/-- The checksum sees the error of the datagram that the step delivers, if the error touches what
the checksum covers. -/
def ErrorSeen : NetEvent → Prop
  | .deliver _ error => (∃ b ∈ error.toList.drop 1, b ≠ 0) →
      ¬ crcGen ∣ ofBits (wireBits (error.toList.drop 1))
  | _ => True

/-! ## The device -/

/-- A command arrives intact, an iteration of `Thread_Dog` passes, a frame is written. -/
inductive ActEvent
  | arrive (m : Command)
  | tick
  | write

/-- What the device is driven by, bytes `1` to `8` of a frame: nothing before the first command, the
last command for three ticks, and then that command with its speeds cleared. -/
def drivenBy : Option (Command × ℕ) → List Byte
  | none => List.replicate 8 0
  | some (m, age) => (if age ≤ 3 then m.frame else clearSpeeds m.frame).toList.drop 1

/-- **The device**: the last command that arrived, and its age in ticks. -/
def actuator : Machine (Option (Command × ℕ)) ActEvent (List Byte) where
  step h
    | .arrive m => (some (m, 0), [])
    | .tick => (h.map fun p => (p.1, p.2 + 1), [])
    | .write => (h, [drivenBy h])

/-- What a step of the network is to the device: a datagram whose error touches nothing that the
checksum covers arrives intact, and the others do not arrive. -/
def toActuator (s : NetState longBits) : NetEvent → List ActEvent
  | .deliver i error =>
    if ∃ b ∈ error.toList.drop 1, b ≠ 0 then [] else (s.inFlight[i]?).toList.map .arrive
  | .dog => [.tick]
  | .driveraw => [.write]
  | .send _ | .lose _ | .duplicate _ | .key _ | .trooperOut _ | .robot _ => []

/-- What is seen of a frame at the serial port. -/
def Output.serialTail : Output → Option (List Byte)
  | .serial f => some (f.toList.drop 1)
  | .tcp _ | .udp _ | .restartTcp => none

/-! ## Datagrams -/

/-- A zero error changes nothing. -/
lemma xorBytes_zero {l e : List Byte} (hlen : l.length = e.length) (he : ∀ b ∈ e, b = 0) :
    xorBytes l e = l := by
  apply List.ext_getElem
  · simp [xorBytes, hlen]
  · intro i h₁ h₂
    have hi : i < e.length := by omega
    have hzero : e[i] = 0 := he _ (List.getElem_mem hi)
    simp [xorBytes, hzero]

variable (m : Command) (error : Vector Byte 9)

@[simp] lemma Command.length_received : (m.received error).length = 9 := by
  simp [Command.received, xorBytes]

/-- Beyond byte `0`. -/
lemma Command.received_drop_one :
    (m.received error).drop 1 = xorBytes (m.frame.toList.drop 1) (error.toList.drop 1) := by
  rw [Command.received, xorBytes, xorBytes, List.drop_zipWith]

/-- An intact datagram is the command that was sent, but for byte `0`. -/
lemma Command.received_of_intact (h : ¬ ∃ b ∈ error.toList.drop 1, b ≠ 0) :
    (m.received error).drop 1 = m.frame.toList.drop 1 := by
  rw [Command.received_drop_one, xorBytes_zero (by simp)]
  simpa using h

/-- **The test on a datagram**: the command port takes it iff it is intact, as long as the checksum
sees the error. -/
lemma Command.suppliesCommand_iff (i : ℕ) (hseen : ErrorSeen (.deliver i error)) :
    suppliesCommand (m.received error) = true ↔ ¬ ∃ b ∈ error.toList.drop 1, b ≠ 0 := by
  have hok : crcTest (m.frame.toList.drop 1) (BitVec.ofNat 8 6) = true := m.ok
  rw [suppliesCommand, m.length_received, beq_self_eq_true, Bool.true_and]
  by_cases herror : ∃ b ∈ error.toList.drop 1, b ≠ 0
  · refine iff_of_false ?_ (not_not.mpr herror)
    rw [Command.received_drop_one]
    exact mt (crcTest_xor_iff (by decide) (by simp) (by simp) hok).mp (hseen herror)
  · rw [Command.received_of_intact m error herror]
    exact iff_of_true hok herror

/-! ## One step -/

/-- How the server stands to the device: the watchdog counts the age of the command, and the motor
frame is what drives the device. -/
structure Drives (s : NetState longBits) (h : Option (Command × ℕ)) : Prop where
  hUSB1 : s.globals.hUSB1 ≠ 0
  watchdog : WatchdogInv s.globals (h.map Prod.snd)
  frame : s.globals.buffso_Raw_Data_In.toList.drop 1 = drivenBy h

/-- The frame with its speeds cleared, beyond byte `0`. -/
lemma clearSpeeds_drop_one {f g : Vector Byte 9} (h : f.toList.drop 1 = g.toList.drop 1) :
    (clearSpeeds f).toList.drop 1 = (clearSpeeds g).toList.drop 1 := by
  apply List.ext_getElem
  · simp
  · intro i h₁ h₂
    have hi : i < 8 := by simpa using h₁
    have hcell : f[1 + i] = g[1 + i] := by
      have hget := congrArg (fun l => l[i]?) h
      simpa [hi, Nat.add_comm] using hget
    simp only [List.getElem_drop, Vector.getElem_toList]
    interval_cases i <;> simp_all [clearSpeeds]

/-- Clearing the speeds twice is clearing them once. -/
@[simp] lemma clearSpeeds_clearSpeeds (f : Vector Byte 9) :
    clearSpeeds (clearSpeeds f) = clearSpeeds f := by
  refine Vector.ext fun i hi => ?_
  interval_cases i <;> simp [clearSpeeds]

/-- A step of the server alone that is no command: what it does to the motor frame is what a tick
does to the device. -/
lemma Drives.frame_next_of_no_command {s : NetState longBits} {h : Option (Command × ℕ)}
    (hs : Drives s h) {e : Event} (he : isCommand s.globals e = false) :
    ((server longBits).next s.globals e).buffso_Raw_Data_In.toList.drop 1 =
      drivenBy (if e = .dog then h.map fun p => (p.1, p.2 + 1) else h) := by
  rw [frame_next, if_neg (by simp [he])]
  have hstops := hs.watchdog.stops_iff
  by_cases hdog : e = .dog
  · simp only [hdog, true_and, if_true]
    have hframe := hs.frame
    cases h with
    | none =>
      rw [if_pos (hstops.mpr (Or.inl rfl))]
      have hzero : (Vector.replicate 9 (0 : Byte)).toList.drop 1 = List.replicate 8 0 := by decide
      rw [clearSpeeds_drop_one (hframe.trans hzero.symm)]
      rfl
    | some p =>
      obtain ⟨m, age⟩ := p
      have hdue : stops s.globals ↔ 3 ≤ age := by simpa using hstops
      by_cases hage : 3 ≤ age
      · rw [if_pos (hdue.mpr hage)]
        have hclear : (clearSpeeds s.globals.buffso_Raw_Data_In).toList.drop 1 =
            (clearSpeeds m.frame).toList.drop 1 := by
          rw [drivenBy] at hframe
          split_ifs at hframe
          · exact clearSpeeds_drop_one hframe
          · rw [clearSpeeds_drop_one hframe, clearSpeeds_clearSpeeds]
        rw [hclear, Option.map_some, drivenBy, if_neg (by omega)]
      · rw [if_neg (mt hdue.mp hage), hframe, Option.map_some, drivenBy, drivenBy,
          if_pos (by omega), if_pos (by omega)]
  · rw [if_neg fun h => hdog h.1, if_neg hdog]
    exact hs.frame

/-- A step of the server alone that is no command. -/
lemma Drives.next_of_no_command {s : NetState longBits} {h : Option (Command × ℕ)}
    (hs : Drives s h) {e : Event} (he : isCommand s.globals e = false) (l : List Command) :
    Drives ⟨(server longBits).next s.globals e, l⟩
      (if e = .dog then h.map fun p => (p.1, p.2 + 1) else h) where
  hUSB1 := by
    rw [hUSB1_next]
    exact hs.hUSB1
  watchdog := by
    have hnext := watchdogInv_next s.globals _ e hs.watchdog
    rw [countSinceCommand, if_neg (by simp [he])] at hnext
    split_ifs at hnext ⊢
    · rw [Option.map_map] at hnext ⊢
      exact hnext
    · exact hnext
  frame := hs.frame_next_of_no_command he

/-- A datagram that the command port takes. -/
lemma Drives.next_of_command {s : NetState longBits} {h : Option (Command × ℕ)}
    (hs : Drives s h) (hintact : ¬ ∃ b ∈ error.toList.drop 1, b ≠ 0)
    (hsupply : suppliesCommand (m.received error) = true) (l : List Command) :
    Drives ⟨(server longBits).next s.globals (.trooperIn (.data (m.received error))), l⟩
      (some (m, 0)) where
  hUSB1 := by
    rw [hUSB1_next]
    exact hs.hUSB1
  watchdog := by
    have hcmd : isCommand s.globals (.trooperIn (.data (m.received error))) = true := by
      rw [isCommand, Received.stored_data (by simp), trooperInTest_overlay _ (by simp), hsupply]
    have hsince : countSinceCommand s.globals (.trooperIn (.data (m.received error)))
        (h.map Prod.snd) = some 0 := by rw [countSinceCommand, if_pos hcmd]
    have hnext := watchdogInv_next s.globals _ (.trooperIn (.data (m.received error))) hs.watchdog
    rw [hsince] at hnext
    simpa only [Option.map_some] using hnext
  frame := by
    have hstored : (Received.data (m.received error)).stored 9 = m.received error :=
      Received.stored_data (by simp)
    have htest : trooperInTest (s.globals.buffso_rcvIN.overlay
        ((Received.data (m.received error)).stored 9)) = true := by
      rw [hstored, trooperInTest_overlay _ (by simp), hsupply]
    obtain ⟨hframe, -, -⟩ := next_trooperIn_of_test htest
    have htake := Vector.take_toList_overlay s.globals.buffso_rcvIN (m.received error) (by simp)
    rw [m.length_received] at htake
    rw [hframe, hstored, htake, m.received_of_intact error hintact, drivenBy, if_pos (by omega)]

/-- **The network follows the device** as long as the checksum sees the errors. -/
lemma network_follows : (network longBits).Follows actuator (fun _ e => ErrorSeen e) Drives
    toActuator := by
  intro s h e he hs
  have hlone : ∀ e', isCommand s.globals e' = false → e' ≠ .dog → ∀ l,
      Drives ⟨(server longBits).next s.globals e', l⟩ h := fun e' hcmd hdog l => by
    simpa [hdog] using hs.next_of_no_command hcmd l
  have hkeep : ∀ l, Drives ⟨s.globals, l⟩ h := fun l => ⟨hs.hUSB1, hs.watchdog, hs.frame⟩
  cases e with
  | deliver i error =>
    cases hi : s.inFlight[i]? with
    | none =>
      have hnone : toActuator s (.deliver i error) = [] := by
        rw [toActuator, hi]
        split_ifs <;> rfl
      rw [hnone]
      simp only [Machine.next, network, NetState.onServer, hi]
      exact hkeep _
    | some m =>
      have hsupply := m.suppliesCommand_iff error i he
      simp only [Machine.next, network, NetState.onServer, toActuator, hi]
      by_cases hintact : ∃ b ∈ error.toList.drop 1, b ≠ 0
      · rw [if_pos hintact]
        refine hlone _ ?_ (by simp) _
        rw [isCommand, Received.stored_data (by simp), trooperInTest_overlay _ (by simp)]
        exact Bool.not_eq_true _ ▸ mt hsupply.mp (not_not.mpr hintact)
      · rw [if_neg hintact]
        exact hs.next_of_command m error hintact (hsupply.mpr hintact) _
  | dog =>
    have hdog := hs.next_of_no_command (e := .dog) rfl s.inFlight
    rwa [if_pos rfl] at hdog
  | key k => exact hlone (.key k) rfl (by simp) _
  | driveraw => exact hlone .driveraw rfl (by simp) _
  | trooperOut r => exact hlone (.trooperOut r) rfl (by simp) _
  | robot sbuf => exact hlone (.robot sbuf) rfl (by simp) _
  | _ => exact hkeep _

/-- What the serial port shows of one step. -/
lemma network_answers : (network longBits).Answers actuator (fun _ e => ErrorSeen e) Drives
    toActuator Output.serialTail some := by
  intro s h e _ hs
  have hquiet : ∀ e', e' ≠ .driveraw →
      ((server longBits).emit s.globals e').filterMap Output.serialTail = [] := by
    intro e' hne
    rw [List.filterMap_eq_nil_iff]
    intro o ho
    cases o with
    | serial f => exact absurd (serial_mem_emit ho).1 hne
    | _ => rfl
  have hone : ∀ e', e' ≠ .driveraw →
      ((server longBits).outputs s.globals [e']).filterMap Output.serialTail = [] := by
    intro e' hne
    rw [Machine.outputs_cons, Machine.outputs_nil, List.append_nil, hquiet e' hne]
  cases e with
  | deliver i error =>
    have harrive : actuator.outputs h (toActuator s (.deliver i error)) = [] := by
      rw [toActuator]
      cases s.inFlight[i]? <;> split_ifs <;> rfl
    rw [harrive]
    cases hi : s.inFlight[i]? with
    | none => simp [Machine.emit, network, NetState.onServer, hi]
    | some m =>
      simp only [Machine.emit, network, NetState.onServer, hi]
      exact hone (.trooperIn (.data (m.received error))) (by simp)
  | driveraw =>
    have hemit : (network longBits).emit s .driveraw = [.serial s.globals.buffso_Raw_Data_In] := by
      simp [Machine.emit, network, NetState.onServer, server, driveraw, hs.hUSB1]
    rw [hemit, List.filterMap_cons, Output.serialTail, hs.frame]
    rfl
  | dog => exact hone .dog (by simp)
  | key k => exact hone (.key k) (by simp)
  | trooperOut r => exact hone (.trooperOut r) (by simp)
  | robot sbuf => exact hone (.robot sbuf) (by simp)
  | _ => rfl

/-! ## Runs -/

/-- The messages in flight are those of the channel. -/
lemma inFlight_run (longBits : ℕ) (hUSB1 : ℤ) (es : List NetEvent) :
    ((network longBits).run (NetState.start hUSB1) es).inFlight =
      (channel Command).run [] (es.flatMap NetEvent.onChannel) := by
  rw [← (network longBits).translate_eq_flatMap NetEvent.onChannel (NetState.start hUSB1) es]
  exact Machine.run_of_refines (g := NetState.inFlight) (fun _ _ => rfl) _ es

/-- **The robot over an unreliable network.** Let the network lose, double, reorder and corrupt the
datagrams of a client in any way, as long as the checksum sees the corruption of the bytes that it
covers, and let the watchdog, the telemetry and the keyboard do anything in between. What the serial
port shows of the frames, bytes `1` to `8`, is what the device shows on the commands that arrive
intact: the last of them for three iterations of `Thread_Dog`, and then the same with its speeds
cleared. And each command that arrives was sent before.

**Proof sketch.** The state of the server stays related to that of the device: the watchdog is the
command's age cut at `3`, and the motor frame is what drives the device. A datagram that the
checksum rejects changes the receive buffer only, and the next one fills that buffer again. -/
theorem network_drives_actuator {hUSB1 : ℤ} (husb : hUSB1 ≠ 0) {es : List NetEvent}
    (hes : ∀ e ∈ es, ErrorSeen e) :
    let start : NetState longBits := NetState.start hUSB1
    ((network longBits).outputs start es).filterMap Output.serialTail =
        actuator.outputs none ((network longBits).translate toActuator start es) ∧
      ∀ pre e post m, es = pre ++ e :: post →
        .arrive m ∈ toActuator ((network longBits).run start pre) e → .send m ∈ pre := by
  intro start
  constructor
  · have hstart : Drives start none := by
      refine ⟨husb, ⟨rfl, rfl, rfl⟩, ?_⟩
      show (Vector.replicate 9 (0 : Byte)).toList.drop 1 = List.replicate 8 0
      decide
    have houtputs := network_follows.outputs network_answers hstart
      ((network longBits).along_event_iff.mpr hes)
    rwa [List.filterMap_some] at houtputs
  · rintro pre e post m rfl hm
    cases e with
    | deliver i error =>
      rw [toActuator] at hm
      split_ifs at hm with hintact
      · simp at hm
      · have hget : ((channel Command).run [] (pre.flatMap NetEvent.onChannel))[i]? = some m := by
          rw [← inFlight_run longBits hUSB1 pre]
          simpa [start] using hm
        obtain ⟨e', he', hsend⟩ := List.mem_flatMap.mp (sent_of_delivered hget)
        cases e' <;> simp_all [NetEvent.onChannel]
    | _ => simp [toActuator] at hm

/-- A command for both wheels. -/
def forward : Command :=
  ⟨#v[0xFF, 0x07, 0x78, 0x00, 0x78, 0x00, 0xA0, 0x21, 0xC7], by decide +kernel⟩

/-- An error of one bit. -/
def flippedBit : Vector Byte 9 := #v[0x00, 0x00, 0x01, 0x00, 0x00, 0x00, 0x00, 0x00, 0x00]

/-- The checksum sees it. -/
lemma errorSeen_flippedBit (i : ℕ) : ErrorSeen (.deliver i flippedBit) :=
  fun _ => not_dvd_of_odd crcGen_eval_one (by decide)

/-- A command is doubled; one copy is corrupted, the other arrives and drives the robot. -/
theorem network_drives_actuator_doubled :
    let es : List NetEvent := [.send forward, .duplicate 0, .deliver 0 flippedBit, .driveraw,
      .deliver 0 (Vector.replicate 9 0), .driveraw, .dog, .dog, .dog, .dog, .driveraw]
    let start : NetState 32 := NetState.start 3
    ((network 32).outputs start es).filterMap Output.serialTail =
        actuator.outputs none ((network 32).translate toActuator start es) ∧
      ∀ pre e post m, es = pre ++ e :: post →
        .arrive m ∈ toActuator ((network 32).run start pre) e → .send m ∈ pre :=
  network_drives_actuator (by decide) (by
    simp only [List.forall_mem_cons, List.not_mem_nil, false_imp_iff, implies_true, and_true]
    refine ⟨trivial, trivial, errorSeen_flippedBit 0, trivial, ?_, trivial, trivial, trivial,
      trivial, trivial, trivial⟩
    rintro ⟨b, hb, hne⟩
    simp at hb
    exact absurd hb hne)

end Wifibot
