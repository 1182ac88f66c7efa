import Wifibot.RawServer.Server

set_option relaxedAutoImplicit false
set_option autoImplicit false

/-!
# Commands and what a step does to the motor frame

What one step of the server can do to the watchdog and to the motor frame in
`buffso_Raw_Data_In`, said once for every kind of step. The properties of runs are derived from
these lemmas.

## Main definitions

* `Wifibot.frameOk` — the checksum test on a motor frame.
* `Wifibot.isCommand` — a `recv` of at least one byte, or an accepted datagram.
* `Wifibot.stops` — `Thread_Dog` would take its stop branch.

## Main results

* `Wifibot.watchdog_next`, `Wifibot.cycles_next`, `Wifibot.frame_next` — what any step does to the
  watchdog, its limit and the motor frame.
* `Wifibot.serial_mem_emit` — what is written to the serial port.
-/

namespace Wifibot

variable {longBits : ℕ}

/-- The checksum test on a motor frame: bytes `7` and `8` are the checksum of bytes `1` to `6`. -/
def frameOk (f : Vector Byte 9) : Bool := crcTest (f.toList.drop 1) 6

/-- The test on a frame, cell by cell. -/
lemma frameOk_iff (f : Vector Byte 9) :
    frameOk f = true ↔ leShort f[7]! f[8]! = crc16 (f.toList.drop 1) 6 := by
  simp [frameOk, crcTest]

/-- A command: a `recv` of at least one byte, or a datagram that `Thread_TCP_Trooper_In`
accepts. -/
def isCommand (s : State longBits) : Event → Bool
  | .tcpRecv r => 1 ≤ r.size 9
  | .trooperIn r => trooperInTest (s.buffso_rcvIN.overlay (r.stored 9))
  | _ => false

/-- The next iteration of `Thread_Dog` takes its stop branch. -/
def stops (s : State longBits) : Prop := ¬ s.watchdog < s.cycles ∧ s.watchdog = s.cycles

instance (s : State longBits) : Decidable (stops s) :=
  inferInstanceAs (Decidable (¬ s.watchdog < s.cycles ∧ s.watchdog = s.cycles))

/-- A frame with its wheel speeds, bytes `2` to `5`, cleared. -/
def clearSpeeds (f : Vector Byte 9) : Vector Byte 9 := (((f.set! 2 0).set! 3 0).set! 4 0).set! 5 0

/-- Both wheel speeds of a frame are zero. -/
def SpeedsZero (f : Vector Byte 9) : Prop := f[2]! = 0 ∧ f[3]! = 0 ∧ f[4]! = 0 ∧ f[5]! = 0

instance (f : Vector Byte 9) : Decidable (SpeedsZero f) :=
  inferInstanceAs (Decidable (f[2]! = 0 ∧ f[3]! = 0 ∧ f[4]! = 0 ∧ f[5]! = 0))

lemma speedsZero_clearSpeeds (f : Vector Byte 9) : SpeedsZero (clearSpeeds f) := by
  simp [SpeedsZero, clearSpeeds]

/-! ## The receive calls -/

/-- Without a byte nothing is stored. -/
lemma Received.stored_of_size_lt {r : Received} {len : ℕ} (h : r.size len < 1) :
    r.stored len = [] := by
  cases r with
  | failed => rfl
  | data bytes =>
    have hlen : (bytes.take len).length = 0 := by
      simp only [Received.size] at h
      omega
    exact List.eq_nil_of_length_eq_zero hlen

/-- Data that fit are stored as they are. -/
lemma Received.stored_data {bytes : List Byte} {len : ℕ} (h : bytes.length ≤ len) :
    (Received.data bytes).stored len = bytes :=
  List.take_of_length_le h

/-- The frame copied out of the receive buffer passes the test of the buffer. -/
lemma frameOk_overlay_take (f : Vector Byte 9) (buf : Vector Byte 100) :
    frameOk (f.overlay (buf.toList.take 9)) = trooperInTest buf := by
  have hcell : ∀ i, i < 9 → (f.overlay (buf.toList.take 9))[i]! = buf[i]! := by
    intro i hi
    rw [getElem!_pos (f.overlay _) i hi, getElem!_pos buf i (by omega), Vector.getElem_overlay,
      List.getD_eq_getElem _ _ (by simp; omega), List.getElem_take]
    exact Vector.getElem_toList _
  have hlist : (f.overlay (buf.toList.take 9)).toList = buf.toList.take 9 :=
    Vector.toList_overlay_of_length_eq _ _ (by simp)
  have hcrc : crc16 ((buf.toList.take 9).drop 1) 6 = crc16 (buf.toList.drop 1) 6 := by
    refine crc16_congr ?_
    rw [List.drop_take, List.take_take]
    rfl
  rw [Bool.eq_iff_iff, frameOk_iff, hcell 7 (by decide), hcell 8 (by decide), hlist, hcrc,
    trooperInTest, beq_iff_eq]

/-! ## One step -/

/-- A reply changes the buffers of its own thread and the telemetry only. -/
lemma trooperOutReply_fst (s : State longBits) :
    ∃ out sent, (trooperOutReply s).1 =
      { s with buffso_Raw_Data_Out := out, buffso_sendOUT := sent } := by
  unfold trooperOutReply
  split_ifs
  · exact ⟨_, _, rfl⟩
  · exact ⟨_, _, rfl⟩
  · exact ⟨_, _, rfl⟩

/-- A telemetry request leaves `buffso_Raw_Data_Out` cleared and changes nothing but the buffers of
its thread. -/
lemma next_trooperOut (s : State longBits) (r : Received) :
    ∃ rcv sent, (server longBits).next s (.trooperOut r) =
      { s with buffso_Raw_Data_Out := Vector.replicate 21 0, buffso_rcvOUT := rcv,
               buffso_sendOUT := sent } := by
  obtain ⟨out, sent, h⟩ :=
    trooperOutReply_fst { s with buffso_rcvOUT := s.buffso_rcvOUT.overlay (r.stored 21) }
  refine ⟨s.buffso_rcvOUT.overlay (r.stored 21), sent, ?_⟩
  simp only [Machine.next, server, Thread_TCP_Trooper_Out, h, Vector.overlay_replicate]

/-- No step changes what was fixed at the start: the debug level and the serial handle. -/
lemma fixed_next (s : State longBits) (e : Event) :
    ((server longBits).next s e).debug = s.debug ∧
      ((server longBits).next s e).hUSB1 = s.hUSB1 := by
  cases e with
  | trooperOut r =>
    obtain ⟨_, _, h⟩ := next_trooperOut s r
    rw [h]
    exact ⟨rfl, rfl⟩
  | driveraw => exact ⟨rfl, rfl⟩
  | _ =>
    simp only [Machine.next, server, Thread_TCP, Thread_TCP_Trooper_In, Thread_Dog, mainKey,
      robotPayload]
    split_ifs <;> exact ⟨rfl, rfl⟩

@[simp] lemma debug_next (s : State longBits) (e : Event) :
    ((server longBits).next s e).debug = s.debug := (fixed_next s e).1

@[simp] lemma hUSB1_next (s : State longBits) (e : Event) :
    ((server longBits).next s e).hUSB1 = s.hUSB1 := (fixed_next s e).2

/-- No run changes the debug level. -/
@[simp] lemma debug_run (s : State longBits) (es : List Event) :
    ((server longBits).run s es).debug = s.debug :=
  (server longBits).run_invariant (I := fun s' => s'.debug = s.debug)
    (fun s' e h => by rw [debug_next, h]) rfl es

/-- No run changes the serial handle. -/
@[simp] lemma hUSB1_run (s : State longBits) (es : List Event) :
    ((server longBits).run s es).hUSB1 = s.hUSB1 :=
  (server longBits).run_invariant (I := fun s' => s'.hUSB1 = s.hUSB1)
    (fun s' e h => by rw [hUSB1_next, h]) rfl es

/-- The motor frame after a command. -/
def commandFrame (s : State longBits) : Event → Vector Byte 9
  | .tcpRecv r => s.buffso_Raw_Data_In.overlay (r.stored 9)
  | .trooperIn r =>
    s.buffso_Raw_Data_In.overlay ((s.buffso_rcvIN.overlay (r.stored 9)).toList.take 9)
  | _ => s.buffso_Raw_Data_In

/-- **What a step does to watchdog and limit**: a command sets both, and `Thread_Dog` counts below
the limit. -/
lemma counters_next {s : State longBits} (hs : s.debug = 0) (e : Event) :
    ((server longBits).next s e).watchdog =
        (if isCommand s e then 0
        else if e = .dog ∧ s.watchdog < s.cycles then s.watchdog + 1 else s.watchdog) ∧
      ((server longBits).next s e).cycles = if isCommand s e then 3 else s.cycles := by
  cases e with
  | tcpRecv r =>
    by_cases hsize : r.size 9 < 1
    · simp [Machine.next, server, Thread_TCP, isCommand, hsize]
    · simp [Machine.next, server, Thread_TCP, isCommand, hsize, hs]
  | trooperOut r =>
    obtain ⟨_, _, h⟩ := next_trooperOut s r
    simp [h, isCommand]
  | driveraw => exact ⟨rfl, rfl⟩
  | _ =>
    simp only [Machine.next, server, Thread_TCP_Trooper_In, Thread_Dog, mainKey, robotPayload,
      isCommand]
    split_ifs <;> simp_all

/-- The watchdog after a step. -/
lemma watchdog_next {s : State longBits} (hs : s.debug = 0) (e : Event) :
    ((server longBits).next s e).watchdog =
      if isCommand s e then 0
      else if e = .dog ∧ s.watchdog < s.cycles then s.watchdog + 1 else s.watchdog :=
  (counters_next hs e).1

/-- The limit after a step. -/
lemma cycles_next {s : State longBits} (hs : s.debug = 0) (e : Event) :
    ((server longBits).next s e).cycles = if isCommand s e then 3 else s.cycles :=
  (counters_next hs e).2

/-- **What a step does to the motor frame**: a command replaces it, and the stop branch clears its
wheel speeds. -/
lemma frame_next (s : State longBits) (e : Event) :
    ((server longBits).next s e).buffso_Raw_Data_In =
      if isCommand s e then commandFrame s e
      else if e = .dog ∧ stops s then clearSpeeds s.buffso_Raw_Data_In
      else s.buffso_Raw_Data_In := by
  cases e with
  | tcpRecv r =>
    by_cases hsize : r.size 9 < 1
    · simp [Machine.next, server, Thread_TCP, isCommand, hsize, Received.stored_of_size_lt]
    · simp only [Machine.next, server, Thread_TCP, isCommand, hsize, commandFrame]
      split_ifs <;> simp_all
  | trooperOut r =>
    obtain ⟨_, _, h⟩ := next_trooperOut s r
    simp [h, isCommand]
  | driveraw => rfl
  | dog =>
    simp only [Machine.next, server, Thread_Dog, isCommand, stops]
    split_ifs <;> simp_all [clearSpeeds]
  | _ =>
    simp only [Machine.next, server, Thread_TCP_Trooper_In, mainKey, robotPayload, isCommand,
      commandFrame]
    split_ifs <;> simp_all

/-- `driveraw` hands the frame to the serial port, if there is a handle. -/
lemma emit_driveraw (s : State longBits) :
    (server longBits).emit s .driveraw =
      if s.hUSB1 = 0 then [] else [.serial s.buffso_Raw_Data_In] := rfl

/-- Nothing but `driveraw` writes to the serial port, and it writes the motor frame. -/
lemma serial_mem_emit {s : State longBits} {e : Event} {f : Vector Byte 9}
    (h : .serial f ∈ (server longBits).emit s e) : e = .driveraw ∧ f = s.buffso_Raw_Data_In := by
  cases e with
  | driveraw =>
    rw [emit_driveraw] at h
    split_ifs at h
    · simp at h
    · exact ⟨rfl, by simpa using h⟩
  | trooperOut r =>
    simp only [Machine.emit, server, Thread_TCP_Trooper_Out, trooperOutReply] at h
    split_ifs at h <;> simp at h
  | key c =>
    simp only [Machine.emit, server, mainKey] at h
    split_ifs at h <;> simp at h
  | _ =>
    simp only [Machine.emit, server, Thread_TCP, Thread_TCP_Trooper_In, Thread_Dog,
      robotPayload] at h
    split_ifs at h <;> simp at h

end Wifibot
