import Wifibot.TwinServers
import Wifibot.WindowsServer.SerialDecoder

set_option relaxedAutoImplicit false
set_option autoImplicit false

/-!
# The serial threads of the two servers

The loops of `Thread_RS232_33f` and `Thread_RS23233f` write a motor frame and then wait for a frame
of the robot, while the other threads go on. What the robot sends is read by the decoders as the
sources have them. The raw server's loop makes 22 reads or more for each frame that it writes, so it
writes no frame more to a robot that does not answer; and over the same bytes the two servers take
the same turns.

The set-up of the port and the frames that the threads send before their loops are left out, and so
are the times that the loop on Windows measures.

## Main definitions

* `Wifibot.LoopState`, `Wifibot.serialLoop` — the raw server with the loop of its serial thread.
* `Wifibot.Windows.LoopState`, `Wifibot.Windows.serialLoop` — the same of the Windows server.
* `Wifibot.loopEvents`, `Wifibot.Windows.loopEvents` — what their steps are for the servers.

## Main results

* `Wifibot.frames_le_reads` — the raw server writes one frame for 22 reads.
* `Wifibot.serial_threads_agree` — both servers write the same frames for the same bytes of the
  robot.
-/

namespace Wifibot

variable {longBits : ℕ}

/-! ## The loop of the raw server -/

/-- A step of another thread, the write, or the return of the call that reads; `sbuf` is what the
local buffer of the call holds when it starts. -/
inductive LoopEvent
  | thread (e : Event)
  | write
  | read (fuel : ℕ) (sbuf : Vector Byte 30)

/-- The steps of the serial thread itself. -/
def Event.ofSerialThread : Event → Bool
  | .driveraw => true
  | .robot _ => true
  | _ => false

/-- The globals, the reads made on the port, and whether the thread is in its call that reads. -/
structure LoopState (longBits : ℕ) where
  globals : State longBits
  pos : ℕ
  reading : Bool

/-- **The raw server with its serial thread.** A call that has not returned with its fuel goes on
reading. -/
def serialLoop (longBits : ℕ) (port : Port) : Machine (LoopState longBits) LoopEvent Output where
  step s
    | .thread e =>
      if e.ofSerialThread then (s, [])
      else ({ s with globals := (server longBits).next s.globals e },
        (server longBits).emit s.globals e)
    | .write =>
      if s.reading then (s, [])
      else ({ s with globals := (driveraw s.globals).1, reading := true }, (driveraw s.globals).2)
    | .read fuel sbuf =>
      if s.reading then
        match GetRS232Motor33f fuel s.globals.hUSB1 port sbuf s.globals.toTelemetry s.pos with
        | none => (s, [])
        | some r =>
          ({ globals := { s.globals with toTelemetry := r.telemetry }
             pos := r.pos
             reading := false }, [])
      else (s, [])

/-- The loop when the port has been opened. -/
def LoopState.start (debug hUSB1 : ℤ) : LoopState longBits where
  globals := .start debug hUSB1
  pos := 0
  reading := false

/-- The payload that a call decodes, as a step of the server. -/
def acceptedEvents (accepted : Option (Option Payload)) : List Event :=
  accepted.elim [] fun p => p.toList.map .robot

/-- What a step is for the server. -/
def loopEvents (port : Port) (s : LoopState longBits) : LoopEvent → List Event
  | .thread e => if e.ofSerialThread then [] else [e]
  | .write => if s.reading then [] else [.driveraw]
  | .read fuel sbuf =>
    if s.reading then
      acceptedEvents ((GetRS232Motor33f fuel s.globals.hUSB1 port sbuf s.globals.toTelemetry
        s.pos).map CallResult.accepted)
    else []

/-- **The loop refines the server**, step by step. -/
lemma loop_globals_next (port : Port) (s : LoopState longBits) (e : LoopEvent) :
    ((serialLoop longBits port).next s e).globals =
      (server longBits).run s.globals (loopEvents port s e) := by
  cases e with
  | thread e =>
    simp only [Machine.next, serialLoop, loopEvents]
    split_ifs <;> rfl
  | write =>
    simp only [Machine.next, serialLoop, loopEvents]
    split_ifs <;> rfl
  | read fuel sbuf =>
    simp only [Machine.next, serialLoop, loopEvents]
    split_ifs
    · cases hcall : GetRS232Motor33f fuel s.globals.hUSB1 port sbuf s.globals.toTelemetry s.pos with
      | none => rfl
      | some r =>
        rw [Option.map_some, acceptedEvents, Option.elim_some]
        exact (run_robot_of_returned hcall).symm
    · rfl

/-- A payload of the robot shows nothing. -/
lemma outputs_robot (s : State longBits) (ps : List Payload) :
    (server longBits).outputs s (ps.map Event.robot) = [] := by
  induction ps generalizing s with
  | nil => rfl
  | cons p ps ih =>
    rw [List.map_cons, Machine.outputs_cons, ih, List.append_nil]
    simp only [Machine.emit, server, robotPayload]
    split_ifs <;> rfl

/-- The outputs of one step. -/
lemma loop_emit (port : Port) (s : LoopState longBits) (e : LoopEvent) :
    (serialLoop longBits port).emit s e =
      (server longBits).outputs s.globals (loopEvents port s e) := by
  cases e with
  | thread e =>
    simp only [Machine.emit, serialLoop, loopEvents]
    split_ifs
    · rfl
    · simp [Machine.emit]
  | write =>
    simp only [Machine.emit, serialLoop, loopEvents]
    split_ifs
    · rfl
    · simp [Machine.emit, server]
  | read fuel sbuf =>
    simp only [Machine.emit, serialLoop, loopEvents]
    split_ifs
    · cases hcall : GetRS232Motor33f fuel s.globals.hUSB1 port sbuf s.globals.toTelemetry s.pos with
      | none => rfl
      | some r =>
        rw [Option.map_some, acceptedEvents, Option.elim_some]
        exact (outputs_robot _ _).symm
    · rfl

/-! ## One frame for 22 reads -/

/-- A call with a handle that returned made 22 reads or more, and all of them returned. -/
lemma returned_reads {fuel : ℕ} {hUSB : ℤ} (hh : hUSB ≠ 0) {port : Port} {sbuf : Vector Byte 30}
    {data : Telemetry longBits} {pos : ℕ} {r : CallResult longBits}
    (h : GetRS232Motor33f fuel hUSB port sbuf data pos = some r) :
    pos + 22 ≤ r.pos ∧ ∀ i, pos ≤ i → i < r.pos → (port i).isSome := by
  have hcall := h
  rw [GetRS232Motor33f, Option.bind_eq_some_iff] at h
  obtain ⟨⟨r₁, st₁⟩, hsync, h⟩ := h
  have hone := (syncLoop_eq_some hh hsync).1
  dsimp only at hone h
  rw [hone, if_pos one_ne_zero, Option.bind_eq_some_iff] at h
  obtain ⟨st₂, hst₂, -⟩ := h
  obtain ⟨⟨r₂, st₂⟩, hread, rfl⟩ := Option.map_eq_some_iff.mp hst₂
  obtain ⟨-, e, ⟨hle, hhead, hbefore⟩, hpos₁, hpos₂, -⟩ := payloadOf_scan_read hh hsync hread
  -- the reads of the scan, its last one, and the 21 behind it
  have hscan : ∀ i, pos ≤ i → i < e + 22 → (port i).isSome := by
    intro i hi hlt
    rcases lt_trichotomy i e with hie | rfl | hie
    · exact (hbefore i hi hie).1
    · exact hhead.isSome
    · rw [readrs232, if_neg hh, Option.map_eq_some_iff] at hread
      obtain ⟨st', hloop, -⟩ := hread
      have hsome := (readLoop_eq_some hloop).2.1 (i - (e + 1)) (by omega)
      rwa [hpos₁, show e + 1 + (i - (e + 1)) = i by omega] at hsome
  obtain ⟨-, -, hpos⟩ | ⟨-, -, x, hsync', hpos⟩ :=
    GetRS232Motor33f_tested hsync (hone ▸ one_ne_zero) hread hcall
  · rw [hpos, hpos₂]
    exact ⟨by omega, hscan⟩
  · obtain ⟨-, e', ⟨hle', hhead', hbefore'⟩, hpos', -⟩ := syncLoop_eq_some hh hsync'
    rw [hpos₂] at hle' hbefore'
    rw [hpos, hpos']
    refine ⟨by omega, fun i hi hlt => ?_⟩
    rcases Nat.lt_or_ge i (e + 22) with hie | hie
    · exact hscan i hi hie
    · rcases Nat.lt_or_eq_of_le (Nat.le_of_lt_succ hlt) with hie' | rfl
      · exact (hbefore' i hie hie').1
      · exact hhead'.isSome

/-- A motor frame. -/
def Output.isFrame : Output → Bool
  | .serial _ => true
  | _ => false

/-- After so many frames: each of them but the one whose answer is awaited was followed by 22 reads
or more, and all reads made have returned. -/
structure LockstepInv (port : Port) (hUSB1 : ℤ) (s : LoopState longBits) (frames : ℕ) : Prop where
  handle : s.globals.hUSB1 = hUSB1
  reads : 22 * frames ≤ s.pos + if s.reading then 22 else 0
  returned : ∀ i < s.pos, (port i).isSome

namespace LockstepInv

variable {port : Port} {hUSB1 : ℤ} {s : LoopState longBits} {frames : ℕ}

/-- The steps of the other threads write no frame. -/
lemma countP_emit (s : State longBits) {e : Event} (he : e.ofSerialThread = false) :
    ((server longBits).emit s e).countP Output.isFrame = 0 := by
  rw [List.countP_eq_zero]
  intro o ho hframe
  cases o with
  | serial f =>
    obtain ⟨rfl, -⟩ := serial_mem_emit ho
    cases he
  | _ => cases hframe

/-- **One step.** -/
lemma next (hh : hUSB1 ≠ 0) (h : LockstepInv port hUSB1 s frames) (e : LoopEvent) :
    LockstepInv port hUSB1 ((serialLoop longBits port).next s e)
      (frames + ((serialLoop longBits port).emit s e).countP Output.isFrame) := by
  cases e with
  | thread e =>
    cases he : e.ofSerialThread with
    | true =>
      simp only [Machine.next, Machine.emit, serialLoop, he, if_true, List.countP_nil, add_zero]
      exact h
    | false =>
      have hcount := countP_emit s.globals he
      simp only [Machine.next, Machine.emit, serialLoop, he, Bool.false_eq_true, if_false]
        at hcount ⊢
      rw [hcount, add_zero]
      exact ⟨(hUSB1_next s.globals e).trans h.handle, h.reads, h.returned⟩
  | write =>
    cases hr : s.reading with
    | true =>
      simp only [Machine.next, Machine.emit, serialLoop, hr, if_true, List.countP_nil, add_zero]
      exact h
    | false =>
      have hreads := h.reads
      have hhandle : s.globals.hUSB1 ≠ 0 := h.handle ▸ hh
      rw [hr, if_neg (by simp), add_zero] at hreads
      simp only [Machine.next, Machine.emit, serialLoop, hr, Bool.false_eq_true, if_false, driveraw,
        if_neg hhandle]
      refine ⟨h.handle, ?_, h.returned⟩
      simp only [if_true, List.countP_cons, List.countP_nil, Output.isFrame]
      omega
  | read fuel sbuf =>
    cases hr : s.reading with
    | false =>
      simp only [Machine.next, Machine.emit, serialLoop, hr, Bool.false_eq_true, if_false,
        List.countP_nil, add_zero]
      exact h
    | true =>
      have hreads := h.reads
      rw [hr, if_pos rfl] at hreads
      cases hcall : GetRS232Motor33f fuel s.globals.hUSB1 port sbuf s.globals.toTelemetry s.pos with
      | none =>
        simp only [Machine.next, Machine.emit, serialLoop, hr, if_true, hcall, List.countP_nil,
          add_zero]
        exact h
      | some r =>
        have hhandle : s.globals.hUSB1 ≠ 0 := h.handle ▸ hh
        obtain ⟨hpos, hsome⟩ := returned_reads hhandle hcall
        simp only [Machine.next, Machine.emit, serialLoop, hr, if_true, hcall, List.countP_nil,
          add_zero]
        refine ⟨h.handle, ?_, fun i hi => ?_⟩
        · simp only [Bool.false_eq_true, if_false]
          omega
        · rcases Nat.lt_or_ge i s.pos with hlt | hge
          · exact h.returned i hlt
          · exact hsome i hge hi

/-- **Every run.** -/
lemma run (hh : hUSB1 ≠ 0) (h : LockstepInv port hUSB1 s frames) (es : List LoopEvent) :
    LockstepInv port hUSB1 ((serialLoop longBits port).run s es)
      (frames + ((serialLoop longBits port).outputs s es).countP Output.isFrame) := by
  induction es generalizing s frames with
  | nil => exact h
  | cons e es ih =>
    rw [Machine.run_cons, Machine.outputs_cons, List.countP_append, ← Nat.add_assoc]
    exact ih (h.next hh e)

end LockstepInv

/-- **One frame for 22 reads.** Take any port, whatever its reads give, and any run of the raw
server with a serial handle, in which the other threads do anything at any time. The globals and the
outputs are those of the server on the payloads that the decoder accepts. The frames written are one
for each 22 reads made, and one more; so if some read never returns, no run writes more than its
share: a robot that has fallen silent gets no further frame, not even that of a stop.

**Proof sketch.** Between two writes is a call of the decoder that returned, and such a call makes
22 reads or more, all of which returned. -/
theorem frames_le_reads (debug : ℤ) {hUSB1 : ℤ} (husb : hUSB1 ≠ 0) (port : Port)
    (es : List LoopEvent) :
    let start : LoopState longBits := LoopState.start debug hUSB1
    let s := (serialLoop longBits port).run start es
    let sent := (serialLoop longBits port).outputs start es
    let fs := (serialLoop longBits port).translate (loopEvents port) start es
    (s.globals = (server longBits).run (State.start debug hUSB1) fs ∧
        sent = (server longBits).outputs (State.start debug hUSB1) fs) ∧
      22 * sent.countP Output.isFrame ≤ s.pos + 22 ∧
      ∀ N, port N = none → sent.countP Output.isFrame ≤ N / 22 + 1 := by
  intro start s sent fs
  have hstart : LockstepInv port hUSB1 start 0 :=
    ⟨rfl, Nat.zero_le _, fun i hi => absurd hi (Nat.not_lt_zero i)⟩
  have hinv : LockstepInv port hUSB1 s (0 + sent.countP Output.isFrame) := hstart.run husb es
  have hreads := hinv.reads
  rw [Nat.zero_add] at hreads
  have hle : 22 * sent.countP Output.isFrame ≤ s.pos + 22 := by
    split_ifs at hreads <;> omega
  refine ⟨⟨?_, ?_⟩, hle, fun N hN => ?_⟩
  · exact Machine.run_of_refines (g := LoopState.globals) (loop_globals_next port) start es
  · exact Machine.outputs_of_refines (g := LoopState.globals) (loop_globals_next port)
      (loop_emit port) start es
  · -- the read that never returns is not among those made
    have hpos : s.pos ≤ N := by
      by_contra hlt
      have hsome := hinv.returned N (by omega)
      rw [hN] at hsome
      cases hsome
    omega

/-- A robot that sends one frame and falls silent. -/
def silentLine : Port := bytesPort (255 :: restPayload.toList)

/-- Its second frame is the last that it gets. -/
theorem frames_le_reads_silentLine :
    let es : List LoopEvent := [.write, .read 30 (Vector.replicate 30 0), .write,
      .thread (.tcpRecv (.data [0xFF, 0x07, 0x78, 0x00, 0x78, 0x00, 0xA0, 0x21, 0xC7])),
      .read 30 (Vector.replicate 30 0), .write]
    let start : LoopState 32 := LoopState.start 0 3
    let s := (serialLoop 32 silentLine).run start es
    let sent := (serialLoop 32 silentLine).outputs start es
    let fs := (serialLoop 32 silentLine).translate (loopEvents silentLine) start es
    (s.globals = (server 32).run (State.start 0 3) fs ∧
        sent = (server 32).outputs (State.start 0 3) fs) ∧
      22 * sent.countP Output.isFrame ≤ s.pos + 22 ∧
      ∀ N, silentLine N = none → sent.countP Output.isFrame ≤ N / 22 + 1 :=
  frames_le_reads 0 (by decide) silentLine _

/-! ## The loop on Windows -/

namespace Windows

/-- The steps of the loop, as for the raw server. -/
inductive LoopEvent
  | thread (e : Event)
  | write
  | read (fuel : ℕ) (sbuf : Vector Byte 30)

/-- The steps of the serial thread itself. -/
def Event.ofSerialThread : Event → Bool
  | .serialWrite => true
  | .robot _ => true
  | _ => false

/-- The globals, the bytes taken from the port and the calls of `ReadFile`, and whether the thread
is in its call that reads. -/
structure LoopState where
  globals : State
  pos : ℕ
  calls : ℕ
  reading : Bool

/-- **The Windows server with its serial thread.** -/
def serialLoop (port : ComPort) : Machine LoopState LoopEvent Output where
  step s
    | .thread e =>
      if e.ofSerialThread then (s, [])
      else ({ s with globals := server.next s.globals e }, server.emit s.globals e)
    | .write =>
      if s.reading then (s, [])
      else ({ s with globals := (serialWrite s.globals).1, reading := true },
        (serialWrite s.globals).2)
    | .read fuel sbuf =>
      if s.reading then
        match GetMotorRS23233f fuel port sbuf s.globals s.pos s.calls with
        | none => (s, [])
        | some r => ({ globals := r.globals, pos := r.pos, calls := r.calls, reading := false }, [])
      else (s, [])

/-- The loop when the port has been opened. -/
def LoopState.start : LoopState where
  globals := .start
  pos := 0
  calls := 0
  reading := false

/-- What a step is for the server. -/
def loopEvents (port : ComPort) (s : LoopState) : LoopEvent → List Event
  | .thread e => if e.ofSerialThread then [] else [e]
  | .write => if s.reading then [] else [.serialWrite]
  | .read fuel sbuf =>
    if s.reading then
      ((GetMotorRS23233f fuel port sbuf s.globals s.pos s.calls).map CallResult.accepted).elim []
        fun p => p.toList.map .robot
    else []

/-- **The loop refines the server**, step by step. -/
lemma loop_globals_next (port : ComPort) (s : LoopState) (e : LoopEvent) :
    ((serialLoop port).next s e).globals = server.run s.globals (loopEvents port s e) := by
  cases e with
  | thread e =>
    simp only [Machine.next, serialLoop, loopEvents]
    split_ifs <;> rfl
  | write =>
    simp only [Machine.next, serialLoop, loopEvents]
    split_ifs <;> rfl
  | read fuel sbuf =>
    simp only [Machine.next, serialLoop, loopEvents]
    split_ifs
    · cases hcall : GetMotorRS23233f fuel port sbuf s.globals s.pos s.calls with
      | none => rfl
      | some r =>
        rw [Option.map_some, Option.elim_some]
        exact (run_robot_of_returned hcall).symm
    · rfl

/-- A payload of the robot shows nothing. -/
lemma outputs_robot (s : State) (ps : List Payload) :
    server.outputs s (ps.map Event.robot) = [] := by
  induction ps generalizing s with
  | nil => rfl
  | cons p ps ih =>
    rw [List.map_cons, Machine.outputs_cons, ih, List.append_nil]
    rfl

/-- The outputs of one step. -/
lemma loop_emit (port : ComPort) (s : LoopState) (e : LoopEvent) :
    (serialLoop port).emit s e = server.outputs s.globals (loopEvents port s e) := by
  cases e with
  | thread e =>
    simp only [Machine.emit, serialLoop, loopEvents]
    split_ifs
    · rfl
    · simp [Machine.emit]
  | write =>
    simp only [Machine.emit, serialLoop, loopEvents]
    split_ifs
    · rfl
    · simp [Machine.emit, server]
  | read fuel sbuf =>
    simp only [Machine.emit, serialLoop, loopEvents]
    split_ifs
    · cases hcall : GetMotorRS23233f fuel port sbuf s.globals s.pos s.calls with
      | none => rfl
      | some r =>
        rw [Option.map_some, Option.elim_some]
        exact (outputs_robot _ _).symm
    · rfl

end Windows

/-! ## The two loops -/

/-- The step on Windows for a step of the raw server. -/
def LoopEvent.toWindows : LoopEvent → List Windows.LoopEvent
  | .thread e => if e.ofSerialThread then [] else (Wifibot.toWindows e).map .thread
  | .write => [.write]
  | .read fuel sbuf => [.read fuel sbuf]

/-- The two threads are at the same turn, their globals related by `R`. -/
structure SameTurn (R : State longBits → Windows.State → Prop) (s : LoopState longBits)
    (t : Windows.LoopState) : Prop where
  globals : R s.globals t.globals
  hUSB1 : s.globals.hUSB1 ≠ 0
  pos : s.pos = t.pos
  reading : s.reading = t.reading

/-- The step on Windows for a step of another thread is one of another thread. -/
lemma ofSerialThread_toWindows {e : Event} (he : e.ofSerialThread = false) :
    ∀ d ∈ toWindows e, d.ofSerialThread = false := by
  cases e <;> simp_all [toWindows, Event.ofSerialThread, Windows.Event.ofSerialThread]

section Turns

variable {port : Windows.ComPort} {R : State longBits → Windows.State → Prop}
  {s : LoopState longBits} {t : Windows.LoopState}

/-- The steps of other threads, as steps of the server on Windows. -/
lemma translate_thread (t : Windows.LoopState) {es : List Windows.Event}
    (hes : ∀ d ∈ es, d.ofSerialThread = false) :
    (Windows.serialLoop port).translate (Windows.loopEvents port) t
      (es.map Windows.LoopEvent.thread) = es := by
  induction es generalizing t with
  | nil => rfl
  | cons d es ih =>
    rw [List.map_cons, Machine.translate_cons, ih _ fun d hd => hes d (List.mem_cons_of_mem _ hd)]
    simp [Windows.loopEvents, hes d List.mem_cons_self]

/-- The steps of other threads leave the turn of the serial thread as it is. -/
lemma run_thread (t : Windows.LoopState) (es : List Windows.Event) :
    ((Windows.serialLoop port).run t (es.map Windows.LoopEvent.thread)).pos = t.pos ∧
      ((Windows.serialLoop port).run t (es.map Windows.LoopEvent.thread)).reading = t.reading := by
  induction es generalizing t with
  | nil => exact ⟨rfl, rfl⟩
  | cons d es ih =>
    have hnext : ((Windows.serialLoop port).next t (.thread d)).pos = t.pos ∧
        ((Windows.serialLoop port).next t (.thread d)).reading = t.reading := by
      simp only [Machine.next, Windows.serialLoop]
      split_ifs <;> exact ⟨rfl, rfl⟩
    rw [List.map_cons, Machine.run_cons]
    exact ⟨(ih _).1.trans hnext.1, (ih _).2.trans hnext.2⟩

/-- **At the same turn** a step means the same for both servers. -/
lemma SameTurn.translate (hp : port.InTime) (h : SameTurn R s t) (e : LoopEvent) :
    (Windows.serialLoop port).translate (Windows.loopEvents port) t e.toWindows =
      (loopEvents (streamPort port.bytes) s e).flatMap toWindows := by
  cases e with
  | thread e =>
    rw [LoopEvent.toWindows, loopEvents]
    split_ifs with he
    · rfl
    · have hother := ofSerialThread_toWindows (Bool.eq_false_iff.mpr he)
      rw [translate_thread t hother, List.flatMap_singleton]
  | write =>
    simp only [LoopEvent.toWindows, Machine.translate_cons, Machine.translate_nil, List.append_nil,
      loopEvents, Windows.loopEvents, h.reading]
    split_ifs <;> rfl
  | read fuel sbuf =>
    have hcall := Windows.GetMotorRS23233f_eq h.hUSB1 hp fuel sbuf s.globals.toTelemetry t.globals
      t.pos t.calls
    have haccepted : (GetRS232Motor33f fuel s.globals.hUSB1 (streamPort port.bytes) sbuf
          s.globals.toTelemetry t.pos).map CallResult.accepted =
        (Windows.GetMotorRS23233f fuel port sbuf t.globals t.pos t.calls).map
          Windows.CallResult.accepted := by
      simpa only [Option.map_map, Function.comp_def] using congrArg (Option.map Prod.snd) hcall
    simp only [LoopEvent.toWindows, Machine.translate_cons, Machine.translate_nil, List.append_nil,
      loopEvents, Windows.loopEvents, h.reading, h.pos]
    split_ifs
    · rw [haccepted]
      cases (Windows.GetMotorRS23233f fuel port sbuf t.globals t.pos t.calls).map
          Windows.CallResult.accepted with
      | none => rfl
      | some p => cases p <;> rfl
    · rfl

/-- **A step keeps the turns the same.** -/
lemma SameTurn.turn_next (hp : port.InTime) (h : SameTurn R s t) (e : LoopEvent) :
    ((serialLoop longBits (streamPort port.bytes)).next s e).pos =
        ((Windows.serialLoop port).run t e.toWindows).pos ∧
      ((serialLoop longBits (streamPort port.bytes)).next s e).reading =
        ((Windows.serialLoop port).run t e.toWindows).reading := by
  cases e with
  | thread e =>
    rw [LoopEvent.toWindows]
    cases he : e.ofSerialThread with
    | true =>
      simp only [Machine.next, serialLoop, he, if_true]
      exact ⟨h.pos, h.reading⟩
    | false =>
      simp only [Machine.next, serialLoop, he, Bool.false_eq_true, if_false]
      have hrun := @run_thread port t (toWindows e)
      exact ⟨h.pos.trans hrun.1.symm, h.reading.trans hrun.2.symm⟩
  | write =>
    simp only [LoopEvent.toWindows, Machine.run_cons, Machine.run_nil, Machine.next, serialLoop,
      Windows.serialLoop, h.reading]
    split_ifs
    · exact ⟨h.pos, h.reading⟩
    · exact ⟨h.pos, rfl⟩
  | read fuel sbuf =>
    have hcall := Windows.GetMotorRS23233f_eq h.hUSB1 hp fuel sbuf s.globals.toTelemetry t.globals
      t.pos t.calls
    simp only [LoopEvent.toWindows, Machine.run_cons, Machine.run_nil, Machine.next, serialLoop,
      Windows.serialLoop, h.reading, h.pos]
    split_ifs
    · cases hraw : GetRS232Motor33f fuel s.globals.hUSB1 (streamPort port.bytes) sbuf
          s.globals.toTelemetry t.pos with
      | none =>
        rw [hraw, Option.map_none] at hcall
        rw [Option.map_eq_none_iff.mp hcall.symm]
        exact ⟨h.pos, h.reading⟩
      | some r =>
        rw [hraw, Option.map_some] at hcall
        obtain ⟨q, hq, heq⟩ := Option.map_eq_some_iff.mp hcall.symm
        rw [hq]
        exact ⟨(Prod.mk.inj heq).1.symm, rfl⟩
    · exact ⟨h.pos, h.reading⟩

/-- The steps of the serial thread and, if they are as `D` wants, those of the others. -/
def Meets (D : Event → Prop) (e : LoopEvent) : Prop := ∀ d, e = .thread d → D d

variable {D : Event → Prop}

/-- What a step is for the server is as `D` wants. -/
lemma Meets.along (hD : ∀ e : Event, e.ofSerialThread = true → D e) {rawPort : Port} {e : LoopEvent}
    (he : Meets D e) :
    (server longBits).Along (fun _ d => D d) s.globals (loopEvents rawPort s e) := by
  refine (server longBits).along_event_iff.mpr fun d hd => ?_
  cases e with
  | thread e =>
    rw [loopEvents] at hd
    split_ifs at hd
    · cases hd
    · obtain rfl := List.mem_singleton.mp hd
      exact he _ rfl
  | write =>
    rw [loopEvents] at hd
    split_ifs at hd
    · cases hd
    · obtain rfl := List.mem_singleton.mp hd
      exact hD _ rfl
  | read fuel sbuf =>
    rw [loopEvents, acceptedEvents] at hd
    split_ifs at hd
    · cases hacc : (GetRS232Motor33f fuel s.globals.hUSB1 rawPort sbuf s.globals.toTelemetry
          s.pos).map CallResult.accepted with
      | none => simp [hacc] at hd
      | some p =>
        rw [hacc, Option.elim_some] at hd
        obtain ⟨q, -, rfl⟩ := List.mem_map.mp hd
        exact hD _ rfl
    · cases hd

/-- **The loop on Windows follows the loop of the raw server** wherever its server follows. -/
lemma follows_loop (hp : port.InTime) (hD : ∀ e : Event, e.ofSerialThread = true → D e)
    (hR : (server longBits).Follows Windows.server (fun _ e => D e) R fun _ e => toWindows e) :
    (serialLoop longBits (streamPort port.bytes)).Follows (Windows.serialLoop port)
      (fun _ e => Meets D e) (SameTurn R) (fun _ e => e.toWindows) := by
  intro s t e he h
  obtain ⟨hpos, hreading⟩ := h.turn_next hp e
  refine ⟨?_, ?_, hpos, hreading⟩
  · rw [loop_globals_next, Machine.run_of_refines (g := Windows.LoopState.globals)
      (Windows.loop_globals_next port), h.translate hp,
      ← (server longBits).translate_eq_flatMap toWindows s.globals]
    exact hR.run h.globals (he.along hD)
  · rw [loop_globals_next, hUSB1_run]
    exact h.hUSB1

/-- **The two loops show an observer the same** wherever their servers do. -/
lemma answers_loop {κ : Type*} {v : Output → Option κ} {w : Windows.Output → Option κ}
    (hp : port.InTime) (hD : ∀ e : Event, e.ofSerialThread = true → D e)
    (hR : (server longBits).Follows Windows.server (fun _ e => D e) R fun _ e => toWindows e)
    (hv : (server longBits).Answers Windows.server (fun _ e => D e) R
      (fun _ e => toWindows e) v w) :
    (serialLoop longBits (streamPort port.bytes)).Answers (Windows.serialLoop port)
      (fun _ e => Meets D e) (SameTurn R) (fun _ e => e.toWindows) v w := by
  intro s t e he h
  rw [loop_emit, Machine.outputs_of_refines (g := Windows.LoopState.globals)
    (Windows.loop_globals_next port) (Windows.loop_emit port), h.translate hp,
    ← (server longBits).translate_eq_flatMap toWindows s.globals]
  exact hR.outputs hv h.globals (he.along hD)

end Turns

/-- The steps of the serial thread are no `recv` and no request. -/
lemma bringsByte_of_ofSerialThread {e : Event} (he : e.ofSerialThread = true) : BringsByte e := by
  intro r hr
  subst hr
  cases he

/-- **The serial threads agree.** Let the same bytes come from the robot to both servers, in time on
Windows. Take any run of the raw server, started with `debug` 0 and with a serial handle, in which
no `recv` is without a byte, and the same steps on Windows, where the threads run in the same order.
Then both have taken as many bytes from the port and are at the same turn, and the frames on the COM
port are those of the raw server with bit `0` of their flag byte set; and if there is no telemetry
request, the TCP client gets the same answers.

**Proof sketch.** The decoders take the same bytes and accept the same payloads, so that the two
loops take the same turns. What a step means for the raw server is then what it means for the one on
Windows, and those two follow each other. -/
theorem serial_threads_agree {hUSB1 : ℤ} (husb : hUSB1 ≠ 0) {port : Windows.ComPort}
    (hp : port.InTime) {es : List LoopEvent} (hes : ∀ e, .thread e ∈ es → BringsByte e) :
    let raw := serialLoop longBits (streamPort port.bytes)
    let windows := Windows.serialLoop port
    let s := raw.run (LoopState.start 0 hUSB1) es
    let t := windows.run Windows.LoopState.start (es.flatMap LoopEvent.toWindows)
    let sent := raw.outputs (LoopState.start 0 hUSB1) es
    let sent' := windows.outputs Windows.LoopState.start (es.flatMap LoopEvent.toWindows)
    (s.pos = t.pos ∧ s.reading = t.reading) ∧
      sent.filterMap Output.flaggedFrame = sent'.filterMap Windows.Output.toSerial ∧
      ((∀ e, .thread e ∈ es → notRequest e = true) →
        sent.filterMap Output.toTcp = sent'.filterMap Windows.Output.toTcp) := by
  intro raw windows s t sent sent'
  have hstart {R : State longBits → Windows.State → Prop}
      (hR : R (.start 0 hUSB1) Windows.State.start) :
      SameTurn R (LoopState.start 0 hUSB1) Windows.LoopState.start := ⟨hR, husb, rfl, rfl⟩
  have hmotors : raw.Along (fun _ e => Meets BringsByte e) (LoopState.start 0 hUSB1) es :=
    raw.along_event_iff.mpr fun e he d hd => hes d (hd ▸ he)
  have hbyte (e : Event) := bringsByte_of_ofSerialThread (e := e)
  have hturn : SameTurn SameMotors s t := by
    have hrun := (follows_loop hp hbyte follows_motors).run (hstart (sameMotors_start husb)) hmotors
    rwa [raw.translate_eq_flatMap] at hrun
  refine ⟨⟨hturn.pos, hturn.reading⟩, ?_, fun hquiet => ?_⟩
  · have hframes := (follows_loop hp hbyte follows_motors).outputs
      (answers_loop hp hbyte follows_motors answers_motors) (hstart (sameMotors_start husb)) hmotors
    rwa [raw.translate_eq_flatMap] at hframes
  · have hD (e : Event) (he : e.ofSerialThread = true) : BringsByte e ∧ notRequest e = true :=
      ⟨hbyte e he, by cases e <;> first | rfl | cases he⟩
    have hmeets : raw.Along (fun _ e => Meets (fun d => BringsByte d ∧ notRequest d = true) e)
        (LoopState.start 0 hUSB1) es :=
      raw.along_event_iff.mpr fun e he d hd => ⟨hes d (hd ▸ he), hquiet d (hd ▸ he)⟩
    have hanswers := (follows_loop hp hD follows_telemetry).outputs
      (answers_loop hp hD follows_telemetry answers_telemetry) (hstart ⟨rfl, rfl⟩) hmeets
    rwa [raw.translate_eq_flatMap] at hanswers

/-- A robot that sends the frame of a robot at rest over and over. -/
def restingLine : Windows.ComPort where
  bytes i := (255 :: restPayload.toList).getD (i % 22) 0
  inTime _ := 21

/-- Two turns with a command between them. -/
theorem serial_threads_agree_restingLine :
    let es : List LoopEvent := [.write, .read 30 (Vector.replicate 30 0),
      .thread (.tcpRecv (.data [0xFF, 0x07, 0x78, 0x00, 0x78, 0x00, 0xA0, 0x21, 0xC7])), .write,
      .read 30 (Vector.replicate 30 0)]
    let raw := serialLoop 32 (streamPort restingLine.bytes)
    let windows := Windows.serialLoop restingLine
    let s := raw.run (LoopState.start 0 3) es
    let t := windows.run Windows.LoopState.start (es.flatMap LoopEvent.toWindows)
    let sent := raw.outputs (LoopState.start 0 3) es
    let sent' := windows.outputs Windows.LoopState.start (es.flatMap LoopEvent.toWindows)
    (s.pos = t.pos ∧ s.reading = t.reading) ∧
      sent.filterMap Output.flaggedFrame = sent'.filterMap Windows.Output.toSerial ∧
      ((∀ e, .thread e ∈ es → notRequest e = true) →
        sent.filterMap Output.toTcp = sent'.filterMap Windows.Output.toTcp) :=
  serial_threads_agree (by decide) (fun _ => le_rfl) fun e he r hr => by
    subst hr
    simp only [List.mem_cons, List.not_mem_nil, or_false, LoopEvent.thread.injEq,
      Event.tcpRecv.injEq, reduceCtorEq, false_or] at he
    subst he
    decide

end Wifibot
