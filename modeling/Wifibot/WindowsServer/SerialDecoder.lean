import Wifibot.RawServer.FailedReads
import Wifibot.WindowsServer.Server

set_option relaxedAutoImplicit false
set_option autoImplicit false

/-!
# The serial decoder of the Windows server

`GetMotorRS23233f` of `www/wifibot/robot_server/testlab/wifibot.cpp`. `ReadFile` waits for the bytes
that it is asked for, but not longer than its timeouts, and then gives what has come. The scans go
on until a `0xFF` is in the first cell, whatever `ReadFile` gave.

The call's return value is not used by its caller and is left out.

## Main definitions

* `Wifibot.Windows.ComPort`, `Wifibot.Windows.ReadFile` — the port and the library call.
* `Wifibot.Windows.GetMotorRS23233f` — the source's function.

## Main results

* `Wifibot.Windows.GetMotorRS23233f_eq` — on bytes that come in time it reads and decodes as the raw
  server's decoder does on the same bytes.
-/

namespace Wifibot.Windows

/-- A port: the bytes that come, and how many of them come in time for each call of `ReadFile`. -/
structure ComPort where
  bytes : ℕ → Byte
  inTime : ℕ → ℕ

/-- The local buffer of a call, its byte count, and the bytes taken from the port and the calls of
`ReadFile` made so far. -/
structure ComState where
  sbuf : Vector Byte 30
  n : ℕ
  pos : ℕ
  calls : ℕ

/-- `ReadFile(hUSB, &sbuf, nNumberOfBytesToRead, &n, NULL)`. -/
def ReadFile (port : ComPort) (st : ComState) (nNumberOfBytesToRead : ℕ) : ComState :=
  let n := min nNumberOfBytesToRead (port.inTime st.calls)
  { sbuf := st.sbuf.overlay (segment port.bytes st.pos n)
    n := n
    pos := st.pos + n
    calls := st.calls + 1 }

/-- A `do … while (sbuf[0] != 255)` scan for a header. -/
def syncLoop (port : ComPort) : ℕ → ComState → Option ComState
  | 0, _ => none
  | fuel + 1, st =>
    let st := ReadFile port st 1
    if st.sbuf[0]! ≠ 255 then syncLoop port fuel st else some st

/-- A returned call: the globals, the bytes taken, the calls of `ReadFile`, and (not part of the
source) the payload the call decoded. -/
structure CallResult where
  globals : State
  pos : ℕ
  calls : ℕ
  accepted : Option Payload

/-- `GetMotorRS23233f`, started with the local buffer `sbuf` as the stack left it. -/
def GetMotorRS23233f (fuel : ℕ) (port : ComPort) (sbuf : Vector Byte 30) (s : State)
    (pos calls : ℕ) : Option CallResult :=
  (syncLoop port fuel { sbuf := sbuf, n := 0, pos := pos, calls := calls }).bind fun st =>
    let st := ReadFile port st 21
    if leShort st.sbuf[19]! st.sbuf[20]! ≠ Crc16 st.sbuf.toList 19 then
      (syncLoop port fuel st).map fun st =>
        { globals := s, pos := st.pos, calls := st.calls, accepted := none }
    else
      some { globals := decodePayload s (payloadOf st.sbuf), pos := st.pos, calls := st.calls,
             accepted := some (payloadOf st.sbuf) }

/-- **What a returned call did** is, for the server, the step of the payload it decoded, or no step
at all. -/
lemma run_robot_of_returned {fuel : ℕ} {port : ComPort} {sbuf : Vector Byte 30} {s : State}
    {pos calls : ℕ} {r : CallResult} (h : GetMotorRS23233f fuel port sbuf s pos calls = some r) :
    server.run s (r.accepted.toList.map Event.robot) = r.globals := by
  simp only [GetMotorRS23233f, Option.bind_eq_some_iff] at h
  obtain ⟨st, -, h⟩ := h
  split_ifs at h with htest
  · obtain ⟨-, -, rfl⟩ := Option.map_eq_some_iff.mp h
    rfl
  · obtain rfl := Option.some.inj h
    have hok : payloadOk (payloadOf (ReadFile port st 21).sbuf) = true :=
      (payloadOk_payloadOf _).mpr (not_not.mp htest)
    simp [Machine.next, server, robotPayload, hok]

/-! ## Bytes that come in time -/

/-- Every call of `ReadFile` that the decoder makes is given what it asks for. -/
def ComPort.InTime (port : ComPort) : Prop := ∀ k, 21 ≤ port.inTime k

section InTime

variable {port : ComPort} {hUSB : ℤ}

/-- A read that is in time. -/
lemma ReadFile_of_inTime (hp : port.InTime) (st : ComState) {k : ℕ} (hk : k ≤ 21) :
    ReadFile port st k =
      { sbuf := st.sbuf.overlay (segment port.bytes st.pos k), n := k, pos := st.pos + k,
        calls := st.calls + 1 } := by
  have hmin : min k (port.inTime st.calls) = k := Nat.min_eq_left (hk.trans (hp _))
  rw [ReadFile, hmin]

/-- One byte over the first cell. -/
lemma overlay_segment_one (sbuf : Vector Byte 30) (f : ℕ → Byte) (pos : ℕ) :
    sbuf.overlay (segment f pos 1) = sbuf.setIfInBounds 0 (f pos) := by
  ext i hi
  rw [Vector.getElem_overlay]
  cases i with
  | zero => simp [segment]
  | succ i => simp [segment]

/-- **The scans of the two servers** do the same on the same bytes. -/
lemma syncLoop_eq (hh : hUSB ≠ 0) (hp : port.InTime) (fuel : ℕ) {st : Wifibot.ReadState}
    {t : ComState} (hbuf : st.sbuf = t.sbuf) (hpos : st.pos = t.pos) :
    (Wifibot.syncLoop hUSB (streamPort port.bytes) fuel st).map (fun x => (x.2.sbuf, x.2.pos)) =
      (syncLoop port fuel t).map fun y => (y.sbuf, y.pos) := by
  induction fuel generalizing st t with
  | zero => rfl
  | succ fuel ih =>
    have hbyte : streamPort port.bytes st.pos = some (.byte (port.bytes t.pos)) := by
      rw [streamPort, hpos]
    rw [syncLoop_scanned hh hbyte, syncLoop, ReadFile_of_inTime hp t (by decide),
      Port.cellAfter_of_byte hbyte]
    dsimp only
    have hscan : (st.scanned (streamPort port.bytes) (.byte (port.bytes t.pos))).sbuf =
        t.sbuf.overlay (segment port.bytes t.pos 1) := by
      rw [overlay_segment_one, ReadState.scanned, Port.cellAfter_of_byte hbyte, hbuf]
    have hcell : (t.sbuf.overlay (segment port.bytes t.pos 1))[0]! = port.bytes t.pos := by
      simp [overlay_segment_one]
    have hnext : (st.scanned (streamPort port.bytes) (.byte (port.bytes t.pos))).pos =
        t.pos + 1 := by
      rw [ReadState.scanned, hpos]
    rw [hcell]
    by_cases hc : port.bytes t.pos = 255
    · rw [if_pos hc, if_neg (not_not.mpr hc)]
      simp only [Option.map_some, hscan, hnext]
    · rw [if_neg hc, if_pos hc]
      exact ih hscan hnext

/-- The reads of 21 bytes do the same. -/
lemma readrs232_eq (hh : hUSB ≠ 0) (hp : port.InTime) {st : Wifibot.ReadState} {t : ComState}
    (hbuf : st.sbuf = t.sbuf) (hpos : st.pos = t.pos) :
    ∃ st', readrs232 hUSB (streamPort port.bytes) st 21 = some (1, st') ∧
      st'.sbuf = (ReadFile port t 21).sbuf ∧ st'.pos = (ReadFile port t 21).pos := by
  have hdel : (streamPort port.bytes).Delivers st.pos (segment port.bytes st.pos 21) :=
    streamPort_delivers _ _ _
  obtain ⟨st', hread, hpos', hcell⟩ := readrs232_of_delivers hh st hdel
  rw [length_segment] at hread hpos'
  refine ⟨st', hread, ?_, ?_⟩
  · rw [ReadFile_of_inTime hp t le_rfl]
    ext i hi
    rw [hcell i hi, Vector.getElem_overlay, hpos]
    simp only [hbuf]
  · rw [ReadFile_of_inTime hp t le_rfl, hpos', hpos]

/-- **The decoders of the two servers** take the same bytes and decode the same payload. -/
lemma GetMotorRS23233f_eq {longBits : ℕ} (hh : hUSB ≠ 0) (hp : port.InTime) (fuel : ℕ)
    (sbuf : Vector Byte 30) (data : Telemetry longBits) (s : State) (pos calls : ℕ) :
    (GetRS232Motor33f fuel hUSB (streamPort port.bytes) sbuf data pos).map
        (fun r => (r.pos, r.accepted)) =
      (GetMotorRS23233f fuel port sbuf s pos calls).map fun r => (r.pos, r.accepted) := by
  let st : Wifibot.ReadState := { sbuf := sbuf, n := 0, pos := pos }
  let t : ComState := { sbuf := sbuf, n := 0, pos := pos, calls := calls }
  have hscan := syncLoop_eq hh hp fuel (show st.sbuf = t.sbuf from rfl) rfl
  rw [GetRS232Motor33f, GetMotorRS23233f]
  cases hraw : Wifibot.syncLoop hUSB (streamPort port.bytes) fuel
      { sbuf := sbuf, n := 0, pos := pos } with
  | none =>
    rw [hraw, Option.map_none] at hscan
    rw [Option.map_eq_none_iff.mp hscan.symm]
    rfl
  | some x =>
    obtain ⟨r, st⟩ := x
    obtain rfl : r = 1 := (syncLoop_eq_some hh hraw).1
    rw [hraw, Option.map_some] at hscan
    obtain ⟨t, ht, heq⟩ := Option.map_eq_some_iff.mp hscan.symm
    obtain ⟨hbuf, hpos⟩ := Prod.mk.inj heq
    obtain ⟨st', hread, hbuf', hpos'⟩ := readrs232_eq hh hp hbuf.symm hpos.symm
    rw [ht]
    simp only [Option.bind_some, ne_eq, one_ne_zero, not_false_eq_true, if_true, hread,
      Option.map_some, hbuf']
    by_cases htest : leShort (ReadFile port t 21).sbuf[19]! (ReadFile port t 21).sbuf[20]! =
        crc16 (ReadFile port t 21).sbuf.toList 19
    · have htest' : leShort (ReadFile port t 21).sbuf[19]! (ReadFile port t 21).sbuf[20]! =
          Crc16 (ReadFile port t 21).sbuf.toList 19 := htest
      rw [if_neg (not_not.mpr htest), if_neg (not_not.mpr htest'), Option.map_some, Option.map_some,
        hpos']
    · have htest' : ¬ leShort (ReadFile port t 21).sbuf[19]! (ReadFile port t 21).sbuf[20]! =
          Crc16 (ReadFile port t 21).sbuf.toList 19 := htest
      have hscan' := syncLoop_eq hh hp fuel hbuf' hpos'
      have hmap := congrArg
        (Option.map fun y : Vector Byte 30 × ℕ => (y.2, (none : Option Payload)))
        hscan'
      rw [if_pos htest, if_pos htest']
      simpa only [Option.map_map, Function.comp_def] using hmap

end InTime

end Wifibot.Windows
