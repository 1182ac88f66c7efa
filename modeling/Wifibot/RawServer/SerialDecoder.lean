import Wifibot.Crc16
import Wifibot.Library.Overlay

set_option relaxedAutoImplicit false
set_option autoImplicit false

/-!
# The serial decoder of the raw server

`readrs232` and `GetRS232Motor33f` of `raw_server/simple_server_main.c`. The robot sends frames of
a header byte `0xFF` and a payload of 21 bytes, the last two the checksum of the first nineteen.
The decoder reads single bytes: it scans for a header, reads 21 bytes, and either decodes them or,
if the checksum is wrong, scans for a further `0xFF` before it returns.

A port is the sequence of results of successive one-byte reads; a read that never returns ends
it. The two scans are bounded by fuel, one unit a turn. `none` means that the call has not
returned, because a read blocks or a scan is still going.

Here and in the servers a cell of a buffer is read with `[i]!` and written with `set!`; every index
of the source is inside its buffer.

## Main definitions

* `Wifibot.Port`, `Wifibot.ReadResult` — what the reads of one byte give.
* `Wifibot.readrs232`, `Wifibot.GetRS232Motor33f` — the source's functions.
* `Wifibot.decodePayload` — the fields the source extracts from an accepted payload.

## Main results

* `Wifibot.GetRS232Motor33f_accept`, `Wifibot.GetRS232Motor33f_reject` — what a call does on a
  port whose reads succeed, by the bytes it meets.
-/

namespace Wifibot

/-- The result of `read(hUSB, buffer + kk, 1)`: a byte, end of file, or an error. -/
inductive ReadResult
  | byte (b : Byte)
  | eof
  | error
  deriving DecidableEq

/-- What `read` returns, as it is added to an `unsigned int`. -/
def ReadResult.ret : ReadResult → BitVec 32
  | .byte _ => 1
  | .eof => 0
  | .error => -1

/-- The results of successive one-byte reads; `none` for a read that never returns. -/
abbrev Port := ℕ → Option ReadResult

/-- The local buffer of a call, its byte count, and the number of reads made on the port. -/
structure ReadState where
  sbuf : Vector Byte 30
  n : BitVec 32
  pos : ℕ

/-- `*lpNumberOfBytesRead += read(hUSB, buffer + kk, 1)`. -/
def ReadState.read (port : Port) (st : ReadState) (kk : ℕ) : Option ReadState :=
  (port st.pos).map fun r =>
    { sbuf := match r with
        | .byte b => st.sbuf.setIfInBounds kk b
        | _ => st.sbuf
      n := st.n + r.ret
      pos := st.pos + 1 }

/-- The loop of `readrs232`: the bytes still to read, and `kk`. -/
def readLoop (port : Port) : ℕ → ℕ → ReadState → Option ReadState
  | 0, _, st => some st
  | k + 1, kk, st => (st.read port kk).bind (readLoop port k (kk + 1))

/-- `readrs232`: without a handle it returns `-1` and touches nothing; otherwise its status is the
comparison of an unsigned number with zero. -/
def readrs232 (hUSB : ℤ) (port : Port) (st : ReadState) (nNumberOfBytesToRead : ℕ) :
    Option (ℤ × ReadState) :=
  if hUSB = 0 then some (-1, st)
  else (readLoop port nNumberOfBytesToRead 0 { st with n := 0 }).map fun st =>
    (if nNumberOfBytesToRead ≥ 0 then 1 else 0, st)

/-- A `do … while (sbuf[0]! != 255 && r)` scan for a header. -/
def syncLoop (hUSB : ℤ) (port : Port) : ℕ → ReadState → Option (ℤ × ReadState)
  | 0, _ => none
  | fuel + 1, st => (readrs232 hUSB port st 1).bind fun (r, st) =>
    if st.sbuf[0]! ≠ 255 ∧ r ≠ 0 then syncLoop hUSB port fuel st else some (r, st)

/-- `SensorData`; a C `long` has `longBits` bits. -/
structure SensorData (longBits : ℕ) where
  SpeedFront : ℤ
  robot_voltage : ℤ
  IR : ℤ
  IR2 : ℤ
  odometry : BitVec longBits
  robot_current : ℤ
  robot_version : ℤ
  deriving DecidableEq

/-- What the decoder writes: `dataL`, `dataR` and `buffso_Raw_Data_Out`. -/
structure Telemetry (longBits : ℕ) where
  dataL : SensorData longBits
  dataR : SensorData longBits
  buffso_Raw_Data_Out : Vector Byte 21
  deriving DecidableEq

/-- All fields zero. -/
def SensorData.zero {longBits : ℕ} : SensorData longBits := ⟨0, 0, 0, 0, 0, 0, 0⟩

/-- The telemetry of a server that has not decoded anything yet. -/
def Telemetry.zero {longBits : ℕ} : Telemetry longBits :=
  ⟨SensorData.zero, SensorData.zero, Vector.replicate 21 0⟩

/-- The 21 bytes after a header. -/
abbrev Payload := Vector Byte 21

/-- A byte as a C integer. -/
def Byte.int (b : Byte) : ℤ := b.toNat

/-- A `SpeedFront`: a little-endian pair of bytes, less `65536` above `32767`. -/
def speedOf (lo hi : Byte) : ℤ :=
  let SpeedFront := (hi.toNat <<< 8 : ℕ) + Byte.int lo
  if SpeedFront > 32767 then SpeedFront - 65536 else SpeedFront

/-- An `odometry`: four bytes shifted and added in `long` arithmetic. -/
def odometryOf (longBits : ℕ) (b₃ b₂ b₁ b₀ : Byte) : BitVec longBits :=
  (b₃.setWidth longBits <<< 24) + (b₂.setWidth longBits <<< 16) + (b₁.setWidth longBits <<< 8) +
    b₀.setWidth longBits

/-- The accepting branch of `GetRS232Motor33f`, for the first 21 bytes of `sbuf`. The voltage of
the right wheel is taken from byte `1`. -/
def decodePayload (longBits : ℕ) (sbuf : Payload) : Telemetry longBits where
  dataL :=
    { SpeedFront := speedOf sbuf[0]! sbuf[1]!
      robot_voltage := Byte.int sbuf[2]!
      IR := Byte.int sbuf[3]!
      IR2 := Byte.int sbuf[4]!
      odometry := odometryOf longBits sbuf[8]! sbuf[7]! sbuf[6]! sbuf[5]!
      robot_current := Byte.int sbuf[17]!
      robot_version := Byte.int sbuf[18]! }
  dataR :=
    { SpeedFront := speedOf sbuf[9]! sbuf[10]!
      robot_voltage := Byte.int sbuf[1]!
      IR := Byte.int sbuf[11]!
      IR2 := Byte.int sbuf[12]!
      odometry := odometryOf longBits sbuf[16]! sbuf[15]! sbuf[14]! sbuf[13]!
      robot_current := Byte.int sbuf[17]!
      robot_version := Byte.int sbuf[18]! }
  buffso_Raw_Data_Out := sbuf

/-- The first 21 bytes of the local buffer. -/
def payloadOf (sbuf : Vector Byte 30) : Payload :=
  Vector.ofFn fun i => sbuf[i.val]!

/-- The test on a payload: bytes `19` and `20` are the checksum of bytes `0` to `18`. -/
def payloadOk (p : Payload) : Bool := crcTest p.toList 19

/-- The test on a payload, cell by cell. -/
lemma payloadOk_iff (p : Payload) :
    payloadOk p = true ↔ leShort p[19]! p[20]! = crc16 p.toList 19 := by
  simp [payloadOk, crcTest]

/-- A payload with the right checksum: nineteen zero bytes. -/
def restPayload : Payload :=
  #v[0, 0, 0, 0, 0, 0, 0, 0, 0, 0, 0, 0, 0, 0, 0, 0, 0, 0, 0, 0x24, 0x24]

lemma payloadOk_restPayload : payloadOk restPayload = true := by decide +kernel

/-- Zero bytes are not accepted. -/
lemma payloadOk_zero : payloadOk (Vector.replicate 21 0) = false := by decide +kernel

/-- The test that a call makes on its local buffer is that of the payload in it. -/
lemma payloadOk_payloadOf (sbuf : Vector Byte 30) :
    payloadOk (payloadOf sbuf) = true ↔ leShort sbuf[19]! sbuf[20]! = crc16 sbuf.toList 19 := by
  have htake : (payloadOf sbuf).toList.take 19 = sbuf.toList.take 19 := by
    apply List.ext_getElem
    · simp
    · intro i h₁ h₂
      have hi : i < 30 := by
        simp only [List.length_take, Vector.length_toList] at h₂
        omega
      simp [payloadOf, hi]
  have hcrc : crc16 (payloadOf sbuf).toList 19 = crc16 sbuf.toList 19 := crc16_congr htake
  rw [payloadOk_iff, hcrc]
  simp [payloadOf]

/-- A returned call: the telemetry, the reads made, and (not part of the source) the payload the
call decoded. -/
structure CallResult (longBits : ℕ) where
  telemetry : Telemetry longBits
  pos : ℕ
  accepted : Option Payload

/-- `GetRS232Motor33f`, started with the local buffer `sbuf` as the stack left it. The source
always returns `0`. -/
def GetRS232Motor33f {longBits : ℕ} (fuel : ℕ) (hUSB : ℤ) (port : Port) (sbuf : Vector Byte 30)
    (data : Telemetry longBits) (pos : ℕ) : Option (CallResult longBits) :=
  (syncLoop hUSB port fuel { sbuf := sbuf, n := 0, pos := pos }).bind fun (r, st) =>
  (if r ≠ 0 then (readrs232 hUSB port st 21).map Prod.snd else some st).bind fun st =>
    if leShort st.sbuf[19]! st.sbuf[20]! ≠ crc16 st.sbuf.toList 19 then
      (syncLoop hUSB port fuel st).map fun (_, st) =>
        { telemetry := data, pos := st.pos, accepted := none }
    else
      some { telemetry := decodePayload longBits (payloadOf st.sbuf), pos := st.pos,
             accepted := some (payloadOf st.sbuf) }

/-- **What a returned call did**: it decoded a payload with the right checksum, or it left the
telemetry as it was. -/
lemma GetRS232Motor33f_returned {longBits : ℕ} {fuel : ℕ} {hUSB : ℤ} {port : Port}
    {sbuf : Vector Byte 30} {data : Telemetry longBits} {pos : ℕ} {r : CallResult longBits}
    (h : GetRS232Motor33f fuel hUSB port sbuf data pos = some r) :
    (r.accepted = none ∧ r.telemetry = data) ∨
      ∃ p, r.accepted = some p ∧ payloadOk p = true ∧ r.telemetry = decodePayload longBits p := by
  simp only [GetRS232Motor33f, Option.bind_eq_some_iff] at h
  obtain ⟨-, -, st, -, h⟩ := h
  split_ifs at h with htest
  · obtain ⟨-, -, rfl⟩ := Option.map_eq_some_iff.mp h
    exact Or.inl ⟨rfl, rfl⟩
  · obtain rfl := Option.some.inj h
    exact Or.inr ⟨_, rfl, (payloadOk_payloadOf _).mpr (not_not.mp htest), rfl⟩

/-! ## Reads that succeed -/

/-- The port delivers the bytes `l` from the read number `pos` on. -/
def Port.Delivers (port : Port) (pos : ℕ) (l : List Byte) : Prop :=
  ∀ i b, l[i]? = some b → port (pos + i) = some (.byte b)

/-- Delivering a byte and more. -/
lemma Port.delivers_cons {port : Port} {pos : ℕ} {b : Byte} {l : List Byte} :
    port.Delivers pos (b :: l) ↔ port pos = some (.byte b) ∧ port.Delivers (pos + 1) l := by
  constructor
  · intro h
    refine ⟨h 0 b rfl, fun i c hc => ?_⟩
    rw [Nat.add_assoc, Nat.add_comm 1 i]
    exact h (i + 1) c hc
  · rintro ⟨hb, hl⟩ i c hc
    cases i with
    | zero =>
      obtain rfl : b = c := by simpa using hc
      exact hb
    | succ i =>
      rw [Nat.add_comm i 1, ← Nat.add_assoc]
      exact hl i c hc

/-- Delivering two parts. -/
lemma Port.delivers_append {port : Port} {pos : ℕ} {l m : List Byte} :
    port.Delivers pos (l ++ m) ↔ port.Delivers pos l ∧ port.Delivers (pos + l.length) m := by
  induction l generalizing pos with
  | nil => simp [Port.Delivers]
  | cons b l ih =>
    rw [List.cons_append, Port.delivers_cons, Port.delivers_cons, ih, and_assoc, Nat.add_assoc,
      List.length_cons, Nat.add_comm 1]

/-- Reading `l` into the buffer from `kk` on. -/
lemma readLoop_of_delivers {port : Port} {l : List Byte} (kk : ℕ) (st : ReadState)
    (h : port.Delivers st.pos l) :
    ∃ st', readLoop port l.length kk st = some st' ∧ st'.pos = st.pos + l.length ∧
      ∀ i (hi : i < 30),
        st'.sbuf[i] = if kk ≤ i then l.getD (i - kk) st.sbuf[i] else st.sbuf[i] := by
  induction l generalizing kk st with
  | nil => exact ⟨st, rfl, rfl, fun i hi => by simp⟩
  | cons b l ih =>
    rw [Port.delivers_cons] at h
    set st₁ : ReadState := { sbuf := st.sbuf.setIfInBounds kk b, n := st.n + 1, pos := st.pos + 1 }
      with hst₁
    have hread : st.read port kk = some st₁ := by
      rw [ReadState.read, h.1]
      rfl
    obtain ⟨st', hloop, hpos, hsbuf⟩ := ih (kk + 1) st₁ h.2
    refine ⟨st', ?_, ?_, fun i hi => ?_⟩
    · rw [List.length_cons, readLoop, hread]
      exact hloop
    · rw [hpos, List.length_cons]
      change st.pos + 1 + l.length = _
      omega
    · rw [hsbuf i hi]
      rcases Nat.lt_trichotomy i kk with hik | rfl | hik
      · rw [if_neg (by omega), if_neg (by omega)]
        exact Vector.getElem_setIfInBounds_ne hi (by omega)
      · simp [hst₁]
      · obtain ⟨j, rfl⟩ : ∃ j, i = kk + 1 + j := ⟨i - (kk + 1), by omega⟩
        rw [if_pos (by omega), if_pos (by omega), show kk + 1 + j - (kk + 1) = j by omega,
          show kk + 1 + j - kk = j + 1 by omega, List.getD_cons_succ]
        congr 1
        exact Vector.getElem_setIfInBounds_ne hi (by omega)

/-- A read of `l.length` bytes that the port delivers succeeds and fills the buffer from its
start. -/
lemma readrs232_of_delivers {hUSB : ℤ} (hh : hUSB ≠ 0) {port : Port} {l : List Byte}
    (st : ReadState) (h : port.Delivers st.pos l) :
    ∃ st', readrs232 hUSB port st l.length = some (1, st') ∧ st'.pos = st.pos + l.length ∧
      ∀ i (hi : i < 30), st'.sbuf[i] = l.getD i st.sbuf[i] := by
  obtain ⟨st', hloop, hpos, hsbuf⟩ :=
    readLoop_of_delivers 0 { st with n := 0 } h
  refine ⟨st', ?_, hpos, fun i hi => by simpa using hsbuf i hi⟩
  rw [readrs232, if_neg hh, hloop]
  simp

/-- One turn of a scan on a byte. -/
lemma syncLoop_succ {hUSB : ℤ} (hh : hUSB ≠ 0) {port : Port} {st : ReadState} {b : Byte}
    (h : port st.pos = some (.byte b)) (fuel : ℕ) :
    ∃ st', st'.pos = st.pos + 1 ∧ st'.sbuf[0]! = b ∧
      syncLoop hUSB port (fuel + 1) st =
        if b ≠ 255 then syncLoop hUSB port fuel st' else some (1, st') := by
  have hdel : port.Delivers st.pos [b] := by
    rw [Port.delivers_cons]
    exact ⟨h, by simp [Port.Delivers]⟩
  obtain ⟨st', hread, hpos, hsbuf⟩ := readrs232_of_delivers hh st hdel
  have hb : st'.sbuf[0]! = b := by simpa using hsbuf 0 (by decide)
  refine ⟨st', hpos, hb, ?_⟩
  rw [syncLoop, show (1 : ℕ) = [b].length from rfl, hread, Option.bind_some]
  simp only [hb]
  simp

/-- **A scan** passes over the bytes `g` before a header and stops after the header, given fuel for
each of them.

**Proof sketch.** Induction on `g`, one turn of the scan a byte. -/
lemma syncLoop_of_delivers {hUSB : ℤ} (hh : hUSB ≠ 0) {port : Port} {g : List Byte}
    (hg : (255 : Byte) ∉ g) (st : ReadState) (h : port.Delivers st.pos (g ++ [255])) {fuel : ℕ}
    (hfuel : g.length < fuel) :
    ∃ st', syncLoop hUSB port fuel st = some (1, st') ∧ st'.pos = st.pos + g.length + 1 := by
  induction g generalizing st fuel with
  | nil =>
    obtain ⟨f, rfl⟩ : ∃ f, fuel = f + 1 := ⟨fuel - 1, by simp at hfuel; omega⟩
    obtain ⟨st', hpos, -, hsync⟩ := syncLoop_succ hh (Port.delivers_cons.mp h).1 f
    exact ⟨st', by simpa using hsync, by simpa using hpos⟩
  | cons b g ih =>
    obtain ⟨f, rfl⟩ : ∃ f, fuel = f + 1 := ⟨fuel - 1, by simp at hfuel; omega⟩
    rw [List.cons_append, Port.delivers_cons] at h
    obtain ⟨st', hpos, -, hsync⟩ := syncLoop_succ hh h.1 f
    have hb : b ≠ 255 := by
      rintro rfl
      simp at hg
    rw [← hpos] at h
    obtain ⟨st'', hst'', hpos'⟩ := ih (by simp_all) st' h.2 (by simp at hfuel; omega)
    refine ⟨st'', by rw [hsync, if_pos hb, hst''], ?_⟩
    rw [hpos', hpos, List.length_cons]
    omega

/-- A scan does not return while it meets no header and then a read that blocks. -/
lemma syncLoop_blocked {hUSB : ℤ} (hh : hUSB ≠ 0) {port : Port} {g : List Byte}
    (hg : (255 : Byte) ∉ g) (st : ReadState) (h : port.Delivers st.pos g)
    (hend : port (st.pos + g.length) = none) (fuel : ℕ) : syncLoop hUSB port fuel st = none := by
  induction fuel generalizing g st with
  | zero => rfl
  | succ fuel ih =>
    cases g with
    | nil =>
      rw [syncLoop, readrs232, if_neg hh, readLoop, ReadState.read,
        show port st.pos = none from hend]
      rfl
    | cons b g =>
      rw [Port.delivers_cons] at h
      obtain ⟨st', hpos, -, hsync⟩ := syncLoop_succ hh h.1 fuel
      have hb : b ≠ 255 := by
        rintro rfl
        simp at hg
      rw [hsync, if_pos hb]
      refine ih (g := g) (by simp_all) st' (by rw [hpos]; exact h.2) ?_
      rw [hpos, ← hend, List.length_cons]
      congr 1
      omega

/-! ## A call, by the bytes it meets -/

/-- A 21-byte read of a payload leaves the payload in the buffer, and the test is the payload's. -/
lemma readrs232_payload {hUSB : ℤ} (hh : hUSB ≠ 0) {port : Port} {p : Payload} {st : ReadState}
    (h : port.Delivers st.pos p.toList) :
    ∃ st', readrs232 hUSB port st 21 = some (1, st') ∧ st'.pos = st.pos + 21 ∧
      payloadOf st'.sbuf = p ∧
      (leShort st'.sbuf[19]! st'.sbuf[20]! = crc16 st'.sbuf.toList 19 ↔ payloadOk p = true) := by
  obtain ⟨st', hread, hpos, hsbuf⟩ := readrs232_of_delivers hh st h
  rw [Vector.length_toList] at hread hpos
  have hcell : ∀ i (hi : i < 21), st'.sbuf[i] = p[i] := by
    intro i hi
    rw [hsbuf i (by omega), List.getD_eq_getElem _ _ (by simpa using hi)]
    exact Vector.getElem_toList _
  have hpay : payloadOf st'.sbuf = p := by
    ext i hi
    rw [← hcell i hi]
    simp [payloadOf, show i < 30 by omega]
  exact ⟨st', hread, hpos, hpay, by rw [← hpay, payloadOk_payloadOf]⟩

variable {longBits : ℕ}

/-- A call whose scan and whose read of 21 bytes return comes to the test of its buffer. -/
lemma GetRS232Motor33f_read {fuel : ℕ} {hUSB : ℤ} {port : Port} {sbuf : Vector Byte 30} {pos : ℕ}
    {r r' : ℤ} {st st' : ReadState}
    (hsync : syncLoop hUSB port fuel { sbuf := sbuf, n := 0, pos := pos } = some (r, st))
    (hr : r ≠ 0) (hread : readrs232 hUSB port st 21 = some (r', st'))
    (data : Telemetry longBits) :
    GetRS232Motor33f fuel hUSB port sbuf data pos =
      if leShort st'.sbuf[19]! st'.sbuf[20]! ≠ crc16 st'.sbuf.toList 19 then
        (syncLoop hUSB port fuel st').map fun x =>
          { telemetry := data, pos := x.2.pos, accepted := none }
      else some { telemetry := decodePayload longBits (payloadOf st'.sbuf), pos := st'.pos,
                  accepted := some (payloadOf st'.sbuf) } := by
  rw [GetRS232Motor33f, hsync]
  simp only [Option.bind_some, ne_eq, hr, not_false_eq_true, ↓reduceIte, hread, Option.map_some]

/-- A call on garbage without a header, a header and a payload comes to the test of the payload. -/
lemma GetRS232Motor33f_payload {hUSB : ℤ} (hh : hUSB ≠ 0) {port : Port} {g : List Byte}
    (hg : (255 : Byte) ∉ g) {p : Payload} {pos : ℕ}
    (h : port.Delivers pos (g ++ 255 :: p.toList)) {fuel : ℕ} (hfuel : g.length < fuel)
    (sbuf : Vector Byte 30) (data : Telemetry longBits) :
    ∃ st, st.pos = pos + g.length + 22 ∧ GetRS232Motor33f fuel hUSB port sbuf data pos =
      if payloadOk p then
        some { telemetry := decodePayload longBits p, pos := st.pos, accepted := some p }
      else (syncLoop hUSB port fuel st).map fun r =>
        { telemetry := data, pos := r.2.pos, accepted := none } := by
  rw [List.append_cons, Port.delivers_append] at h
  obtain ⟨st₁, hsync, hpos₁⟩ :=
    syncLoop_of_delivers hh hg { sbuf := sbuf, n := 0, pos := pos } h.1 hfuel
  have hdel : port.Delivers st₁.pos p.toList := by
    rw [hpos₁]
    simpa [Nat.add_assoc] using h.2
  obtain ⟨st₂, hread, hpos₂, hpay, htest⟩ := readrs232_payload hh hdel
  refine ⟨st₂, by rw [hpos₂, hpos₁], ?_⟩
  rw [GetRS232Motor33f_read hsync one_ne_zero hread, hpay]
  by_cases hp : payloadOk p = true
  · rw [if_neg (not_not.mpr (htest.mpr hp)), if_pos hp]
  · rw [if_pos (mt htest.mp hp), if_neg hp]

/-- **A call that accepts**: garbage without a header, a header, and a payload whose checksum is
right. -/
lemma GetRS232Motor33f_accept {hUSB : ℤ} (hh : hUSB ≠ 0) {port : Port} {g : List Byte}
    (hg : (255 : Byte) ∉ g) {p : Payload} {pos : ℕ}
    (h : port.Delivers pos (g ++ 255 :: p.toList)) (hp : payloadOk p = true) {fuel : ℕ}
    (hfuel : g.length < fuel) (sbuf : Vector Byte 30) (data : Telemetry longBits) :
    GetRS232Motor33f fuel hUSB port sbuf data pos =
      some { telemetry := decodePayload longBits p, pos := pos + g.length + 22,
             accepted := some p } := by
  obtain ⟨st, hpos, hcall⟩ := GetRS232Motor33f_payload hh hg h hfuel sbuf data
  rw [hcall, if_pos hp, hpos]

/-- **A call that rejects**: the checksum is wrong, and the call goes on past the next `0xFF`. -/
lemma GetRS232Motor33f_reject {hUSB : ℤ} (hh : hUSB ≠ 0) {port : Port} {g g' : List Byte}
    (hg : (255 : Byte) ∉ g) (hg' : (255 : Byte) ∉ g') {p : Payload} {pos : ℕ}
    (h : port.Delivers pos (g ++ 255 :: p.toList))
    (h' : port.Delivers (pos + g.length + 22) (g' ++ [255])) (hp : payloadOk p = false) {fuel : ℕ}
    (hfuel : g.length < fuel) (hfuel' : g'.length < fuel) (sbuf : Vector Byte 30)
    (data : Telemetry longBits) :
    GetRS232Motor33f fuel hUSB port sbuf data pos =
      some { telemetry := data, pos := pos + g.length + 22 + g'.length + 1, accepted := none } := by
  obtain ⟨st, hpos, hcall⟩ := GetRS232Motor33f_payload hh hg h hfuel sbuf data
  obtain ⟨st', hsync, hpos'⟩ := syncLoop_of_delivers hh hg' st (hpos ▸ h') hfuel'
  rw [hcall, hp, hsync, ← hpos, ← hpos']
  rfl

/-- A call that rejects and meets no further `0xFF` before a read that blocks does not return. -/
lemma GetRS232Motor33f_reject_blocked {hUSB : ℤ} (hh : hUSB ≠ 0) {port : Port} {g g' : List Byte}
    (hg : (255 : Byte) ∉ g) (hg' : (255 : Byte) ∉ g') {p : Payload} {pos : ℕ}
    (h : port.Delivers pos (g ++ 255 :: p.toList))
    (h' : port.Delivers (pos + g.length + 22) g')
    (hend : port (pos + g.length + 22 + g'.length) = none) (hp : payloadOk p = false) {fuel : ℕ}
    (hfuel : g.length < fuel) (sbuf : Vector Byte 30) (data : Telemetry longBits) :
    GetRS232Motor33f fuel hUSB port sbuf data pos = none := by
  obtain ⟨st, hpos, hcall⟩ := GetRS232Motor33f_payload hh hg h hfuel sbuf data
  rw [hcall, hp, syncLoop_blocked hh hg' st (hpos ▸ h') (hpos ▸ hend)]
  rfl

/-- A call that meets no header before a read that blocks does not return. -/
lemma GetRS232Motor33f_blocked {hUSB : ℤ} (hh : hUSB ≠ 0) {port : Port} {g : List Byte}
    (hg : (255 : Byte) ∉ g) {pos : ℕ} (h : port.Delivers pos g)
    (hend : port (pos + g.length) = none) (fuel : ℕ) (sbuf : Vector Byte 30)
    (data : Telemetry longBits) : GetRS232Motor33f fuel hUSB port sbuf data pos = none := by
  rw [GetRS232Motor33f, syncLoop_blocked hh hg { sbuf := sbuf, n := 0, pos := pos } h hend]
  rfl

end Wifibot
