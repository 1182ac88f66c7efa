import Wifibot.RawServer.DecoderSoundness
import Wifibot.RawServer.Resync

set_option relaxedAutoImplicit false
set_option autoImplicit false

/-!
# The decoder when reads fail

A read of one byte may come back without one, at the end of file or with an error. `readrs232`
reports such a read as a success and leaves the cell of the buffer as it was, so
`GetRS232Motor33f` goes on with what the stack held there before. A scan then ends on a left-over
`0xFF`, a payload is completed from left-over bytes, and when neither comes up a scan on a dead
port goes on for ever.

## Main definitions

* `Wifibot.ScanEnds` — the read at which a scan ends, from the port and the left-over byte.
* `Wifibot.readOver` — the payload in the buffer after 21 reads, some of which may have failed.
* `Wifibot.FrameRead` — a header and a payload with the right checksum were read.
* `Wifibot.StalePayload` — the payload that a call tests, when not all of its frame was read.

## Main results

* `Wifibot.GetRS232Motor33f_changes_iff` — when telemetry changes on a frame that was read only.
* `Wifibot.GetRS232Motor33f_returns_iff` — when a call returns.
-/

namespace Wifibot

variable {longBits : ℕ}

/-! ## Single reads -/

/-- The read number `i` returns without a byte. -/
def Port.Fails (port : Port) (i : ℕ) : Prop := port i = some .eof ∨ port i = some .error

/-- A cell that held `b`, after the read number `i` into it. -/
def Port.cellAfter (port : Port) (i : ℕ) (b : Byte) : Byte :=
  match port i with
  | some (.byte c) => c
  | _ => b

/-- A read that returns gives a byte or fails. -/
lemma Port.byte_or_fails {port : Port} {i : ℕ} (h : (port i).isSome) :
    (∃ b, port i = some (.byte b)) ∨ port.Fails i := by
  obtain ⟨r, hr⟩ := Option.isSome_iff_exists.mp h
  cases r with
  | byte b => exact Or.inl ⟨b, hr⟩
  | eof => exact Or.inr (Or.inl hr)
  | error => exact Or.inr (Or.inr hr)

/-- A read that fails gives no byte. -/
lemma Port.Fails.ne_byte {port : Port} {i : ℕ} (h : port.Fails i) (b : Byte) :
    port i ≠ some (.byte b) := by
  obtain h | h := h
  · rw [h]
    nofun
  · rw [h]
    nofun

/-- The cell after a read that gives a byte. -/
lemma Port.cellAfter_of_byte {port : Port} {i : ℕ} {c : Byte} (h : port i = some (.byte c))
    (b : Byte) : port.cellAfter i b = c := by
  rw [cellAfter, h]

/-- The cell after a read that fails. -/
lemma Port.cellAfter_of_fails {port : Port} {i : ℕ} (h : port.Fails i) (b : Byte) :
    port.cellAfter i b = b := by
  obtain h | h := h
  · rw [cellAfter, h]
  · rw [cellAfter, h]

/-- Writing back what a cell holds. -/
lemma setIfInBounds_self (sbuf : Vector Byte 30) (kk : ℕ) :
    sbuf.setIfInBounds kk sbuf[kk]! = sbuf := by
  apply Vector.ext
  intro i hi
  by_cases hik : kk = i
  · subst hik
    simp [hi]
  · rw [Vector.getElem_setIfInBounds_ne hi hik]

/-- **One read**: it has to return, and the cell is then as `cellAfter` says. -/
lemma ReadState.read_eq_some_iff {port : Port} {st st' : ReadState} {kk : ℕ} :
    st.read port kk = some st' ↔ ∃ r, port st.pos = some r ∧
      st' = { sbuf := st.sbuf.setIfInBounds kk (port.cellAfter st.pos st.sbuf[kk]!)
              n := st.n + r.ret, pos := st.pos + 1 } := by
  rw [ReadState.read, Option.map_eq_some_iff]
  refine exists_congr fun r => and_congr_right fun hr => ?_
  rw [eq_comm, Port.cellAfter, hr]
  cases r with
  | byte b => exact Iff.rfl
  | eof => rw [setIfInBounds_self]
  | error => rw [setIfInBounds_self]

/-! ## A read of several bytes -/

/-- The loop of `readrs232` when all its reads return: every cell is overwritten or left alone.

**Proof sketch.** Induction on the number of bytes; the read into cell `kk` leaves the others as
they are. -/
lemma readLoop_eq_some {port : Port} {k kk : ℕ} {st st' : ReadState}
    (h : readLoop port k kk st = some st') :
    st'.pos = st.pos + k ∧ (∀ j < k, (port (st.pos + j)).isSome) ∧
      ∀ i (hi : i < 30), st'.sbuf[i] =
        if kk ≤ i ∧ i < kk + k then port.cellAfter (st.pos + (i - kk)) st.sbuf[i]
        else st.sbuf[i] := by
  induction k generalizing kk st with
  | zero =>
    obtain rfl := Option.some.inj h
    exact ⟨rfl, fun j hj => absurd hj (Nat.not_lt_zero j), fun i hi => by
      rw [if_neg (by omega)]⟩
  | succ k ih =>
    rw [readLoop, Option.bind_eq_some_iff] at h
    obtain ⟨st₁, hread, hrest⟩ := h
    obtain ⟨r, hr, rfl⟩ := ReadState.read_eq_some_iff.mp hread
    obtain ⟨hpos, hsome, hcell⟩ := ih hrest
    dsimp only at hpos hsome hcell
    refine ⟨by rw [hpos]; omega, fun j hj => ?_, fun i hi => ?_⟩
    · cases j with
      | zero => rw [Nat.add_zero, hr, Option.isSome_some]
      | succ j =>
        rw [← Nat.add_assoc, Nat.add_right_comm]
        exact hsome j (by omega)
    · rw [hcell i hi]
      obtain hik | rfl | hik := Nat.lt_trichotomy i kk
      · rw [if_neg (by omega), if_neg (by omega), Vector.getElem_setIfInBounds_ne hi (by omega)]
      · rw [if_neg (by omega), if_pos (by omega), Vector.getElem_setIfInBounds_self, Nat.sub_self,
          Nat.add_zero]
        simp [hi]
      · have hshift : st.pos + 1 + (i - (kk + 1)) = st.pos + (i - kk) := by omega
        have hrange : (kk + 1 ≤ i ∧ i < kk + 1 + k) ↔ (kk ≤ i ∧ i < kk + (k + 1)) := by omega
        rw [Vector.getElem_setIfInBounds_ne hi (by omega), hshift]
        simp only [hrange]

/-- The loop of `readrs232` comes to its end when all its reads return. -/
lemma exists_readLoop {port : Port} {k : ℕ} (kk : ℕ) {st : ReadState}
    (h : ∀ j < k, (port (st.pos + j)).isSome) : ∃ st', readLoop port k kk st = some st' := by
  induction k generalizing kk st with
  | zero => exact ⟨st, rfl⟩
  | succ k ih =>
    obtain ⟨r, hr⟩ := Option.isSome_iff_exists.mp (h 0 (Nat.succ_pos k))
    obtain ⟨st₁, hread, hpos⟩ : ∃ st₁, st.read port kk = some st₁ ∧ st₁.pos = st.pos + 1 :=
      ⟨_, ReadState.read_eq_some_iff.mpr ⟨r, hr, rfl⟩, rfl⟩
    obtain ⟨st', hst'⟩ := ih (kk + 1) (fun j hj => by
      rw [hpos, Nat.add_right_comm]
      exact h (j + 1) (by omega))
    exact ⟨st', by rw [readLoop, hread, Option.bind_some, hst']⟩

/-- What 21 reads from `pos` on leave in the first cells of the buffer. -/
def readOver (port : Port) (pos : ℕ) (sbuf : Vector Byte 30) : Payload :=
  Vector.ofFn fun i => port.cellAfter (pos + i) sbuf[i.val]!

/-- A read of 21 bytes that returns. -/
lemma readrs232_payload_eq_some {hUSB : ℤ} (hh : hUSB ≠ 0) {port : Port} {st : ReadState}
    {x : ℤ × ReadState} (h : readrs232 hUSB port st 21 = some x) :
    x.2.pos = st.pos + 21 ∧ payloadOf x.2.sbuf = readOver port st.pos st.sbuf := by
  rw [readrs232, if_neg hh, Option.map_eq_some_iff] at h
  obtain ⟨st', hloop, rfl⟩ := h
  obtain ⟨hpos, -, hcell⟩ := readLoop_eq_some hloop
  refine ⟨hpos, Vector.ext fun i hi => ?_⟩
  have hi' : i < 30 := by omega
  have hc := hcell i hi'
  rw [if_pos (by omega), Nat.sub_zero] at hc
  simp only [payloadOf, readOver, Vector.getElem_ofFn]
  rw [getElem!_pos st'.sbuf i hi', getElem!_pos st.sbuf i hi', hc]

/-- A read of 21 bytes returns when each of its reads does. -/
lemma exists_readrs232 {hUSB : ℤ} (hh : hUSB ≠ 0) {port : Port} {st : ReadState} {n : ℕ}
    (h : ∀ j < n, (port (st.pos + j)).isSome) : ∃ x, readrs232 hUSB port st n = some x := by
  have hloop : ∃ st', readLoop port n 0 { st with n := 0 } = some st' := exists_readLoop 0 h
  obtain ⟨st', hst'⟩ := hloop
  exact ⟨_, by rw [readrs232, if_neg hh, hst', Option.map_some]⟩

/-- When 21 reads all give bytes, these are what they leave. -/
lemma delivers_readOver {port : Port} {pos : ℕ}
    (h : ∀ i < 21, ∃ b, port (pos + i) = some (.byte b)) (sbuf : Vector Byte 30) :
    port.Delivers pos (readOver port pos sbuf).toList := by
  intro i c hc
  obtain ⟨hi, rfl⟩ := List.getElem?_eq_some_iff.mp hc
  rw [Vector.length_toList] at hi
  obtain ⟨b, hb⟩ := h i hi
  rw [hb, Vector.getElem_toList]
  simp only [readOver, Vector.getElem_ofFn]
  rw [Port.cellAfter_of_byte hb]

/-! ## A scan -/

/-- A scan that began at `pos` with `b` in its cell has `0xFF` in it after the read number `i`, if
it got there: the read gave it, or it was the first read, failed, and left the old byte. -/
def GivesHeader (port : Port) (b : Byte) (pos i : ℕ) : Prop :=
  port i = some (.byte 255) ∨ i = pos ∧ b = 255 ∧ port.Fails i

/-- A scan that begins at `pos` with `b` in its cell ends with the read number `h`. -/
def ScanEnds (port : Port) (b : Byte) (pos h : ℕ) : Prop :=
  pos ≤ h ∧ GivesHeader port b pos h ∧
    ∀ i, pos ≤ i → i < h → (port i).isSome ∧ ¬ GivesHeader port b pos i

/-- A read that gives a header returns. -/
lemma GivesHeader.isSome {port : Port} {b : Byte} {pos i : ℕ} (h : GivesHeader port b pos i) :
    (port i).isSome := by
  obtain h | ⟨-, -, h | h⟩ := h
  · rw [h, Option.isSome_some]
  · rw [h, Option.isSome_some]
  · rw [h, Option.isSome_some]

/-- A scan ends once. -/
lemma ScanEnds.unique {port : Port} {b : Byte} {pos h h' : ℕ} (hs : ScanEnds port b pos h)
    (hs' : ScanEnds port b pos h') : h = h' := by
  by_contra hne
  obtain hlt | hlt := Nat.lt_or_gt_of_ne hne
  · exact (hs'.2.2 h hs.1 hlt).2 hs.2.1
  · exact (hs.2.2 h' hs'.1 hlt).2 hs'.2.1

/-- The first read of a scan gives a header iff `0xFF` is in the cell after it. -/
lemma givesHeader_first {port : Port} {b : Byte} {pos : ℕ} (hsome : (port pos).isSome) :
    GivesHeader port b pos pos ↔ port.cellAfter pos b = 255 := by
  obtain ⟨c, hc⟩ | hf := Port.byte_or_fails hsome
  · rw [Port.cellAfter_of_byte hc]
    simp [GivesHeader, Port.Fails, hc]
  · rw [Port.cellAfter_of_fails hf]
    constructor
    · rintro (hb | ⟨-, hb, -⟩)
      · exact absurd hb (hf.ne_byte 255)
      · exact hb
    · intro hb
      exact Or.inr ⟨rfl, hb, hf⟩

/-- After a first read without a header only a read that gives `0xFF` ends the scan. -/
lemma givesHeader_later {port : Port} {b : Byte} {pos i : ℕ} (hi : pos < i) :
    GivesHeader port b pos i ↔ port i = some (.byte 255) := by
  simp [GivesHeader, Nat.ne_of_gt hi]

/-- So the rest of the scan is a scan from the next read on, whatever is in the cell. -/
lemma givesHeader_next {port : Port} {b c : Byte} {pos i : ℕ} (hc : c ≠ 255) (hi : pos < i) :
    GivesHeader port c (pos + 1) i ↔ GivesHeader port b pos i := by
  rw [givesHeader_later hi]
  constructor
  · rintro (h | ⟨-, hb, -⟩)
    · exact h
    · exact absurd hb hc
  · exact Or.inl

/-- **One turn of a scan**: the read has to return, and the scan ends or goes on. -/
lemma scanEnds_iff {port : Port} {b : Byte} {pos h : ℕ} :
    ScanEnds port b pos h ↔ (port pos).isSome ∧
      if port.cellAfter pos b = 255 then h = pos
      else ScanEnds port (port.cellAfter pos b) (pos + 1) h := by
  constructor
  · intro hs
    have hsome : (port pos).isSome := by
      obtain rfl | hlt := Nat.eq_or_lt_of_le hs.1
      · exact hs.2.1.isSome
      · exact (hs.2.2 pos le_rfl hlt).1
    refine ⟨hsome, ?_⟩
    split_ifs with hc
    · by_contra hne
      have hlt : pos < h := Nat.lt_of_le_of_ne hs.1 (Ne.symm hne)
      exact (hs.2.2 pos le_rfl hlt).2 ((givesHeader_first hsome).mpr hc)
    · have hlt : pos < h := by
        refine Nat.lt_of_le_of_ne hs.1 ?_
        rintro rfl
        exact hc ((givesHeader_first hsome).mp hs.2.1)
      refine ⟨hlt, (givesHeader_next hc hlt).mpr hs.2.1, fun i hi hih => ?_⟩
      rw [givesHeader_next hc hi]
      exact hs.2.2 i (Nat.le_of_succ_le hi) hih
  · rintro ⟨hsome, hs⟩
    split_ifs at hs with hc
    · subst hs
      exact ⟨le_rfl, (givesHeader_first hsome).mpr hc, fun i hi hih =>
        absurd hi (Nat.not_le.mpr hih)⟩
    · have hlt : pos < h := hs.1
      refine ⟨Nat.le_of_lt hlt, (givesHeader_next hc hlt).mp hs.2.1, fun i hi hih => ?_⟩
      obtain rfl | hlt' := Nat.eq_or_lt_of_le hi
      · exact ⟨hsome, mt (givesHeader_first hsome).mp hc⟩
      · rw [← givesHeader_next hc hlt']
        exact hs.2.2 i hlt' hih

/-- The buffer and the position after a read of one byte that returned `r`. -/
def ReadState.scanned (port : Port) (st : ReadState) (r : ReadResult) : ReadState where
  sbuf := st.sbuf.setIfInBounds 0 (port.cellAfter st.pos st.sbuf[0]!)
  n := r.ret
  pos := st.pos + 1

/-- The first cell after a read of one byte. -/
lemma ReadState.scanned_cell (port : Port) (st : ReadState) (r : ReadResult) :
    (st.scanned port r).sbuf[0]! = port.cellAfter st.pos st.sbuf[0]! := by
  simp [scanned]

/-- A read of one byte. -/
lemma readrs232_one {hUSB : ℤ} (hh : hUSB ≠ 0) (port : Port) (st : ReadState) :
    readrs232 hUSB port st 1 = (port st.pos).map fun r => (1, st.scanned port r) := by
  rw [readrs232, if_neg hh, readLoop]
  cases hr : port st.pos with
  | none => simp [ReadState.read, hr]
  | some r =>
    have hread : ReadState.read port { st with n := 0 } 0 = some (st.scanned port r) :=
      ReadState.read_eq_some_iff.mpr ⟨r, hr, by simp [ReadState.scanned]⟩
    rw [hread]
    simp [readLoop]

/-- A turn of a scan whose read returns. -/
lemma syncLoop_scanned {hUSB : ℤ} (hh : hUSB ≠ 0) {port : Port} {st : ReadState} {r : ReadResult}
    (hr : port st.pos = some r) (fuel : ℕ) :
    syncLoop hUSB port (fuel + 1) st =
      if port.cellAfter st.pos st.sbuf[0]! = 255 then some (1, st.scanned port r)
      else syncLoop hUSB port fuel (st.scanned port r) := by
  rw [syncLoop, readrs232_one hh, hr, Option.map_some, Option.bind_some]
  dsimp only
  rw [ReadState.scanned_cell]
  split_ifs with h₁ h₂ h₂
  · exact absurd h₂ h₁.1
  · rfl
  · rfl
  · exact absurd ⟨h₂, one_ne_zero⟩ h₁

/-- **A scan that returned** ended where `ScanEnds` says, and left `0xFF` in the first cell.

**Proof sketch.** Induction on the fuel, one turn by `scanEnds_iff`. -/
lemma syncLoop_eq_some {hUSB : ℤ} (hh : hUSB ≠ 0) {port : Port} {fuel : ℕ} {st : ReadState}
    {x : ℤ × ReadState} (h : syncLoop hUSB port fuel st = some x) :
    x.1 = 1 ∧ ∃ h, ScanEnds port st.sbuf[0]! st.pos h ∧ x.2.pos = h + 1 ∧
      x.2.sbuf = st.sbuf.setIfInBounds 0 255 := by
  induction fuel generalizing st with
  | zero => simp [syncLoop] at h
  | succ fuel ih =>
    cases hr : port st.pos with
    | none =>
      rw [syncLoop, readrs232_one hh, hr] at h
      simp at h
    | some r =>
      rw [syncLoop_scanned hh hr] at h
      split_ifs at h with hc
      · obtain rfl := Option.some.inj h
        refine ⟨rfl, st.pos, scanEnds_iff.mpr ⟨by rw [hr, Option.isSome_some], ?_⟩, rfl, ?_⟩
        · rw [if_pos hc]
        · rw [← hc]
          rfl
      · obtain ⟨hone, e, hends, hpos, hbuf⟩ := ih h
        rw [ReadState.scanned_cell] at hends
        refine ⟨hone, e, scanEnds_iff.mpr ⟨by rw [hr, Option.isSome_some], ?_⟩, hpos, ?_⟩
        · rw [if_neg hc]
          exact hends
        · rw [hbuf]
          exact Vector.setIfInBounds_setIfInBounds _

/-- **A scan that has an end returns**, given enough fuel. -/
lemma exists_syncLoop {hUSB : ℤ} (hh : hUSB ≠ 0) {port : Port} {st : ReadState} {h : ℕ}
    (hs : ScanEnds port st.sbuf[0]! st.pos h) :
    ∃ st', syncLoop hUSB port (h - st.pos + 1) st = some (1, st') := by
  induction hk : h - st.pos generalizing st with
  | zero =>
    obtain ⟨hsome, hturn⟩ := scanEnds_iff.mp hs
    obtain ⟨r, hr⟩ := Option.isSome_iff_exists.mp hsome
    have hh' : h = st.pos := by
      have hle := hs.1
      omega
    have hc := (givesHeader_first hsome).mp (hh' ▸ hs.2.1)
    exact ⟨_, by rw [syncLoop_scanned hh hr, if_pos hc]⟩
  | succ k ih =>
    obtain ⟨hsome, hturn⟩ := scanEnds_iff.mp hs
    obtain ⟨r, hr⟩ := Option.isSome_iff_exists.mp hsome
    rw [syncLoop_scanned hh hr]
    split_ifs at hturn ⊢ with hc
    · exact ⟨_, rfl⟩
    · rw [← ReadState.scanned_cell port st r] at hturn
      refine ih hturn ?_
      show h - (st.pos + 1) = k
      omega

/-! ## A call -/

/-- The payload that a call with a handle tests, when its scan ends at `h`: the 21 cells after the
header, those read over and those left. -/
def testedPayload (port : Port) (sbuf : Vector Byte 30) (h : ℕ) : Payload :=
  readOver port (h + 1) (sbuf.setIfInBounds 0 255)

/-- **The test of a returned call**: it decoded what stood in its buffer, or scanned on. -/
lemma GetRS232Motor33f_tested {fuel : ℕ} {hUSB : ℤ} {port : Port} {sbuf : Vector Byte 30}
    {data : Telemetry longBits} {pos : ℕ} {r₁ r₂ : ℤ} {st₁ st₂ : ReadState}
    {r : CallResult longBits}
    (hsync : syncLoop hUSB port fuel { sbuf := sbuf, n := 0, pos := pos } = some (r₁, st₁))
    (hr : r₁ ≠ 0) (hread : readrs232 hUSB port st₁ 21 = some (r₂, st₂))
    (h : GetRS232Motor33f fuel hUSB port sbuf data pos = some r) :
    payloadOk (payloadOf st₂.sbuf) = true ∧
        r.telemetry = decodePayload longBits (payloadOf st₂.sbuf) ∧ r.pos = st₂.pos ∨
      payloadOk (payloadOf st₂.sbuf) = false ∧ r.telemetry = data ∧
        ∃ x, syncLoop hUSB port fuel st₂ = some x ∧ r.pos = x.2.pos := by
  rw [GetRS232Motor33f_read hsync hr hread] at h
  by_cases htest : leShort st₂.sbuf[19]! st₂.sbuf[20]! = crc16 st₂.sbuf.toList 19
  · rw [if_neg (not_not.mpr htest)] at h
    obtain rfl := Option.some.inj h
    exact Or.inl ⟨(payloadOk_payloadOf _).mpr htest, rfl, rfl⟩
  · rw [if_pos htest] at h
    obtain ⟨x, hsync', rfl⟩ := Option.map_eq_some_iff.mp h
    exact Or.inr ⟨Bool.eq_false_iff.mpr (mt (payloadOk_payloadOf _).mp htest), rfl, x, hsync', rfl⟩

/-- What a scan and a read of 21 bytes leave in the buffer. -/
lemma payloadOf_scan_read {fuel : ℕ} {hUSB : ℤ} (hh : hUSB ≠ 0) {port : Port}
    {sbuf : Vector Byte 30} {n : BitVec 32} {pos : ℕ} {r₁ r₂ : ℤ} {st₁ st₂ : ReadState}
    (hsync : syncLoop hUSB port fuel { sbuf := sbuf, n := n, pos := pos } = some (r₁, st₁))
    (hread : readrs232 hUSB port st₁ 21 = some (r₂, st₂)) :
    r₁ = 1 ∧ ∃ e, ScanEnds port sbuf[0]! pos e ∧ st₁.pos = e + 1 ∧ st₂.pos = e + 22 ∧
      payloadOf st₂.sbuf = testedPayload port sbuf e := by
  obtain ⟨hone, e, hends, hpos₁, hbuf₁⟩ := syncLoop_eq_some hh hsync
  obtain ⟨hpos₂, hpay⟩ := readrs232_payload_eq_some hh hread
  dsimp only at hone hends hpos₁ hbuf₁ hpos₂ hpay
  refine ⟨hone, e, hends, hpos₁, by rw [hpos₂, hpos₁], ?_⟩
  rw [hpay, hpos₁, hbuf₁]
  rfl

/-- The first cell of the buffer is that of the payload in it. -/
lemma payloadOf_cell (sbuf : Vector Byte 30) : (payloadOf sbuf)[0]! = sbuf[0]! := by
  simp [payloadOf]

/-- **What a returned call did**: its scan ended somewhere, the 21 reads behind it returned, and it
decoded the tested payload or scanned on. -/
lemma GetRS232Motor33f_scanned {fuel : ℕ} {hUSB : ℤ} (hh : hUSB ≠ 0) {port : Port}
    {sbuf : Vector Byte 30} {data : Telemetry longBits} {pos : ℕ} {r : CallResult longBits}
    (h : GetRS232Motor33f fuel hUSB port sbuf data pos = some r) :
    ∃ e, ScanEnds port sbuf[0]! pos e ∧
      (payloadOk (testedPayload port sbuf e) = true ∧
          r.telemetry = decodePayload longBits (testedPayload port sbuf e) ∧ r.pos = e + 22 ∨
        payloadOk (testedPayload port sbuf e) = false ∧ r.telemetry = data ∧
          ∃ e', ScanEnds port (testedPayload port sbuf e)[0]! (e + 22) e') := by
  have hcall := h
  rw [GetRS232Motor33f, Option.bind_eq_some_iff] at h
  obtain ⟨⟨r₁, st₁⟩, hsync, h⟩ := h
  have hone := (syncLoop_eq_some hh hsync).1
  dsimp only at hone h
  rw [hone, if_pos one_ne_zero, Option.bind_eq_some_iff] at h
  obtain ⟨st₂, hst₂, -⟩ := h
  obtain ⟨⟨r₂, st₂⟩, hread, rfl⟩ := Option.map_eq_some_iff.mp hst₂
  obtain ⟨-, e, hends, hpos₁, hpos₂, hpay⟩ := payloadOf_scan_read hh hsync hread
  refine ⟨e, hends, ?_⟩
  obtain ⟨hok, hdata, hpos⟩ | ⟨hok, hdata, x, hsync', -⟩ :=
    GetRS232Motor33f_tested hsync (hone ▸ one_ne_zero) hread hcall
  · exact Or.inl ⟨hpay ▸ hok, hpay ▸ hdata, hpos.trans hpos₂⟩
  · obtain ⟨-, e', hends', -⟩ := syncLoop_eq_some hh hsync'
    rw [← payloadOf_cell, hpay, hpos₂] at hends'
    exact Or.inr ⟨hpay ▸ hok, hdata, e', hends'⟩

/-- Without a handle a scan ends at once iff `0xFF` is left in the first cell, and else never. -/
lemma syncLoop_no_handle {port : Port} {fuel : ℕ} {st : ReadState} {x : ℤ × ReadState} :
    syncLoop 0 port fuel st = some x ↔ 0 < fuel ∧ st.sbuf[0]! = 255 ∧ x = (-1, st) := by
  induction fuel with
  | zero => simp [syncLoop]
  | succ fuel ih =>
    rw [syncLoop, readrs232, if_pos rfl, Option.bind_some]
    dsimp only
    split_ifs with h
    · rw [ih]
      exact ⟨fun hx => absurd hx.2.1 h.1, fun hx => absurd hx.2.1 h.1⟩
    · have hcell : st.sbuf[0]! = 255 := by
        by_contra hc
        exact h ⟨hc, by decide⟩
      exact ⟨fun hx => ⟨Nat.succ_pos fuel, hcell, (Option.some.inj hx).symm⟩, fun hx => by
        rw [hx.2.2]⟩

/-- **A call without a handle** that returned found `0xFF` in the first cell, and took what was
left in the buffer for the payload. -/
lemma GetRS232Motor33f_no_handle {fuel : ℕ} {port : Port} {sbuf : Vector Byte 30}
    {data : Telemetry longBits} {pos : ℕ} {r : CallResult longBits}
    (h : GetRS232Motor33f fuel 0 port sbuf data pos = some r) :
    sbuf[0]! = 255 ∧ r.pos = pos ∧
      (payloadOk (payloadOf sbuf) = true ∧ r.telemetry = decodePayload longBits (payloadOf sbuf) ∨
        payloadOk (payloadOf sbuf) = false ∧ r.telemetry = data) := by
  have hcall := h
  rw [GetRS232Motor33f, Option.bind_eq_some_iff] at h
  obtain ⟨x, hsync, -⟩ := h
  obtain ⟨-, hcell, rfl⟩ := syncLoop_no_handle.mp hsync
  refine ⟨hcell, ?_⟩
  obtain ⟨hok, hdata, hpos⟩ | ⟨hok, hdata, x, hsync', hpos⟩ :=
    GetRS232Motor33f_tested hsync (by decide) (if_pos rfl) hcall
  · exact ⟨hpos, Or.inl ⟨hok, hdata⟩⟩
  · obtain ⟨-, -, rfl⟩ := syncLoop_no_handle.mp hsync'
    exact ⟨hpos, Or.inr ⟨hok, hdata⟩⟩

/-- **A call without a handle** returns when `0xFF` is left in the first cell. -/
lemma exists_GetRS232Motor33f_no_handle {port : Port} {sbuf : Vector Byte 30}
    (hcell : sbuf[0]! = 255) (data : Telemetry longBits) (pos : ℕ) :
    ∃ r, GetRS232Motor33f 1 0 port sbuf data pos = some r := by
  have hsync : syncLoop 0 port 1 { sbuf := sbuf, n := 0, pos := pos } =
      some (-1, { sbuf := sbuf, n := 0, pos := pos }) :=
    syncLoop_no_handle.mpr ⟨Nat.one_pos, hcell, rfl⟩
  rw [GetRS232Motor33f_read hsync (by decide) (if_pos rfl)]
  split_ifs
  · exact ⟨_, by rw [hsync, Option.map_some]⟩
  · exact ⟨_, rfl⟩

/-- **A call with a handle** returns when its scan ends, the 21 reads behind it return, and the
payload they leave passes the test or the second scan ends too. -/
lemma exists_GetRS232Motor33f {hUSB : ℤ} (hh : hUSB ≠ 0) {port : Port} {sbuf : Vector Byte 30}
    {pos e : ℕ} (hends : ScanEnds port sbuf[0]! pos e)
    (hsome : ∀ j < 21, (port (e + 1 + j)).isSome)
    (hrest : payloadOk (testedPayload port sbuf e) = true ∨
      ∃ e', ScanEnds port (testedPayload port sbuf e)[0]! (e + 22) e')
    (data : Telemetry longBits) :
    ∃ fuel r, GetRS232Motor33f fuel hUSB port sbuf data pos = some r := by
  have hscan : ∃ st', syncLoop hUSB port (e - pos + 1) { sbuf := sbuf, n := 0, pos := pos } =
      some (1, st') := exists_syncLoop hh hends
  obtain ⟨st₁, hsync⟩ := hscan
  have hpos₁ : st₁.pos = e + 1 := by
    obtain ⟨-, e₁, hends₁, hpos₁, -⟩ := syncLoop_eq_some hh hsync
    rw [hpos₁, hends₁.unique hends]
  obtain ⟨⟨r₂, st₂⟩, hread⟩ := exists_readrs232 hh (hpos₁ ▸ hsome)
  obtain ⟨-, e₁, hends₁, -, hpos₂, hpay⟩ := payloadOf_scan_read hh hsync hread
  obtain rfl := hends₁.unique hends
  by_cases htest : leShort st₂.sbuf[19]! st₂.sbuf[20]! = crc16 st₂.sbuf.toList 19
  · exact ⟨_, _, by
      rw [GetRS232Motor33f_read hsync one_ne_zero hread, if_neg (not_not.mpr htest)]⟩
  · have hbad : ¬ payloadOk (testedPayload port sbuf e₁) = true := by
      rw [← hpay]
      exact mt (payloadOk_payloadOf _).mp htest
    obtain ⟨e', hends'⟩ := hrest.resolve_left hbad
    rw [← hpay, payloadOf_cell, ← hpos₂] at hends'
    obtain ⟨st', hsync'⟩ := exists_syncLoop hh hends'
    refine ⟨max (e₁ - pos + 1) (e' - st₂.pos + 1),
      { telemetry := data, pos := st'.pos, accepted := none }, ?_⟩
    rw [GetRS232Motor33f_read (syncLoop_mono (Nat.le_max_left _ _) hsync) one_ne_zero hread,
      if_pos htest, syncLoop_mono (Nat.le_max_right _ _) hsync', Option.map_some]

/-- The port on which every read returns, with the given results. -/
def resultsPort (results : ℕ → ReadResult) : Port := fun i => some (results i)

/-- The port of an adapter that is unplugged. -/
def deadPort : Port := resultsPort fun _ => .eof

/-- Every read of it fails. -/
lemma deadPort_fails (i : ℕ) : deadPort.Fails i := Or.inl rfl

/-- Where all reads fail the first read of a scan ends it if `0xFF` is left in the cell. -/
lemma scanEnds_of_fails {port : Port} {pos : ℕ} (hf : port.Fails pos) :
    ScanEnds port 255 pos pos :=
  ⟨le_rfl, Or.inr ⟨rfl, rfl, hf⟩, fun _ hi hlt => absurd hi (Nat.not_le.mpr hlt)⟩

/-- Where all reads fail the tested payload is what was left in the buffer. -/
lemma testedPayload_of_fails {port : Port} {e : ℕ} (hf : ∀ i, e < i → port.Fails i)
    {sbuf : Vector Byte 30} (hcell : sbuf[0]! = 255) :
    testedPayload port sbuf e = payloadOf sbuf := by
  rw [testedPayload, ← hcell, setIfInBounds_self]
  apply Vector.ext
  intro i hi
  simp only [readOver, payloadOf, Vector.getElem_ofFn]
  exact Port.cellAfter_of_fails (hf _ (by omega)) _

/-! ## Telemetry from bytes that were not read -/

/-- Between `pos` and `pos'` a header and then a payload with the right checksum were read. -/
def FrameRead (port : Port) (pos pos' : ℕ) : Prop :=
  ∃ i, ∃ p : Payload, pos ≤ i ∧ i + 22 ≤ pos' ∧ port.Delivers i (255 :: p.toList) ∧
    payloadOk p = true

/-- The payload `q` comes to the test of a call although not all of its frame is read: there is no
handle, or one of the reads of the header and of the 21 bytes behind it gives no byte. -/
def StalePayload (hUSB : ℤ) (port : Port) (sbuf : Vector Byte 30) (pos : ℕ) (q : Payload) : Prop :=
  hUSB = 0 ∧ q = payloadOf sbuf ∨
    hUSB ≠ 0 ∧ ∃ e, ScanEnds port sbuf[0]! pos e ∧ (∃ i < 22, ∀ b, port (e + i) ≠ some (.byte b)) ∧
      q = testedPayload port sbuf e

/-- When the reads from the end of the scan on give bytes, the frame of the tested payload was
read. -/
lemma frameRead_of_bytes {port : Port} {sbuf : Vector Byte 30} {pos e : ℕ}
    (hends : ScanEnds port sbuf[0]! pos e) (hbytes : ∀ i < 22, ∃ b, port (e + i) = some (.byte b))
    (hok : payloadOk (testedPayload port sbuf e) = true) : FrameRead port pos (e + 22) := by
  refine ⟨e, testedPayload port sbuf e, hends.1, le_rfl, Port.delivers_cons.mpr ⟨?_, ?_⟩, hok⟩
  · obtain h | ⟨-, -, h⟩ := hends.2.1
    · exact h
    · obtain ⟨b, hb⟩ := hbytes 0 (by omega)
      exact absurd hb (h.ne_byte b)
  · refine delivers_readOver (fun i hi => ?_) _
    rw [Nat.add_assoc, Nat.add_comm 1]
    exact hbytes (i + 1) (by omega)

/-- A frame that is read before the end of the 21 bytes behind the scan begins where the scan
ends. -/
lemma bytes_of_frameRead {port : Port} {b : Byte} {pos e : ℕ} (hends : ScanEnds port b pos e)
    (h : FrameRead port pos (e + 22)) {i : ℕ} (hi : i < 22) :
    ∃ c, port (e + i) = some (.byte c) := by
  obtain ⟨j, p, hj, hje, hdel, -⟩ := h
  obtain rfl : j = e := by
    by_contra hne
    have hlt : j < e := by omega
    exact (hends.2.2 j hj hlt).2 (Or.inl (Port.delivers_cons.mp hdel).1)
  have hlen : i < (255 :: p.toList).length := by simpa using hi
  exact ⟨_, hdel i _ (List.getElem?_eq_getElem hlen)⟩

/-- **When old bytes do not count.** A returned call changes the telemetry only if a header and 21
bytes with the right checksum were read during the call, iff every payload that comes to its test
without its whole frame being read fails the test or tells nothing new.

**Proof sketch.** Without a handle nothing is read, and the tested payload is what was left in the
buffer. With one the scan ends at some `e`. When the reads from `e` on give bytes, the tested
payload was read and there is none that is stale. Otherwise no frame was read: its header would
have ended the scan earlier, and it does not begin at `e`. -/
theorem GetRS232Motor33f_changes_iff {fuel : ℕ} {hUSB : ℤ} {port : Port} {sbuf : Vector Byte 30}
    {data : Telemetry longBits} {pos : ℕ} {r : CallResult longBits}
    (h : GetRS232Motor33f fuel hUSB port sbuf data pos = some r) :
    (r.telemetry ≠ data → FrameRead port pos r.pos) ↔
      ∀ q, StalePayload hUSB port sbuf pos q → payloadOk q = true →
        decodePayload longBits q = data := by
  by_cases hh : hUSB = 0
  · subst hh
    obtain ⟨-, hpos, hcases⟩ := GetRS232Motor33f_no_handle h
    have hnone : ¬ FrameRead port pos r.pos := by
      rintro ⟨i, p, hi, hle, -⟩
      omega
    constructor
    · rintro hclaim q (⟨-, rfl⟩ | ⟨hne, -⟩) hok
      · obtain ⟨-, hdata⟩ | ⟨hbad, -⟩ := hcases
        · rw [← hdata]
          exact not_not.mp (mt hclaim hnone)
        · exact absurd hok (Bool.eq_false_iff.mp hbad)
      · exact absurd rfl hne
    · intro hstale hchanged
      obtain ⟨hok, hdata⟩ | ⟨-, hdata⟩ := hcases
      · exact absurd (hdata.trans (hstale _ (Or.inl ⟨rfl, rfl⟩) hok)) hchanged
      · exact absurd hdata hchanged
  · obtain ⟨e, hends, hcases⟩ := GetRS232Motor33f_scanned hh h
    constructor
    · rintro hclaim q (⟨rfl, -⟩ | ⟨-, e', hends', ⟨i, hi, hlost⟩, rfl⟩) hok
      · exact absurd rfl hh
      · obtain rfl := hends'.unique hends
        obtain ⟨-, hdata, hpos⟩ | ⟨hbad, -⟩ := hcases
        · rw [← hdata]
          by_contra hchanged
          obtain ⟨b, hb⟩ := bytes_of_frameRead hends (hpos ▸ hclaim hchanged) hi
          exact hlost b hb
        · exact absurd hok (Bool.eq_false_iff.mp hbad)
    · intro hstale hchanged
      obtain ⟨hok, hdata, hpos⟩ | ⟨-, hdata, -⟩ := hcases
      · rw [hpos]
        refine frameRead_of_bytes hends (fun i hi => ?_) hok
        by_contra hlost
        rw [not_exists] at hlost
        have hold := hstale _ (Or.inr ⟨hh, e, hends, ⟨i, hi, hlost⟩, rfl⟩) hok
        exact hchanged (hdata.trans hold)
      · exact absurd hdata hchanged

/-- A frame of zeros that is read counts. -/
theorem GetRS232Motor33f_changes_restPayload :
    (decodePayload 32 restPayload ≠ Telemetry.zero →
        FrameRead (bytesPort (255 :: restPayload.toList)) 0 22) ↔
      ∀ q, StalePayload 3 (bytesPort (255 :: restPayload.toList)) (Vector.replicate 30 0) 0 q →
        payloadOk q = true → decodePayload 32 q = Telemetry.zero := by
  have hfuel : ([] : List Byte).length < 1 := by simp
  have hcall := GetRS232Motor33f_accept (by omega : (3 : ℤ) ≠ 0) (by simp)
    (bytesPort_delivers ([] ++ 255 :: restPayload.toList)) payloadOk_restPayload hfuel
    (Vector.replicate 30 0) (Telemetry.zero : Telemetry 32)
  exact GetRS232Motor33f_changes_iff hcall

/-- What the stack may hold after a call that read a payload which begins with `0xFF`. -/
def staleBuffer : Vector Byte 30 :=
  #v[255, 0, 0, 0, 0, 0, 0, 0, 0, 0, 0, 0, 0, 0, 0, 0, 0, 0, 0, 0, 0x24, 0, 0, 0, 0, 0, 0, 0, 0, 0]

/-- On a dead port the old payload is decoded once more, although nothing at all is read. -/
theorem not_GetRS232Motor33f_changes_staleBuffer :
    ∃ fuel r, GetRS232Motor33f fuel 3 deadPort staleBuffer (Telemetry.zero : Telemetry 32) 0 =
        some r ∧ ¬ (r.telemetry ≠ Telemetry.zero → FrameRead deadPort 0 r.pos) := by
  have hends : ScanEnds deadPort staleBuffer[0]! 0 0 := scanEnds_of_fails (deadPort_fails 0)
  have htested : testedPayload deadPort staleBuffer 0 = payloadOf staleBuffer :=
    testedPayload_of_fails (fun i _ => deadPort_fails i) (by decide)
  have hok : payloadOk (payloadOf staleBuffer) = true := by decide +kernel
  obtain ⟨fuel, r, h⟩ := exists_GetRS232Motor33f (by omega : (3 : ℤ) ≠ 0) hends (fun _ _ => rfl)
    (Or.inl (htested ▸ hok)) (Telemetry.zero : Telemetry 32)
  obtain ⟨e, hends', hcases⟩ := GetRS232Motor33f_scanned (by decide) h
  obtain rfl := hends'.unique hends
  refine ⟨fuel, r, h, fun hclaim => ?_⟩
  have hchanged : r.telemetry ≠ Telemetry.zero := by
    obtain ⟨-, hdata, -⟩ | ⟨hbad, -⟩ := hcases
    · rw [hdata, htested]
      intro hzero
      have hraw := congrArg Telemetry.buffso_Raw_Data_Out hzero
      exact absurd hraw (by decide)
    · rw [htested, hok] at hbad
      cases hbad
  obtain ⟨i, p, -, -, hdel, -⟩ := hclaim hchanged
  have hread := (Port.delivers_cons.mp hdel).1
  cases hread

/-! ## A port that dies -/

/-- A scan of a port on which every read returns ends iff some read gives it a header. -/
lemma exists_scanEnds_iff {results : ℕ → ReadResult} {b : Byte} {pos : ℕ} :
    (∃ e, ScanEnds (resultsPort results) b pos e) ↔
      ∃ i, pos ≤ i ∧ GivesHeader (resultsPort results) b pos i := by
  classical
  constructor
  · rintro ⟨e, hends⟩
    exact ⟨e, hends.1, hends.2.1⟩
  · intro hex
    refine ⟨Nat.find hex, (Nat.find_spec hex).1, (Nat.find_spec hex).2, fun i hi hlt => ⟨rfl, ?_⟩⟩
    exact fun hgives => Nat.find_min hex hlt ⟨hi, hgives⟩

/-- Both scans of a call come to an end, or the first does and the checksum is right. -/
def CallEnds (hUSB : ℤ) (port : Port) (sbuf : Vector Byte 30) (pos : ℕ) : Prop :=
  if hUSB = 0 then sbuf[0]! = 255
  else ∃ e, ScanEnds port sbuf[0]! pos e ∧
    (payloadOk (testedPayload port sbuf e) = true ∨
      ∃ i, e + 22 ≤ i ∧ GivesHeader port (testedPayload port sbuf e)[0]! (e + 22) i)

/-- A call that returned is one whose scans end. -/
lemma callEnds_of_returned {fuel : ℕ} {hUSB : ℤ} {results : ℕ → ReadResult}
    {sbuf : Vector Byte 30} {data : Telemetry longBits} {pos : ℕ} {r : CallResult longBits}
    (h : GetRS232Motor33f fuel hUSB (resultsPort results) sbuf data pos = some r) :
    CallEnds hUSB (resultsPort results) sbuf pos := by
  rw [CallEnds]
  split_ifs with hh
  · subst hh
    exact (GetRS232Motor33f_no_handle h).1
  · obtain ⟨e, hends, ⟨hok, -⟩ | ⟨-, -, hends'⟩⟩ := GetRS232Motor33f_scanned hh h
    · exact ⟨e, hends, Or.inl hok⟩
    · exact ⟨e, hends, Or.inr (exists_scanEnds_iff.mp hends')⟩

/-- A call whose scans end returns. -/
lemma exists_returned_of_callEnds {hUSB : ℤ} {results : ℕ → ReadResult} {sbuf : Vector Byte 30}
    {pos : ℕ} (h : CallEnds hUSB (resultsPort results) sbuf pos) (data : Telemetry longBits) :
    ∃ fuel r, GetRS232Motor33f fuel hUSB (resultsPort results) sbuf data pos = some r := by
  rw [CallEnds] at h
  split_ifs at h with hh
  · subst hh
    exact ⟨1, exists_GetRS232Motor33f_no_handle h data pos⟩
  · obtain ⟨e, hends, hrest⟩ := h
    exact exists_GetRS232Motor33f hh hends (fun j _ => rfl)
      (hrest.imp_right exists_scanEnds_iff.mpr) data

/-- **On a port that is dead** the left-over byte alone decides, whatever the handle. -/
lemma callEnds_of_fails {port : Port} {pos : ℕ} (hf : ∀ i, pos ≤ i → port.Fails i) (hUSB : ℤ)
    (sbuf : Vector Byte 30) : CallEnds hUSB port sbuf pos ↔ sbuf[0]! = 255 := by
  rw [CallEnds]
  split_ifs with hh
  · exact Iff.rfl
  · constructor
    · rintro ⟨e, hends, -⟩
      obtain hbyte | ⟨-, hcell, -⟩ := hends.2.1
      · exact absurd hbyte ((hf e hends.1).ne_byte 255)
      · exact hcell
    · intro hcell
      have htested := testedPayload_of_fails (fun i hi => hf i (Nat.le_of_lt hi)) hcell
      refine ⟨pos, hcell ▸ scanEnds_of_fails (hf pos le_rfl), Or.inr ⟨pos + 22, le_rfl, ?_⟩⟩
      refine Or.inr ⟨rfl, ?_, hf _ (by omega)⟩
      rw [htested, payloadOf_cell, hcell]

/-- **When a call returns.** Let every read return, with or without a byte. Without a handle the
call returns iff `0xFF` is left in the first cell of the buffer. With one it returns iff a read
gives the first scan a header, by a byte or by leaving one there, and the payload behind it has the
right checksum or a read gives the second scan a header. -/
theorem GetRS232Motor33f_returns_iff (hUSB : ℤ) (results : ℕ → ReadResult) (sbuf : Vector Byte 30)
    (data : Telemetry longBits) (pos : ℕ) :
    (∃ fuel r, GetRS232Motor33f fuel hUSB (resultsPort results) sbuf data pos = some r) ↔
      CallEnds hUSB (resultsPort results) sbuf pos :=
  ⟨fun ⟨_, _, h⟩ => callEnds_of_returned h, fun h => exists_returned_of_callEnds h data⟩

/-- On a dead port, and without a handle, a call whose buffer happens to hold zeros goes on for
ever. -/
theorem not_GetRS232Motor33f_returns_deadPort :
    (∀ i, deadPort.Fails i) ∧ ∀ hUSB ∈ [(3 : ℤ), 0],
      ¬ ∃ fuel r, GetRS232Motor33f fuel hUSB deadPort (Vector.replicate 30 0)
        (Telemetry.zero : Telemetry 32) 0 = some r := by
  refine ⟨deadPort_fails, fun hUSB _ ⟨fuel, r, h⟩ => ?_⟩
  have hcell := (callEnds_of_fails (fun i _ => deadPort_fails i) hUSB _).mp
    (callEnds_of_returned h)
  exact absurd hcell (by decide)

end Wifibot
