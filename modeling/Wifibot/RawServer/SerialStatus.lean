import Wifibot.RawServer.Encoders
import Wifibot.RawServer.FailedReads

set_option relaxedAutoImplicit false
set_option autoImplicit false

/-!
# What `readrs232` and `writers232` report

Both functions add up the results of one-byte calls in an unsigned count, and take for their status
a comparison of an unsigned number with zero, which always holds. With a handle they report success
whatever happened. Without one `readrs232` returns `-1`, which is true, and neither sets the count.

## Main definitions

* `Wifibot.bytesRead`, `Wifibot.bytesWritten` — the number of bytes that a call transfers.
* `Wifibot.StatusRight` — a call reports what it transferred.
* `Wifibot.ReportsFrame` — an encoder reports success exactly when its whole frame went out.

## Main results

* `Wifibot.serialStatus_iff` — when these functions and the encoders report what happened.
-/

namespace Wifibot

/-- The read gave a byte. -/
def ReadResult.isByte : ReadResult → Bool
  | .byte _ => true
  | _ => false

/-- A read that gives a byte adds one to the count. -/
lemma ReadResult.ret_of_isByte {r : ReadResult} (h : r.isByte = true) : r.ret = 1 := by
  cases r with
  | byte b => rfl
  | eof => cases h
  | error => cases h

/-- The number of bytes that `n` reads from `pos` on transfer. -/
def bytesRead (hUSB : ℤ) (results : ℕ → ReadResult) (pos n : ℕ) : ℕ :=
  if hUSB = 0 then 0 else (List.range n).countP fun i => (results (pos + i)).isByte

/-- The number of bytes that `n` writes from `pos` on transfer. -/
def bytesWritten (hUSB : ℤ) (results : ℕ → WriteResult) (pos n : ℕ) : ℕ :=
  if hUSB = 0 then 0 else (List.range n).countP fun i => results (pos + i) = .written

/-- Of `n` bytes `transferred` went over the port, the count says so, and the status is true iff
these are all. -/
def StatusRight (status : ℤ) (count : BitVec 32) (n transferred : ℕ) : Prop :=
  count.toNat = transferred ∧ (status ≠ 0 ↔ transferred = n)

/-- An encoder that started in the state `st` and ended with `x` reports success exactly when
`frame` went out. -/
def ReportsFrame (st : WriteState) (frame : List Byte) (x : ℤ × WriteState) : Prop :=
  x.1 ≠ 0 ↔ x.2.sent = st.sent ++ frame

/-- A status that is always true is right iff all bytes went over the port, given that the count is
right then. -/
lemma statusRight_one_iff {count : BitVec 32} {n transferred : ℕ}
    (hcount : transferred = n → count.toNat = n) :
    StatusRight 1 count n transferred ↔ transferred = n := by
  constructor
  · intro h
    exact h.2.mp one_ne_zero
  · intro h
    exact ⟨(hcount h).trans h.symm, fun _ => h, fun _ => one_ne_zero⟩

/-- A call that transfers nothing is right iff the count is zero and the status is true when there
was nothing to transfer. -/
lemma statusRight_zero_iff {status : ℤ} {count n : BitVec 32} :
    StatusRight status count n.toNat 0 ↔ count = 0 ∧ (status ≠ 0 ↔ n = 0) := by
  have hn : n = 0 ↔ 0 = n.toNat := by
    rw [← BitVec.toNat_inj, eq_comm]
    rfl
  have hcount : count = 0 ↔ count.toNat = 0 := by
    rw [← BitVec.toNat_inj]
    rfl
  rw [StatusRight, hn, hcount]

/-- All of a number of calls do something iff it is done as often. -/
lemma countP_range_eq_iff {p : ℕ → Bool} {n : ℕ} :
    (List.range n).countP p = n ↔ ∀ i < n, p i = true := by
  have h := List.countP_eq_length (p := p) (l := List.range n)
  rw [List.length_range] at h
  rw [h]
  simp

/-- Counting one more. -/
lemma add_one_add_ofNat (a : BitVec 32) (k : ℕ) :
    a + 1 + BitVec.ofNat 32 k = a + BitVec.ofNat 32 (k + 1) := by
  rw [BitVec.add_assoc, Nat.add_comm k, BitVec.ofNat_add]
  rfl

/-! ## Reading -/

/-- The count after reads that all give a byte. -/
lemma readLoop_count {results : ℕ → ReadResult} {k kk : ℕ} {st st' : ReadState}
    (h : readLoop (resultsPort results) k kk st = some st')
    (hall : ∀ i < k, (results (st.pos + i)).isByte = true) :
    st'.n = st.n + BitVec.ofNat 32 k := by
  induction k generalizing kk st with
  | zero =>
    obtain rfl := Option.some.inj h
    simp
  | succ k ih =>
    rw [readLoop, Option.bind_eq_some_iff] at h
    obtain ⟨st₁, hread, hrest⟩ := h
    obtain ⟨r, hr, rfl⟩ := ReadState.read_eq_some_iff.mp hread
    have hret : r.ret = 1 := by
      obtain rfl := Option.some.inj hr
      exact ReadResult.ret_of_isByte (hall 0 (Nat.succ_pos k))
    have htail := ih hrest fun i hi => by
      show (results (st.pos + 1 + i)).isByte = true
      rw [Nat.add_right_comm, Nat.add_assoc]
      exact hall (i + 1) (by omega)
    rw [htail, hret, add_one_add_ofNat]

/-- **What `readrs232` reports** is right iff all bytes came, or none were asked for without a
handle and the count was zero before. -/
lemma readrs232_statusRight_iff (hUSB : ℤ) (results : ℕ → ReadResult) (st : ReadState)
    (n : BitVec 32) :
    ∃ r st', readrs232 hUSB (resultsPort results) st n.toNat = some (r, st') ∧
      (StatusRight r st'.n n.toNat (bytesRead hUSB results st.pos n.toNat) ↔
        hUSB ≠ 0 ∧ (∀ i < n.toNat, (results (st.pos + i)).isByte = true) ∨
          hUSB = 0 ∧ n = 0 ∧ st.n = 0) := by
  by_cases hh : hUSB = 0
  · refine ⟨-1, st, by rw [readrs232, if_pos hh], ?_⟩
    rw [bytesRead, if_pos hh, statusRight_zero_iff]
    simp [hh, and_comm]
  · have hloop : ∃ st', readLoop (resultsPort results) n.toNat 0 { st with n := 0 } = some st' :=
      exists_readLoop 0 fun j _ => rfl
    obtain ⟨st', hloop⟩ := hloop
    refine ⟨1, st', by rw [readrs232, if_neg hh, hloop]; simp, ?_⟩
    rw [bytesRead, if_neg hh, statusRight_one_iff, countP_range_eq_iff]
    · simp [hh]
    · intro hall
      rw [readLoop_count hloop (countP_range_eq_iff.mp hall)]
      simp

/-! ## Writing -/

/-- The bytes that went out number as many as there were successful writes. -/
lemma length_sent_writeLoop (results : ℕ → WriteResult) (buffer : List Byte) (k kk : ℕ)
    (st : WriteState) :
    (writeLoop results buffer k kk st).sent.length =
      st.sent.length + (List.range k).countP fun i => results (st.pos + i) = .written := by
  induction k generalizing kk st with
  | zero => rfl
  | succ k ih =>
    rw [writeLoop, ih, List.range_succ_eq_map, List.countP_cons, List.countP_map]
    have hshift : (fun i => decide (results (st.pos + i) = .written)) ∘ Nat.succ =
        fun i => decide (results (st.pos + 1 + i) = .written) := by
      funext i
      rw [Function.comp_apply, Nat.succ_eq_add_one, Nat.add_right_comm, Nat.add_assoc]
    rw [hshift]
    by_cases h : results st.pos = .written
    · simp [WriteState.write, h]
      omega
    · simp [WriteState.write, h]

/-- What remains of writes that all succeed, after the first. -/
lemma written_next {results : ℕ → WriteResult} {k : ℕ} {st : WriteState}
    (hall : ∀ i < k + 1, results (st.pos + i) = .written) (buffer : List Byte) (kk : ℕ) :
    ∀ i < k, results ((st.write results buffer kk).pos + i) = .written := by
  intro i hi
  show results (st.pos + 1 + i) = .written
  rw [Nat.add_right_comm, Nat.add_assoc]
  exact hall (i + 1) (by omega)

/-- The count after writes that all succeed. -/
lemma writeLoop_count {results : ℕ → WriteResult} (buffer : List Byte) {k : ℕ} (kk : ℕ)
    {st : WriteState} (hall : ∀ i < k, results (st.pos + i) = .written) :
    (writeLoop results buffer k kk st).n = st.n + BitVec.ofNat 32 k := by
  induction k generalizing kk st with
  | zero => simp [writeLoop]
  | succ k ih =>
    have hfirst : results st.pos = .written := hall 0 (Nat.succ_pos k)
    rw [writeLoop, ih (kk + 1) (written_next hall buffer kk), ← add_one_add_ofNat]
    rw [WriteState.write, hfirst]
    rfl

/-- The bytes that went out after writes that all succeed. -/
lemma writeLoop_sent {results : ℕ → WriteResult} {buffer : List Byte} {k kk : ℕ}
    {st : WriteState} (hlen : kk + k ≤ buffer.length)
    (hall : ∀ i < k, results (st.pos + i) = .written) :
    (writeLoop results buffer k kk st).sent = st.sent ++ (buffer.drop kk).take k := by
  induction k generalizing kk st with
  | zero => simp [writeLoop]
  | succ k ih =>
    have hfirst : results st.pos = .written := hall 0 (Nat.succ_pos k)
    have hkk : kk < buffer.length := by omega
    rw [writeLoop, ih (by omega) (written_next hall buffer kk), List.drop_eq_getElem_cons hkk,
      List.take_succ_cons, WriteState.write, if_pos hfirst, List.getD_eq_getElem _ _ hkk]
    simp

/-- With a handle `writers232` says that it succeeded. -/
lemma writers232_of_handle {hUSB : ℤ} (hh : hUSB ≠ 0) (results : ℕ → WriteResult)
    (buffer : List Byte) (n : ℕ) (st : WriteState) :
    writers232 hUSB results buffer n st =
      (1, writeLoop results buffer n 0 { st with n := 0 }) := by
  rw [writers232, if_neg hh]
  simp

/-- **What `writers232` reports** is right iff all bytes went out, or there was no handle, some
bytes were to be written and the count was zero before. -/
lemma writers232_statusRight_iff (hUSB : ℤ) (results : ℕ → WriteResult) (buffer : List Byte)
    (st : WriteState) (n : BitVec 32) :
    StatusRight (writers232 hUSB results buffer n.toNat st).1
        (writers232 hUSB results buffer n.toNat st).2.n n.toNat
        (bytesWritten hUSB results st.pos n.toNat) ↔
      hUSB ≠ 0 ∧ (∀ i < n.toNat, results (st.pos + i) = .written) ∨
        hUSB = 0 ∧ n ≠ 0 ∧ st.n = 0 := by
  by_cases hh : hUSB = 0
  · rw [writers232, if_pos hh, bytesWritten, if_pos hh, statusRight_zero_iff]
    simp [hh, and_comm]
  · have hall : (List.range n.toNat).countP (fun i => results (st.pos + i) = .written) = n.toNat ↔
        ∀ i < n.toNat, results (st.pos + i) = .written := by
      rw [countP_range_eq_iff]
      simp
    rw [writers232_of_handle hh, bytesWritten, if_neg hh, statusRight_one_iff, hall]
    · simp [hh]
    · intro h
      have hcount : (writeLoop results buffer n.toNat 0 { st with n := 0 }).n =
          0 + BitVec.ofNat 32 n.toNat := writeLoop_count buffer 0 (hall.mp h)
      rw [hcount]
      simp

/-! ## The encoders -/

/-- **What an encoder reports** is right iff there is no handle or every write succeeds. -/
lemma reportsFrame_iff (hUSB : ℤ) (results : ℕ → WriteResult) {buffer : List Byte}
    (st : WriteState) {n : ℕ} (hn : 0 < n) (hlen : n ≤ buffer.length) :
    ReportsFrame st (buffer.take n) (writers232 hUSB results buffer n st) ↔
      hUSB = 0 ∨ ∀ i < n, results (st.pos + i) = .written := by
  have hframe : (buffer.take n).length = n := by
    rw [List.length_take, Nat.min_eq_left hlen]
  by_cases hh : hUSB = 0
  · refine iff_of_true ?_ (Or.inl hh)
    rw [ReportsFrame, writers232, if_pos hh]
    refine iff_of_false (fun h => h rfl) fun h => ?_
    have hlen' : st.sent.length = st.sent.length + n := by
      rw [← hframe, ← List.length_append, ← h]
    omega
  · rw [ReportsFrame, writers232_of_handle hh]
    constructor
    · intro h
      have hsent := congrArg List.length (h.mp one_ne_zero)
      rw [length_sent_writeLoop, List.length_append, hframe] at hsent
      have hcount := Nat.add_left_cancel hsent
      rw [countP_range_eq_iff] at hcount
      exact Or.inr fun i hi => of_decide_eq_true (hcount i hi)
    · intro h
      have hall := h.resolve_left hh
      have hbuf : 0 + n ≤ buffer.length := by omega
      exact iff_of_true one_ne_zero (writeLoop_sent hbuf hall)

/-- **When the reports are right**, for every handle, every number of bytes and all results of the
single reads and writes. With a handle `readrs232` and `writers232` report what happened iff every
byte is transferred. Without one it is a matter of a count that they do not set: it has to be zero
already, and `readrs232`, which returns a true value, must have nothing to do, `writers232`, which
returns `0`, something. The encoders are right iff there is no handle or every byte goes out. -/
theorem serialStatus_iff (hUSB : ℤ) :
    (∀ (results : ℕ → ReadResult) (st : ReadState) (n : BitVec 32), ∃ r st',
        readrs232 hUSB (resultsPort results) st n.toNat = some (r, st') ∧
          (StatusRight r st'.n n.toNat (bytesRead hUSB results st.pos n.toNat) ↔
            hUSB ≠ 0 ∧ (∀ i < n.toNat, (results (st.pos + i)).isByte = true) ∨
              hUSB = 0 ∧ n = 0 ∧ st.n = 0)) ∧
      ∀ (results : ℕ → WriteResult) (st : WriteState),
        (∀ (buffer : List Byte) (n : BitVec 32),
          StatusRight (writers232 hUSB results buffer n.toNat st).1
              (writers232 hUSB results buffer n.toNat st).2.n n.toNat
              (bytesWritten hUSB results st.pos n.toNat) ↔
            hUSB ≠ 0 ∧ (∀ i < n.toNat, results (st.pos + i) = .written) ∨
              hUSB = 0 ∧ n ≠ 0 ∧ st.n = 0) ∧
          ∀ sbuf : Vector Byte 20,
            (∀ speed1 speed2 SpeedFlag,
              ReportsFrame st (motorFrame sbuf speed1 speed2 SpeedFlag)
                  (SetRS232Motor33f hUSB results sbuf st speed1 speed2 SpeedFlag) ↔
                hUSB = 0 ∨ ∀ i < 9, results (st.pos + i) = .written) ∧
              (∀ signed speed1 speed2,
                ReportsFrame st (lowResFrame signed sbuf speed1 speed2)
                    (SetRS232Motor33f_low_res signed hUSB results sbuf st speed1 speed2) ↔
                  hUSB = 0 ∨ ∀ i < 9, results (st.pos + i) = .written) ∧
              ∀ speed1 speed2 pp ii dd maxspeed,
                ReportsFrame st (pidFrame sbuf speed1 speed2 pp ii dd maxspeed)
                    (SetRS232MotorPID33f hUSB results sbuf st speed1 speed2 pp ii dd maxspeed) ↔
                  hUSB = 0 ∨ ∀ i < 11, results (st.pos + i) = .written :=
  ⟨readrs232_statusRight_iff hUSB, fun results st =>
    ⟨fun buffer n => writers232_statusRight_iff hUSB results buffer st n, fun sbuf =>
      ⟨fun _ _ _ => reportsFrame_iff hUSB results st (by omega) (by simp),
        fun _ _ _ => reportsFrame_iff hUSB results st (by omega) (by simp),
        fun _ _ _ _ _ _ => reportsFrame_iff hUSB results st (by omega) (by simp)⟩⟩⟩

/-- With a handle on which no read gives a byte and no write succeeds, a read of one byte and a stop
frame are both reported as a success. -/
theorem not_serialStatus_dead :
    (∃ r st', readrs232 3 (resultsPort fun _ => .eof) ⟨Vector.replicate 30 0, 0, 0⟩ 1 =
        some (r, st') ∧ ¬ StatusRight r st'.n 1 (bytesRead 3 (fun _ => .eof) 0 1)) ∧
      ¬ StatusRight (writers232 3 (fun _ => .error) [0] 1 ⟨0, 0, []⟩).1
        (writers232 3 (fun _ => .error) [0] 1 ⟨0, 0, []⟩).2.n 1
        (bytesWritten 3 (fun _ => .error) 0 1) ∧
      ¬ ReportsFrame ⟨0, 0, []⟩ (motorFrame (Vector.replicate 20 0) 0 0 0)
        (SetRS232Motor33f 3 (fun _ => .error) (Vector.replicate 20 0) ⟨0, 0, []⟩ 0 0 0) := by
  have hread := readrs232_statusRight_iff 3 (fun _ => .eof) ⟨Vector.replicate 30 0, 0, 0⟩ 1
  have hwrite := writers232_statusRight_iff 3 (fun _ => .error) [0] ⟨0, 0, []⟩ 1
  have hhandle : (3 : ℤ) ≠ 0 := by omega
  obtain ⟨r, st', hcall, hright⟩ := hread
  refine ⟨⟨r, st', hcall, fun h => ?_⟩, fun h => ?_, fun h => ?_⟩
  · obtain ⟨-, hall⟩ | ⟨hzero, -⟩ := hright.mp h
    · cases hall 0 (by decide)
    · exact hhandle hzero
  · obtain ⟨-, hall⟩ | ⟨hzero, -⟩ := hwrite.mp h
    · cases hall 0 (by decide)
    · exact hhandle hzero
  · have hframe := (reportsFrame_iff 3 _ _ (by omega : 0 < 9) (by simp)).mp h
    cases hframe.resolve_left hhandle 0 (by omega)

end Wifibot
