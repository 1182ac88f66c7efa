import Wifibot.RawServer.SerialDecoder
import Mathlib.Algebra.Group.Nat.Even

set_option relaxedAutoImplicit false
set_option autoImplicit false

/-!
# Which frames of an aligned stream the decoder loses

A stream of whole frames whose payloads hold no `0xFF`, some of them corrupted. After a corrupted
payload `GetRS232Motor33f` scans for a further `0xFF` before it returns. That byte is the header
of the next frame, and the next call scans for a header of its own, so it runs over the next
frame's payload. The frame after a corrupted one is therefore skipped, good or bad.

## Main definitions

* `Wifibot.decodedTelemetry` — the telemetry that successive calls decode.
* `Wifibot.skipAfterBad` — the abstract decoder: the good frames of a list, less those skipped.
* `Wifibot.EvenGaps` — before each good element stands an even number of bad ones.

## Main results

* `Wifibot.decodedTelemetry_eq_skipAfterBad` — the decoder refines the abstract one.
* `Wifibot.skipAfterBad_eq_filter_iff` — nothing good is skipped iff all gaps are even.
* `Wifibot.acceptsExactly_iff` — the decoder accepts exactly the good frames iff all gaps are even.
-/

namespace Wifibot

/-! ## The abstract decoder -/

section Skip

variable {α : Type*} (ok : α → Bool)

/-- The elements a reader keeps that skips whatever follows a bad element. -/
def skipAfterBad : List α → List α
  | [] => []
  | [a] => if ok a then [a] else []
  | a :: b :: l => if ok a then a :: skipAfterBad (b :: l) else skipAfterBad l

/-- The number of bad elements at the end of a list. -/
def badTail (l : List α) : ℕ := (l.reverse.takeWhile fun a => !ok a).length

/-- Directly before each good element stands an even number of bad ones. -/
def EvenGaps (l : List α) : Prop :=
  ∀ pre g post, l = pre ++ g :: post → ok g = true → Even (badTail ok pre)

variable {ok}

/-- No more is kept than there is good. -/
lemma length_skipAfterBad_le (ok : α → Bool) (l : List α) :
    (skipAfterBad ok l).length ≤ (l.filter ok).length := by
  fun_induction skipAfterBad ok l with
  | case1 => simp
  | case2 a ha => simp [ha]
  | case3 a ha => simp
  | case4 a b l ha ih => simpa [ha] using ih
  | case5 a b l ha ih =>
    refine ih.trans (List.Sublist.length_le (List.Sublist.filter ok ?_))
    exact (List.sublist_cons_self b l).trans (List.sublist_cons_self a _)

/-- A good element in front adds nothing to the bad ones at the end. -/
lemma badTail_cons_of_ok {a : α} (ha : ok a = true) (l : List α) :
    badTail ok (a :: l) = badTail ok l := by
  rw [badTail, List.reverse_cons, List.takeWhile_append]
  split_ifs with h
  · simp [ha, badTail, h]
  · rfl

/-- Two bad elements in front keep the parity of the bad ones at the end. -/
lemma even_badTail_cons_cons {a b : α} (ha : ok a = false) (hb : ok b = false) (l : List α) :
    Even (badTail ok (a :: b :: l)) ↔ Even (badTail ok l) := by
  rw [badTail, List.reverse_cons, List.reverse_cons, List.append_assoc, List.takeWhile_append]
  split_ifs with h
  · rw [badTail, h]
    simp [ha, hb, Nat.even_add]
  · rfl

/-- Gaps after a good element. -/
lemma evenGaps_cons_of_ok {a : α} (ha : ok a = true) (l : List α) :
    EvenGaps ok (a :: l) ↔ EvenGaps ok l := by
  constructor
  · intro h pre g post hl hg
    rw [← badTail_cons_of_ok ha]
    exact h (a :: pre) g post (by rw [hl]; rfl) hg
  · intro h pre g post hl hg
    cases pre with
    | nil => simp [badTail]
    | cons c pre =>
      obtain ⟨rfl, hl'⟩ := List.cons.inj hl
      rw [badTail_cons_of_ok ha]
      exact h pre g post hl' hg

/-- Gaps after two bad elements. -/
lemma evenGaps_cons_cons {a b : α} (ha : ok a = false) (hb : ok b = false) (l : List α) :
    EvenGaps ok (a :: b :: l) ↔ EvenGaps ok l := by
  constructor
  · intro h pre g post hl hg
    rw [← even_badTail_cons_cons ha hb]
    exact h (a :: b :: pre) g post (by rw [hl]; rfl) hg
  · intro h pre g post hl hg
    rcases pre with _ | ⟨c, _ | ⟨d, pre⟩⟩
    · simp [badTail]
    · obtain ⟨rfl, hl'⟩ := List.cons.inj hl
      obtain ⟨rfl, -⟩ := List.cons.inj hl'
      rw [hb] at hg
      exact absurd hg (by decide)
    · obtain ⟨rfl, hl'⟩ := List.cons.inj hl
      obtain ⟨rfl, hl''⟩ := List.cons.inj hl'
      rw [even_badTail_cons_cons ha hb]
      exact h pre g post hl'' hg

/-- **Nothing good is skipped iff all gaps are even.**

**Proof sketch.** Along the recursion of `skipAfterBad`. A good first element is kept by both
sides. A bad one with a bad successor drops out of both, and the gaps keep their parity. A bad
one with a good successor loses it, which shows in the length, and is itself an odd gap. -/
lemma skipAfterBad_eq_filter_iff (l : List α) :
    skipAfterBad ok l = l.filter ok ↔ EvenGaps ok l := by
  fun_induction skipAfterBad ok l with
  | case1 => simp [EvenGaps]
  | case2 a ha =>
    rw [evenGaps_cons_of_ok ha]
    simp [ha, EvenGaps]
  | case3 a ha =>
    have hgaps : EvenGaps ok [a] := by
      intro pre g post hl hg
      cases pre with
      | nil => simp [badTail]
      | cons c pre => simp at hl
    simp [ha, hgaps]
  | case4 a b l ha ih =>
    rw [evenGaps_cons_of_ok ha, ← ih, List.filter_cons_of_pos ha, List.cons_inj_right]
  | case5 a b l ha ih =>
    rw [Bool.not_eq_true] at ha
    rw [List.filter_cons_of_neg (by simp [ha])]
    cases hb : ok b with
    | true =>
      have hlen := length_skipAfterBad_le ok l
      refine iff_of_false (fun h => ?_) fun h => ?_
      · rw [h, List.filter_cons_of_pos hb] at hlen
        simp at hlen
      · have hodd := h [a] b l rfl hb
        simp [badTail, ha] at hodd
    | false =>
      rw [List.filter_cons_of_neg (by simp [hb]), evenGaps_cons_cons ha hb, ih]

end Skip

/-! ## Calls on a stream of frames -/

/-- The port that delivers the bytes `l` and then blocks. -/
def bytesPort (l : List Byte) : Port := fun i => l[i]?.map ReadResult.byte

/-- The bytes of frames: a header and a payload each. -/
def frameBytes (ps : List Payload) : List Byte := ps.flatMap fun p => 255 :: p.toList

variable {longBits : ℕ}

/-- The telemetry after each call that decodes a payload, of at most `n` successive calls, up to the
first that does not return; `locals k` is what the local buffer of call `k` holds when it starts. -/
def decodedTelemetry (fuel : ℕ) (hUSB : ℤ) (port : Port) :
    ℕ → (ℕ → Vector Byte 30) → Telemetry longBits → ℕ → List (Telemetry longBits)
  | 0, _, _, _ => []
  | n + 1, locals, data, pos =>
    match GetRS232Motor33f fuel hUSB port (locals 0) data pos with
    | none => []
    | some r => (r.accepted.map fun _ => r.telemetry).toList ++
        decodedTelemetry fuel hUSB port n (fun k => locals (k + 1)) r.telemetry r.pos

/-- Given enough fuel and enough calls, what is decoded from the frames `ps` is exactly the
uncorrupted payloads, each once and in order. -/
def AcceptsExactly (hUSB : ℤ) (ps : List Payload) (locals : ℕ → Vector Byte 30)
    (data : Telemetry longBits) : Prop :=
  ∃ N, ∀ fuel n, N ≤ fuel → N ≤ n →
    decodedTelemetry fuel hUSB (bytesPort (frameBytes ps)) n locals data 0 =
      (ps.filter payloadOk).map (decodePayload longBits)

@[simp] lemma frameBytes_nil : frameBytes [] = [] := rfl

@[simp] lemma frameBytes_cons (p : Payload) (ps : List Payload) :
    frameBytes (p :: ps) = 255 :: (p.toList ++ frameBytes ps) := rfl

/-- Garbage and a frame, then further frames. -/
lemma delivers_frame_iff {port : Port} {pos : ℕ} {g : List Byte} {p : Payload}
    {ps : List Payload} :
    port.Delivers pos (g ++ frameBytes (p :: ps)) ↔
      port.Delivers pos (g ++ 255 :: p.toList) ∧
        port.Delivers (pos + g.length + 22) (frameBytes ps) := by
  rw [frameBytes_cons, ← List.cons_append, ← List.append_assoc, Port.delivers_append]
  simp [Nat.add_assoc]

/-- The port blocks after garbage, a frame and further frames. -/
lemma blocked_frame_iff {port : Port} {pos : ℕ} {g : List Byte} {p : Payload}
    {ps : List Payload} :
    port (pos + (g ++ frameBytes (p :: ps)).length) = none ↔
      port (pos + g.length + 22 + (frameBytes ps).length) = none := by
  have hlen : pos + (g ++ frameBytes (p :: ps)).length =
      pos + g.length + 22 + (frameBytes ps).length := by
    simp
    omega
  rw [hlen]

/-- Calls that meet no header before a read that blocks decode nothing. -/
lemma decodedTelemetry_blocked {hUSB : ℤ} (hh : hUSB ≠ 0) {port : Port} {g : List Byte}
    (hg : (255 : Byte) ∉ g) {pos : ℕ} (hdel : port.Delivers pos g)
    (hend : port (pos + g.length) = none) (fuel n : ℕ) (locals : ℕ → Vector Byte 30)
    (data : Telemetry longBits) : decodedTelemetry fuel hUSB port n locals data pos = [] := by
  cases n with
  | zero => rfl
  | succ n => rw [decodedTelemetry, GetRS232Motor33f_blocked hh hg hdel hend]

/-- The first call on garbage and a good frame decodes the frame. -/
lemma decodedTelemetry_good {hUSB : ℤ} (hh : hUSB ≠ 0) {port : Port} {fuel : ℕ} {g : List Byte}
    (hg : (255 : Byte) ∉ g) (hfuel : g.length < fuel) {p : Payload} (hp : payloadOk p = true)
    {pos : ℕ} (hdel : port.Delivers pos (g ++ 255 :: p.toList)) (n : ℕ)
    (locals : ℕ → Vector Byte 30) (data : Telemetry longBits) :
    decodedTelemetry fuel hUSB port (n + 1) locals data pos =
      decodePayload longBits p :: decodedTelemetry fuel hUSB port n (fun k => locals (k + 1))
        (decodePayload longBits p) (pos + g.length + 22) := by
  rw [decodedTelemetry, GetRS232Motor33f_accept hh hg hdel hp hfuel]
  rfl

/-- The first call on garbage, a bad frame and a further header ends past that header. -/
lemma decodedTelemetry_bad {hUSB : ℤ} (hh : hUSB ≠ 0) {port : Port} {fuel : ℕ} {g : List Byte}
    (hg : (255 : Byte) ∉ g) (hfuel : g.length < fuel) {p : Payload} (hp : payloadOk p = false)
    {pos : ℕ} (hdel : port.Delivers pos (g ++ 255 :: p.toList))
    (hnext : port.Delivers (pos + g.length + 22) [255]) (n : ℕ)
    (locals : ℕ → Vector Byte 30) (data : Telemetry longBits) :
    decodedTelemetry fuel hUSB port (n + 1) locals data pos =
      decodedTelemetry fuel hUSB port n (fun k => locals (k + 1)) data
        (pos + g.length + 22 + 1) := by
  have hnil : (255 : Byte) ∉ ([] : List Byte) := by simp
  rw [decodedTelemetry, GetRS232Motor33f_reject hh hg hnil hdel hnext hp hfuel
    (by simp; omega)]
  rfl

/-- **The decoder refines the abstract one.** On garbage without a header and then frames, given
fuel for a payload's length and a call more than there are frames, the calls decode what the
abstract decoder keeps.

**Proof sketch.** Along the recursion of the abstract decoder. A good payload is decoded and the
call ends at a frame boundary. After a bad one the call ends past the header of the next frame,
whose payload is garbage to the next call. -/
lemma decodedTelemetry_eq_skipAfterBad {hUSB : ℤ} (hh : hUSB ≠ 0) {port : Port} {fuel : ℕ}
    (hfuel' : 21 < fuel) (ps : List Payload) (hps : ∀ p ∈ ps, (255 : Byte) ∉ p.toList) {n : ℕ}
    (hn : ps.length < n) {g : List Byte} (hg : (255 : Byte) ∉ g) (hfuel : g.length < fuel)
    (locals : ℕ → Vector Byte 30) (data : Telemetry longBits) {pos : ℕ}
    (hdel : port.Delivers pos (g ++ frameBytes ps))
    (hend : port (pos + (g ++ frameBytes ps).length) = none) :
    decodedTelemetry fuel hUSB port n locals data pos =
      (skipAfterBad payloadOk ps).map (decodePayload longBits) := by
  have hnil : (255 : Byte) ∉ ([] : List Byte) := by simp
  fun_induction skipAfterBad payloadOk ps generalizing n g locals data pos with
  | case1 =>
    rw [frameBytes_nil, List.append_nil] at hdel hend
    exact decodedTelemetry_blocked hh hg hdel hend _ _ _ _
  | case2 p hp =>
    obtain ⟨m, rfl⟩ : ∃ m, n = m + 1 := ⟨n - 1, by omega⟩
    rw [delivers_frame_iff] at hdel
    rw [blocked_frame_iff] at hend
    rw [decodedTelemetry_good hh hg hfuel hp hdel.1,
      decodedTelemetry_blocked hh hnil hdel.2 hend]
    rfl
  | case3 p hp =>
    obtain ⟨m, rfl⟩ : ∃ m, n = m + 1 := ⟨n - 1, by omega⟩
    rw [delivers_frame_iff] at hdel
    rw [blocked_frame_iff] at hend
    rw [Bool.not_eq_true] at hp
    rw [decodedTelemetry, GetRS232Motor33f_reject_blocked hh hg hnil hdel.1 hdel.2 hend hp hfuel]
    rfl
  | case4 p q ps hp ih =>
    obtain ⟨m, rfl⟩ : ∃ m, n = m + 1 := ⟨n - 1, by omega⟩
    rw [delivers_frame_iff] at hdel
    rw [blocked_frame_iff] at hend
    rw [decodedTelemetry_good hh hg hfuel hp hdel.1, List.map_cons]
    congr 1
    exact ih (fun r hr => hps r (List.mem_cons_of_mem p hr)) (Nat.lt_of_succ_lt_succ hn) hnil
      (by simp; omega) _ _ hdel.2 hend
  | case5 p q ps hp ih =>
    obtain ⟨m, rfl⟩ : ∃ m, n = m + 1 := ⟨n - 1, by omega⟩
    rw [delivers_frame_iff, frameBytes_cons, Port.delivers_cons] at hdel
    rw [blocked_frame_iff, frameBytes_cons, List.length_cons] at hend
    rw [Bool.not_eq_true] at hp
    have hend' : port (pos + g.length + 22 + 1 + (q.toList ++ frameBytes ps).length) = none := by
      rw [← hend]
      congr 1
      omega
    have hnext : port.Delivers (pos + g.length + 22) [255] :=
      Port.delivers_cons.mpr ⟨hdel.2.1, by simp [Port.Delivers]⟩
    rw [decodedTelemetry_bad hh hg hfuel hp hdel.1 hnext]
    exact ih (fun r hr => hps r (by simp [hr])) (by simp at hn; omega) (hps q (by simp))
      (by simpa using hfuel') _ _ hdel.2.2 hend'

/-- The port of a list of bytes delivers them and then blocks. -/
lemma bytesPort_delivers (l : List Byte) : (bytesPort l).Delivers 0 l := by
  intro i b hb
  simp [bytesPort, hb]

/-- From a frame boundary, the calls on the frames `ps` decode what the abstract decoder keeps. -/
lemma decodedTelemetry_frames {hUSB : ℤ} (hh : hUSB ≠ 0) {fuel : ℕ} (hfuel : 21 < fuel)
    (ps : List Payload) (hps : ∀ p ∈ ps, (255 : Byte) ∉ p.toList) {n : ℕ} (hn : ps.length < n)
    (locals : ℕ → Vector Byte 30) (data : Telemetry longBits) :
    decodedTelemetry fuel hUSB (bytesPort (frameBytes ps)) n locals data 0 =
      (skipAfterBad payloadOk ps).map (decodePayload longBits) :=
  decodedTelemetry_eq_skipAfterBad hh hfuel ps hps hn (g := []) (by simp) (by simp; omega) locals
    data (bytesPort_delivers _) (by simp [bytesPort])

/-- Different payloads decode differently, as the payload itself is copied. -/
lemma decodePayload_injective : Function.Injective (decodePayload longBits) :=
  fun _ _ h => congrArg Telemetry.buffso_Raw_Data_Out h

/-- What the calls accept settles at what the abstract decoder keeps. -/
lemma acceptsExactly_iff_skip {hUSB : ℤ} (hh : hUSB ≠ 0) {ps : List Payload}
    (hps : ∀ p ∈ ps, (255 : Byte) ∉ p.toList) (locals : ℕ → Vector Byte 30)
    (data : Telemetry longBits) :
    AcceptsExactly hUSB ps locals data ↔ skipAfterBad payloadOk ps = ps.filter payloadOk := by
  have hinj : Function.Injective (decodePayload longBits) := decodePayload_injective
  rw [← (List.map_injective_iff.mpr hinj).eq_iff]
  constructor
  · rintro ⟨N, hN⟩
    rw [← hN (N + 22) (N + ps.length + 1) (by omega) (by omega),
      decodedTelemetry_frames hh (by omega) ps hps (by omega)]
  · intro h
    refine ⟨22 + ps.length, fun fuel n hfuel hn => ?_⟩
    rw [← h, decodedTelemetry_frames hh (by omega) ps hps (by omega)]

/-- **When no good frame is lost.** From a frame boundary, on frames whose payloads hold no `0xFF`,
successive calls accept exactly the uncorrupted payloads, each once and in order, iff directly
before each uncorrupted one stands an even number of corrupted ones. -/
theorem acceptsExactly_iff {hUSB : ℤ} (hh : hUSB ≠ 0) {ps : List Payload}
    (hps : ∀ p ∈ ps, (255 : Byte) ∉ p.toList) (locals : ℕ → Vector Byte 30)
    (data : Telemetry longBits) :
    AcceptsExactly hUSB ps locals data ↔ EvenGaps payloadOk ps := by
  rw [acceptsExactly_iff_skip hh hps, skipAfterBad_eq_filter_iff]

/-- `restPayload` with its checksum lost. -/
def lostPayload : Payload := Vector.replicate 21 0

/-- Neither holds a header byte. -/
lemma header_notMem_payloads : ∀ p ∈ [lostPayload, restPayload], (255 : Byte) ∉ p.toList := by
  intro p hp
  simp only [List.mem_cons, List.not_mem_nil, or_false] at hp
  rcases hp with rfl | rfl
  · simp [lostPayload]
  · simp [restPayload]

lemma payloadOk_lostPayload : payloadOk lostPayload = false := payloadOk_zero

/-- The good frames around two corrupted ones, and that before a last one, are all accepted. -/
theorem acceptsExactly_twoLost :
    AcceptsExactly 3 [restPayload, lostPayload, lostPayload, restPayload, lostPayload]
      (fun _ => Vector.replicate 30 0) (Telemetry.zero : Telemetry 32) := by
  have hps : ∀ p ∈ [restPayload, lostPayload, lostPayload, restPayload, lostPayload],
      (255 : Byte) ∉ p.toList := fun p hp => header_notMem_payloads p (by simp_all; tauto)
  have hgaps : EvenGaps payloadOk
      [restPayload, lostPayload, lostPayload, restPayload, lostPayload] := by
    rw [← skipAfterBad_eq_filter_iff]
    simp [skipAfterBad, payloadOk_lostPayload, payloadOk_restPayload]
  exact (acceptsExactly_iff (by decide) hps _ _).mpr hgaps

/-- The good frame after a single corrupted one is lost. -/
theorem not_acceptsExactly_after_lostPayload :
    ¬ AcceptsExactly 3 [lostPayload, restPayload] (fun _ => Vector.replicate 30 0)
      (Telemetry.zero : Telemetry 32) := by
  rw [acceptsExactly_iff_skip (by decide) header_notMem_payloads]
  simp [skipAfterBad, payloadOk_lostPayload, payloadOk_restPayload]

end Wifibot
