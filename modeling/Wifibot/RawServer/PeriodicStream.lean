import Wifibot.RawServer.AlignedStream
import Wifibot.RawServer.DecoderSoundness

set_option relaxedAutoImplicit false
set_option autoImplicit false

/-!
# The decoder on a frame that is sent for ever

A robot at rest sends the same frame again and again. A decoder that starts in the middle of it may
take a `0xFF` of the payload for a header. As long as the checksum tells such a start from a real
one, each failing call ends just behind the `0xFF` it began with, one period later: the window
that it read ends before the next copy of that byte, and the scan of the failure branch takes the
copy. So no `0xFF` of the payload is tried twice before the header is.

## Main definitions

* `Wifibot.repeatStream` — the endless repetition of a frame.

## Main results

* `Wifibot.callResults_repeatStream` — calls on such a stream, by what is left of the payload.
* `Wifibot.repeatStream_recovers` — the calls that fail are at most as many as there are `0xFF`
  in the payload, and all later ones accept it.
-/

namespace Wifibot

variable {longBits : ℕ}

/-- The endless repetition of a header and the payload `p`. -/
def repeatStream (p : Payload) (i : ℕ) : Byte := (255 :: p.toList).getD (i % 22) 0

/-- The stream has the period of a frame. -/
lemma repeatStream_add (p : Payload) (i m : ℕ) :
    repeatStream p (i + 22 * m) = repeatStream p i := by
  rw [repeatStream, repeatStream, Nat.add_mul_mod_self_left]

/-- So have its windows. -/
lemma window_repeatStream_add (p : Payload) (i m : ℕ) :
    window (repeatStream p) (i + 22 * m) = window (repeatStream p) i := by
  apply Vector.ext
  intro j hj
  simp only [window, Vector.getElem_ofFn]
  rw [Nat.add_right_comm, repeatStream_add]

/-- What is left of the payload at a place `pos` inside a frame or at its end: `l` bytes, and then
a frame begins. -/
structure LeftOf (p : Payload) (pos : ℕ) (l : List Byte) : Prop where
  suffix : l <:+ p.toList
  boundary : (pos + l.length) % 22 = 0

/-- At every place something is left of the payload. -/
lemma exists_leftOf (p : Payload) (pos : ℕ) : ∃ l, LeftOf p pos l := by
  obtain h | h := Nat.eq_zero_or_pos (pos % 22)
  · exact ⟨[], List.nil_suffix, by simpa using h⟩
  · refine ⟨p.toList.drop (pos % 22 - 1), List.drop_suffix _ _, ?_⟩
    rw [List.length_drop, Vector.length_toList]
    omega

/-- No more than the payload is left. -/
lemma LeftOf.length_le {p : Payload} {pos : ℕ} {l : List Byte} (h : LeftOf p pos l) :
    l.length ≤ 21 := by
  simpa using h.suffix.length_le

/-- What is left is what the stream holds next.

**Proof sketch.** The bytes before `l` in the payload are as many as the header and the payload
bytes passed since the last boundary, less the header. -/
lemma LeftOf.repeatStream_eq {p : Payload} {pos : ℕ} {l : List Byte} (h : LeftOf p pos l) {i : ℕ}
    (hi : i < l.length) : repeatStream p (pos + i) = l[i] := by
  obtain ⟨t, ht⟩ := h.suffix
  have hlen : t.length + l.length = 21 := by
    simpa using congrArg List.length ht
  have hmod : (pos + i) % 22 = t.length + i + 1 := by
    have hb := h.boundary
    omega
  rw [repeatStream, hmod, List.getD_cons_succ, ← ht, List.getD_append_right _ _ _ _ (by omega),
    Nat.add_sub_cancel_left, List.getD_eq_getElem _ _ hi]

/-- The segment of the stream that is left. -/
lemma LeftOf.segment_eq {p : Payload} {pos : ℕ} {l : List Byte} (h : LeftOf p pos l) :
    segment (repeatStream p) pos l.length = l := by
  apply List.ext_getElem
  · simp
  · intro i _ hi
    simpa [segment] using h.repeatStream_eq hi

/-- After a byte fewer bytes are left. -/
lemma LeftOf.of_append {p : Payload} {pos : ℕ} {g l : List Byte} (h : LeftOf p pos (g ++ l)) :
    LeftOf p (pos + g.length) l where
  suffix := (List.suffix_append g l).trans h.suffix
  boundary := by
    rw [Nat.add_assoc, ← List.length_append]
    exact h.boundary

/-- The same is left a period later. -/
lemma LeftOf.add {p : Payload} {pos : ℕ} {l : List Byte} (h : LeftOf p pos l) :
    LeftOf p (pos + 22) l where
  suffix := h.suffix
  boundary := by
    rw [Nat.add_right_comm, Nat.add_mod_right]
    exact h.boundary

/-- At a frame boundary the stream holds as many frames as one likes. -/
lemma repeatStream_delivers_frames (p : Payload) {pos : ℕ} (hpos : pos % 22 = 0) (n : ℕ) :
    (streamPort (repeatStream p)).Delivers pos (frameBytes (List.replicate n p)) := by
  induction n generalizing pos with
  | zero => simp [Port.Delivers]
  | succ n ih =>
    have hhead : repeatStream p pos = 255 := by
      rw [repeatStream, hpos, List.getD_cons_zero]
    have hpay : LeftOf p (pos + 1) p.toList :=
      ⟨List.suffix_rfl, by rw [Vector.length_toList]; omega⟩
    have hdel := streamPort_delivers (repeatStream p) (pos + 1) p.toList.length
    rw [hpay.segment_eq] at hdel
    rw [List.replicate_succ, frameBytes_cons, Port.delivers_cons, Port.delivers_append,
      Vector.length_toList]
    exact ⟨congrArg (some ∘ ReadResult.byte) hhead, hdel, ih (by omega)⟩

/-- The results of a call and of the calls after it. -/
lemma callResults_succ {fuel : ℕ} {hUSB : ℤ} {port : Port} {n : ℕ} {locals : ℕ → Vector Byte 30}
    {data : Telemetry longBits} {pos : ℕ} {r : CallResult longBits}
    {rs : List (CallResult longBits)}
    (hcall : GetRS232Motor33f fuel hUSB port (locals 0) data pos = some r)
    (hrs : callResults fuel hUSB port n (fun k => locals (k + 1)) r.telemetry r.pos = some rs) :
    callResults fuel hUSB port (n + 1) locals data pos = some (r :: rs) := by
  rw [callResults, hcall, Option.bind_some, hrs, Option.map_some]

/-- The results `rs` of calls of which the first `j` accept nothing and the others accept `p`. -/
def AcceptFrom (p : Payload) (j : ℕ) (rs : List (CallResult longBits)) : Prop :=
  ∀ i r, rs[i]? = some r → r.accepted = if i < j then none else some p

/-- A call that accepts nothing in front. -/
lemma AcceptFrom.cons_none {p : Payload} {j : ℕ} {r : CallResult longBits}
    {rs : List (CallResult longBits)} (h : AcceptFrom p j rs) (hr : r.accepted = none) :
    AcceptFrom p (j + 1) (r :: rs) := by
  intro i r' hi
  cases i with
  | zero =>
    obtain rfl : r = r' := by simpa using hi
    simpa using hr
  | succ i =>
    rw [h i r' (by simpa using hi)]
    simp

/-- A call that accepts the payload in front of others that do. -/
lemma AcceptFrom.cons_some {p : Payload} {r : CallResult longBits}
    {rs : List (CallResult longBits)} (h : AcceptFrom p 0 rs) (hr : r.accepted = some p) :
    AcceptFrom p 0 (r :: rs) := by
  intro i r' hi
  cases i with
  | zero =>
    obtain rfl : r = r' := by simpa using hi
    simpa using hr
  | succ i => exact h i r' (by simpa using hi)

/-- A call in front of calls of which the first `j` accept nothing and the others accept `p`. -/
lemma exists_callResults_cons {fuel : ℕ} {hUSB : ℤ} {port : Port} {locals : ℕ → Vector Byte 30}
    {data : Telemetry longBits} {pos : ℕ} {r : CallResult longBits} {p : Payload} {j j' : ℕ}
    (hcall : GetRS232Motor33f fuel hUSB port (locals 0) data pos = some r)
    (hcons : ∀ rs, AcceptFrom p j rs → AcceptFrom p j' (r :: rs))
    (h : ∀ n, ∃ rs,
      callResults fuel hUSB port n (fun k => locals (k + 1)) r.telemetry r.pos = some rs ∧
        rs.length = n ∧ AcceptFrom p j rs) (n : ℕ) :
    ∃ rs, callResults fuel hUSB port n locals data pos = some rs ∧ rs.length = n ∧
      AcceptFrom p j' rs := by
  cases n with
  | zero => exact ⟨[], rfl, rfl, fun i r hi => by simp at hi⟩
  | succ n =>
    obtain ⟨rs, hrs, hlen, hacc⟩ := h n
    exact ⟨r :: rs, callResults_succ hcall hrs, by rw [List.length_cons, hlen], hcons rs hacc⟩

/-- From a frame boundary on every call accepts the payload. -/
lemma callResults_repeatStream_boundary {hUSB : ℤ} (hh : hUSB ≠ 0) {p : Payload}
    (hp : payloadOk p = true) {fuel : ℕ} (hfuel : 0 < fuel) (n : ℕ) (locals : ℕ → Vector Byte 30)
    (data : Telemetry longBits) {pos : ℕ} (hpos : pos % 22 = 0) :
    ∃ rs, callResults fuel hUSB (streamPort (repeatStream p)) n locals data pos = some rs ∧
      rs.length = n ∧ AcceptFrom p 0 rs := by
  have hps : ∀ q ∈ List.replicate n p, payloadOk q = true := by
    intro q hq
    rwa [List.eq_of_mem_replicate hq]
  have hcalls := callResults_aligned hh hps hfuel locals data
    (repeatStream_delivers_frames p hpos n)
  rw [List.length_replicate] at hcalls
  refine ⟨_, hcalls, by rw [length_alignedResults, List.length_replicate], fun i r hi => ?_⟩
  have hin : i < (List.replicate n p).length := by
    have hlt := (List.getElem?_eq_some_iff.mp hi).1
    rwa [length_alignedResults] at hlt
  rw [getElem?_alignedResults _ _ _ hin] at hi
  obtain rfl := Option.some.inj hi
  simp

/-- **A call before the header**: no `0xFF` is left of the payload, so the call meets the header
and accepts, and ends at a frame boundary. -/
lemma GetRS232Motor33f_repeatStream_accept {hUSB : ℤ} (hh : hUSB ≠ 0) {p : Payload}
    (hp : payloadOk p = true) {fuel : ℕ} (hfuel : 22 ≤ fuel) {pos : ℕ} {l : List Byte}
    (hleft : LeftOf p pos l) (hl : (255 : Byte) ∉ l) (sbuf : Vector Byte 30)
    (data : Telemetry longBits) :
    GetRS232Motor33f fuel hUSB (streamPort (repeatStream p)) sbuf data pos =
      some { telemetry := decodePayload longBits p, pos := pos + l.length + 22,
             accepted := some p } := by
  have hdel := streamPort_delivers (repeatStream p) pos l.length
  rw [hleft.segment_eq] at hdel
  have hframe := repeatStream_delivers_frames p hleft.boundary 1
  rw [List.replicate_one, frameBytes_cons, frameBytes_nil, List.append_nil] at hframe
  have hlen := hleft.length_le
  exact GetRS232Motor33f_accept hh hl (Port.delivers_append.mpr ⟨hdel, hframe⟩) hp (by omega)
    sbuf data

/-- **A call before a `0xFF` of the payload**: the window behind that byte is rejected, and the
call ends behind the next copy of the byte, where the rest of the payload is left. -/
lemma GetRS232Motor33f_repeatStream_reject {hUSB : ℤ} (hh : hUSB ≠ 0) {p : Payload} {fuel : ℕ}
    (hfuel : 22 ≤ fuel) {pos : ℕ} {g l : List Byte} (hleft : LeftOf p pos (g ++ 255 :: l))
    (hg : (255 : Byte) ∉ g)
    (hwin : payloadOk (window (repeatStream p) (pos + g.length + 1)) = false)
    (sbuf : Vector Byte 30) (data : Telemetry longBits) :
    GetRS232Motor33f fuel hUSB (streamPort (repeatStream p)) sbuf data pos =
      some { telemetry := data, pos := pos + g.length + 22 + 1, accepted := none } := by
  have hhead : repeatStream p (pos + g.length) = 255 := by
    simpa using hleft.repeatStream_eq (i := g.length) (by simp)
  have hgarbage : segment (repeatStream p) pos g.length = g := by
    have h := hleft.segment_eq
    rw [List.length_append, segment_add] at h
    exact (List.append_inj h (length_segment _ _ _)).1
  have hseg : segment (repeatStream p) pos (g.length + 22) =
      g ++ 255 :: (window (repeatStream p) (pos + g.length + 1)).toList := by
    rw [segment_add, show (22 : ℕ) = 1 + 21 from rfl, segment_add _ (pos + g.length), hgarbage,
      toList_window]
    simp [segment, hhead]
  have hcopy : segment (repeatStream p) (pos + g.length + 22) 1 = [255] := by
    simpa [segment, hhead] using repeatStream_add p (pos + g.length) 1
  have hlen := hleft.length_le
  rw [List.length_append, List.length_cons] at hlen
  have hnil : (255 : Byte) ∉ ([] : List Byte) := by simp
  exact GetRS232Motor33f_reject hh hg hnil
    (hseg ▸ streamPort_delivers (repeatStream p) pos (g.length + 22))
    (hcopy ▸ streamPort_delivers (repeatStream p) (pos + g.length + 22) 1) hwin (by omega)
    (by simp; omega) sbuf data

/-- **Calls on a repeated frame**, where `l` is left of the payload: at most as many fail as there
are `0xFF` in `l`.

**Proof sketch.** Induction on the length of `l`. Without a `0xFF` in `l` the first call accepts and
the others start at a frame boundary. Otherwise the first call fails and leaves what stands behind
the first `0xFF` of `l`. -/
lemma callResults_repeatStream {hUSB : ℤ} (hh : hUSB ≠ 0) {p : Payload} (hp : payloadOk p = true)
    (hwin : ∀ i, i % 22 ≠ 0 → repeatStream p i = 255 →
      payloadOk (window (repeatStream p) (i + 1)) = false) {fuel : ℕ} (hfuel : 22 ≤ fuel)
    (l : List Byte) (locals : ℕ → Vector Byte 30) (data : Telemetry longBits) {pos : ℕ}
    (hleft : LeftOf p pos l) :
    ∃ j ≤ l.count 255, ∀ n, ∃ rs,
      callResults fuel hUSB (streamPort (repeatStream p)) n locals data pos = some rs ∧
        rs.length = n ∧ AcceptFrom p j rs := by
  induction hn : l.length using Nat.strong_induction_on generalizing l locals data pos with
  | _ len ih =>
    by_cases hl : (255 : Byte) ∈ l
    · obtain ⟨g, l', rfl, hg⟩ := List.eq_append_cons_of_mem hl
      have hrest : LeftOf p (pos + g.length + 22 + 1) l' := by
        have hafter := (List.append_cons g 255 l' ▸ hleft).of_append.add
        rwa [List.length_append, List.length_singleton, ← Nat.add_assoc,
          Nat.add_right_comm _ 1 22] at hafter
      have hfail : payloadOk (window (repeatStream p) (pos + g.length + 1)) = false := by
        refine hwin _ ?_ (by simpa using hleft.repeatStream_eq (i := g.length) (by simp))
        have hb := hleft.boundary
        have hlen := hleft.length_le
        rw [List.length_append, List.length_cons] at hb hlen
        omega
      obtain ⟨j, hj, hcalls⟩ := ih l'.length (by rw [← hn]; simp; omega) l'
        (fun k => locals (k + 1)) data hrest rfl
      have hcall := GetRS232Motor33f_repeatStream_reject hh hfuel hleft hg hfail (locals 0) data
      refine ⟨j + 1, ?_, exists_callResults_cons hcall (fun rs hrs => hrs.cons_none rfl) hcalls⟩
      rw [List.count_append, List.count_cons_self]
      omega
    · have hb : (pos + l.length + 22) % 22 = 0 := by
        rw [Nat.add_mod_right]
        exact hleft.boundary
      have hfuel' : 0 < fuel := by omega
      have hcall := GetRS232Motor33f_repeatStream_accept hh hp hfuel hleft hl (locals 0) data
      refine ⟨0, Nat.zero_le _, exists_callResults_cons hcall (fun rs hrs => hrs.cons_some rfl) ?_⟩
      intro n
      exact callResults_repeatStream_boundary hh hp hfuel' n _ _ hb

/-- **Recovery on a repeated frame.** Let the payload `p` have the right checksum and let no window
behind one of its `0xFF` bytes have it. From every place of the endless repetition of its frame, the
calls that accept nothing are at most as many as there are `0xFF` in `p`, they come first, and every
later call accepts `p`. -/
theorem repeatStream_recovers {hUSB : ℤ} (hh : hUSB ≠ 0) {p : Payload} (hp : payloadOk p = true)
    (hwin : ∀ i < 21, p[i]! = 255 → payloadOk (window (repeatStream p) (i + 2)) = false)
    {fuel : ℕ} (hfuel : 22 ≤ fuel) (locals : ℕ → Vector Byte 30) (data : Telemetry longBits)
    (pos : ℕ) :
    ∃ j ≤ p.toList.count 255, ∀ n, ∃ rs,
      callResults fuel hUSB (streamPort (repeatStream p)) n locals data pos = some rs ∧
        rs.length = n ∧ AcceptFrom p j rs := by
  have hwin' : ∀ i, i % 22 ≠ 0 → repeatStream p i = 255 →
      payloadOk (window (repeatStream p) (i + 1)) = false := by
    intro i hi hhead
    obtain ⟨t, ht⟩ := Nat.exists_eq_succ_of_ne_zero hi
    have ht21 : t < 21 := by omega
    have hcell : p[t]! = 255 := by
      rw [repeatStream, ht, List.getD_cons_succ] at hhead
      simpa [ht21] using hhead
    rw [← hwin t ht21 hcell, ← window_repeatStream_add p (t + 2) (i / 22)]
    congr 2
    omega
  obtain ⟨l, hleft⟩ := exists_leftOf p pos
  obtain ⟨j, hj, hcalls⟩ := callResults_repeatStream hh hp hwin' hfuel l locals data hleft
  exact ⟨j, hj.trans (hleft.suffix.sublist.count_le 255), hcalls⟩

/-- A payload with the right checksum and one `0xFF`, in the place of a voltage. -/
def oneHeaderPayload : Payload :=
  #v[0, 0, 255, 0, 0, 0, 0, 0, 0, 0, 0, 0, 0, 0, 0, 0, 0, 0, 0, 0x55, 0xE4]

/-- A decoder that starts in the middle of its frame fails at most once. -/
theorem repeatStream_recovers_oneHeaderPayload :
    ∃ j ≤ oneHeaderPayload.toList.count 255, ∀ n, ∃ rs,
      callResults 22 3 (streamPort (repeatStream oneHeaderPayload)) n
          (fun _ => Vector.replicate 30 0) (Telemetry.zero : Telemetry 32) 1 = some rs ∧
        rs.length = n ∧ AcceptFrom oneHeaderPayload j rs :=
  repeatStream_recovers (by decide) (by decide +kernel) (by decide +kernel) le_rfl _ _ 1

end Wifibot
