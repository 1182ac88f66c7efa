import Wifibot.RawServer.SerialDecoder
import Mathlib.Order.Monotone.Basic
import Mathlib.Tactic.Choose

set_option relaxedAutoImplicit false
set_option autoImplicit false

/-!
# The decoder on an arbitrary byte stream

The frames have no escaping, so on a stream of garbage the decoder resynchronises on bytes that
need not be headers. What it decodes is nevertheless always a window of 21 consecutive bytes after
a `0xFF` with the right checksum, and no byte is used twice.

## Main definitions

* `Wifibot.streamPort` — the port on which every read gives the next byte of a stream.
* `Wifibot.Returns`, `Wifibot.DecoderRun` — one call, and a run of successive calls.

## Main results

* `Wifibot.Returns.unique` — a call has one result, whatever fuel it was given.
* `Wifibot.decoder_sound` — every run on a stream with infinitely many `0xFF` bytes goes on for
  ever, and each call decodes a fresh window of the stream or changes nothing.
-/

namespace Wifibot

variable {longBits : ℕ}

/-! ## Fuel -/

/-- More fuel does not change what a scan gives. -/
lemma syncLoop_mono {hUSB : ℤ} {port : Port} {fuel fuel' : ℕ} (hle : fuel ≤ fuel')
    {st : ReadState} {r : ℤ × ReadState} (h : syncLoop hUSB port fuel st = some r) :
    syncLoop hUSB port fuel' st = some r := by
  induction fuel generalizing fuel' st with
  | zero => simp [syncLoop] at h
  | succ fuel ih =>
    obtain ⟨f, rfl⟩ : ∃ f, fuel' = f + 1 := ⟨fuel' - 1, by omega⟩
    rw [syncLoop, Option.bind_eq_some_iff] at h ⊢
    obtain ⟨⟨r', st'⟩, hread, hturn⟩ := h
    refine ⟨(r', st'), hread, ?_⟩
    dsimp only at hturn ⊢
    split_ifs at hturn ⊢
    · exact ih (by omega) hturn
    · exact hturn

/-- More fuel does not change what a call gives. -/
lemma GetRS232Motor33f_mono {hUSB : ℤ} {port : Port} {fuel fuel' : ℕ} (hle : fuel ≤ fuel')
    {sbuf : Vector Byte 30} {data : Telemetry longBits} {pos : ℕ} {r : CallResult longBits}
    (h : GetRS232Motor33f fuel hUSB port sbuf data pos = some r) :
    GetRS232Motor33f fuel' hUSB port sbuf data pos = some r := by
  simp only [GetRS232Motor33f, Option.bind_eq_some_iff] at h ⊢
  obtain ⟨a, hsync, st, hread, hrest⟩ := h
  refine ⟨a, syncLoop_mono hle hsync, st, hread, ?_⟩
  split_ifs at hrest ⊢
  · rw [Option.map_eq_some_iff] at hrest ⊢
    obtain ⟨b, hsync', hret⟩ := hrest
    exact ⟨b, syncLoop_mono hle hsync', hret⟩
  · exact hrest

/-- With some fuel, the call started in the state `s` returns in the state `s'`; a state is the
telemetry and the number of reads made. -/
def Returns (hUSB : ℤ) (port : Port) (sbuf : Vector Byte 30) (s s' : Telemetry longBits × ℕ) :
    Prop :=
  ∃ fuel r, GetRS232Motor33f fuel hUSB port sbuf s.1 s.2 = some r ∧ s' = (r.telemetry, r.pos)

/-- A call has at most one result. -/
lemma Returns.unique {hUSB : ℤ} {port : Port} {sbuf : Vector Byte 30}
    {s s₁ s₂ : Telemetry longBits × ℕ} (h₁ : Returns hUSB port sbuf s s₁)
    (h₂ : Returns hUSB port sbuf s s₂) : s₁ = s₂ := by
  obtain ⟨fuel₁, r₁, hr₁, rfl⟩ := h₁
  obtain ⟨fuel₂, r₂, hr₂, rfl⟩ := h₂
  have hm₁ := GetRS232Motor33f_mono (Nat.le_max_left fuel₁ fuel₂) hr₁
  have hm₂ := GetRS232Motor33f_mono (Nat.le_max_right fuel₁ fuel₂) hr₂
  rw [hm₁] at hm₂
  rw [Option.some.inj hm₂]

/-- The states before and after successive calls; `locals k` is what the local buffer of call `k`
holds when it starts. -/
def DecoderRun (hUSB : ℤ) (port : Port) (locals : ℕ → Vector Byte 30)
    (st : ℕ → Telemetry longBits × ℕ) : Prop :=
  ∀ k, Returns hUSB port (locals k) (st k) (st (k + 1))

/-! ## Streams -/

/-- The port of a stream on which every read succeeds. -/
def streamPort (f : ℕ → Byte) : Port := fun i => some (.byte (f i))

/-- The 21 bytes of the stream from `p` on. -/
def window (f : ℕ → Byte) (p : ℕ) : Payload := Vector.ofFn fun i => f (p + i)

/-- The bytes of the stream from `pos` on, `k` of them. -/
def segment (f : ℕ → Byte) (pos k : ℕ) : List Byte := (List.range k).map fun i => f (pos + i)

@[simp] lemma length_segment (f : ℕ → Byte) (pos k : ℕ) : (segment f pos k).length = k := by
  simp [segment]

/-- A stream's port delivers the stream's bytes. -/
lemma streamPort_delivers (f : ℕ → Byte) (pos k : ℕ) :
    (streamPort f).Delivers pos (segment f pos k) := by
  intro i b hb
  obtain ⟨hi, rfl⟩ := List.getElem?_eq_some_iff.mp hb
  simp [segment, streamPort]

/-- A segment in two parts. -/
lemma segment_add (f : ℕ → Byte) (pos j k : ℕ) :
    segment f pos (j + k) = segment f pos j ++ segment f (pos + j) k := by
  simp [segment, List.range_add, Nat.add_assoc]

/-- A segment of 21 bytes is a window. -/
lemma toList_window (f : ℕ → Byte) (p : ℕ) : (window f p).toList = segment f p 21 := by
  apply List.ext_getElem
  · simp
  · intro i h₁ h₂
    simp [window, segment]

/-- From any place on, a stream with infinitely many headers has a next one. -/
lemma exists_next_header {f : ℕ → Byte} (hf : ∀ N, ∃ i, N ≤ i ∧ f i = 255) (pos : ℕ) :
    ∃ k, (255 : Byte) ∉ segment f pos k ∧ f (pos + k) = 255 := by
  have hex : ∃ k, f (pos + k) = 255 := by
    obtain ⟨i, hi, hfi⟩ := hf pos
    exact ⟨i - pos, by rwa [Nat.add_sub_of_le hi]⟩
  refine ⟨Nat.find hex, fun hmem => ?_, Nat.find_spec hex⟩
  simp only [segment, List.mem_map, List.mem_range] at hmem
  obtain ⟨i, hi, hfi⟩ := hmem
  exact Nat.find_min hex hi hfi

/-- What a call on a stream does: it decodes the window after a header at `h`, or changes
nothing. -/
def CallSound (f : ℕ → Byte) (s s' : Telemetry longBits × ℕ) : Option ℕ → Prop
  | some h => s.2 ≤ h ∧ f h = 255 ∧ h + 22 ≤ s'.2 ∧ payloadOk (window f (h + 1)) = true ∧
      s'.1 = decodePayload longBits (window f (h + 1))
  | none => s'.1 = s.1 ∧ s.2 ≤ s'.2

/-- **One call** on a stream with infinitely many headers returns, and is sound.

**Proof sketch.** The scan stops at the next header and the window after it is read. If its
checksum is right the call decodes it. If not, the scan of the failure branch stops at the next
header after the window and nothing was changed. -/
lemma exists_returns_sound {hUSB : ℤ} (hh : hUSB ≠ 0) {f : ℕ → Byte}
    (hf : ∀ N, ∃ i, N ≤ i ∧ f i = 255) (sbuf : Vector Byte 30) (s : Telemetry longBits × ℕ) :
    ∃ s' h, Returns hUSB (streamPort f) sbuf s s' ∧ CallSound f s s' h := by
  obtain ⟨data, pos⟩ := s
  obtain ⟨k, hk, hhead⟩ := exists_next_header hf pos
  have hseg : segment f pos (k + 22) =
      segment f pos k ++ 255 :: (window f (pos + k + 1)).toList := by
    rw [segment_add, show (22 : ℕ) = 1 + 21 from rfl, segment_add f (pos + k), toList_window]
    simp [segment, hhead]
  have hdel : (streamPort f).Delivers pos
      (segment f pos k ++ 255 :: (window f (pos + k + 1)).toList) :=
    hseg ▸ streamPort_delivers f pos (k + 22)
  cases hok : payloadOk (window f (pos + k + 1)) with
  | true =>
    have hcall := GetRS232Motor33f_accept hh hk hdel hok
      (Nat.lt_succ_self _) sbuf data
    rw [length_segment] at hcall
    exact ⟨_, some (pos + k), ⟨_, _, hcall, rfl⟩, Nat.le_add_right _ _, hhead, le_rfl, hok, rfl⟩
  | false =>
    obtain ⟨k', hk', hhead'⟩ := exists_next_header hf (pos + k + 22)
    have hdel' : (streamPort f).Delivers (pos + (segment f pos k).length + 22)
        (segment f (pos + k + 22) k' ++ [255]) := by
      have hseg' := segment_add f (pos + k + 22) k' 1
      rw [show segment f (pos + k + 22 + k') 1 = [255] by simp [segment, hhead']] at hseg'
      rw [length_segment, ← hseg']
      exact streamPort_delivers f _ _
    have hfuel : (segment f pos k).length < k + k' + 1 := by
      rw [length_segment]
      omega
    have hfuel' : (segment f (pos + k + 22) k').length < k + k' + 1 := by
      rw [length_segment]
      omega
    have hcall := GetRS232Motor33f_reject hh hk hk' hdel hdel' hok hfuel hfuel' sbuf data
    refine ⟨_, none, ⟨_, _, hcall, rfl⟩, rfl, ?_⟩
    simp only [length_segment]
    omega

/-- Every step of a run on such a stream is sound. -/
lemma DecoderRun.sound {hUSB : ℤ} (hh : hUSB ≠ 0) {f : ℕ → Byte}
    (hf : ∀ N, ∃ i, N ≤ i ∧ f i = 255) {locals : ℕ → Vector Byte 30}
    {st : ℕ → Telemetry longBits × ℕ} (hrun : DecoderRun hUSB (streamPort f) locals st) (k : ℕ) :
    ∃ h, CallSound f (st k) (st (k + 1)) h := by
  obtain ⟨s', h, hret, hsound⟩ := exists_returns_sound hh hf (locals k) (st k)
  rw [(hrun k).unique hret]
  exact ⟨h, hsound⟩

/-- A sound step does not go back on the stream. -/
lemma CallSound.pos_le {f : ℕ → Byte} {s s' : Telemetry longBits × ℕ} {h : Option ℕ}
    (hs : CallSound f s s' h) : s.2 ≤ s'.2 := by
  cases h with
  | none => exact hs.2
  | some h => exact hs.1.trans ((Nat.le_add_right h 22).trans hs.2.2.1)

/-- **Soundness of the decoder.** On every stream with infinitely many `0xFF` bytes, successive
calls go on for ever. Each call either decodes a window of 21 stream bytes after a header, with
the right checksum, and leaves it in `buffso_Raw_Data_Out`, or changes nothing; and the windows of
different calls are disjoint and in stream order.

**Proof sketch.** Each step is sound by `exists_returns_sound`. The position never goes back along
the run, so a later call's header lies after an earlier call's window. -/
theorem decoder_sound {hUSB : ℤ} (hh : hUSB ≠ 0) {f : ℕ → Byte}
    (hf : ∀ N, ∃ i, N ≤ i ∧ f i = 255) (locals : ℕ → Vector Byte 30)
    (start : Telemetry longBits × ℕ) :
    (∃ st, st 0 = start ∧ DecoderRun hUSB (streamPort f) locals st) ∧
      ∀ st, st 0 = start → DecoderRun hUSB (streamPort f) locals st →
        ∃ header : ℕ → Option ℕ,
          (∀ k, match header k with
            | some h => (st k).2 ≤ h ∧ f h = 255 ∧ payloadOk (window f (h + 1)) = true ∧
                (st (k + 1)).1 = decodePayload longBits (window f (h + 1)) ∧
                (st (k + 1)).1.buffso_Raw_Data_Out = window f (h + 1)
            | none => (st (k + 1)).1 = (st k).1) ∧
          ∀ j k h h', j < k → header j = some h → header k = some h' → h + 22 ≤ h' := by
  constructor
  · choose nxt hnxt using fun k (s : Telemetry longBits × ℕ) =>
      exists_returns_sound hh hf (locals k) s
    refine ⟨fun k => Nat.rec start nxt k, rfl, fun k => ?_⟩
    obtain ⟨h, hret, -⟩ := hnxt k (Nat.rec start nxt k)
    exact hret
  · intro st _ hrun
    choose header hsound using fun k => hrun.sound hh hf k
    have hmono : Monotone fun k => (st k).2 := monotone_nat_of_le_succ fun k => (hsound k).pos_le
    refine ⟨header, fun k => ?_, fun j k h h' hjk hj hk => ?_⟩
    · have hk := hsound k
      cases hh' : header k with
      | none =>
        rw [hh'] at hk
        exact hk.1
      | some h =>
        rw [hh'] at hk
        obtain ⟨hle, hhead, -, hok, hdata⟩ := hk
        exact ⟨hle, hhead, hok, hdata, by rw [hdata]; rfl⟩
    · have hsj := hsound j
      have hsk := hsound k
      rw [hj] at hsj
      rw [hk] at hsk
      calc h + 22 ≤ (st (j + 1)).2 := hsj.2.2.1
        _ ≤ (st k).2 := hmono hjk
        _ ≤ h' := hsk.1

/-- Three bytes of noise and the frame of a robot at rest, over and over. -/
def noisyStream (i : ℕ) : Byte := ([0x12, 0x34, 0x56, 255] ++ restPayload.toList).getD (i % 25) 0

/-- Headers come for ever. -/
lemma noisyStream_header (N : ℕ) : noisyStream (25 * N + 3) = 255 := by
  rw [noisyStream, Nat.mul_add_mod]
  rfl

/-- The first call accepts the first frame. -/
lemma returns_noisyStream (sbuf : Vector Byte 30) (data : Telemetry longBits) :
    Returns 3 (streamPort noisyStream) sbuf (data, 0) (decodePayload longBits restPayload, 25) := by
  have hsegment : segment noisyStream 0 25 =
      [0x12, 0x34, 0x56] ++ 255 :: restPayload.toList := by decide +kernel
  have hdel : (streamPort noisyStream).Delivers 0
      ([0x12, 0x34, 0x56] ++ 255 :: restPayload.toList) :=
    hsegment ▸ streamPort_delivers noisyStream 0 25
  exact ⟨_, _, GetRS232Motor33f_accept (by decide) (by decide) hdel payloadOk_restPayload
    (Nat.lt_succ_self 3) sbuf data, rfl⟩

/-- The calls on it go on for ever, and the first of them accepts the first frame. -/
theorem decoder_sound_noisyStream :
    ∃ (st : ℕ → Telemetry 32 × ℕ) (header : ℕ → Option ℕ),
      st 0 = (Telemetry.zero, 0) ∧
      DecoderRun 3 (streamPort noisyStream) (fun _ => Vector.replicate 30 0) st ∧
      (header 0).isSome = true ∧ (st 1).1.buffso_Raw_Data_Out = restPayload ∧
      (∀ k, match header k with
        | some h => (st k).2 ≤ h ∧ noisyStream h = 255 ∧
            payloadOk (window noisyStream (h + 1)) = true ∧
            (st (k + 1)).1 = decodePayload 32 (window noisyStream (h + 1)) ∧
            (st (k + 1)).1.buffso_Raw_Data_Out = window noisyStream (h + 1)
        | none => (st (k + 1)).1 = (st k).1) ∧
      ∀ j k h h', j < k → header j = some h → header k = some h' → h + 22 ≤ h' := by
  have hUSB : (3 : ℤ) ≠ 0 := by decide
  have hheaders : ∀ N, ∃ i, N ≤ i ∧ noisyStream i = 255 :=
    fun N => ⟨25 * N + 3, by omega, noisyStream_header N⟩
  obtain ⟨⟨st, hstart, hrun⟩, hsound⟩ := decoder_sound hUSB hheaders
    (fun _ => Vector.replicate 30 0) ((Telemetry.zero : Telemetry 32), 0)
  obtain ⟨header, hheader, hdisjoint⟩ := hsound st hstart hrun
  have hfirst : (st 1).1.buffso_Raw_Data_Out = restPayload := by
    have hreturns := hrun 0
    rw [hstart] at hreturns
    rw [hreturns.unique (returns_noisyStream _ _)]
    rfl
  refine ⟨st, header, hstart, hrun, ?_, hfirst, hheader, hdisjoint⟩
  cases h : header 0 with
  | some p => rfl
  | none =>
    have hsame := hheader 0
    rw [h] at hsame
    rw [hsame, hstart] at hfirst
    exact absurd hfirst (by decide)

end Wifibot
