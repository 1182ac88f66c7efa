import Wifibot.RawServer.Resync

set_option relaxedAutoImplicit false
set_option autoImplicit false

/-!
# The decoder on a stream of good frames

The frames have no escaping, and a payload may hold any number of `0xFF` bytes. A decoder that
starts at a frame boundary never scans inside a payload: each call takes the header, takes the 21
bytes of the payload without looking at them, and ends at the next boundary.

## Main definitions

* `Wifibot.callResults` — the results of a number of successive calls.

## Main results

* `Wifibot.aligned_stream` — on good frames the calls accept each payload in turn, 22 bytes a call.
-/

namespace Wifibot

variable {longBits : ℕ}

/-- The results of `n` successive calls, `none` when one of them does not return; `locals k` is what
the local buffer of call `k` holds when it starts. -/
def callResults (fuel : ℕ) (hUSB : ℤ) (port : Port) :
    ℕ → (ℕ → Vector Byte 30) → Telemetry longBits → ℕ → Option (List (CallResult longBits))
  | 0, _, _, _ => some []
  | n + 1, locals, data, pos =>
    (GetRS232Motor33f fuel hUSB port (locals 0) data pos).bind fun r =>
      (callResults fuel hUSB port n (fun k => locals (k + 1)) r.telemetry r.pos).map (r :: ·)

/-- The results of calls that accept the payloads `ps`, each from one frame boundary to the
next. -/
def alignedResults (longBits : ℕ) : List Payload → ℕ → List (CallResult longBits)
  | [], _ => []
  | p :: ps, pos =>
    { telemetry := decodePayload longBits p, pos := pos + 22, accepted := some p } ::
      alignedResults longBits ps (pos + 22)

/-- There is a result for each payload. -/
lemma length_alignedResults (ps : List Payload) (pos : ℕ) :
    (alignedResults longBits ps pos).length = ps.length := by
  induction ps generalizing pos with
  | nil => rfl
  | cons p ps ih => rw [alignedResults, List.length_cons, List.length_cons, ih]

/-- The result of call `k`. -/
lemma getElem?_alignedResults (ps : List Payload) (pos k : ℕ) (hk : k < ps.length) :
    (alignedResults longBits ps pos)[k]? =
      some { telemetry := decodePayload longBits ps[k], pos := pos + 22 * (k + 1),
             accepted := some ps[k] } := by
  induction ps generalizing pos k with
  | nil => exact absurd hk (Nat.not_lt_zero k)
  | cons p ps ih =>
    cases k with
    | zero => rfl
    | succ k =>
      rw [alignedResults, List.getElem?_cons_succ, ih (pos + 22) k (Nat.lt_of_succ_lt_succ hk),
        List.getElem_cons_succ, show pos + 22 + 22 * (k + 1) = pos + 22 * (k + 1 + 1) by omega]

/-- **The first call** at a frame boundary accepts the frame and ends at the next boundary. -/
lemma GetRS232Motor33f_aligned {hUSB : ℤ} (hh : hUSB ≠ 0) {port : Port} {p : Payload}
    {ps : List Payload} {pos : ℕ} (hdel : port.Delivers pos (frameBytes (p :: ps)))
    (hp : payloadOk p = true) {fuel : ℕ} (hfuel : 0 < fuel) (sbuf : Vector Byte 30)
    (data : Telemetry longBits) :
    GetRS232Motor33f fuel hUSB port sbuf data pos =
        some { telemetry := decodePayload longBits p, pos := pos + 22, accepted := some p } ∧
      port.Delivers (pos + 22) (frameBytes ps) := by
  have hnil : (255 : Byte) ∉ ([] : List Byte) := by simp
  obtain ⟨hframe, hrest⟩ := (delivers_frame_iff (g := [])).mp hdel
  exact ⟨GetRS232Motor33f_accept hh hnil hframe hp hfuel sbuf data, hrest⟩

/-- Successive calls at a frame boundary.

**Proof sketch.** Induction on the frames: a call leaves the port at the boundary where the rest of
the frames begins. -/
lemma callResults_aligned {hUSB : ℤ} (hh : hUSB ≠ 0) {port : Port} {ps : List Payload}
    (hps : ∀ p ∈ ps, payloadOk p = true) {fuel : ℕ} (hfuel : 0 < fuel)
    (locals : ℕ → Vector Byte 30) (data : Telemetry longBits) {pos : ℕ}
    (hdel : port.Delivers pos (frameBytes ps)) :
    callResults fuel hUSB port ps.length locals data pos =
      some (alignedResults longBits ps pos) := by
  induction ps generalizing locals data pos with
  | nil => rfl
  | cons p ps ih =>
    obtain ⟨hcall, hrest⟩ :=
      GetRS232Motor33f_aligned hh hdel (hps p (by simp)) hfuel (locals 0) data
    have htail := ih (fun q hq => hps q (List.mem_cons_of_mem p hq)) (fun k => locals (k + 1))
      (decodePayload longBits p) hrest
    rw [List.length_cons, callResults, hcall, Option.bind_some, htail]
    rfl

/-- **A stream of good frames.** Whatever bytes the payloads hold, if each has the right checksum
and the port delivers their frames from `pos` on, then as many calls as there are frames return,
and call `k` reads 22 bytes, accepts payload `k` and leaves it in `buffso_Raw_Data_Out`. -/
theorem aligned_stream {hUSB : ℤ} (hh : hUSB ≠ 0) {port : Port} {ps : List Payload}
    (hps : ∀ p ∈ ps, payloadOk p = true) {pos : ℕ} (hdel : port.Delivers pos (frameBytes ps))
    {fuel : ℕ} (hfuel : 0 < fuel) (locals : ℕ → Vector Byte 30) (data : Telemetry longBits) :
    ∃ rs, callResults fuel hUSB port ps.length locals data pos = some rs ∧
      rs.length = ps.length ∧
      ∀ k (hk : k < ps.length), ∃ r, rs[k]? = some r ∧
        r.pos = pos + 22 * (k + 1) ∧ r.accepted = some ps[k] ∧
        r.telemetry = decodePayload longBits ps[k] ∧
        r.telemetry.buffso_Raw_Data_Out = ps[k] :=
  ⟨_, callResults_aligned hh hps hfuel locals data hdel, length_alignedResults ps pos,
    fun k hk => ⟨_, getElem?_alignedResults ps pos k hk, rfl, rfl, rfl, rfl⟩⟩

/-- A payload of header bytes with the right checksum. -/
def headersPayload : Payload :=
  #v[255, 255, 255, 255, 255, 255, 255, 255, 255, 255, 255, 255, 255, 255, 255, 255, 255, 255, 255,
    0x31, 0xB0]

lemma payloadOk_headersPayload : payloadOk headersPayload = true := by decide +kernel

/-- Frames full of header bytes are decoded in step. -/
theorem aligned_stream_headersPayload :
    ∃ rs, callResults 1 3 (bytesPort (frameBytes [headersPayload, restPayload, headersPayload])) 3
        (fun _ => Vector.replicate 30 0) (Telemetry.zero : Telemetry 32) 0 = some rs ∧
      rs.length = 3 ∧
      ∀ k (hk : k < [headersPayload, restPayload, headersPayload].length),
        ∃ r, rs[k]? = some r ∧
          r.pos = 0 + 22 * (k + 1) ∧
          r.accepted = some [headersPayload, restPayload, headersPayload][k] ∧
          r.telemetry = decodePayload 32 [headersPayload, restPayload, headersPayload][k] ∧
          r.telemetry.buffso_Raw_Data_Out = [headersPayload, restPayload, headersPayload][k] := by
  refine aligned_stream (by decide) (fun p hp => ?_) (bytesPort_delivers _) (by decide) _ _
  simp only [List.mem_cons, List.not_mem_nil, or_false] at hp
  rcases hp with rfl | rfl | rfl
  · exact payloadOk_headersPayload
  · exact payloadOk_restPayload
  · exact payloadOk_headersPayload

end Wifibot
