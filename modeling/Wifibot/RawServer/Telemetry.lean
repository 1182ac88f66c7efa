import Wifibot.RawServer.Command

set_option relaxedAutoImplicit false
set_option autoImplicit false

/-!
# What a TCP client sees of the robot

Every command of a TCP client is answered with `buffso_Raw_Data_Out`, which the serial decoder
fills and `Thread_TCP_Trooper_Out` clears at the start of each turn of its loop, whatever the turn
before was about. So an answer is the last payload accepted since the last turn, and zero bytes if
there is none.

## Main definitions

* `Wifibot.relay` — the abstract service: a command is answered with the last payload accepted.
* `Wifibot.lastAccepted`, `Wifibot.sinceRequest` — the payload it holds, and the part of a run after
  the last telemetry request.
* `Wifibot.AnswersRight` — each answer of a run is the last payload accepted.
* `Wifibot.ClearedSince`, `Wifibot.NoCommandWhenCleared` — a turn has come since the last payload,
  and no command comes then.

## Main results

* `Wifibot.out_run` — what the server holds after a run.
* `Wifibot.tcp_answers_iff` — the runs whose answers are right, and the pairs of runs that differ
  in their telemetry requests only and give the client the same answers.
-/

namespace Wifibot

variable {longBits : ℕ}

/-- The abstract service: a command is answered with the last payload accepted from the robot. -/
def relay : Machine Payload Event (List Byte) where
  step last
    | .robot sbuf => (if payloadOk sbuf then sbuf else last, [])
    | .tcpRecv r => (last, if r.size 9 < 1 then [] else [last.toList])
    | _ => (last, [])

/-- The last payload accepted in a run, zero bytes before the first. -/
def lastAccepted (es : List Event) : Payload := relay.run (Vector.replicate 21 0) es

/-- The event is not a telemetry request. -/
def notRequest : Event → Bool
  | .trooperOut _ => false
  | _ => true

/-- The events after the last telemetry request. -/
def sinceRequest (es : List Event) : List Event := (es.reverse.takeWhile notRequest).reverse

/-- What is sent to the TCP client. -/
def Output.toTcp : Output → Option (List Byte)
  | .tcp bytes => some bytes
  | _ => none

/-- The answers to the TCP client in a run of the server. -/
def tcpAnswers (s : State longBits) (es : List Event) : List (List Byte) :=
  ((server longBits).outputs s es).filterMap Output.toTcp

/-- **Right answers**: each answer to the TCP client is the last payload accepted from the robot. -/
def AnswersRight (s : State longBits) (es : List Event) : Prop :=
  ∀ pre e post bytes, es = pre ++ e :: post →
    .tcp bytes ∈ (server longBits).emit ((server longBits).run s pre) e →
      bytes = (lastAccepted pre).toList

/-- The event is a payload that the decoder accepts. -/
def accepts : Event → Bool
  | .robot sbuf => payloadOk sbuf
  | _ => false

/-- A payload was accepted, and after the last one `Thread_TCP_Trooper_Out` went round its loop. -/
def ClearedSince (es : List Event) : Prop :=
  ∃ pre sbuf post, es = pre ++ .robot sbuf :: post ∧ payloadOk sbuf = true ∧
    (∀ e ∈ post, accepts e = false) ∧ ∃ r, .trooperOut r ∈ post

/-- No `recv` of the run brings bytes at such a time. -/
def NoCommandWhenCleared (es : List Event) : Prop :=
  ∀ pre r post, es = pre ++ .tcpRecv r :: post → 1 ≤ r.size 9 → ¬ ClearedSince pre

/-- One more event after the last request. -/
lemma sinceRequest_concat (es : List Event) (e : Event) :
    sinceRequest (es ++ [e]) = if notRequest e then sinceRequest es ++ [e] else [] := by
  rw [sinceRequest, List.reverse_append, List.reverse_singleton, List.singleton_append,
    List.takeWhile_cons]
  split_ifs
  · rw [List.reverse_cons, sinceRequest]
  · rfl

/-- **What a step does to the telemetry**: a request clears it, and otherwise it is that of the
abstract service. -/
lemma out_next (s : State longBits) (e : Event) :
    ((server longBits).next s e).buffso_Raw_Data_Out =
      if notRequest e then relay.next s.buffso_Raw_Data_Out e else Vector.replicate 21 0 := by
  cases e with
  | trooperOut r =>
    obtain ⟨_, _, h⟩ := next_trooperOut s r
    rw [h]
    rfl
  | driveraw => rfl
  | robot sbuf =>
    simp only [Machine.next, server, robotPayload, relay, notRequest]
    split_ifs <;> rfl
  | _ =>
    simp only [Machine.next, server, Thread_TCP, Thread_TCP_Trooper_In, Thread_Dog, mainKey, relay,
      notRequest]
    split_ifs <;> rfl

/-- What a step sends to the TCP client is what the abstract service would send from the telemetry
as it stands. -/
lemma filterMap_emit {s : State longBits} (hs : s.debug = 0) (e : Event) :
    ((server longBits).emit s e).filterMap Output.toTcp =
      relay.emit s.buffso_Raw_Data_Out e := by
  cases e with
  | tcpRecv r =>
    simp only [Machine.emit, server, Thread_TCP, relay, hs]
    split_ifs <;> rfl
  | trooperOut r =>
    simp only [Machine.emit, server, Thread_TCP_Trooper_Out, trooperOutReply, relay]
    split_ifs <;> rfl
  | driveraw =>
    simp only [Machine.emit, server, driveraw, relay]
    split_ifs <;> rfl
  | _ =>
    simp only [Machine.emit, server, Thread_TCP_Trooper_In, Thread_Dog, mainKey, robotPayload,
      relay]
    split_ifs <;> rfl

/-- **What the server holds after a run**: the last payload accepted since the last telemetry
request. -/
lemma out_run (debug hUSB1 : ℤ) (es : List Event) :
    ((server longBits).run (State.start debug hUSB1) es).buffso_Raw_Data_Out =
      lastAccepted (sinceRequest es) := by
  induction es using List.reverseRecOn with
  | nil => rfl
  | append_singleton es e ih =>
    rw [Machine.run_append, Machine.run_cons, Machine.run_nil, out_next, ih, sinceRequest_concat]
    split_ifs
    · rw [lastAccepted, lastAccepted, Machine.run_append]
      rfl
    · rfl

/-! ## The last payload and the last request -/

/-- What is not accepted does not change what the service holds. -/
lemma relay_run_of_not_accepts {es : List Event} (h : ∀ e ∈ es, accepts e = false) (p : Payload) :
    relay.run p es = p := by
  induction es with
  | nil => rfl
  | cons e es ih =>
    have hnext : relay.next p e = p := by
      have he := h e List.mem_cons_self
      cases e with
      | robot sbuf => exact if_neg (by simpa [accepts] using he)
      | _ => rfl
    rw [Machine.run_cons, hnext]
    exact ih fun e he => h e (List.mem_cons_of_mem _ he)

/-- The last payload accepted. -/
lemma lastAccepted_of_accepted {sbuf : Payload} (hp : payloadOk sbuf = true) (pre : List Event)
    {post : List Event} (hpost : ∀ e ∈ post, accepts e = false) :
    lastAccepted (pre ++ .robot sbuf :: post) = sbuf := by
  rw [lastAccepted, Machine.run_append, Machine.run_cons, relay_run_of_not_accepts hpost]
  exact if_pos hp

/-- Either none was accepted, or one was the last. -/
lemma exists_last_accepted (es : List Event) :
    (∀ e ∈ es, accepts e = false) ∨ ∃ pre sbuf post, es = pre ++ .robot sbuf :: post ∧
      payloadOk sbuf = true ∧ ∀ e ∈ post, accepts e = false := by
  induction es using List.reverseRecOn with
  | nil => exact Or.inl nofun
  | append_singleton es e ih =>
    cases he : accepts e with
    | true =>
      cases e with
      | robot sbuf => exact Or.inr ⟨es, sbuf, [], rfl, he, nofun⟩
      | _ => cases he
    | false =>
      refine ih.imp (fun h d hd => ?_) ?_
      · rcases List.mem_append.mp hd with hd | hd
        · exact h d hd
        · exact List.mem_singleton.mp hd ▸ he
      · rintro ⟨pre, sbuf, post, rfl, hp, hpost⟩
        refine ⟨pre, sbuf, post ++ [e], by simp, hp, fun d hd => ?_⟩
        rcases List.mem_append.mp hd with hd | hd
        · exact hpost d hd
        · exact List.mem_singleton.mp hd ▸ he

/-- Events without a request come after the last one of those before them. -/
lemma sinceRequest_append {es : List Event} (h : ∀ e ∈ es, notRequest e = true)
    (pre : List Event) : sinceRequest (pre ++ es) = sinceRequest pre ++ es := by
  rw [sinceRequest, List.reverse_append,
    List.takeWhile_append_of_pos fun e he => h e (List.mem_reverse.mp he), List.reverse_append,
    List.reverse_reverse, sinceRequest]

/-- The last request among some events is not before them. -/
lemma mem_of_mem_sinceRequest_append {es : List Event} {r : Received} (h : .trooperOut r ∈ es)
    (pre : List Event) {e : Event} (he : e ∈ sinceRequest (pre ++ es)) : e ∈ es := by
  induction es using List.reverseRecOn with
  | nil => cases h
  | append_singleton es d ih =>
    rw [← List.append_assoc, sinceRequest_concat] at he
    split_ifs at he with hd
    · have hmem : .trooperOut r ∈ es := by
        rcases List.mem_append.mp h with h | h
        · exact h
        · rw [← List.mem_singleton.mp h] at hd
          cases hd
      exact List.mem_append.mpr ((List.mem_append.mp he).imp (ih hmem) id)
    · cases he

/-- **When the payload is still there**: what was accepted since the last request is the last
payload accepted iff no request has come since that. -/
lemma lastAccepted_sinceRequest_iff (es : List Event) :
    lastAccepted (sinceRequest es) = lastAccepted es ↔ ¬ ClearedSince es := by
  constructor
  · rintro h ⟨pre, sbuf, post, rfl, hp, hpost, r, hr⟩
    have hsince : lastAccepted (sinceRequest (pre ++ .robot sbuf :: post)) =
        Vector.replicate 21 0 := by
      refine relay_run_of_not_accepts (fun e he => hpost e ?_) _
      rw [← List.singleton_append, ← List.append_assoc] at he
      exact mem_of_mem_sinceRequest_append hr _ he
    rw [hsince, lastAccepted_of_accepted hp pre hpost] at h
    rw [← h, payloadOk_zero] at hp
    cases hp
  · intro h
    rcases exists_last_accepted es with hnone | ⟨pre, sbuf, post, rfl, hp, hpost⟩
    · have hsub : ∀ e ∈ sinceRequest es, accepts e = false := fun e he =>
        hnone e (List.mem_reverse.mp
          ((List.takeWhile_prefix _).subset (List.mem_reverse.mp he)))
      rw [lastAccepted, lastAccepted, relay_run_of_not_accepts hnone,
        relay_run_of_not_accepts hsub]
    · have hquiet : ∀ e ∈ Event.robot sbuf :: post, notRequest e = true := by
        intro e he
        rcases List.mem_cons.mp he with rfl | he
        · rfl
        · cases e with
          | trooperOut r => exact absurd ⟨pre, sbuf, post, rfl, hp, hpost, r, he⟩ h
          | _ => rfl
      rw [sinceRequest_append hquiet, lastAccepted_of_accepted hp _ hpost,
        lastAccepted_of_accepted hp _ hpost]

/-! ## The answers -/

/-- An answer depends on whether bytes were received, and on what the service holds. -/
lemma relay_emit_eq_iff (p q : Payload) (e : Event) :
    relay.emit p e = relay.emit q e ↔ ∀ r, e = .tcpRecv r → 1 ≤ r.size 9 → p = q := by
  cases e with
  | tcpRecv r =>
    simp only [Machine.emit, relay, Event.tcpRecv.injEq, forall_eq']
    split_ifs with hr
    · exact ⟨fun _ h => absurd h (by omega), fun _ => rfl⟩
    · simp [Vector.toList_inj, show 1 ≤ r.size 9 by omega]
  | _ => exact ⟨fun _ r h => by simp at h, fun _ => rfl⟩

/-- **What is sent at a step** of a run is right iff it is no command that comes when the payload
was cleared. -/
lemma emit_toTcp_iff (hUSB1 : ℤ) (es : List Event) :
    (∀ pre e post, es = pre ++ e :: post →
      ((server longBits).emit ((server longBits).run (State.start 0 hUSB1) pre) e).filterMap
        Output.toTcp = relay.emit (lastAccepted pre) e) ↔ NoCommandWhenCleared es := by
  constructor
  · intro h pre r post hes hr
    have hpre := h pre (.tcpRecv r) post hes
    rw [filterMap_emit (debug_run _ _), out_run, relay_emit_eq_iff] at hpre
    exact (lastAccepted_sinceRequest_iff pre).mp (hpre r rfl hr)
  · intro h pre e post hes
    rw [filterMap_emit (debug_run _ _), out_run, relay_emit_eq_iff]
    rintro r rfl hr
    exact (lastAccepted_sinceRequest_iff pre).mpr (h pre r post hes hr)

/-- The answers of a run are right iff they are those of the abstract service, step by step. -/
lemma answersRight_iff (hUSB1 : ℤ) (es : List Event) :
    AnswersRight (State.start 0 hUSB1 : State longBits) es ↔ NoCommandWhenCleared es := by
  rw [← @emit_toTcp_iff longBits hUSB1]
  have hmem : ∀ (s : State longBits) e bytes, .tcp bytes ∈ (server longBits).emit s e ↔
      bytes ∈ ((server longBits).emit s e).filterMap Output.toTcp := by
    intro s e bytes
    rw [List.mem_filterMap]
    refine ⟨fun h => ⟨_, h, rfl⟩, ?_⟩
    rintro ⟨o, ho, heq⟩
    cases o with
    | tcp b => exact Option.some.inj heq ▸ ho
    | _ => cases heq
  refine forall₃_congr fun pre e post => ⟨fun h hes => ?_, fun h bytes hes hbytes => ?_⟩
  · rw [filterMap_emit (debug_run _ _), relay_emit_eq_iff]
    rintro r rfl hr
    have hsent := h (((server longBits).run (State.start 0 hUSB1) pre).buffso_Raw_Data_Out.toList)
      hes (by
        rw [hmem, filterMap_emit (debug_run _ _)]
        simp [Machine.emit, relay, show ¬ r.size 9 < 1 by omega])
    exact Vector.toList_inj.mp hsent
  · rw [hmem, h hes] at hbytes
    cases e with
    | tcpRecv r =>
      simp only [Machine.emit, relay] at hbytes
      split_ifs at hbytes
      · cases hbytes
      · exact List.mem_singleton.mp hbytes
    | _ => cases hbytes

/-- The answers of a run are those of the abstract service iff no command comes when the payload was
cleared. -/
lemma tcpAnswers_eq_iff (hUSB1 : ℤ) (es : List Event) :
    tcpAnswers (State.start 0 hUSB1 : State longBits) es =
        relay.outputs (Vector.replicate 21 0) es ↔ NoCommandWhenCleared es := by
  rw [← @emit_toTcp_iff longBits hUSB1]
  refine (server longBits).filterMap_outputs_eq_iff fun pre e post _ => ?_
  rw [filterMap_emit (debug_run _ _)]
  cases e with
  | tcpRecv r =>
    simp only [Machine.emit, relay]
    split_ifs <;> rfl
  | _ => rfl

/-- **When the TCP client is answered right.** In a run of the raw server each answer is the last
payload accepted from the robot iff no command comes at a time when `Thread_TCP_Trooper_Out` has
gone round its loop since that payload. And if two runs differ in their telemetry requests only and
one of them is without such commands, the client gets the same answers iff the other is too.

**Proof sketch.** The server holds what was accepted since the last request, and that is no payload,
since zero bytes are not accepted. The abstract service does nothing at a request. -/
theorem tcp_answers_iff (hUSB1 : ℤ) (es : List Event) :
    let start : State longBits := State.start 0 hUSB1
    (AnswersRight start es ↔ NoCommandWhenCleared es) ∧
      ∀ fs, es.filter notRequest = fs.filter notRequest → NoCommandWhenCleared fs →
        (tcpAnswers start es = tcpAnswers start fs ↔ NoCommandWhenCleared es) := by
  intro start
  refine ⟨answersRight_iff hUSB1 es, fun fs hfilter hfs => ?_⟩
  have hquiet : ∀ last e, notRequest e = false → relay.step last e = (last, []) := by
    intro last e he
    cases e with
    | trooperOut r => rfl
    | _ => simp [notRequest] at he
  have hrelay : relay.outputs (Vector.replicate 21 0) fs =
      relay.outputs (Vector.replicate 21 0) es := by
    rw [← relay.outputs_filter hquiet _ fs, ← hfilter, relay.outputs_filter hquiet]
  rw [(tcpAnswers_eq_iff hUSB1 fs).mpr hfs, hrelay, tcpAnswers_eq_iff]

/-- A command after a telemetry request. -/
def requestThenCommand : List Event :=
  [.robot restPayload, .trooperOut (.data textData),
    .tcpRecv (.data [0xFF, 0x07, 0x78, 0x00, 0x78, 0x00, 0xA0, 0x21, 0xC7])]

/-- The payload was cleared before the command. -/
lemma not_noCommandWhenCleared_requestThenCommand :
    ¬ NoCommandWhenCleared requestThenCommand := by
  intro h
  refine h [.robot restPayload, .trooperOut (.data textData)] _ [] rfl (by decide) ?_
  refine ⟨[], restPayload, [.trooperOut (.data textData)], rfl, payloadOk_restPayload, ?_, ?_⟩
  · exact List.forall_mem_singleton.mpr rfl
  · exact ⟨_, List.mem_singleton_self _⟩

/-- The client gets other bytes than without the request. -/
theorem tcp_answers_iff_requestThenCommand :
    tcpAnswers (State.start 0 3 : State 32) requestThenCommand ≠
      tcpAnswers (State.start 0 3 : State 32) (requestThenCommand.filter notRequest) := by
  have hquiet : NoCommandWhenCleared (requestThenCommand.filter notRequest) := by
    rintro pre r post hes - ⟨pre', sbuf, post', rfl, -, -, r', hr'⟩
    have hmem : Event.trooperOut r' ∈ requestThenCommand.filter notRequest := by
      rw [hes]
      simp [hr']
    cases (List.mem_filter.mp hmem).2
  have hfilter : requestThenCommand.filter notRequest =
      (requestThenCommand.filter notRequest).filter notRequest := rfl
  rw [Ne, (tcp_answers_iff 3 requestThenCommand).2 _ hfilter hquiet]
  exact not_noCommandWhenCleared_requestThenCommand

/-- The command is answered with zero bytes. -/
theorem not_answersRight_requestThenCommand :
    ¬ AnswersRight (State.start 0 3 : State 32) requestThenCommand := by
  rw [answersRight_iff]
  exact not_noCommandWhenCleared_requestThenCommand

end Wifibot
