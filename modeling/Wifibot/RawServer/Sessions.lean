import Wifibot.RawServer.Command

set_option relaxedAutoImplicit false
set_option autoImplicit false

/-!
# Who occupies the TCP thread

`Thread_TCP` serves one client at a time, from `accept` to the first `recv` without a byte.
`Thread_Dog` frees it from a client that has fallen silent, if `connected` says there is one. But
`connected` is set by the first bytes received and not by `accept`. A client that connects and
sends nothing is not seen, and keeps the thread for as long as it likes.

## Main definitions

* `Wifibot.sessions` — the server with the clients that `Thread_TCP` accepts.
* `Wifibot.heard` — the client of the present session has sent a byte.
* `Wifibot.FlagMirrorsSession` — every stop finds the flag right and leaves the thread free.

## Main results

* `Wifibot.connected_run` — the flag says that the client of the session has sent a byte.
* `Wifibot.flagMirrorsSession_iff` — every stop of a run goes right iff none comes while a client is
  accepted and has not sent a byte.
-/

namespace Wifibot

variable {longBits : ℕ}

/-! ## The flag -/

/-- **What a step does to the flag**: a `recv` sets or clears it, and the stop branch clears it. -/
lemma connected_next (s : State longBits) (e : Event) :
    ((server longBits).next s e).connected =
      match e with
      | .tcpRecv r => if r.size 9 < 1 then 0 else 1
      | .dog => if stops s then 0 else s.connected
      | _ => s.connected := by
  cases e with
  | tcpRecv r =>
    simp only [Machine.next, server, Thread_TCP]
    split_ifs <;> rfl
  | trooperOut r =>
    obtain ⟨_, _, h⟩ := next_trooperOut s r
    simp [h]
  | driveraw => rfl
  | dog =>
    simp only [Machine.next, server, Thread_Dog, stops]
    split_ifs <;> simp_all
  | _ =>
    simp only [Machine.next, server, Thread_TCP_Trooper_In, mainKey, robotPayload]
    split_ifs <;> rfl

/-- **When `Thread_TCP` is started anew**: by a stop that finds the flag set. -/
lemma restartTcp_mem_emit_iff (s : State longBits) (e : Event) :
    .restartTcp ∈ (server longBits).emit s e ↔ e = .dog ∧ stops s ∧ s.connected ≠ 0 := by
  cases e with
  | dog =>
    simp only [Machine.emit, server, Thread_Dog, stops]
    split_ifs <;> simp_all
  | driveraw =>
    rw [emit_driveraw]
    split_ifs <;> simp
  | trooperOut r =>
    simp only [Machine.emit, server, Thread_TCP_Trooper_Out, trooperOutReply]
    split_ifs <;> simp
  | _ =>
    simp only [Machine.emit, server, Thread_TCP, Thread_TCP_Trooper_In, mainKey, robotPayload]
    split_ifs <;> simp

/-! ## Sessions -/

/-- The globals, and whether `Thread_TCP` holds a client: it has returned from `accept` and not yet
left the loop of its `recv`. -/
structure SessionState (longBits : ℕ) where
  globals : State longBits
  client : Bool

/-- A client is accepted, a `recv` of `Thread_TCP` returns, or another thread makes a step. -/
inductive SessionEvent
  | accept
  | recv (r : Received)
  | thread (e : Event)
  deriving DecidableEq

/-- A step of another thread. A cancelled `Thread_TCP` loses its client. -/
def SessionState.thread (s : SessionState longBits) (e : Event) : SessionState longBits where
  globals := (server longBits).next s.globals e
  client := s.client && !decide (.restartTcp ∈ (server longBits).emit s.globals e)

/-- **The server with the clients of `Thread_TCP`.** What `Thread_TCP` cannot do where it stands
does not happen. -/
def sessions (longBits : ℕ) : Machine (SessionState longBits) SessionEvent Empty where
  step s
    | .accept => ({ s with client := true }, [])
    | .recv r =>
      if s.client then
        ({ globals := (server longBits).next s.globals (.tcpRecv r),
           client := decide (1 ≤ r.size 9) }, [])
      else (s, [])
    | .thread (.tcpRecv _) => (s, [])
    | .thread e => (s.thread e, [])

/-- The globals when the threads start, no client being accepted. -/
def SessionState.start (debug hUSB1 : ℤ) : SessionState longBits where
  globals := State.start debug hUSB1
  client := false

/-- One step of: the client of the present session has sent a byte. -/
def heardStep (s : SessionState longBits) (e : SessionEvent) (heard : Bool) : Bool :=
  match e with
  | .accept => s.client && heard
  | .recv r => if s.client then decide (1 ≤ r.size 9) else heard
  | .thread _ => heard

/-- The client of the present session of a run has sent a byte. -/
def heard (s : SessionState longBits) (es : List SessionEvent) : Bool :=
  (sessions longBits).history heardStep s false es

/-- The flag is set iff there is a client and it has sent a byte. -/
def FlagInv (s : SessionState longBits) (heard : Bool) : Prop :=
  s.globals.connected ≠ 0 ↔ s.client = true ∧ heard = true

/-- A `recv` of a client. -/
lemma next_recv_of_client {s : SessionState longBits} (hs : s.client = true) (r : Received) :
    (sessions longBits).next s (.recv r) =
      { globals := (server longBits).next s.globals (.tcpRecv r),
        client := decide (1 ≤ r.size 9) } := by
  simp [Machine.next, sessions, hs]

/-- A step of another thread that `Thread_TCP` does not make itself. -/
lemma next_thread {s : SessionState longBits} {e : Event} (he : ∀ r, e ≠ .tcpRecv r) :
    (sessions longBits).next s (.thread e) = s.thread e := by
  cases e with
  | tcpRecv r => exact absurd rfl (he r)
  | _ => rfl

/-- **What another thread does to flag and client**: a stop clears the flag, and with the flag the
client. -/
lemma thread_flag (s : SessionState longBits) {e : Event} (he : ∀ r, e ≠ .tcpRecv r) :
    (s.thread e).globals.connected =
        (if e = .dog ∧ stops s.globals then 0 else s.globals.connected) ∧
      ((s.thread e).client = true ↔
        s.client = true ∧ ¬ (e = .dog ∧ stops s.globals ∧ s.globals.connected ≠ 0)) := by
  constructor
  · simp only [SessionState.thread, connected_next]
    cases e with
    | tcpRecv r => exact absurd rfl (he r)
    | _ => simp
  · simp only [SessionState.thread, restartTcp_mem_emit_iff, Bool.and_eq_true, Bool.not_eq_true',
      decide_eq_false_iff_not]

/-- **One step** keeps the flag in agreement with the client.

**Proof sketch.** Accepting changes neither side. A `recv` sets the flag and the right-hand side
with a byte, and clears both without one. A stop clears the flag, and if it was set takes the
client. -/
lemma flagInv_next (s : SessionState longBits) (h : Bool) (e : SessionEvent) (hs : FlagInv s h) :
    FlagInv ((sessions longBits).next s e) (heardStep s e h) := by
  rw [FlagInv] at hs ⊢
  cases e with
  | accept =>
    show s.globals.connected ≠ 0 ↔ true = true ∧ (s.client && h) = true
    rw [hs, Bool.and_eq_true]
    simp
  | recv r =>
    by_cases hc : s.client = true
    · rw [next_recv_of_client hc, connected_next]
      by_cases hsize : r.size 9 < 1
      · simp [heardStep, hc, hsize]
      · simp [heardStep, hc, show 1 ≤ r.size 9 by omega]
    · have hstay : (sessions longBits).next s (.recv r) = s := by
        simp [Machine.next, sessions, hc]
      rw [hstay, hs, heardStep, if_neg hc]
  | thread e =>
    by_cases htcp : ∃ r, e = .tcpRecv r
    · obtain ⟨r, rfl⟩ := htcp
      exact hs
    · obtain ⟨hflag, hclient⟩ := thread_flag s (not_exists.mp htcp)
      rw [next_thread (not_exists.mp htcp), hflag, hclient, heardStep]
      by_cases hstop : e = .dog ∧ stops s.globals
      · rw [if_pos hstop]
        simp only [ne_eq, not_true_eq_false, false_iff]
        rintro ⟨⟨hc, hzero⟩, hh⟩
        exact hzero ⟨hstop.1, hstop.2, hs.mpr ⟨hc, hh⟩⟩
      · rw [if_neg hstop, hs]
        constructor
        · rintro ⟨hc, hh⟩
          exact ⟨⟨hc, fun h => hstop ⟨h.1, h.2.1⟩⟩, hh⟩
        · rintro ⟨⟨hc, -⟩, hh⟩
          exact ⟨hc, hh⟩

/-- **The flag of a run** says that the client of the present session has sent a byte. -/
lemma connected_run (debug hUSB1 : ℤ) (es : List SessionEvent) :
    FlagInv ((sessions longBits).run (SessionState.start debug hUSB1) es)
      (heard (SessionState.start debug hUSB1 : SessionState longBits) es) :=
  (sessions longBits).history_invariant heardStep flagInv_next
    (by simp [FlagInv, SessionState.start, State.start]) es

/-! ## Stops -/

/-- Whenever `Thread_Dog` takes its stop branch the flag is set iff `Thread_TCP` holds a client, and
afterwards `Thread_TCP` holds none. -/
def FlagMirrorsSession (s₀ : SessionState longBits) (es : List SessionEvent) : Prop :=
  ∀ pre post, es = pre ++ .thread .dog :: post →
    let s := (sessions longBits).run s₀ pre
    stops s.globals →
      (s.globals.connected ≠ 0 ↔ s.client = true) ∧
        ((sessions longBits).next s (.thread .dog)).client = false

/-- What a stop needs: no client, or one that has sent a byte. -/
lemma stop_right_iff {s : SessionState longBits} {h : Bool} (hs : FlagInv s h)
    (hstop : stops s.globals) :
    ((s.globals.connected ≠ 0 ↔ s.client = true) ∧
        ((sessions longBits).next s (.thread .dog)).client = false) ↔
      ¬ (s.client = true ∧ h = false) := by
  have hdog : ∀ r, Event.dog ≠ .tcpRecv r := fun r => by simp
  rw [FlagInv] at hs
  rw [next_thread hdog, ← Bool.not_eq_true, (thread_flag s hdog).2, hs]
  simp only [hstop, true_and]
  cases s.client <;> cases h <;> simp

/-- **When the flag mirrors the session.** In a run of the raw server every stop finds the flag set
iff `Thread_TCP` holds a client, and leaves `Thread_TCP` without a client, iff no stop comes while a
client is accepted that has not sent a byte. -/
theorem flagMirrorsSession_iff (debug hUSB1 : ℤ) (es : List SessionEvent) :
    FlagMirrorsSession (SessionState.start debug hUSB1 : SessionState longBits) es ↔
      ∀ pre post, es = pre ++ .thread .dog :: post →
        let s := (sessions longBits).run (SessionState.start debug hUSB1) pre
        stops s.globals → ¬ (s.client = true ∧
          heard (SessionState.start debug hUSB1 : SessionState longBits) pre = false) := by
  constructor
  · intro h pre post hes s hstop
    exact (stop_right_iff (connected_run debug hUSB1 pre) hstop).mp (h pre post hes hstop)
  · intro h pre post hes s hstop
    exact (stop_right_iff (connected_run debug hUSB1 pre) hstop).mpr (h pre post hes hstop)

/-- A client that connects and sends nothing is not seen. -/
theorem not_flagMirrorsSession_silent :
    ¬ ∀ (debug hUSB1 : ℤ) (es : List SessionEvent),
      FlagMirrorsSession (SessionState.start debug hUSB1 : SessionState 32) es := by
  intro h
  have hright := h 0 3 [.accept, .thread .dog] [.accept] [] rfl (by decide +kernel)
  exact absurd (hright.1.mpr rfl) (by decide +kernel)

end Wifibot
