import Wifibot.Library.Simulation
import Wifibot.RawServer.Descriptors
import Wifibot.RawServer.TcpThreads
import Wifibot.RawServer.Telemetry
import Wifibot.RawServer.Watchdog

set_option relaxedAutoImplicit false
set_option autoImplicit false

/-!
# The levels of the raw server

The server with atomic handlers is the coarsest of the models. The one with sessions adds whom
`Thread_TCP` serves, and two finer ones add the instances of that thread with their lock, and the
descriptors. Each of them refines the atomic server: its globals after a run are those of the
atomic server after the events that the run amounts to. So what is proved of every run of the atomic
server holds of every run of the finer models.

## Main definitions

* `Wifibot.atomicEvents` — the atomic steps that a step of an instance of `Thread_TCP`, or of
  another thread, amounts to.
* `Wifibot.instanceSessionEvents`, `Wifibot.descSessionEvents` — the steps of the model with
  sessions that a step of the two finer models amounts to.
* `Wifibot.Point.serving` — an instance that stands there holds a client.

## Main results

* `Wifibot.threads_refine_server` — the model with instances refines the atomic server in every run,
  and its watchdog is the abstract switch.
* `Wifibot.threads_refine_sessions` — where no instance is cancelled in its section, it refines the
  model with sessions, and the flag says that the present instance has heard from its client.
* `Wifibot.descriptors_refine_server` — the model with descriptors refines both.
-/

namespace Wifibot

variable {longBits : ℕ}

/-! ## From the instances to the atomic server -/

/-- A step of a thread other than `Thread_TCP` and `Thread_Dog`. -/
def Event.ofOther : Event → Option Event
  | .tcpRecv _ | .dog => none
  | e => some e

/-- Such a step is no `recv` and no iteration of `Thread_Dog`. -/
lemma ofOther_eq_some {e e' : Event} (h : e.ofOther = some e') :
    e = e' ∧ (∀ r, e ≠ .tcpRecv r) ∧ e ≠ .dog := by
  cases e with
  | tcpRecv r => simp [Event.ofOther] at h
  | dog => simp [Event.ofOther] at h
  | _ => exact ⟨Option.some.inj h, fun r => by simp, by simp⟩

/-- The step of such a thread in the model with instances. -/
def ThreadEvent.ofOther : ThreadEvent → Option Event
  | .thread e => e.ofOther
  | .tcp _ _ | .dog | .create => none

/-- What a step of an instance amounts to. At the end of its loop it leaves the client if the last
`recv` brought no byte, as the atomic `recv` does at once. -/
def atomicTcp (s : ThreadState longBits) (t : Instance) (r : Received) : List Event :=
  match t.point with
  | .recv => [.tcpRecv r]
  | .unlock | .sendSimu => if s.recvMsgSize > 0 then [] else [.tcpRecv (.data [])]
  | .accept | .lock | .send | .sleep | .ended => []

/-- The atomic steps that a step amounts to. -/
def atomicEvents (s : ThreadState longBits) : ThreadEvent → List Event
  | .tcp i r => (s.threads[i]?).elim [] fun t => atomicTcp s t r
  | .dog => if s.restarting then [] else [.dog]
  | .create => []
  | .thread e => e.ofOther.toList

/-- A `recv` of no byte clears the flag. -/
lemma next_tcpRecv_nil (g : State longBits) :
    (server longBits).next g (.tcpRecv (.data [])) = { g with connected := 0 } := by
  simp [Machine.next, server, Thread_TCP, Received.size, Received.stored]

/-- The end of the loop of an instance. -/
lemma globals_loop (s : ThreadState longBits) (i : ℕ) (t : Instance) :
    (s.loop i t).globals = (server longBits).run s.globals
      (if s.recvMsgSize > 0 then [] else [.tcpRecv (.data [])]) := by
  rw [ThreadState.loop]
  split_ifs
  · rfl
  · rw [Machine.run_cons, next_tcpRecv_nil]
    rfl

/-- A step of an instance, in the globals. -/
lemma globals_tcp (s : ThreadState longBits) (i : ℕ) (t : Instance) (r : Received) :
    (s.tcp i t r).1.globals = (server longBits).run s.globals (atomicTcp s t r) := by
  rcases t with ⟨p, b⟩
  cases p with
  | lock =>
    simp only [ThreadState.tcp]
    split_ifs <;> rfl
  | unlock => exact globals_loop { s with mutex_raw_out := none } i _
  | sendSimu => exact globals_loop s i _
  | _ => rfl

/-- A step of another thread, in the globals. -/
lemma globals_thread (s : ThreadState longBits) (e : Event) :
    ((tcpThreads longBits).next s (.thread e)).globals =
      (server longBits).run s.globals e.ofOther.toList := by
  cases e with
  | tcpRecv r => rfl
  | dog => rfl
  | _ =>
    simp only [Event.ofOther, Option.toList_some, Machine.run_cons, Machine.run_nil]
    simp only [Machine.next, tcpThreads]

/-- **One step**, in the globals. -/
lemma globals_next (s : ThreadState longBits) (e : ThreadEvent) :
    ((tcpThreads longBits).next s e).globals =
      (server longBits).run s.globals (atomicEvents s e) := by
  cases e with
  | tcp i r =>
    simp only [Machine.next, tcpThreads, atomicEvents]
    cases s.threads[i]? with
    | none => rfl
    | some t => exact globals_tcp s i t r
  | dog =>
    simp only [Machine.next, tcpThreads, atomicEvents, ThreadState.dog]
    split_ifs
    · rfl
    · cases s.threads.getLast? <;> rfl
    · rfl
  | create =>
    simp only [Machine.next, tcpThreads, atomicEvents]
    split_ifs <;> rfl
  | thread e => exact globals_thread s e

/-- The other threads make the same steps in both models. -/
lemma filterMap_atomicEvents (s : ThreadState longBits) (e : ThreadEvent) :
    (atomicEvents s e).filterMap Event.ofOther = e.ofOther.toList := by
  cases e with
  | tcp i r =>
    rw [atomicEvents]
    cases s.threads[i]? with
    | none => rfl
    | some t =>
      rcases t with ⟨p, b⟩
      cases p <;> simp only [Option.elim_some, atomicTcp] <;> first | rfl | (split_ifs <;> rfl)
  | dog =>
    rw [atomicEvents]
    split_ifs <;> rfl
  | create => rfl
  | thread e => cases e <;> rfl

/-- The atomic run that a run from the start amounts to. -/
def atomicRun (longBits : ℕ) (debug hUSB1 : ℤ) (es : List ThreadEvent) : List Event :=
  (tcpThreads longBits).translate atomicEvents (ThreadState.start debug hUSB1) es

/-- The globals after a run from the start. -/
lemma globals_run (debug hUSB1 : ℤ) (es : List ThreadEvent) :
    ((tcpThreads longBits).run (ThreadState.start debug hUSB1) es).globals =
      (server longBits).run (State.start debug hUSB1)
        (atomicRun longBits debug hUSB1 es) :=
  Machine.run_of_refines (g := ThreadState.globals) globals_next _ es

/-- **The instances refine the atomic server.** After every run of the model with the instances of
`Thread_TCP` and their lock, recoveries in the midst of an answer included, the globals are those of
the atomic server after the run that it amounts to, in which the other threads make the same steps
in the same order; and in the mode that sends telemetry `watchdog` and `cycles` count the iterations
of `Thread_Dog` since the last command of that run. -/
theorem threads_refine_server (debug hUSB1 : ℤ) (es : List ThreadEvent) :
    let s := (tcpThreads longBits).run (ThreadState.start debug hUSB1) es
    let fs := atomicRun longBits debug hUSB1 es
    s.globals = (server longBits).run (State.start debug hUSB1) fs ∧
      fs.filterMap Event.ofOther = es.filterMap ThreadEvent.ofOther ∧
      (debug = 0 →
        WatchdogInv s.globals (sinceCommand (State.start 0 hUSB1 : State longBits) fs)) := by
  intro s fs
  refine ⟨globals_run debug hUSB1 es, ?_, ?_⟩
  · exact (tcpThreads longBits).filterMap_translate filterMap_atomicEvents _ es
  · rintro rfl
    have hglobals : s.globals = (server longBits).run (State.start 0 hUSB1) fs :=
      globals_run 0 hUSB1 es
    rw [hglobals]
    exact watchdogInv_run hUSB1 fs

/-! ## From the instances to the sessions -/

/-- An instance that stands there has accepted a client and not left it. -/
def Point.serving : Point → Bool
  | .recv | .lock | .send | .unlock | .sendSimu => true
  | .accept | .sleep | .ended => false

/-- The steps of the model with sessions that a step of an instance amounts to. -/
def instanceSession (s : ThreadState longBits) (t : Instance) (r : Received) : List SessionEvent :=
  match t.point with
  | .accept => [.accept]
  | .recv => [.recv r]
  | .unlock | .sendSimu => if s.recvMsgSize > 0 then [] else [.recv (.data [])]
  | .lock | .send | .sleep | .ended => []

/-- The steps of the model with sessions that a step amounts to. -/
def instanceSessionEvents (s : ThreadState longBits) : ThreadEvent → List SessionEvent
  | .tcp i r => (s.threads[i]?).elim [] fun t => instanceSession s t r
  | .dog => if s.restarting then [] else [.thread .dog]
  | .create => []
  | .thread e => e.ofOther.toList.map .thread

/-- The state of the model with sessions that stands for a state whose last instance is `cur`. -/
def Instance.session (cur : Instance) (g : State longBits) : SessionState longBits :=
  ⟨g, cur.point.serving⟩

/-- After `recv` an instance serves its client iff there was a byte. -/
lemma serving_afterRecv (debug : ℤ) (r : Received) :
    (afterRecv debug r).serving = decide (1 ≤ r.size 9) := by
  rw [afterRecv]
  split_ifs with hsize
  · simp only [Point.serving]
    exact (decide_eq_false (by omega)).symm
  all_goals
    simp only [Point.serving]
    exact (decide_eq_true (by omega)).symm

variable {s : ThreadState longBits} {old : List Instance} {cur : Instance}

/-- A step of the last instance while it runs. -/
lemma session_tcp (h : ThreadsInv s old cur) (r : Received) :
    ({ cur with point := s.pointAfter r cur.point } : Instance).session
        ((tcpThreads longBits).next s (.tcp old.length r)).globals =
      (sessions longBits).run (cur.session s.globals)
        (instanceSessionEvents s (.tcp old.length r)) := by
  have hget : s.threads[old.length]? = some cur := by simp [h.threads]
  rw [globals_next, atomicEvents, instanceSessionEvents, hget, Option.elim_some, Option.elim_some]
  rcases cur with ⟨p, b⟩
  have hloop : ∀ p, (p = .unlock ∨ p = .sendSimu) →
      (⟨s.pointAfter r p, b⟩ : Instance).session
          ((server longBits).run s.globals (atomicTcp s ⟨p, b⟩ r)) =
        (sessions longBits).run ((⟨p, b⟩ : Instance).session s.globals)
          (instanceSession s ⟨p, b⟩ r) := by
    rintro p (rfl | rfl) <;>
    · simp only [atomicTcp, instanceSession, ThreadState.pointAfter]
      split_ifs
      · rfl
      · rw [Machine.run_cons, Machine.run_cons, next_recv_of_client rfl]
        rfl
  cases p with
  | recv =>
    simp only [atomicTcp, instanceSession, ThreadState.pointAfter, Machine.run_cons,
      Machine.run_nil]
    rw [next_recv_of_client rfl, Instance.session, serving_afterRecv]
    rfl
  | lock =>
    simp only [atomicTcp, instanceSession, ThreadState.pointAfter, Machine.run_nil]
    split_ifs <;> rfl
  | unlock => exact hloop .unlock (Or.inl rfl)
  | sendSimu => exact hloop .sendSimu (Or.inr rfl)
  | _ => rfl

/-- A step of `Thread_Dog` in the model with sessions. -/
lemma sessions_dog (g : State longBits) (b : Bool) :
    (sessions longBits).next ⟨g, b⟩ (.thread .dog) =
      ⟨(server longBits).next g .dog,
        b && !decide (.restartTcp ∈ (server longBits).emit g .dog)⟩ := rfl

/-- A step of a thread other than `Thread_TCP` and `Thread_Dog` leaves the client alone. -/
lemma session_other (cur : Instance) (g : State longBits) (e : Event) :
    cur.session ((server longBits).run g e.ofOther.toList) =
      (sessions longBits).run (cur.session g) (e.ofOther.toList.map .thread) := by
  cases he : e.ofOther with
  | none => rfl
  | some e' =>
    obtain ⟨rfl, hne, hdog⟩ := ofOther_eq_some he
    have hemit : Output.restartTcp ∉ (server longBits).emit g e := fun hmem =>
      hdog ((restartTcp_mem_emit_iff _ _).mp hmem).1
    rw [Option.toList_some, List.map_singleton, Machine.run_cons, Machine.run_nil, Machine.run_cons,
      Machine.run_nil, next_thread hne, SessionState.thread, Instance.session, Instance.session,
      decide_eq_false hemit, Bool.not_false, Bool.and_true]

/-- **One step** that cancels no instance in its section is, for the sessions, the steps that it
amounts to. -/
lemma session_next (h : ThreadsInv s old cur) {e : ThreadEvent} (he : OutsideSection s e) :
    ∃ old' cur', ThreadsInv ((tcpThreads longBits).next s e) old' cur' ∧
      cur'.session ((tcpThreads longBits).next s e).globals =
        (sessions longBits).run (cur.session s.globals) (instanceSessionEvents s e) := by
  have hended : ∀ {i}, (∀ t, s.threads[i]? = some t → t.point = .ended) →
      ∀ r, instanceSessionEvents s (.tcp i r) = [] := by
    intro i hi r
    rw [instanceSessionEvents]
    cases ht : s.threads[i]? with
    | none => rfl
    | some t => rw [Option.elim_some, instanceSession, hi t ht]
  cases e with
  | tcp i r =>
    by_cases hi : i = old.length
    · subst hi
      cases hrun : s.restarting with
      | false => exact ⟨old, _, threadsInv_tcp h hrun r, session_tcp h r⟩
      | true =>
        have hall : ∀ t, s.threads[old.length]? = some t → t.point = .ended := fun t ht => by
          obtain rfl : cur = t := by simpa [h.threads] using ht
          exact h.restarting hrun
        rw [Machine.next, step_tcp_of_ended hall, hended hall]
        exact ⟨old, cur, h, rfl⟩
    · have hall := ended_of_ne_last h hi
      rw [Machine.next, step_tcp_of_ended hall, hended hall]
      exact ⟨old, cur, h, rfl⟩
  | dog =>
    cases hrun : s.restarting with
    | true =>
      have hstay : (tcpThreads longBits).next s .dog = s := by
        simp [Machine.next, tcpThreads, hrun]
      rw [hstay, instanceSessionEvents, if_pos hrun]
      exact ⟨old, cur, h, rfl⟩
    | false =>
      rw [instanceSessionEvents, if_neg (by simp [hrun]), Machine.run_cons, Machine.run_nil,
        Instance.session, sessions_dog]
      by_cases hrec : s.recovers
      · refine ⟨old, ⟨.ended, true⟩, threadsInv_cancel h hrec (he rfl hrec), ?_⟩
        have hemit := (restartTcp_mem_emit_iff s.globals .dog).mpr ⟨rfl, hrec.2⟩
        rw [dog_of_recovers h hrec, decide_eq_true hemit, Bool.not_true, Bool.and_false]
        rfl
      · have hemit : Output.restartTcp ∉ (server longBits).emit s.globals .dog := fun hmem =>
          hrec ⟨hrun, ((restartTcp_mem_emit_iff _ _).mp hmem).2⟩
        rw [dog_of_not_recovers hrec hrun, decide_eq_false hemit, Bool.not_false, Bool.and_true]
        exact ⟨old, cur, h.with_globals _, rfl⟩
  | create =>
    cases hrun : s.restarting with
    | false =>
      have hstay : (tcpThreads longBits).next s .create = s := by
        simp [Machine.next, tcpThreads, hrun]
      rw [hstay]
      exact ⟨old, cur, h, rfl⟩
    | true =>
      refine ⟨old ++ [cur], ⟨.accept, false⟩, threadsInv_create h hrun, ?_⟩
      rw [globals_next, Instance.session, Instance.session, h.restarting hrun]
      rfl
  | thread e =>
    obtain ⟨g, hnext⟩ := next_thread_globals s e
    refine ⟨old, cur, hnext ▸ h.with_globals g, ?_⟩
    rw [globals_thread, instanceSessionEvents]
    exact session_other cur s.globals e

/-- A run from the start that cancels no instance in its section, for the sessions. -/
lemma session_run (debug hUSB1 : ℤ) {es : List ThreadEvent}
    (hes : (tcpThreads longBits).Along OutsideSection (ThreadState.start debug hUSB1) es) :
    ∃ old cur, ThreadsInv ((tcpThreads longBits).run (ThreadState.start debug hUSB1) es) old cur ∧
      cur.session ((tcpThreads longBits).run (ThreadState.start debug hUSB1) es).globals =
        (sessions longBits).run (SessionState.start debug hUSB1)
          ((tcpThreads longBits).translate instanceSessionEvents
            (ThreadState.start debug hUSB1) es) := by
  have hfollows : (tcpThreads longBits).Follows (sessions longBits) OutsideSection
      (fun s t => ∃ old cur, ThreadsInv s old cur ∧ cur.session s.globals = t)
      instanceSessionEvents := by
    rintro s _ e he ⟨old, cur, h, rfl⟩
    exact session_next h he
  refine hfollows.run ⟨[], ⟨.accept, false⟩, ⟨rfl, by simp, fun h => ?_, fun _ => ?_, rfl⟩, rfl⟩ hes
  · simp [ThreadState.start] at h
  · exact ⟨rfl, by decide⟩

/-- **The instances refine the sessions.** After every run of the model with instances in which no
recovery cancels one between the return of `recv` and its unlocking, the globals are those of the
model with sessions after the run that it amounts to, which has a client iff an instance serves one;
so `connected` is set iff an instance serves a client that has sent a byte. -/
theorem threads_refine_sessions (debug hUSB1 : ℤ) (es : List ThreadEvent)
    (hes : (tcpThreads longBits).Along OutsideSection (ThreadState.start debug hUSB1) es) :
    let s := (tcpThreads longBits).run (ThreadState.start debug hUSB1) es
    let start : SessionState longBits := SessionState.start debug hUSB1
    let fs :=
      (tcpThreads longBits).translate instanceSessionEvents (ThreadState.start debug hUSB1) es
    let serves := ∃ t ∈ s.threads, t.point.serving = true
    ((sessions longBits).run start fs).globals = s.globals ∧
      (((sessions longBits).run start fs).client = true ↔ serves) ∧
      (s.globals.connected ≠ 0 ↔ serves ∧ heard start fs = true) := by
  intro s start fs serves
  obtain ⟨old, cur, h, hrun⟩ := session_run debug hUSB1 hes
  have hserves : cur.point.serving = true ↔ serves := by
    constructor
    · intro hcur
      exact ⟨cur, by simp [s, h.threads], hcur⟩
    · rintro ⟨t, ht, hserving⟩
      rw [show s.threads = old ++ [cur] from h.threads, List.mem_append, List.mem_singleton] at ht
      rcases ht with ht | rfl
      · rw [h.old_ended t ht] at hserving
        exact absurd hserving (by decide)
      · exact hserving
  have hclient : ((sessions longBits).run start fs).client = true ↔ serves := by
    rw [← hrun, ← hserves]
    rfl
  have hglobals : ((sessions longBits).run start fs).globals = s.globals := by
    rw [← hrun]
    rfl
  refine ⟨hglobals, hclient, ?_⟩
  rw [← hclient, ← hglobals]
  exact connected_run debug hUSB1 fs

/-- A client that commands and falls silent, the recovery from it, and a client of the new instance,
that commands and disconnects, and the next one that is not heard. -/
def threeClients : List ThreadEvent :=
  silentRun ++ [.tcp 1 .failed, .tcp 1 (.data [0xFF]), .tcp 1 .failed, .tcp 1 .failed,
    .tcp 1 .failed, .tcp 1 .failed, .tcp 1 .failed, .tcp 1 .failed]

/-- No instance is cancelled in its section. -/
theorem threads_refine_sessions_threeClients :
    let s := (tcpThreads 32).run (ThreadState.start 0 3) threeClients
    let start : SessionState 32 := SessionState.start 0 3
    let fs := (tcpThreads 32).translate instanceSessionEvents (ThreadState.start 0 3) threeClients
    let serves := ∃ t ∈ s.threads, t.point.serving = true
    ((sessions 32).run start fs).globals = s.globals ∧
      (((sessions 32).run start fs).client = true ↔ serves) ∧
      (s.globals.connected ≠ 0 ↔ serves ∧ heard start fs = true) :=
  threads_refine_sessions 0 3 threeClients (by decide +kernel)

/-! ## From the sessions to the atomic server -/

/-- The atomic step that a step of the model with sessions amounts to. -/
def sessionAtomic (s : SessionState longBits) : SessionEvent → List Event
  | .accept => []
  | .recv r => if s.client then [.tcpRecv r] else []
  | .thread (.tcpRecv _) => []
  | .thread e => [e]

/-- One step of the model with sessions, in the globals. -/
lemma sessions_globals_next (s : SessionState longBits) (e : SessionEvent) :
    ((sessions longBits).next s e).globals =
      (server longBits).run s.globals (sessionAtomic s e) := by
  cases e with
  | accept => rfl
  | recv r =>
    simp only [Machine.next, sessions, sessionAtomic]
    split_ifs <;> rfl
  | thread e =>
    by_cases htcp : ∃ r, e = .tcpRecv r
    · obtain ⟨r, rfl⟩ := htcp
      rfl
    · have hevent : sessionAtomic s (.thread e) = [e] := by
        cases e with
        | tcpRecv r => exact absurd ⟨r, rfl⟩ htcp
        | _ => rfl
      rw [next_thread (not_exists.mp htcp), hevent]
      rfl

/-! ## From the descriptors to the sessions -/

/-- The step of the model with sessions that a step of the model with descriptors amounts to. A
thread that has not started, and a process that has ended, do nothing. -/
def descSessionEvents (s : DescState longBits) (e : DescEvent) : List SessionEvent :=
  if s.terminated then []
  else match e with
  | .serialLoop sbuf => if s.serial = .looping then [.thread (.robot sbuf)] else []
  | .accept => if s.tcp = true ∧ s.session.client = false then [.accept] else []
  | .recv r => if s.tcp = true ∧ s.session.client = true then [.recv r] else []
  | .udpIn r => if s.udpIn = true then [.thread (.trooperIn r)] else []
  | .udpOut r => if s.udpOut = true then [.thread (.trooperOut r)] else []
  | .dog => [.thread .dog]
  | .key k => [.thread (.key k)]
  | .serialOpen _ | .serialClose | .serialReopen _ | .tcpStart | .udpInStart | .udpOutStart
  | .sigaction | .sigint => []

/-- Opening or failing to open the serial device does not touch the session. -/
@[simp] lemma session_openrs232 (s : DescState longBits) (v : Var) (ok : Bool) :
    (s.openrs232 v ok).session = s.session := by
  cases ok <;> rfl

/-- One step of the model with descriptors, in the session. -/
lemma descriptors_session_next (s : DescState longBits) (e : DescEvent) :
    ((descriptors longBits).next s e).session =
      (sessions longBits).run s.session (descSessionEvents s e) := by
  simp only [Machine.next, descriptors, descSessionEvents]
  cases hterm : s.terminated with
  | true => rfl
  | false =>
    simp only [Bool.false_eq_true, if_false]
    cases e with
    | dog =>
      simp only [DescState.act, DescState.dog]
      split_ifs <;> rfl
    | sigint =>
      simp only [DescState.act, DescState.sigint, DescState.gestionnaire]
      split_ifs <;> rfl
    | recv r =>
      simp only [DescState.act, DescState.recv]
      split_ifs <;> rfl
    | key k => rfl
    | _ =>
      simp only [DescState.act, DescState.thread]
      split_ifs <;> first | rfl | exact session_openrs232 _ _ _

/-- **The descriptors refine the sessions and the server.** After every run of the model with
descriptors, failed opens, recoveries and signals included, the session is that of the model with
sessions after the run that it amounts to, and the globals are those of the atomic server after the
run that this in turn amounts to; so the flag `connected` says that `Thread_TCP` holds a client that
has sent a byte, whatever happened to the descriptors. -/
theorem descriptors_refine_server (debug : ℤ) (es : List DescEvent) :
    let s := (descriptors longBits).run (DescState.start debug) es
    let start : SessionState longBits := SessionState.start debug 0
    let fs := (descriptors longBits).translate descSessionEvents (DescState.start debug) es
    let gs := (sessions longBits).translate sessionAtomic start fs
    s.session = (sessions longBits).run start fs ∧
      s.session.globals = (server longBits).run (State.start debug 0) gs ∧
      (s.session.globals.connected ≠ 0 ↔ s.session.client = true ∧ heard start fs = true) := by
  intro s start fs gs
  have hsession : s.session = (sessions longBits).run start fs :=
    Machine.run_of_refines (g := DescState.session) descriptors_session_next _ es
  refine ⟨hsession, ?_, ?_⟩
  · rw [hsession]
    exact Machine.run_of_refines (g := SessionState.globals) sessions_globals_next start fs
  · rw [hsession]
    exact connected_run debug 0 fs

end Wifibot
