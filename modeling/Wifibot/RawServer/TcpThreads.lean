import Wifibot.RawServer.Sessions

set_option relaxedAutoImplicit false
set_option autoImplicit false

/-!
# The instances of the TCP thread and their lock

`Thread_TCP` holds `mutex_raw_out` while it sends the telemetry, and `send` waits for as long as the
client does not read. `Thread_Dog` cancels the thread from outside and creates a new one. Under
deferred cancellation a cancelled thread goes on to its next cancellation point and ends there,
without cleanup: if that is the `send`, the lock is never released, and every later instance waits
for it.

An instance is kept as the point of its program at which it stands. `accept`, `recv`, `send` and
`sleep` are cancellation points, `pthread_mutex_lock` is not.

## Main definitions

* `Wifibot.Point`, `Wifibot.Instance` — where an instance stands, and whether it was cancelled.
* `Wifibot.tcpThreads` — the server with the instances of `Thread_TCP` and their lock.
* `Wifibot.MutexOk` — the lock is free or held by an instance that was not cancelled.
* `Wifibot.OutsideSection` — a step does not cancel an instance between `recv` and unlocking.

## Main results

* `Wifibot.tcpThreads_mutexOk` — in a run of such steps the lock is always in order and the present
  instance can answer.
* `Wifibot.mutex_lost_of_inSection` — any other step leads to a state in which it is not.
* `Wifibot.run_answer` — the steps of one answer together are the atomic `Thread_TCP`.
-/

namespace Wifibot

variable {longBits : ℕ}

/-- Where an instance of `Thread_TCP` stands: what it does next. -/
inductive Point
  | accept
  | recv
  | lock
  | send
  | unlock
  | sendSimu
  | sleep
  | ended
  deriving DecidableEq

/-- The cancellation points. -/
def Point.cancellable : Point → Bool
  | .accept | .recv | .send | .sendSimu | .sleep => true
  | .lock | .unlock | .ended => false

/-- The points between the return of `recv` and the unlocking. -/
def Point.inSection : Point → Bool
  | .lock | .send | .unlock => true
  | _ => false

/-- An instance of `Thread_TCP`. -/
structure Instance where
  point : Point
  cancelled : Bool
  deriving DecidableEq

/-- A cancelled instance ends at a cancellation point. -/
def Instance.settle (t : Instance) : Instance :=
  if t.cancelled && t.point.cancellable then { t with point := .ended } else t

/-- The globals, the instances in the order of their creation, the one that holds `mutex_raw_out`,
and whether `Thread_Dog` has cancelled an instance and not yet created the next. -/
structure ThreadState (longBits : ℕ) where
  globals : State longBits
  recvMsgSize : ℤ
  threads : List Instance
  mutex_raw_out : Option ℕ
  restarting : Bool

/-- The next step of an instance, with what its `recv` returns if it makes one; an iteration of
`Thread_Dog`; the creation that ends a recovery; a step of another thread. -/
inductive ThreadEvent
  | tcp (i : ℕ) (r : Received)
  | dog
  | create
  | thread (e : Event)
  deriving DecidableEq

/-- The instance `t`, of number `i`, goes on to a point. -/
def ThreadState.goto (s : ThreadState longBits) (i : ℕ) (t : Instance) (p : Point) :
    ThreadState longBits :=
  { s with threads := s.threads.set i { t with point := p }.settle }

/-- The end of the loop of `recv`, and what follows it when there was no byte. -/
def ThreadState.loop (s : ThreadState longBits) (i : ℕ) (t : Instance) : ThreadState longBits :=
  if s.recvMsgSize > 0 then s.goto i t .recv
  else { s with globals := { s.globals with connected := 0 } }.goto i t .sleep

/-- What an instance does after `recv`. -/
def afterRecv (debug : ℤ) (r : Received) : Point :=
  if r.size 9 < 1 then .sleep
  else if debug = 0 then .lock
  else if debug = 1 ∨ debug = 3 then .sendSimu
  else .recv

/-- One step of the instance `t`, of number `i`. -/
def ThreadState.tcp (s : ThreadState longBits) (i : ℕ) (t : Instance) (r : Received) :
    ThreadState longBits × List Output :=
  match t.point with
  | .accept => (s.goto i t .recv, [])
  | .recv =>
    ({ s with globals := (server longBits).next s.globals (.tcpRecv r),
              recvMsgSize := r.size 9 }.goto i t (afterRecv s.globals.debug r), [])
  | .lock => if s.mutex_raw_out = none then ({ s with mutex_raw_out := some i }.goto i t .send, [])
    else (s, [])
  | .send => (s.goto i t .unlock, [.tcp s.globals.buffso_Raw_Data_Out.toList])
  | .unlock => ({ s with mutex_raw_out := none }.loop i t, [])
  | .sendSimu => (s.loop i t, [.tcp (s.globals.buffso_send.toList.take 7)])
  | .sleep => (s.goto i t .accept, [])
  | .ended => (s, [])

/-- An iteration of `Thread_Dog`: where the atomic one restarts `Thread_TCP`, it cancels the last
instance, and creates the next one after a pause. -/
def ThreadState.dog (s : ThreadState longBits) : ThreadState longBits :=
  let globals := (server longBits).next s.globals .dog
  if .restartTcp ∈ (server longBits).emit s.globals .dog then
    match s.threads.getLast? with
    | some t =>
      { s with globals := globals, restarting := true,
               threads := s.threads.set (s.threads.length - 1) { t with cancelled := true }.settle }
    | none => { s with globals := globals, restarting := true }
  else { s with globals := globals }

/-- **The server with the instances of `Thread_TCP`.** What a thread cannot do where it stands does
not happen. -/
def tcpThreads (longBits : ℕ) : Machine (ThreadState longBits) ThreadEvent Output where
  step s
    | .tcp i r =>
      match s.threads[i]? with
      | some t => s.tcp i t r
      | none => (s, [])
    | .dog => if s.restarting then (s, []) else (s.dog, [])
    | .create =>
      if s.restarting then
        ({ s with threads := s.threads ++ [⟨.accept, false⟩], restarting := false }, [])
      else (s, [])
    | .thread (.tcpRecv _) => (s, [])
    | .thread .dog => (s, [])
    | .thread e => ({ s with globals := (server longBits).next s.globals e }, [])

/-- The state when the first instance has been created. -/
def ThreadState.start (debug hUSB1 : ℤ) : ThreadState longBits where
  globals := State.start debug hUSB1
  recvMsgSize := 0
  threads := [⟨.accept, false⟩]
  mutex_raw_out := none
  restarting := false

/-- The lock is free, or held by an instance that was not cancelled. -/
def MutexOk (s : ThreadState longBits) : Prop :=
  ∀ i, s.mutex_raw_out = some i → ∃ t, s.threads[i]? = some t ∧ t.cancelled = false

/-- The next iteration of `Thread_Dog` cancels the last instance. -/
def ThreadState.recovers (s : ThreadState longBits) : Prop :=
  s.restarting = false ∧ stops s.globals ∧ s.globals.connected ≠ 0

instance (s : ThreadState longBits) : Decidable s.recovers :=
  inferInstanceAs (Decidable (_ ∧ _ ∧ _))

/-- The last instance stands between the return of `recv` and the unlocking. -/
def ThreadState.inSection (s : ThreadState longBits) : Prop :=
  ∃ t ∈ s.threads.getLast?, t.point.inSection = true

instance (s : ThreadState longBits) : Decidable s.inSection :=
  inferInstanceAs (Decidable (∃ t ∈ s.threads.getLast?, _))

/-- The step does not cancel an instance that stands between the return of `recv` and the
unlocking. -/
def OutsideSection (s : ThreadState longBits) (e : ThreadEvent) : Prop :=
  e = .dog → s.recovers → ¬ s.inSection

instance (s : ThreadState longBits) (e : ThreadEvent) : Decidable (OutsideSection s e) :=
  inferInstanceAs (Decidable (_ → _ → _))

/-! ## One step -/

/-- The instances of a run in order: those before the last have ended; the last has ended too while
`Thread_Dog` has not created the next, and else was not cancelled; and the lock is held by the last
iff it is about to send or to unlock. -/
structure ThreadsInv (s : ThreadState longBits) (old : List Instance) (cur : Instance) : Prop where
  threads : s.threads = old ++ [cur]
  old_ended : ∀ t ∈ old, t.point = .ended
  restarting : s.restarting = true → cur.point = .ended
  running : s.restarting = false → cur.cancelled = false ∧ cur.point ≠ .ended
  mutex : s.mutex_raw_out =
    if cur.point = .send ∨ cur.point = .unlock then some old.length else none

/-- An instance that was not cancelled does not end. -/
lemma settle_of_not_cancelled {t : Instance} (ht : t.cancelled = false) : t.settle = t := by
  simp [Instance.settle, ht]

/-- Where the last instance stands after one step of its own. -/
def ThreadState.pointAfter (s : ThreadState longBits) (r : Received) : Point → Point
  | .accept => .recv
  | .recv => afterRecv s.globals.debug r
  | .lock => if s.mutex_raw_out = none then .send else .lock
  | .send => .unlock
  | .unlock | .sendSimu => if s.recvMsgSize > 0 then .recv else .sleep
  | .sleep => .accept
  | .ended => .ended

variable {s : ThreadState longBits} {old : List Instance} {cur : Instance}

/-- The last instance goes on to a point, the lock being as that point asks. -/
lemma threadsInv_goto (hthreads : s.threads = old ++ [cur]) (hold : ∀ t ∈ old, t.point = .ended)
    (hrun : s.restarting = false) (hcur : cur.cancelled = false) {p : Point} (hp : p ≠ .ended)
    (hmutex : s.mutex_raw_out = if p = .send ∨ p = .unlock then some old.length else none) :
    ThreadsInv (s.goto old.length cur p) old { cur with point := p } where
  threads := by
    have hsettle : ({ cur with point := p } : Instance).settle = { cur with point := p } :=
      settle_of_not_cancelled hcur
    simp [ThreadState.goto, hthreads, hsettle]
  old_ended := hold
  restarting h := absurd (hrun.symm.trans h) (by decide)
  running _ := ⟨hcur, hp⟩
  mutex := hmutex

/-- After `recv` an instance neither ends nor holds the lock. -/
lemma afterRecv_ne (debug : ℤ) (r : Received) :
    afterRecv debug r ≠ .ended ∧ afterRecv debug r ≠ .send ∧ afterRecv debug r ≠ .unlock := by
  rw [afterRecv]
  split_ifs <;> simp

/-- The end of the loop of `recv`, with the lock free. -/
lemma threadsInv_loop (hthreads : s.threads = old ++ [cur]) (hold : ∀ t ∈ old, t.point = .ended)
    (hrun : s.restarting = false) (hcur : cur.cancelled = false) (hfree : s.mutex_raw_out = none) :
    ThreadsInv (s.loop old.length cur) old
      { cur with point := if s.recvMsgSize > 0 then .recv else .sleep } := by
  rw [ThreadState.loop]
  split_ifs
  · exact threadsInv_goto hthreads hold hrun hcur (by decide) (by simpa using hfree)
  · exact threadsInv_goto (s := { s with globals := { s.globals with connected := 0 } })
      (p := .sleep) hthreads hold hrun hcur (by decide) (by simpa using hfree)

/-- A step of the last instance. -/
lemma next_tcp_last (h : ThreadsInv s old cur) (r : Received) :
    (tcpThreads longBits).step s (.tcp old.length r) = s.tcp old.length cur r := by
  simp [tcpThreads, h.threads]

/-- **A step of the last instance** while it runs. -/
lemma threadsInv_tcp (h : ThreadsInv s old cur) (hrun : s.restarting = false) (r : Received) :
    ThreadsInv ((tcpThreads longBits).next s (.tcp old.length r)) old
      { cur with point := s.pointAfter r cur.point } := by
  obtain ⟨hcur, hne⟩ := h.running hrun
  have hmutex := h.mutex
  rw [Machine.next, next_tcp_last h]
  cases hp : cur.point with
  | accept =>
    simp only [ThreadState.tcp, hp, ThreadState.pointAfter] at hmutex ⊢
    exact threadsInv_goto h.threads h.old_ended hrun hcur (by decide) (by simpa using hmutex)
  | recv =>
    obtain ⟨hended, hsend, hunlock⟩ := afterRecv_ne s.globals.debug r
    simp only [ThreadState.tcp, hp, ThreadState.pointAfter] at hmutex ⊢
    exact threadsInv_goto
      (s := { s with globals := (server longBits).next s.globals (.tcpRecv r),
                     recvMsgSize := r.size 9 })
      h.threads h.old_ended hrun hcur hended (by simpa [hsend, hunlock] using hmutex)
  | lock =>
    have hfree : s.mutex_raw_out = none := by simpa [hp] using hmutex
    simp only [ThreadState.tcp, hp, ThreadState.pointAfter, if_pos hfree]
    exact threadsInv_goto (s := { s with mutex_raw_out := some old.length }) (p := .send)
      h.threads h.old_ended hrun hcur (by decide) (by simp)
  | send =>
    simp only [ThreadState.tcp, hp, ThreadState.pointAfter] at hmutex ⊢
    exact threadsInv_goto h.threads h.old_ended hrun hcur (by decide) (by simpa using hmutex)
  | unlock =>
    simp only [ThreadState.tcp, hp, ThreadState.pointAfter]
    exact threadsInv_loop (s := { s with mutex_raw_out := none }) h.threads h.old_ended hrun hcur
      rfl
  | sendSimu =>
    simp only [ThreadState.tcp, hp, ThreadState.pointAfter] at hmutex ⊢
    exact threadsInv_loop h.threads h.old_ended hrun hcur (by simpa using hmutex)
  | sleep =>
    simp only [ThreadState.tcp, hp, ThreadState.pointAfter] at hmutex ⊢
    exact threadsInv_goto h.threads h.old_ended hrun hcur (by decide) (by simpa using hmutex)
  | ended => exact absurd hp hne

/-- A step of an instance that has ended, or of none, changes nothing. -/
lemma step_tcp_of_ended {i : ℕ} (h : ∀ t, s.threads[i]? = some t → t.point = .ended)
    (r : Received) : (tcpThreads longBits).step s (.tcp i r) = (s, []) := by
  simp only [tcpThreads]
  cases hi : s.threads[i]? with
  | none => rfl
  | some t => simp only [ThreadState.tcp, h t hi]

/-- An instance other than the last has ended. -/
lemma ended_of_ne_last (h : ThreadsInv s old cur) {i : ℕ} (hi : i ≠ old.length) :
    ∀ t, s.threads[i]? = some t → t.point = .ended := by
  intro t ht
  rw [h.threads, List.getElem?_append] at ht
  split_ifs at ht with hlt
  · exact h.old_ended t (List.mem_of_getElem? ht)
  · rw [List.getElem?_eq_none (by simp; omega)] at ht
    exact absurd ht (by simp)

/-- The globals do not matter. -/
lemma ThreadsInv.with_globals (h : ThreadsInv s old cur) (g : State longBits) :
    ThreadsInv { s with globals := g } old cur :=
  ⟨h.threads, h.old_ended, h.restarting, h.running, h.mutex⟩

/-- A step of another thread changes the globals at most. -/
lemma next_thread_globals (s : ThreadState longBits) (e : Event) :
    ∃ g, (tcpThreads longBits).next s (.thread e) = { s with globals := g } := by
  cases e with
  | tcpRecv r => exact ⟨s.globals, rfl⟩
  | dog => exact ⟨s.globals, rfl⟩
  | _ => exact ⟨(server longBits).next s.globals _, rfl⟩

/-- The iteration of `Thread_Dog` that cancels the last instance. -/
lemma dog_of_recovers (h : ThreadsInv s old cur) (hrec : s.recovers) :
    (tcpThreads longBits).next s .dog =
      { s with globals := (server longBits).next s.globals .dog, restarting := true,
               threads := old ++ [{ cur with cancelled := true }.settle] } := by
  have hemit : Output.restartTcp ∈ (server longBits).emit s.globals .dog :=
    (restartTcp_mem_emit_iff _ _).mpr ⟨rfl, hrec.2⟩
  simp [Machine.next, tcpThreads, hrec.1, ThreadState.dog, hemit, h.threads]

/-- The other iterations of `Thread_Dog`. -/
lemma dog_of_not_recovers (hrec : ¬ s.recovers) (hrun : s.restarting = false) :
    (tcpThreads longBits).next s .dog =
      { s with globals := (server longBits).next s.globals .dog } := by
  have hemit : Output.restartTcp ∉ (server longBits).emit s.globals .dog := fun hmem =>
    hrec ⟨hrun, ((restartTcp_mem_emit_iff _ _).mp hmem).2⟩
  simp [Machine.next, tcpThreads, hrun, ThreadState.dog, hemit]

/-- A running instance outside its section ends when it is cancelled. -/
lemma settle_of_outside (hne : cur.point ≠ .ended) (hout : cur.point.inSection = false) :
    ({ cur with cancelled := true } : Instance).settle = ⟨.ended, true⟩ := by
  rcases cur with ⟨p, b⟩
  cases p <;> simp_all [Instance.settle, Point.cancellable, Point.inSection]

/-- The last instance is cancelled outside its section, and ends without the lock. -/
lemma threadsInv_cancel (h : ThreadsInv s old cur) (hrec : s.recovers)
    (hsec : ¬ s.inSection) :
    ThreadsInv ((tcpThreads longBits).next s .dog) old ⟨.ended, true⟩ := by
  have hout : cur.point.inSection = false := by
    simpa [ThreadState.inSection, h.threads] using hsec
  have hfree : s.mutex_raw_out = none := by
    rw [h.mutex, if_neg]
    rintro (hp | hp) <;> simp [hp, Point.inSection] at hout
  rw [dog_of_recovers h hrec, settle_of_outside (h.running hrec.1).2 hout]
  exact ⟨rfl, h.old_ended, fun _ => rfl, fun h => by simp at h, by simpa using hfree⟩

/-- The next instance is created behind the one that ended, and finds the lock free. -/
lemma threadsInv_create (h : ThreadsInv s old cur) (hrun : s.restarting = true) :
    ThreadsInv ((tcpThreads longBits).next s .create) (old ++ [cur]) ⟨.accept, false⟩ := by
  have hended := h.restarting hrun
  have hfree : s.mutex_raw_out = none := by simpa [hended] using h.mutex
  simp only [Machine.next, tcpThreads, hrun, if_true]
  refine ⟨by simp [h.threads], fun t ht => ?_, fun h => by simp at h, fun _ => ⟨rfl, by decide⟩,
    by simpa using hfree⟩
  rcases List.mem_append.mp ht with ht | ht
  · exact h.old_ended t ht
  · rw [List.mem_singleton.mp ht, hended]

/-- **One step** that cancels no instance in its section.

**Proof sketch.** Only the last instance moves, and it takes and releases the lock as it passes the
points of its program. Cancelled outside its section it ends without the lock, and the next one
finds it free. -/
lemma threadsInv_next (h : ThreadsInv s old cur) {e : ThreadEvent} (he : OutsideSection s e) :
    ∃ old' cur', ThreadsInv ((tcpThreads longBits).next s e) old' cur' := by
  cases e with
  | tcp i r =>
    by_cases hi : i = old.length
    · subst hi
      cases hrun : s.restarting with
      | false => exact ⟨old, _, threadsInv_tcp h hrun r⟩
      | true =>
        have hstay := step_tcp_of_ended (s := s) (i := old.length) (fun t ht => by
          obtain rfl : cur = t := by simpa [h.threads] using ht
          exact h.restarting hrun) r
        rw [Machine.next, hstay]
        exact ⟨old, cur, h⟩
    · rw [Machine.next, step_tcp_of_ended (ended_of_ne_last h hi)]
      exact ⟨old, cur, h⟩
  | dog =>
    cases hrun : s.restarting with
    | true =>
      have hstay : (tcpThreads longBits).next s .dog = s := by
        simp [Machine.next, tcpThreads, hrun]
      rw [hstay]
      exact ⟨old, cur, h⟩
    | false =>
      by_cases hrec : s.recovers
      · exact ⟨old, ⟨.ended, true⟩, threadsInv_cancel h hrec (he rfl hrec)⟩
      · rw [dog_of_not_recovers hrec hrun]
        exact ⟨old, cur, h.with_globals _⟩
  | create =>
    cases hrun : s.restarting with
    | false =>
      have hstay : (tcpThreads longBits).next s .create = s := by
        simp [Machine.next, tcpThreads, hrun]
      rw [hstay]
      exact ⟨old, cur, h⟩
    | true => exact ⟨old ++ [cur], ⟨.accept, false⟩, threadsInv_create h hrun⟩
  | thread e =>
    obtain ⟨g, hnext⟩ := next_thread_globals s e
    rw [hnext]
    exact ⟨old, cur, h.with_globals g⟩

/-- The lock in a state of such a run. -/
lemma ThreadsInv.mutexOk (h : ThreadsInv s old cur) : MutexOk s := by
  intro i hi
  rw [h.mutex] at hi
  split_ifs at hi with hp
  obtain rfl : old.length = i := Option.some.inj hi
  refine ⟨cur, by simp [h.threads], ?_⟩
  cases hrun : s.restarting with
  | false => exact (h.running hrun).1
  | true =>
    rw [h.restarting hrun] at hp
    simp at hp

/-- Steps of an instance change neither the debug level nor whether it is the last. -/
lemma next_tcp_fixed (s : ThreadState longBits) (i : ℕ) (r : Received) :
    ((tcpThreads longBits).next s (.tcp i r)).globals.debug = s.globals.debug ∧
      ((tcpThreads longBits).next s (.tcp i r)).restarting = s.restarting := by
  simp only [Machine.next, tcpThreads]
  cases s.threads[i]? with
  | none => exact ⟨rfl, rfl⟩
  | some t =>
    rcases t with ⟨p, b⟩
    cases p with
    | recv => exact ⟨debug_next _ _, rfl⟩
    | lock =>
      simp only [ThreadState.tcp]
      split_ifs <;> exact ⟨rfl, rfl⟩
    | unlock =>
      simp only [ThreadState.tcp, ThreadState.loop]
      split_ifs <;> exact ⟨rfl, rfl⟩
    | sendSimu =>
      simp only [ThreadState.tcp, ThreadState.loop]
      split_ifs <;> exact ⟨rfl, rfl⟩
    | _ => exact ⟨rfl, rfl⟩

/-- No step changes the debug level. -/
lemma tcpThreads_debug_next (s : ThreadState longBits) (e : ThreadEvent) :
    ((tcpThreads longBits).next s e).globals.debug = s.globals.debug := by
  cases e with
  | tcp i r => exact (next_tcp_fixed s i r).1
  | dog =>
    simp only [Machine.next, tcpThreads, ThreadState.dog]
    split_ifs
    · rfl
    · cases s.threads.getLast? <;> exact debug_next _ _
    · exact debug_next _ _
  | create =>
    simp only [Machine.next, tcpThreads]
    split_ifs <;> rfl
  | thread e =>
    cases e with
    | tcpRecv r => rfl
    | dog => rfl
    | _ => exact debug_next _ _

/-! ## Answers -/

/-- The last instance comes to send an answer by steps of its own. -/
def CanAnswer (s : ThreadState longBits) : Prop :=
  ∃ (rs : List Received) (b : List Byte), .tcp b ∈
    (tcpThreads longBits).outputs s (rs.map (ThreadEvent.tcp (s.threads.length - 1)))

/-- The last instance runs, in the mode that sends telemetry. -/
structure Runs (s : ThreadState longBits) (old : List Instance) (cur : Instance) : Prop where
  inv : ThreadsInv s old cur
  running : s.restarting = false
  debug : s.globals.debug = 0

/-- One step of the last instance. -/
lemma Runs.tcp (h : Runs s old cur) (r : Received) :
    Runs ((tcpThreads longBits).next s (.tcp old.length r)) old
      { cur with point := s.pointAfter r cur.point } where
  inv := threadsInv_tcp h.inv h.running r
  running := (next_tcp_fixed s _ r).2.trans h.running
  debug := (next_tcp_fixed s _ r).1.trans h.debug

/-- An instance that can answer after a step of its own can answer. -/
lemma Runs.canAnswer_of_next (h : Runs s old cur) (r : Received)
    (hnext : CanAnswer ((tcpThreads longBits).next s (.tcp old.length r))) : CanAnswer s := by
  obtain ⟨rs, b, hb⟩ := hnext
  rw [(h.tcp r).inv.threads, List.length_append, List.length_singleton, Nat.add_sub_cancel] at hb
  refine ⟨r :: rs, b, ?_⟩
  rw [h.inv.threads, List.length_append, List.length_singleton, Nat.add_sub_cancel, List.map_cons,
    Machine.outputs_cons]
  exact List.mem_append_right _ hb

/-- About to send. -/
lemma Runs.canAnswer_of_send (h : Runs s old cur) (hp : cur.point = .send) : CanAnswer s := by
  refine ⟨[.failed], s.globals.buffso_Raw_Data_Out.toList, ?_⟩
  simp [h.inv.threads, Machine.emit, tcpThreads, ThreadState.tcp, hp]

/-- About to lock: the lock is free. -/
lemma Runs.canAnswer_of_lock (h : Runs s old cur) (hp : cur.point = .lock) : CanAnswer s := by
  have hfree : s.mutex_raw_out = none := by simpa [hp] using h.inv.mutex
  refine h.canAnswer_of_next .failed ((h.tcp .failed).canAnswer_of_send ?_)
  simp [ThreadState.pointAfter, hp, hfree]

/-- In `recv`: the client sends a byte. -/
lemma Runs.canAnswer_of_recv (h : Runs s old cur) (hp : cur.point = .recv) : CanAnswer s := by
  refine h.canAnswer_of_next (.data [0]) ((h.tcp (.data [0])).canAnswer_of_lock ?_)
  simp [ThreadState.pointAfter, hp, h.debug, afterRecv, Received.size]

/-- In `accept`: a client connects. -/
lemma Runs.canAnswer_of_accept (h : Runs s old cur) (hp : cur.point = .accept) : CanAnswer s := by
  refine h.canAnswer_of_next .failed ((h.tcp .failed).canAnswer_of_recv ?_)
  simp [ThreadState.pointAfter, hp]

/-- In `sleep`. -/
lemma Runs.canAnswer_of_sleep (h : Runs s old cur) (hp : cur.point = .sleep) : CanAnswer s := by
  refine h.canAnswer_of_next .failed ((h.tcp .failed).canAnswer_of_accept ?_)
  simp [ThreadState.pointAfter, hp]

/-- **A running instance can answer**, wherever it stands.

**Proof sketch.** Point by point back from the `send`, along the program. -/
lemma Runs.canAnswer (h : Runs s old cur) : CanAnswer s := by
  have hloop : (cur.point = .unlock ∨ cur.point = .sendSimu) → CanAnswer s := by
    intro hp
    have hpoint : s.pointAfter .failed cur.point = if s.recvMsgSize > 0 then .recv else .sleep := by
      rcases hp with hp | hp <;> rw [hp] <;> rfl
    refine h.canAnswer_of_next .failed ?_
    by_cases hsize : s.recvMsgSize > 0
    · exact (h.tcp .failed).canAnswer_of_recv (by rw [hpoint, if_pos hsize])
    · exact (h.tcp .failed).canAnswer_of_sleep (by rw [hpoint, if_neg hsize])
  cases hp : cur.point with
  | accept => exact h.canAnswer_of_accept hp
  | recv => exact h.canAnswer_of_recv hp
  | lock => exact h.canAnswer_of_lock hp
  | send => exact h.canAnswer_of_send hp
  | unlock => exact hloop (Or.inl hp)
  | sendSimu => exact hloop (Or.inr hp)
  | sleep => exact h.canAnswer_of_sleep hp
  | ended => exact absurd hp (h.inv.running h.running).2

/-- An instance that was not cancelled goes on. -/
lemma goto_eq {p q : Point} (hs : s.threads = old ++ [⟨q, false⟩]) :
    s.goto old.length ⟨q, false⟩ p = { s with threads := old ++ [⟨p, false⟩] } := by
  have hsettle : (⟨p, false⟩ : Instance).settle = ⟨p, false⟩ := settle_of_not_cancelled rfl
  simp [ThreadState.goto, hs, hsettle]

/-- **The steps of one answer** are together the atomic `Thread_TCP`: they do to the globals what it
does, send what it sends, and lead back to `recv` with the lock free. -/
lemma run_answer {g : State longBits} (hg : g.debug = 0) (n : ℤ) {r : Received}
    (hr : ¬ r.size 9 < 1) (old : List Instance) :
    let s : ThreadState longBits := ⟨g, n, old ++ [⟨.recv, false⟩], none, false⟩
    let steps : List ThreadEvent := List.replicate 4 (.tcp old.length r)
    (tcpThreads longBits).run s steps =
        ⟨(server longBits).next g (.tcpRecv r), r.size 9, old ++ [⟨.recv, false⟩], none, false⟩ ∧
      (tcpThreads longBits).outputs s steps = (server longBits).emit g (.tcpRecv r) := by
  have hstep : ∀ (g : State longBits) n m p, (tcpThreads longBits).step
      ⟨g, n, old ++ [⟨p, false⟩], m, false⟩ (.tcp old.length r) =
        ThreadState.tcp ⟨g, n, old ++ [⟨p, false⟩], m, false⟩ old.length ⟨p, false⟩ r := by
    intro g n m p
    simp [tcpThreads]
  have hlock : afterRecv g.debug r = .lock := by simp [afterRecv, hr, hg]
  have hsize : r.size 9 > 0 := by omega
  have hout : (server longBits).emit g (.tcpRecv r) =
      [.tcp ((server longBits).next g (.tcpRecv r)).buffso_Raw_Data_Out.toList] := by
    simp [Machine.emit, Machine.next, server, Thread_TCP, hr, hg]
  rw [hout]
  simp [List.replicate_succ, Machine.next, Machine.emit, hstep, ThreadState.tcp, ThreadState.loop,
    goto_eq, hlock, hsize]

/-! ## Runs -/

/-- Every state of a run that cancels no instance in its section is as `ThreadsInv` says. -/
lemma threadsInv_run (debug hUSB1 : ℤ) {es : List ThreadEvent}
    (hes : (tcpThreads longBits).Along OutsideSection (ThreadState.start debug hUSB1) es) :
    ∃ old cur, ThreadsInv ((tcpThreads longBits).run (ThreadState.start debug hUSB1) es) old cur :=
  (tcpThreads longBits).run_induction (I := fun s => ∃ old cur, ThreadsInv s old cur)
    (fun _ _ he ⟨_, _, h⟩ => threadsInv_next h he)
    ⟨[], ⟨.accept, false⟩, rfl, by simp, fun h => by simp [ThreadState.start] at h,
      fun _ => ⟨rfl, by decide⟩, rfl⟩ hes

/-- **When the lock is in order.** In a run of the raw server in which no recovery cancels the
instance of `Thread_TCP` between the return of `recv` and its unlocking, `mutex_raw_out` is in every
state free or held by an instance that was not cancelled, and but for the pause of a recovery the
present instance can answer a command. -/
theorem tcpThreads_mutexOk (debug hUSB1 : ℤ) (es : List ThreadEvent)
    (hes : (tcpThreads longBits).Along OutsideSection (ThreadState.start debug hUSB1) es) :
    let s := (tcpThreads longBits).run (ThreadState.start debug hUSB1) es
    MutexOk s ∧ (debug = 0 → s.restarting = false → CanAnswer s) := by
  intro s
  obtain ⟨old, cur, h⟩ := threadsInv_run debug hUSB1 hes
  refine ⟨h.mutexOk, fun hdebug hrun => Runs.canAnswer ⟨h, hrun, ?_⟩⟩
  exact ((tcpThreads longBits).run_invariant (I := fun s => s.globals.debug = debug)
    (fun s e hs => (tcpThreads_debug_next s e).trans hs) rfl es).trans hdebug

/-- A lock held by a cancelled instance is not in order. -/
lemma not_mutexOk_of_held {i : ℕ} {t : Instance} (hheld : s.mutex_raw_out = some i)
    (ht : s.threads[i]? = some t) (hc : t.cancelled = true) : ¬ MutexOk s := by
  intro hok
  obtain ⟨t', ht', hc'⟩ := hok i hheld
  obtain rfl : t = t' := Option.some.inj (ht.symm.trans ht')
  exact absurd (hc.symm.trans hc') (by decide)

@[simp] lemma settle_cancelled (t : Instance) : t.settle.cancelled = t.cancelled := by
  rw [Instance.settle]
  split_ifs <;> rfl

/-- **Any other recovery loses the lock**: after it, at once or after one step of the instance that
it cancels, the lock is held by an instance that was cancelled. -/
lemma mutex_lost_of_inSection (debug hUSB1 : ℤ) {es : List ThreadEvent}
    (hes : (tcpThreads longBits).Along OutsideSection (ThreadState.start debug hUSB1) es)
    {e : ThreadEvent}
    (he : ¬ OutsideSection ((tcpThreads longBits).run (ThreadState.start debug hUSB1) es) e) :
    ¬ MutexOk ((tcpThreads longBits).run (ThreadState.start debug hUSB1) (es ++ [e])) ∨
      ∃ i, ((tcpThreads longBits).run (ThreadState.start debug hUSB1) es).threads.length = i + 1 ∧
        ∀ r, ¬ MutexOk
          ((tcpThreads longBits).run (ThreadState.start debug hUSB1) (es ++ [e, .tcp i r])) := by
  obtain ⟨old, cur, h⟩ := threadsInv_run debug hUSB1 hes
  simp only [Machine.run_append, Machine.run_cons, Machine.run_nil]
  generalize (tcpThreads longBits).run (ThreadState.start debug hUSB1) es = s at h he ⊢
  simp only [OutsideSection, Classical.not_imp, not_not] at he
  obtain ⟨rfl, hrec, hsec⟩ := he
  have hin : cur.point.inSection = true := by
    simpa [ThreadState.inSection, h.threads] using hsec
  rw [dog_of_recovers h hrec]
  rcases eq_or_ne cur.point .lock with hp | hp
  · -- the cancelled instance takes the free lock and ends at the `send`
    have hfree : s.mutex_raw_out = none := by simpa [hp] using h.mutex
    have hsettle : ({ cur with cancelled := true } : Instance).settle = ⟨.lock, true⟩ := by
      simp [Instance.settle, Point.cancellable, hp]
    have hended : (⟨.send, true⟩ : Instance).settle = ⟨.ended, true⟩ := rfl
    rw [hsettle]
    refine Or.inr ⟨old.length, by simp [h.threads], fun r =>
      not_mutexOk_of_held (i := old.length) (t := ⟨.ended, true⟩) ?_ ?_ rfl⟩
    · simp [Machine.next, tcpThreads, ThreadState.tcp, ThreadState.goto, hfree]
    · simp [Machine.next, tcpThreads, ThreadState.tcp, ThreadState.goto, hfree, hended]
  · have hheld : s.mutex_raw_out = some old.length := by
      rw [h.mutex, if_pos]
      rcases cur with ⟨p, b⟩
      cases p <;> simp_all [Point.inSection]
    exact Or.inl <| not_mutexOk_of_held (t := ({ cur with cancelled := true } : Instance).settle)
      hheld (by simp) (by simp)

/-- A client that commands, reads its answer and falls silent. -/
def silentRun : List ThreadEvent :=
  [.tcp 0 .failed, .tcp 0 (.data [0xFF]), .tcp 0 .failed, .tcp 0 .failed, .tcp 0 .failed, .dog,
    .dog, .dog, .dog, .create]

/-- The recovery from it leaves the lock in order. -/
theorem tcpThreads_mutexOk_silentRun :
    let s := (tcpThreads 32).run (ThreadState.start 0 3) silentRun
    MutexOk s ∧ ((0 : ℤ) = 0 → s.restarting = false → CanAnswer s) :=
  tcpThreads_mutexOk 0 3 silentRun (by decide +kernel)

/-- A client that commands and does not read its answer. -/
def stuckRun : List ThreadEvent :=
  [.tcp 0 .failed, .tcp 0 (.data [0xFF]), .tcp 0 .failed, .dog, .dog, .dog, .dog]

/-- The recovery from it loses the lock. -/
theorem not_mutexOk_stuckRun :
    ¬ ∀ (debug hUSB1 : ℤ) (es : List ThreadEvent),
      MutexOk ((tcpThreads 32).run (ThreadState.start debug hUSB1) es) := by
  intro h
  refine not_mutexOk_of_held (i := 0) (t := ⟨.ended, true⟩) ?_ ?_ rfl (h 0 3 stuckRun)
  · decide +kernel
  · decide +kernel

end Wifibot
