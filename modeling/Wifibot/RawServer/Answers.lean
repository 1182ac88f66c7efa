import Wifibot.RawServer.Refinement

set_option relaxedAutoImplicit false
set_option autoImplicit false

/-!
# One answer for each command

Between the `recv` that brings a command and the `send` of its answer an instance of `Thread_TCP`
waits for the lock, and the other threads run. As long as no instance is cancelled in between, no
command stays without its answer and none is answered twice; and what is sent is the telemetry as it
stands at the `send`, which may be newer than the command.

## Main definitions

* `Wifibot.awaiting` — an instance has received a command that it has not answered.
* `Wifibot.bringsByte` — an atomic step is a `recv` with a byte.

## Main results

* `Wifibot.threads_answer_once` — commands and answers of a run, and what the answers hold.
-/

namespace Wifibot

variable {longBits : ℕ}

/-- The instance has received a command and not sent its answer. -/
def awaiting (t : Instance) : Bool := decide (t.point = .lock ∨ t.point = .send)

/-- The step is a `recv` that brings a byte. -/
def bringsByte : Event → Bool
  | .tcpRecv r => 1 ≤ r.size 9
  | _ => false

/-- The last instance of a run in order, in the mode that sends telemetry; in this mode it does not
come to the `send` of the simulation. -/
structure AnswersInv (s : ThreadState longBits) (old : List Instance) (cur : Instance) : Prop where
  inv : ThreadsInv s old cur
  debug : s.globals.debug = 0
  point_ne : cur.point ≠ .sendSimu

variable {s : ThreadState longBits} {old : List Instance} {cur : Instance}

/-- Of the instances that have ended none awaits anything. -/
lemma AnswersInv.countP_awaiting (h : AnswersInv s old cur) :
    s.threads.countP awaiting = if awaiting cur then 1 else 0 := by
  have hold : old.countP awaiting = 0 := by
    rw [List.countP_eq_zero]
    intro t ht
    simp [awaiting, h.inv.old_ended t ht]
  rw [h.inv.threads, List.countP_append, hold, List.countP_cons, List.countP_nil, Nat.zero_add,
    Nat.zero_add]

/-- What a step adds to the commands, it adds to the answers and to what is awaited. -/
def Balanced (s : ThreadState longBits) (e : ThreadEvent) : Prop :=
  ((tcpThreads longBits).emit s e).length +
      ((tcpThreads longBits).next s e).threads.countP awaiting =
    s.threads.countP awaiting + (atomicEvents s e).countP bringsByte

/-- After `recv` an instance awaits an answer iff there was a byte. -/
lemma afterRecv_of_debug (r : Received) :
    afterRecv 0 r = if 1 ≤ r.size 9 then .lock else .sleep := by
  rw [afterRecv]
  split_ifs <;> first | rfl | omega

/-- A step that neither sends nor brings a command, and leaves the instances as they are. -/
lemma balanced_of_quiet {e : ThreadEvent} (hemit : (tcpThreads longBits).emit s e = [])
    (hthreads : ((tcpThreads longBits).next s e).threads = s.threads)
    (hevents : (atomicEvents s e).countP bringsByte = 0) : Balanced s e := by
  rw [Balanced, hemit, hthreads, hevents, List.length_nil, Nat.zero_add, Nat.add_zero]

/-- A step of an instance that has ended, or of none. -/
lemma balanced_tcp_of_ended {i : ℕ} (hi : ∀ t, s.threads[i]? = some t → t.point = .ended)
    (r : Received) : Balanced s (.tcp i r) := by
  have hstep := step_tcp_of_ended hi r
  refine balanced_of_quiet (by rw [Machine.emit, hstep]) (by rw [Machine.next, hstep]) ?_
  rw [atomicEvents]
  cases ht : s.threads[i]? with
  | none => rfl
  | some t => rw [Option.elim_some, atomicTcp, hi t ht]; rfl

/-- The last instance stands at `p` after its step, and is again as the run has it. -/
lemma AnswersInv.tcp (h : AnswersInv s old cur) (hrun : s.restarting = false) (r : Received) :
    AnswersInv ((tcpThreads longBits).next s (.tcp old.length r)) old
      { cur with point := s.pointAfter r cur.point } where
  inv := threadsInv_tcp h.inv hrun r
  debug := (next_tcp_fixed s _ r).1.trans h.debug
  point_ne := by
    rcases cur with ⟨p, b⟩
    cases p with
    | recv =>
      simp only [ThreadState.pointAfter, h.debug, afterRecv_of_debug]
      split_ifs <;> simp
    | lock =>
      simp only [ThreadState.pointAfter]
      split_ifs <;> simp
    | unlock =>
      simp only [ThreadState.pointAfter]
      split_ifs <;> simp
    | sendSimu => exact absurd rfl h.point_ne
    | _ => simp [ThreadState.pointAfter]

/-- **A step of the last instance** while it runs: `recv` with a byte begins to await, and `send`
ends it.

**Proof sketch.** Point by point along the program. -/
lemma AnswersInv.balanced_tcp (h : AnswersInv s old cur) (hrun : s.restarting = false)
    (r : Received) : Balanced s (.tcp old.length r) := by
  have hget : s.threads[old.length]? = some cur := by simp [h.inv.threads]
  rw [Balanced, (h.tcp hrun r).countP_awaiting, h.countP_awaiting, Machine.emit,
    next_tcp_last h.inv, atomicEvents, hget, Option.elim_some]
  have hmutex := h.inv.mutex
  rcases cur with ⟨p, b⟩
  cases p with
  | recv =>
    simp only [ThreadState.tcp, ThreadState.pointAfter, atomicTcp, h.debug, afterRecv_of_debug]
    by_cases hsize : 1 ≤ r.size 9 <;> simp [awaiting, bringsByte, hsize]
  | lock =>
    have hfree : s.mutex_raw_out = none := by simpa using hmutex
    simp [ThreadState.tcp, ThreadState.pointAfter, atomicTcp, awaiting, hfree]
  | send => simp [ThreadState.tcp, ThreadState.pointAfter, atomicTcp, awaiting]
  | unlock =>
    simp only [ThreadState.tcp, ThreadState.pointAfter, atomicTcp]
    split_ifs <;> simp_all [awaiting, bringsByte, Received.size]
  | sendSimu => exact absurd rfl h.point_ne
  | ended => exact absurd rfl (h.inv.running hrun).2
  | _ => simp [ThreadState.tcp, ThreadState.pointAfter, atomicTcp, awaiting]

/-- The state of a run in order with other globals. -/
lemma AnswersInv.of_globals (h : AnswersInv s old cur) {s' : ThreadState longBits}
    (hs' : ∃ g, s' = { s with globals := g }) (hdebug : s'.globals.debug = 0) :
    AnswersInv s' old cur := by
  obtain ⟨g, rfl⟩ := hs'
  exact ⟨h.inv.with_globals g, hdebug, h.point_ne⟩

/-- An iteration of `Thread_Dog` that cancels an instance outside its section. -/
lemma AnswersInv.dog (h : AnswersInv s old cur) (hrec : s.recovers) (hsec : ¬ s.inSection) :
    AnswersInv ((tcpThreads longBits).next s .dog) old ⟨.ended, true⟩ ∧ Balanced s .dog := by
  have hnext : AnswersInv ((tcpThreads longBits).next s .dog) old ⟨.ended, true⟩ :=
    ⟨threadsInv_cancel h.inv hrec hsec, (tcpThreads_debug_next s .dog).trans h.debug, by simp⟩
  have hout : cur.point.inSection = false := by
    simpa [ThreadState.inSection, h.inv.threads] using hsec
  have hcur : awaiting cur = false := by
    rcases cur with ⟨p, b⟩
    cases p <;> simp_all [awaiting, Point.inSection]
  refine ⟨hnext, ?_⟩
  rw [Balanced, hnext.countP_awaiting, h.countP_awaiting, hcur]
  simp [Machine.emit, tcpThreads, hrec.1, awaiting, atomicEvents, bringsByte]

/-- **One step** that cancels no instance in its section. -/
lemma AnswersInv.next (h : AnswersInv s old cur) {e : ThreadEvent} (he : OutsideSection s e) :
    (∃ old' cur', AnswersInv ((tcpThreads longBits).next s e) old' cur') ∧ Balanced s e := by
  have hstay : (tcpThreads longBits).step s e = (s, []) →
      (atomicEvents s e).countP bringsByte = 0 →
      (∃ old' cur', AnswersInv ((tcpThreads longBits).next s e) old' cur') ∧ Balanced s e := by
    intro hstep hevents
    have hnext : (tcpThreads longBits).next s e = s := by rw [Machine.next, hstep]
    refine ⟨⟨old, cur, ?_⟩, balanced_of_quiet (by rw [Machine.emit, hstep]) (by rw [hnext]) hevents⟩
    rw [hnext]
    exact h
  have hdebug : ((tcpThreads longBits).next s e).globals.debug = 0 :=
    (tcpThreads_debug_next s e).trans h.debug
  cases e with
  | tcp i r =>
    have hended : (∀ t, s.threads[i]? = some t → t.point = .ended) →
        (∃ old' cur', AnswersInv ((tcpThreads longBits).next s (.tcp i r)) old' cur') ∧
          Balanced s (.tcp i r) := by
      intro hi
      refine ⟨⟨old, cur, ?_⟩, balanced_tcp_of_ended hi r⟩
      rw [Machine.next, step_tcp_of_ended hi]
      exact h
    by_cases hi : i = old.length
    · subst hi
      cases hrun : s.restarting with
      | false => exact ⟨⟨old, _, h.tcp hrun r⟩, h.balanced_tcp hrun r⟩
      | true =>
        refine hended fun t ht => ?_
        obtain rfl : cur = t := by simpa [h.inv.threads] using ht
        exact h.inv.restarting hrun
    · exact hended (ended_of_ne_last h.inv hi)
  | dog =>
    cases hrun : s.restarting with
    | true => exact hstay (by simp [tcpThreads, hrun]) (by simp [atomicEvents, hrun])
    | false =>
      by_cases hrec : s.recovers
      · obtain ⟨hnext, hbalanced⟩ := h.dog hrec (he rfl hrec)
        exact ⟨⟨old, _, hnext⟩, hbalanced⟩
      · have hnext := dog_of_not_recovers hrec hrun
        refine ⟨⟨old, cur, h.of_globals ⟨_, hnext⟩ hdebug⟩, balanced_of_quiet ?_ ?_ ?_⟩
        · simp [Machine.emit, tcpThreads, hrun]
        · rw [hnext]
        · simp [atomicEvents, hrun, bringsByte]
  | create =>
    cases hrun : s.restarting with
    | false => exact hstay (by simp [tcpThreads, hrun]) rfl
    | true =>
      have hnext : AnswersInv ((tcpThreads longBits).next s .create) (old ++ [cur])
          ⟨.accept, false⟩ := ⟨threadsInv_create h.inv hrun, hdebug, by simp⟩
      refine ⟨⟨_, _, hnext⟩, ?_⟩
      rw [Balanced, hnext.countP_awaiting, h.countP_awaiting]
      simp [Machine.emit, tcpThreads, hrun, awaiting, atomicEvents, h.inv.restarting hrun]
  | thread e =>
    obtain ⟨g, hnext⟩ := next_thread_globals s e
    refine ⟨⟨old, cur, h.of_globals ⟨g, hnext⟩ hdebug⟩, balanced_of_quiet ?_ ?_ ?_⟩
    · cases e <;> rfl
    · rw [hnext]
    · rw [atomicEvents]
      cases he : e.ofOther with
      | none => rfl
      | some e' =>
        obtain ⟨rfl, hne, -⟩ := ofOther_eq_some he
        cases e with
        | tcpRecv r => exact absurd rfl (hne r)
        | _ => rfl

/-- The balance of a run. -/
lemma AnswersInv.run (h : AnswersInv s old cur) {es : List ThreadEvent}
    (hes : (tcpThreads longBits).Along OutsideSection s es) :
    ((tcpThreads longBits).outputs s es).length +
        ((tcpThreads longBits).run s es).threads.countP awaiting =
      s.threads.countP awaiting +
        ((tcpThreads longBits).translate atomicEvents s es).countP bringsByte := by
  induction es generalizing s old cur with
  | nil => simp
  | cons e es ih =>
    obtain ⟨⟨old', cur', hnext⟩, hbalanced⟩ := h.next hes.1
    have htail := ih hnext hes.2
    rw [Balanced] at hbalanced
    rw [Machine.outputs_cons, Machine.run_cons, Machine.translate_cons, List.length_append,
      List.countP_append]
    omega

/-- What is sent to the client is the telemetry as it stands. -/
lemma out_of_mem_emit {e : ThreadEvent} {b : List Byte} (h : AnswersInv s old cur)
    (hb : .tcp b ∈ (tcpThreads longBits).emit s e) : b = s.globals.buffso_Raw_Data_Out.toList := by
  cases e with
  | tcp i r =>
    by_cases hi : i = old.length
    · subst hi
      rw [Machine.emit, next_tcp_last h.inv] at hb
      rcases cur with ⟨p, c⟩
      cases p with
      | send => simpa [ThreadState.tcp] using hb
      | sendSimu => exact absurd rfl h.point_ne
      | lock =>
        simp only [ThreadState.tcp] at hb
        split_ifs at hb <;> simp at hb
      | _ => simp [ThreadState.tcp] at hb
    · rw [Machine.emit, step_tcp_of_ended (ended_of_ne_last h.inv hi)] at hb
      simp at hb
  | dog =>
    simp only [Machine.emit, tcpThreads] at hb
    split_ifs at hb <;> simp at hb
  | create =>
    simp only [Machine.emit, tcpThreads] at hb
    split_ifs at hb <;> simp at hb
  | thread e => cases e <;> simp [Machine.emit, tcpThreads] at hb

/-- The start is in order. -/
lemma answersInv_start (hUSB1 : ℤ) :
    AnswersInv (ThreadState.start 0 hUSB1 : ThreadState longBits) [] ⟨.accept, false⟩ where
  inv := ⟨rfl, by simp, fun h => by simp [ThreadState.start] at h, fun _ => ⟨rfl, by decide⟩, rfl⟩
  debug := rfl
  point_ne := by simp

/-- **One answer for each command.** In a run of the model with the instances of `Thread_TCP`,
started with `debug` 0, in which no recovery cancels one between the return of `recv` and its
unlocking, the answers sent and the instances that have yet to answer are together as many as the
`recv` that brought a byte; at most one instance has yet to answer; and each answer is the last
payload accepted from the robot since the last telemetry request, at the time of the `send`. -/
theorem threads_answer_once (hUSB1 : ℤ) (es : List ThreadEvent)
    (hes : (tcpThreads longBits).Along OutsideSection (ThreadState.start 0 hUSB1) es) :
    let start : ThreadState longBits := ThreadState.start 0 hUSB1
    let pending := ((tcpThreads longBits).run start es).threads.countP awaiting
    ((tcpThreads longBits).outputs start es).length + pending =
        (atomicRun longBits 0 hUSB1 es).countP bringsByte ∧
      pending ≤ 1 ∧
      ∀ pre e post b, es = pre ++ e :: post →
        .tcp b ∈ (tcpThreads longBits).emit ((tcpThreads longBits).run start pre) e →
        b = (lastAccepted (sinceRequest
          (atomicRun longBits 0 hUSB1 pre))).toList := by
  intro start pending
  have hinv : ∀ {fs}, (tcpThreads longBits).Along OutsideSection start fs →
      ∃ old cur, AnswersInv ((tcpThreads longBits).run start fs) old cur := fun hfs =>
    (tcpThreads longBits).run_induction (I := fun s => ∃ old cur, AnswersInv s old cur)
      (fun _ _ he ⟨_, _, h⟩ => (h.next he).1) ⟨[], _, answersInv_start hUSB1⟩ hfs
  refine ⟨?_, ?_, ?_⟩
  · have hstart : AnswersInv start [] ⟨.accept, false⟩ := answersInv_start hUSB1
    have hrun := hstart.run hes
    rwa [(answersInv_start hUSB1).countP_awaiting, awaiting, if_neg (by simp), Nat.zero_add] at hrun
  · obtain ⟨old, cur, h⟩ := hinv hes
    simp only [pending, h.countP_awaiting]
    split_ifs <;> omega
  · rintro pre e post b rfl hb
    obtain ⟨old, cur, h⟩ := hinv (((tcpThreads longBits).along_append _ _ _ _).mp hes).1
    rw [out_of_mem_emit h hb, globals_run, out_run]

/-- A client that commands, reads its answer and falls silent has one command answered. -/
theorem threads_answer_once_silentRun :
    let start : ThreadState 32 := ThreadState.start 0 3
    let pending := ((tcpThreads 32).run start silentRun).threads.countP awaiting
    ((tcpThreads 32).outputs start silentRun).length + pending =
        (atomicRun 32 0 3 silentRun).countP bringsByte ∧
      pending ≤ 1 ∧
      ∀ pre e post b, silentRun = pre ++ e :: post →
        .tcp b ∈ (tcpThreads 32).emit ((tcpThreads 32).run start pre) e →
        b = (lastAccepted (sinceRequest (atomicRun 32 0 3 pre))).toList :=
  threads_answer_once 3 silentRun (by decide +kernel)

end Wifibot
