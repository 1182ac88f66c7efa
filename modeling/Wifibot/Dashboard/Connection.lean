import Wifibot.Dashboard.Displays
import Wifibot.Dashboard.Drive
import Wifibot.Library.Simulation

set_option relaxedAutoImplicit false
set_option autoImplicit false

/-!
# The connection of the dashboard

`initWebSocket` of `www/wifibot/js/websocket.js` makes a socket and keeps it in the global
`websocket`. A timer calls it for the first time, and each socket that closes starts the timer of
the next call. The handlers of all sockets share the globals, so it matters that an old socket never
speaks after a new one has been made.

The browser delivers what the state of a socket allows: it opens once, brings messages only while it
is open, and closes once, after which nothing more comes from it. A socket that is closing is still
to deliver that it has closed. `send` throws on a socket that is connecting, and discards what it is
given on one that is closing or closed.

The calls of the console, the icon and the drawing of the gauges are left out.

## Main definitions

* `Wifibot.Dashboard.PageState`, `Wifibot.Dashboard.page` — the sockets, the timers, and what the
  handlers of `websocket.js` set, as a machine.
* `Wifibot.Dashboard.driveEvents` — what a step of the page is for the drive packets.
* `Wifibot.Dashboard.NewestOpen` — the newest socket has opened and has not closed yet.

## Main results

* `Wifibot.Dashboard.ConnectionInv` — one attempt at a time, and `conok` speaks of the socket in
  `websocket`.
* `Wifibot.Dashboard.conok_iff_newestOpen` — `conok` says that the newest socket is open.
* `Wifibot.Dashboard.page_connected` — the connection in every run of the page.
* `Wifibot.Dashboard.page_displays` — what every run of the page shows.
-/

namespace Wifibot.Dashboard

variable {R : Rounding 53}

/-! ## The page -/

/-- The `readyState` of a socket. -/
inductive ReadyState
  | connecting
  | opened
  | closing
  | closed
  deriving DecidableEq

/-- The socket has not closed yet. -/
def ReadyState.live (r : ReadyState) : Bool := r ≠ .closed

/-- The pending timers, the sockets that were made, the newest first, which is `websocket`, and what
the handlers set. -/
structure PageState (R : Rounding 53) where
  timers : ℕ
  sockets : List ReadyState
  drive : DriveState R
  displays : Displays

/-- What the browser delivers: an event of a joystick, the end of a timer, and a change or a message
of one of the sockets. At the end of a timer it matters whether the address is one. -/
inductive PageEvent (R : Rounding 53)
  | input (e : DriveEvent R)
  | timeout (valid : Bool)
  | opened (socket : ℕ)
  | closing (socket : ℕ)
  | closed (socket : ℕ)
  | message (socket : ℕ) (data : List Byte)
  | tick

/-- What comes of a call of `send` or of the constructor. -/
inductive PageOutput
  | sent (packet : Vector (BitVec 16) 4)
  | discarded (packet : Vector (BitVec 16) 4)
  | sendThrows
  | constructorThrows
  deriving DecidableEq

/-- The events of the joysticks. -/
def DriveEvent.isInput : DriveEvent R → Bool
  | .onOpen => false
  | .onClose => false
  | .tick => false
  | _ => true

/-- `websocket.send(arr)`. -/
def PageState.send (s : PageState R) (packet : Vector (BitVec 16) 4) : PageOutput :=
  match s.sockets.head? with
  | none => .sendThrows
  | some .connecting => .sendThrows
  | some .opened => .sent packet
  | some .closing => .discarded packet
  | some .closed => .discarded packet

/-- **The page.** -/
def page (R : Rounding 53) (enable_sensors : Bool) :
    Machine (PageState R) (PageEvent R) PageOutput where
  step s
    | .input e => (if e.isInput then { s with drive := (drive R).next s.drive e } else s, [])
    | .timeout valid =>
      if s.timers = 0 then (s, [])
      else if valid then
        ({ s with timers := s.timers - 1, sockets := .connecting :: s.sockets }, [])
      else ({ s with timers := s.timers - 1 }, [.constructorThrows])
    | .opened i =>
      if s.sockets[i]? = some .connecting then
        ({ s with sockets := s.sockets.set i .opened,
                  drive := (drive R).next s.drive .onOpen }, [])
      else (s, [])
    | .closing i =>
      if s.sockets[i]? = some .connecting ∨ s.sockets[i]? = some .opened then
        ({ s with sockets := s.sockets.set i .closing }, [])
      else (s, [])
    | .closed i =>
      if s.sockets[i]?.any ReadyState.live then
        ({ timers := s.timers + 1
           sockets := s.sockets.set i .closed
           drive := (drive R).next s.drive .onClose
           displays := s.displays.onClose enable_sensors }, [])
      else (s, [])
    | .message i data =>
      if s.sockets[i]? = some .opened then
        ({ s with displays := s.displays.onMessage enable_sensors data }, [])
      else (s, [])
    | .tick =>
      (s, if s.drive.conok then [s.send (drivePacket s.drive.virtual s.drive.physical)] else [])

/-- The page when its scripts have been loaded. -/
def PageState.start : PageState R where
  timers := 1
  sockets := []
  drive := .start
  displays := .start

/-- What a step of the page is for the drive packets. -/
def driveEvents (s : PageState R) : PageEvent R → List (DriveEvent R)
  | .input e => if e.isInput then [e] else []
  | .timeout _ => []
  | .opened i => if s.sockets[i]? = some .connecting then [.onOpen] else []
  | .closing _ => []
  | .closed i => if s.sockets[i]?.any ReadyState.live then [.onClose] else []
  | .message _ _ => []
  | .tick => [.tick]

/-- The packet of a call of `send` that does not throw. -/
def PageOutput.packet : PageOutput → Option (Vector (BitVec 16) 4)
  | .sent packet => some packet
  | .discarded packet => some packet
  | .sendThrows => none
  | .constructorThrows => none

/-- The newest socket has opened in the run, and has not closed yet. -/
def NewestOpen (enable_sensors : Bool) (es : List (PageEvent R)) : Prop :=
  let s := (page R enable_sensors).run .start es
  s.sockets.head?.any ReadyState.live = true ∧
    ∃ pre post, es = pre ++ .opened 0 :: post ∧
      ((page R enable_sensors).run .start pre).sockets.head? = some .connecting ∧
      s.sockets.length = ((page R enable_sensors).run .start pre).sockets.length

/-! ## One attempt at a time -/

/-- After so many failed calls of the constructor: a timer is pending or a socket is live, but never
two of these; all sockets but the newest have closed; and `conok` is set while the newest is open,
and at most until it closes. -/
structure ConnectionInv (s : PageState R) (failures : ℕ) : Prop where
  attempt : s.timers + s.sockets.countP ReadyState.live + failures = 1
  old : ∀ r ∈ s.sockets.tail, r = .closed
  conok_of_opened : s.sockets.head? = some .opened → s.drive.conok = true
  of_conok : s.drive.conok = true →
    s.sockets.head? = some .opened ∨ s.sockets.head? = some .closing

/-- The page at the start. -/
lemma connectionInv_start : ConnectionInv (PageState.start : PageState R) 0 where
  attempt := rfl
  old := by simp [PageState.start]
  conok_of_opened := by simp [PageState.start]
  of_conok := by simp [PageState.start, DriveState.start]

/-- The events of the joysticks leave `conok` as it is. -/
lemma conok_next_input (s : DriveState R) {e : DriveEvent R} (he : e.isInput = true) :
    ((drive R).next s e).conok = s.conok := by
  cases e with
  | frame gamepads =>
    simp only [Machine.next, drive]
    split_ifs <;> rfl
  | onOpen => simp [DriveEvent.isInput] at he
  | onClose => simp [DriveEvent.isInput] at he
  | tick => simp [DriveEvent.isInput] at he
  | _ => rfl

namespace ConnectionInv

variable {s : PageState R} {k : ℕ}

/-- A socket that has not closed is the newest. -/
lemma eq_cons (h : ConnectionInv s k) {i : ℕ} {r : ReadyState} (hi : s.sockets[i]? = some r)
    (hr : r ≠ .closed) : i = 0 ∧ ∃ l, s.sockets = r :: l ∧ ∀ r ∈ l, r = .closed := by
  have hold := h.old
  cases hs : s.sockets with
  | nil => simp [hs] at hi
  | cons r' l =>
    rw [hs] at hi hold
    cases i with
    | zero =>
      obtain rfl : r' = r := by simpa using hi
      exact ⟨rfl, l, rfl, hold⟩
    | succ i => exact absurd (hold r (List.mem_of_getElem? hi)) hr

/-- **The end of a timer**: there is no live socket, and the next one is made. -/
lemma timeout (h : ConnectionInv s k) (ht : s.timers ≠ 0) :
    ConnectionInv { s with timers := s.timers - 1, sockets := .connecting :: s.sockets } k := by
  have hattempt := h.attempt
  have hclosed : ∀ r ∈ s.sockets, r = .closed := by
    have hzero : s.sockets.countP ReadyState.live = 0 := by omega
    intro r hr
    simpa [ReadyState.live] using List.countP_eq_zero.mp hzero r hr
  have hconok : s.drive.conok ≠ true := by
    intro hconok
    rcases h.of_conok hconok with hhead | hhead
    · exact absurd (hclosed _ (List.mem_of_mem_head? hhead)) (by decide)
    · exact absurd (hclosed _ (List.mem_of_mem_head? hhead)) (by decide)
  exact
    { attempt := by
        show s.timers - 1 + (ReadyState.connecting :: s.sockets).countP ReadyState.live + k = 1
        rw [List.countP_cons_of_pos rfl]
        omega
      old := hclosed
      conok_of_opened := by simp
      of_conok := fun hc => absurd hc hconok }

/-- **The constructor throws**: there is no further attempt. -/
lemma failed (h : ConnectionInv s k) (ht : s.timers ≠ 0) :
    ConnectionInv { s with timers := s.timers - 1 } (k + 1) where
  attempt := by
    have hattempt := h.attempt
    show s.timers - 1 + s.sockets.countP ReadyState.live + (k + 1) = 1
    omega
  old := h.old
  conok_of_opened := h.conok_of_opened
  of_conok := h.of_conok

/-- A socket opens. -/
lemma opened (h : ConnectionInv s k) {i : ℕ} (hi : s.sockets[i]? = some .connecting) :
    ConnectionInv { s with sockets := s.sockets.set i .opened,
                           drive := (drive R).next s.drive .onOpen } k := by
  obtain ⟨rfl, l, hs, hl⟩ := h.eq_cons hi (by decide)
  have hattempt := h.attempt
  rw [hs, List.countP_cons_of_pos rfl] at hattempt
  exact
    { attempt := by simpa [hs, ReadyState.live] using hattempt
      old := by simpa [hs] using hl
      conok_of_opened := fun _ => rfl
      of_conok := fun _ => Or.inl (by simp [hs]) }

/-- A socket starts to close. -/
lemma closing (h : ConnectionInv s k) {i : ℕ} {r : ReadyState} (hi : s.sockets[i]? = some r)
    (hr : r = .connecting ∨ r = .opened) :
    ConnectionInv { s with sockets := s.sockets.set i .closing } k := by
  have hlive : r ≠ .closed := by rcases hr with rfl | rfl <;> decide
  obtain ⟨rfl, l, hs, hl⟩ := h.eq_cons hi hlive
  have hattempt := h.attempt
  rw [hs, List.countP_cons_of_pos (by simpa [ReadyState.live] using hlive)] at hattempt
  exact
    { attempt := by simpa [hs, ReadyState.live] using hattempt
      old := by simpa [hs] using hl
      conok_of_opened := by simp [hs]
      of_conok := fun _ => Or.inr (by simp [hs]) }

/-- **A socket closes**: the timer of the next one is started. -/
lemma closed (h : ConnectionInv s k) (d : Displays) {i : ℕ} {r : ReadyState}
    (hi : s.sockets[i]? = some r) (hr : r ≠ .closed) :
    ConnectionInv { timers := s.timers + 1, sockets := s.sockets.set i .closed,
                    drive := (drive R).next s.drive .onClose, displays := d } k := by
  obtain ⟨rfl, l, hs, hl⟩ := h.eq_cons hi hr
  have hattempt := h.attempt
  rw [hs, List.countP_cons_of_pos (by simpa [ReadyState.live] using hr)] at hattempt
  exact
    { attempt := by
        have hset : s.sockets.set 0 .closed = .closed :: l := by rw [hs, List.set_cons_zero]
        show s.timers + 1 + (s.sockets.set 0 .closed).countP ReadyState.live + k = 1
        rw [hset, List.countP_cons_of_neg (by decide)]
        omega
      old := by simpa [hs] using hl
      conok_of_opened := by simp [hs]
      of_conok := fun hc => by cases hc }

/-- **One step.** -/
lemma next (h : ConnectionInv s k) (enable_sensors : Bool) (e : PageEvent R) :
    ConnectionInv ((page R enable_sensors).next s e)
      (k + ((page R enable_sensors).emit s e).count .constructorThrows) := by
  cases e with
  | input e =>
    cases he : e.isInput with
    | false => simpa [Machine.next, Machine.emit, page, he] using h
    | true =>
      simp only [Machine.next, Machine.emit, page, he, if_true, List.count_nil, add_zero]
      have hconok := conok_next_input s.drive he
      exact
        { attempt := h.attempt
          old := h.old
          conok_of_opened := fun hs => hconok.trans (h.conok_of_opened hs)
          of_conok := fun hc => h.of_conok (hconok.symm.trans hc) }
  | timeout valid =>
    by_cases ht : s.timers = 0
    · simpa [Machine.next, Machine.emit, page, ht] using h
    · cases valid with
      | false => simpa [Machine.next, Machine.emit, page, ht] using h.failed ht
      | true => simpa [Machine.next, Machine.emit, page, ht] using h.timeout ht
  | opened i =>
    by_cases hi : s.sockets[i]? = some .connecting
    · simpa [Machine.next, Machine.emit, page, hi] using h.opened hi
    · simpa [Machine.next, Machine.emit, page, hi] using h
  | closing i =>
    by_cases hi : s.sockets[i]? = some .connecting ∨ s.sockets[i]? = some .opened
    · have hnext : ConnectionInv { s with sockets := s.sockets.set i .closing } k :=
        hi.elim (fun hi => h.closing hi (Or.inl rfl)) fun hi => h.closing hi (Or.inr rfl)
      simpa [Machine.next, Machine.emit, page, hi] using hnext
    · simpa [Machine.next, Machine.emit, page, hi] using h
  | closed i =>
    cases hi : s.sockets[i]? with
    | none => simpa [Machine.next, Machine.emit, page, hi] using h
    | some r =>
      by_cases hr : r = .closed
      · simpa [Machine.next, Machine.emit, page, hi, hr, ReadyState.live] using h
      · simpa [Machine.next, Machine.emit, page, hi, hr, ReadyState.live] using h.closed _ hi hr
  | message i data =>
    have hdisplays : ∀ d, ConnectionInv { s with displays := d } k := fun d =>
      { attempt := h.attempt
        old := h.old
        conok_of_opened := h.conok_of_opened
        of_conok := h.of_conok }
    by_cases hi : s.sockets[i]? = some .opened
    · simpa [Machine.next, Machine.emit, page, hi] using hdisplays _
    · simpa [Machine.next, Machine.emit, page, hi] using h
  | tick =>
    have hcount : ((page R enable_sensors).emit s .tick).count .constructorThrows = 0 := by
      rw [List.count_eq_zero]
      intro hmem
      simp only [Machine.emit, page] at hmem
      split_ifs at hmem
      · simp only [PageState.send, List.mem_singleton] at hmem
        split at hmem <;> cases hmem
      · cases hmem
    rw [hcount]
    exact h

/-- **Every run.** -/
lemma run (h : ConnectionInv s k) (enable_sensors : Bool) (es : List (PageEvent R)) :
    ConnectionInv ((page R enable_sensors).run s es)
      (k + ((page R enable_sensors).outputs s es).count .constructorThrows) := by
  induction es generalizing s k with
  | nil => exact h
  | cons e es ih =>
    rw [Machine.run_cons, Machine.outputs_cons, List.count_append, ← Nat.add_assoc]
    exact ih (h.next enable_sensors e)

end ConnectionInv

/-! ## The newest socket -/

/-- **What a step does to the newest socket** and to `conok`: nothing, or it opens, or a new one is
made, or it closes. -/
lemma newest_cases {s : PageState R} {k : ℕ} (h : ConnectionInv s k) (enable_sensors : Bool)
    (e : PageEvent R) :
    let s' := (page R enable_sensors).next s e
    (s'.drive.conok = s.drive.conok ∧ s'.sockets.length = s.sockets.length ∧
        s'.sockets.head?.any ReadyState.live = s.sockets.head?.any ReadyState.live) ∨
      (e = .opened 0 ∧ s.sockets.head? = some .connecting ∧ s'.drive.conok = true ∧
        s'.sockets.length = s.sockets.length ∧ s'.sockets.head?.any ReadyState.live = true) ∨
      (s.drive.conok = false ∧ s'.drive.conok = false ∧
        s'.sockets.length = s.sockets.length + 1) ∨
      (s'.drive.conok = false ∧ s'.sockets.length = s.sockets.length ∧
        s'.sockets.head?.any ReadyState.live = false) := by
  cases e with
  | input e =>
    refine Or.inl ?_
    simp only [Machine.next, page]
    split_ifs with he
    · exact ⟨conok_next_input s.drive he, rfl, rfl⟩
    · exact ⟨rfl, rfl, rfl⟩
  | timeout valid =>
    simp only [Machine.next, page]
    split_ifs with ht hvalid
    · exact Or.inl ⟨rfl, rfl, rfl⟩
    · have hconok := (h.timeout ht).of_conok
      simp only [List.head?_cons, Option.some.injEq, reduceCtorEq, or_self, imp_false,
        Bool.not_eq_true] at hconok
      exact Or.inr (Or.inr (Or.inl ⟨hconok, hconok, rfl⟩))
    · exact Or.inl ⟨rfl, rfl, rfl⟩
  | opened i =>
    simp only [Machine.next, page]
    split_ifs with hi
    · obtain ⟨rfl, l, hs, -⟩ := h.eq_cons hi (by decide)
      exact Or.inr (Or.inl ⟨rfl, by simp [hs], rfl, by simp, by simp [hs, ReadyState.live]⟩)
    · exact Or.inl ⟨rfl, rfl, rfl⟩
  | closing i =>
    simp only [Machine.next, page]
    split_ifs with hi
    · refine Or.inl ⟨rfl, by simp, ?_⟩
      rcases hi with hi | hi
      · obtain ⟨rfl, l, hs, -⟩ := h.eq_cons hi (by decide)
        simp [hs, ReadyState.live]
      · obtain ⟨rfl, l, hs, -⟩ := h.eq_cons hi (by decide)
        simp [hs, ReadyState.live]
    · exact Or.inl ⟨rfl, rfl, rfl⟩
  | closed i =>
    simp only [Machine.next, page]
    split_ifs with hi
    · obtain ⟨r, hr, hlive⟩ := Option.any_eq_true _ _ |>.mp hi
      obtain ⟨rfl, l, hs, -⟩ := h.eq_cons hr (by simpa [ReadyState.live] using hlive)
      exact Or.inr (Or.inr (Or.inr ⟨rfl, by simp, by simp [hs, ReadyState.live]⟩))
    · exact Or.inl ⟨rfl, rfl, rfl⟩
  | message i data =>
    simp only [Machine.next, page]
    split_ifs <;> exact Or.inl ⟨rfl, rfl, rfl⟩
  | tick => exact Or.inl ⟨rfl, rfl, rfl⟩

/-- No socket is forgotten. -/
lemma length_sockets_le_run {s : PageState R} {k : ℕ} (h : ConnectionInv s k)
    (enable_sensors : Bool) (es : List (PageEvent R)) :
    s.sockets.length ≤ ((page R enable_sensors).run s es).sockets.length := by
  induction es generalizing s k with
  | nil => exact le_rfl
  | cons e es ih =>
    refine le_trans ?_ (ih (h.next enable_sensors e))
    rcases newest_cases h enable_sensors e with ⟨-, hlen, -⟩ | ⟨-, -, -, hlen, -⟩ | ⟨-, -, hlen⟩ |
      ⟨-, hlen, -⟩ <;> omega

/-- Where an element of a list with one more at the end may stand. -/
lemma exists_concat_eq_append_cons {α : Type*} {l : List α} {x a : α}
    {P : List α → List α → Prop} :
    (∃ pre post, l ++ [x] = pre ++ a :: post ∧ P pre post) ↔
      (∃ pre post, l = pre ++ a :: post ∧ P pre (post ++ [x])) ∨ x = a ∧ P l [] := by
  constructor
  · rintro ⟨pre, post, heq, hP⟩
    rcases List.eq_nil_or_concat' post with rfl | ⟨post, y, rfl⟩
    · obtain ⟨rfl, h⟩ := List.append_inj' heq rfl
      exact Or.inr ⟨List.singleton_inj.mp h, hP⟩
    · rw [← List.cons_append, ← List.append_assoc] at heq
      obtain ⟨rfl, h⟩ := List.append_inj' heq rfl
      obtain rfl := List.singleton_inj.mp h
      exact Or.inl ⟨pre, post, rfl, hP⟩
  · rintro (⟨pre, post, rfl, hP⟩ | ⟨rfl, hP⟩)
    · exact ⟨pre, post ++ [x], by simp, hP⟩
    · exact ⟨l, [], rfl, hP⟩

/-- **`conok` speaks of the newest socket.** -/
lemma conok_iff_newestOpen (enable_sensors : Bool) (es : List (PageEvent R)) :
    ((page R enable_sensors).run .start es).drive.conok = true ↔ NewestOpen enable_sensors es := by
  induction es using List.reverseRecOn with
  | nil => simp [NewestOpen, PageState.start, DriveState.start]
  | append_singleton es e ih =>
    have hinv := connectionInv_start (R := R).run enable_sensors es
    set s := (page R enable_sensors).run .start es with hs
    have hlen_pre : ∀ pre post, es = pre ++ .opened 0 :: post →
        ((page R enable_sensors).run .start pre).sockets.length ≤ s.sockets.length := by
      rintro pre post rfl
      rw [hs, Machine.run_append]
      exact length_sockets_le_run (connectionInv_start.run enable_sensors pre) enable_sensors _
    rw [NewestOpen, Machine.run_append, ← hs, Machine.run_cons, Machine.run_nil]
    simp only [exists_concat_eq_append_cons, ← hs]
    rcases newest_cases hinv enable_sensors e with ⟨hconok, hlen, hlive⟩ |
      ⟨rfl, hhead, hconok, hlen, hlive⟩ | ⟨-, hconok, hlen⟩ | ⟨hconok, -, hlive⟩
    · rw [hconok, hlen, hlive, ih, NewestOpen, ← hs]
      refine and_congr_right fun _ => ⟨Or.inl, ?_⟩
      rintro (h | ⟨rfl, hhead, -⟩)
      · exact h
      · -- a socket that opens sets `conok`, which was not set before
        have hopened : s.sockets[0]? = some .connecting := by rwa [← List.head?_eq_getElem?]
        simp only [Machine.next, page, hopened, if_true] at hconok
        have hset := hinv.of_conok hconok.symm
        simp [hhead] at hset
    · exact iff_of_true hconok ⟨hlive, Or.inr ⟨rfl, hhead, hlen⟩⟩
    · refine iff_of_false (by simp [hconok]) ?_
      rintro ⟨-, ⟨pre, post, hes, -, h⟩ | ⟨-, -, h⟩⟩
      · have hle := hlen_pre pre post hes
        omega
      · omega
    · exact iff_of_false (by simp [hconok]) fun h => by simp [hlive] at h

/-! ## The drive packets -/

/-- A socket that `conok` speaks of takes a packet: `send` does not throw. -/
lemma send_packet {s : PageState R} {k : ℕ} (h : ConnectionInv s k) (hconok : s.drive.conok = true)
    (packet : Vector (BitVec 16) 4) :
    (s.send packet).packet = some packet ∧ s.send packet ≠ .sendThrows := by
  rcases h.of_conok hconok with hhead | hhead
  · simp [PageState.send, hhead, PageOutput.packet]
  · simp [PageState.send, hhead, PageOutput.packet]

/-- One step of the page, as steps of the drive packets. -/
lemma drive_next (enable_sensors : Bool) (s : PageState R) (e : PageEvent R) :
    ((page R enable_sensors).next s e).drive = (drive R).run s.drive (driveEvents s e) := by
  cases e with
  | input e =>
    simp only [Machine.next, page, driveEvents]
    split_ifs <;> rfl
  | timeout valid =>
    simp only [Machine.next, page, driveEvents]
    split_ifs <;> rfl
  | opened i =>
    simp only [Machine.next, page, driveEvents]
    split_ifs <;> rfl
  | closing i =>
    simp only [Machine.next, page, driveEvents]
    split_ifs <;> rfl
  | closed i =>
    simp only [Machine.next, page, driveEvents]
    split_ifs <;> rfl
  | message i data =>
    simp only [Machine.next, page, driveEvents]
    split_ifs <;> rfl
  | tick => rfl

/-- The page follows the machine of the drive packets. -/
lemma page_follows (enable_sensors : Bool) :
    (page R enable_sensors).Follows (drive R) (fun _ _ => True)
      (fun s t => (∃ k, ConnectionInv s k) ∧ s.drive = t) driveEvents := by
  rintro s _ e - ⟨⟨k, h⟩, rfl⟩
  exact ⟨⟨_, h.next enable_sensors e⟩, drive_next enable_sensors s e⟩

/-- The joysticks send nothing. -/
lemma emit_input (s : DriveState R) {e : DriveEvent R} (he : e ≠ .tick) :
    (drive R).emit s e = [] := by
  cases e with
  | frame gamepads =>
    simp only [Machine.emit, drive]
    split_ifs <;> rfl
  | tick => exact absurd rfl he
  | _ => rfl

/-- Of each step both show the same packets. -/
lemma page_answers (enable_sensors : Bool) :
    (page R enable_sensors).Answers (drive R) (fun _ _ => True)
      (fun s t => (∃ k, ConnectionInv s k) ∧ s.drive = t) driveEvents PageOutput.packet some := by
  rintro s _ e - ⟨⟨k, h⟩, rfl⟩
  cases e with
  | input e =>
    cases he : e.isInput with
    | false => simp [Machine.emit, page, driveEvents, he]
    | true =>
      have hne : e ≠ .tick := by
        rintro rfl
        cases he
      have hemit := emit_input s.drive hne
      rw [driveEvents, if_pos he, Machine.outputs_cons, Machine.outputs_nil, hemit]
      rfl
  | timeout valid =>
    simp only [Machine.emit, page, driveEvents]
    split_ifs <;> rfl
  | opened i =>
    simp only [Machine.emit, page, driveEvents]
    split_ifs <;> rfl
  | closing i =>
    simp only [Machine.emit, page, driveEvents]
    split_ifs <;> rfl
  | closed i =>
    simp only [Machine.emit, page, driveEvents]
    split_ifs <;> rfl
  | message i data =>
    simp only [Machine.emit, page, driveEvents]
    split_ifs <;> rfl
  | tick =>
    simp only [Machine.emit, page, driveEvents, Machine.outputs_cons, Machine.outputs_nil, drive]
    split_ifs with hconok
    · simp [(send_packet h hconok _).1]
    · rfl

/-- **The connection of the dashboard.** In every run of the page one timer is pending or one socket
is live, until a call of the constructor throws, and then neither for good; all sockets but the
newest have closed. `conok` is set iff the newest socket has opened and has not closed yet. `send`
never throws. And what the page sends are the packets of the joysticks' machine, which it gets from
the sockets' events and from the ticks: they go out on the newest socket, which is open or closing.

**Proof sketch.** A timer ends only when there is no live socket, so a socket that still speaks is
the newest. What speaks sets `conok`, so that speaks of the newest too. -/
theorem page_connected (enable_sensors : Bool) (es : List (PageEvent R)) :
    let s := (page R enable_sensors).run .start es
    let sent := (page R enable_sensors).outputs .start es
    let fs := (page R enable_sensors).translate driveEvents .start es
    s.timers + s.sockets.countP ReadyState.live + sent.count .constructorThrows = 1 ∧
      (∀ r ∈ s.sockets.tail, r = .closed) ∧
      (s.sockets.head? = some .opened → s.drive.conok = true) ∧
      (s.drive.conok = true →
        s.sockets.head? = some .opened ∨ s.sockets.head? = some .closing) ∧
      (s.drive.conok = true ↔ NewestOpen enable_sensors es) ∧
      .sendThrows ∉ sent ∧
      s.drive = (drive R).run .start fs ∧
      sent.filterMap PageOutput.packet = (drive R).outputs .start fs := by
  intro s sent fs
  have hinv : ConnectionInv s (0 + sent.count .constructorThrows) :=
    connectionInv_start.run enable_sensors es
  have htrivial : (page R enable_sensors).Along (fun _ _ => True) .start es :=
    (page R enable_sensors).along_event_iff.mpr fun _ _ => trivial
  rw [Nat.zero_add] at hinv
  refine ⟨hinv.attempt, hinv.old, hinv.conok_of_opened, hinv.of_conok,
    conok_iff_newestOpen enable_sensors es, ?_, ?_, ?_⟩
  · have hstep : ∀ o ∈ sent, o ≠ .sendThrows := by
      refine (page R enable_sensors).outputs_induction (C := fun _ _ => True)
        (I := fun s => ∃ k, ConnectionInv s k) (fun s e _ ⟨k, h⟩ => ⟨_, h.next enable_sensors e⟩)
        ?_ ⟨0, connectionInv_start⟩ htrivial
      rintro s e - ⟨k, h⟩ o ho
      cases e with
      | tick =>
        simp only [Machine.emit, page] at ho
        split_ifs at ho with hconok
        · rw [List.mem_singleton.mp ho]
          exact (send_packet h hconok _).2
        · cases ho
      | timeout valid =>
        simp only [Machine.emit, page] at ho
        split_ifs at ho
        · cases ho
        · cases ho
        · rw [List.mem_singleton.mp ho]
          decide
      | input e => cases ho
      | opened i =>
        simp only [Machine.emit, page] at ho
        split_ifs at ho <;> cases ho
      | closing i =>
        simp only [Machine.emit, page] at ho
        split_ifs at ho <;> cases ho
      | closed i =>
        simp only [Machine.emit, page] at ho
        split_ifs at ho <;> cases ho
      | message i data =>
        simp only [Machine.emit, page] at ho
        split_ifs at ho <;> cases ho
    exact fun hmem => hstep _ hmem rfl
  · exact ((page_follows enable_sensors).run ⟨⟨0, connectionInv_start⟩, rfl⟩ htrivial).2
  · have houtputs := (page_follows enable_sensors).outputs (page_answers enable_sensors)
      ⟨⟨0, connectionInv_start⟩, rfl⟩ htrivial
    rwa [List.filterMap_some] at houtputs

/-! ## The displays -/

/-- What the displays depend on: whether a socket has closed, and the messages since. -/
structure Heard where
  lost : Bool
  messages : List (List Byte)

/-- What is heard in one step. -/
def heardStep (s : PageState R) (e : PageEvent R) (h : Heard) : Heard :=
  match e with
  | .closed i => if s.sockets[i]?.any ReadyState.live then ⟨true, []⟩ else h
  | .message i data =>
    if s.sockets[i]? = some .opened then { h with messages := h.messages ++ [data] } else h
  | _ => h

/-- What is heard in a run from the start. -/
def heardIn (enable_sensors : Bool) (es : List (PageEvent R)) : Heard :=
  (page R enable_sensors).history heardStep .start ⟨false, []⟩ es

namespace Heard

/-- The displays without a message: as they are loaded, or as a lost connection leaves them. -/
def base (enable_sensors : Bool) (h : Heard) : Displays :=
  if h.lost then Displays.start.onClose enable_sensors else .start

/-- The last message of at least so many bytes. -/
def last (n : ℕ) (h : Heard) : Option (List Byte) :=
  (h.messages.filter fun data => n ≤ data.length).getLast?

/-- The displays as the last message of at least so many bytes sets them. -/
def lastShown (enable_sensors : Bool) (n : ℕ) (h : Heard) : Displays :=
  (h.last n).elim (h.base enable_sensors) fun data =>
    (h.base enable_sensors).onMessage enable_sensors data

/-- What is shown: `onMessage` sets the odometries if it can read 17 bytes, and the rest if it can
read 18. -/
def shown (enable_sensors : Bool) (h : Heard) : Displays :=
  { h.lastShown enable_sensors 18 with
    display_odometry_left := (h.lastShown enable_sensors 17).display_odometry_left
    display_odometry_right := (h.lastShown enable_sensors 17).display_odometry_right }

/-- The last message after one more. -/
lemma last_concat (n : ℕ) (lost : Bool) (ms : List (List Byte)) (data : List Byte) :
    last n ⟨lost, ms ++ [data]⟩ = if n ≤ data.length then some data else last n ⟨lost, ms⟩ := by
  rw [last, last, List.filter_append]
  split_ifs with hn
  · simp [hn]
  · simp [hn]

/-- Without the cookie the bars are left alone. -/
lemma sensors_lastShown (n : ℕ) (h : Heard) :
    (h.lastShown false n).sensors = (h.base false).sensors := by
  rw [lastShown]
  cases h.last n with
  | none => rfl
  | some data =>
    rw [Option.elim_some, Displays.onMessage]
    simp only [Bool.false_eq_true, if_false]
    split_ifs <;> rfl

/-- Without the cookie there are no bars without a message. -/
lemma sensors_base (h : Heard) : (h.base false).sensors = none := by
  rw [base]
  split_ifs <;> rfl

/-- **One more message.** -/
lemma shown_concat (enable_sensors : Bool) (lost : Bool) (ms : List (List Byte))
    (data : List Byte) :
    shown enable_sensors ⟨lost, ms ++ [data]⟩ =
      (shown enable_sensors ⟨lost, ms⟩).onMessage enable_sensors data := by
  have hbase : base enable_sensors ⟨lost, ms ++ [data]⟩ = base enable_sensors ⟨lost, ms⟩ := rfl
  have hsensors : enable_sensors = false →
      (lastShown enable_sensors 18 ⟨lost, ms⟩).sensors =
        (base enable_sensors ⟨lost, ms⟩).sensors := by
    rintro rfl
    exact sensors_lastShown 18 _
  by_cases h₁₇ : data.length < 17
  · have h₁₈ : data.length < 18 := by omega
    simp only [shown, lastShown, last_concat, hbase, Displays.onMessage, if_neg h₁₇.not_ge,
      if_neg h₁₈.not_ge, if_pos h₁₇]
  · by_cases h₁₈ : data.length < 18
    · simp only [shown, lastShown, last_concat, hbase, if_pos (not_lt.mp h₁₇), if_neg h₁₈.not_ge,
        Option.elim_some, Displays.onMessage, if_neg h₁₇, if_pos h₁₈]
    · -- the message sets everything but the bars, which wait for the cookie
      cases enable_sensors with
      | true =>
        simp only [shown, lastShown, last_concat, if_pos (not_lt.mp h₁₇), if_pos (not_lt.mp h₁₈),
          Option.elim_some, Displays.onMessage, if_neg h₁₇, if_neg h₁₈, if_true]
      | false =>
        have hbars := hsensors rfl
        simp only [shown, lastShown, last_concat, hbase, if_pos (not_lt.mp h₁₇),
          if_pos (not_lt.mp h₁₈), Option.elim_some, Displays.onMessage, if_neg h₁₇, if_neg h₁₈,
          Bool.false_eq_true, if_false] at hbars ⊢
        rw [hbars]

/-- **A lost connection.** -/
lemma shown_lost (enable_sensors : Bool) (h : Heard) :
    shown enable_sensors ⟨true, []⟩ = (h.shown enable_sensors).onClose enable_sensors := by
  cases enable_sensors with
  | true => rfl
  | false =>
    have hnone : (h.shown false).sensors = none := (h.sensors_lastShown 18).trans h.sensors_base
    rw [Displays.onClose, hnone]
    rfl

end Heard

/-- The displays after every run are what was heard makes of them. -/
lemma displays_run (enable_sensors : Bool) (es : List (PageEvent R)) :
    ((page R enable_sensors).run .start es).displays =
      (heardIn enable_sensors es).shown enable_sensors := by
  refine Machine.history_invariant (page R enable_sensors) heardStep
    (R := fun s h => s.displays = h.shown enable_sensors) ?_ rfl es
  intro s h e hs
  cases e with
  | input e =>
    simp only [Machine.next, page, heardStep]
    split_ifs <;> exact hs
  | timeout valid =>
    simp only [Machine.next, page, heardStep]
    split_ifs <;> exact hs
  | opened i =>
    simp only [Machine.next, page, heardStep]
    split_ifs <;> exact hs
  | closing i =>
    simp only [Machine.next, page, heardStep]
    split_ifs <;> exact hs
  | closed i =>
    simp only [Machine.next, page, heardStep]
    split_ifs
    · rw [Heard.shown_lost enable_sensors h, hs]
    · exact hs
  | message i data =>
    simp only [Machine.next, page, heardStep]
    split_ifs
    · rw [Heard.shown_concat, hs]
    · exact hs
  | tick => exact hs

/-- **Dashes, nothing, or a number**: the three are lit differently. -/
lemma draw_eq_iff {lost : Bool} {last : Option (List Byte)} {f : List Byte → ℤ} {v : DisplayValue}
    (hv : v = last.elim (if lost then .number 0 else .text (List.replicate 8 '-')) fun data =>
      .text (decimalText (f data))) :
    (SegmentDisplay.draw ⟨odometryPattern, v⟩ =
        SegmentDisplay.draw ⟨odometryPattern, .text (List.replicate 8 '-')⟩ ↔
      lost = false ∧ last = none) ∧
    (SegmentDisplay.draw ⟨odometryPattern, v⟩ =
        SegmentDisplay.draw ⟨odometryPattern, .number 0⟩ ↔
      lost = true ∧ last = none) := by
  have hdashes : SegmentDisplay.draw ⟨odometryPattern, .text (List.replicate 8 '-')⟩ ≠
      SegmentDisplay.draw ⟨odometryPattern, .number 0⟩ := by decide
  subst hv
  cases last with
  | none =>
    cases lost with
    | false => simpa using hdashes
    | true => simpa using hdashes.symm
  | some data =>
    obtain ⟨hblank, hdash⟩ := draw_decimalText_ne (f data)
    simpa [hblank] using hdash

/-- **The displays of the page.** After every run the odometries are those of the last message of at
least 17 bytes since a socket closed, or since the page was loaded, and the other displays are those
of the last message of at least 18. And the segments tell the three cases apart: dashes as long as
no socket has closed and no such message has come, nothing after a socket has closed, and a number
otherwise. -/
theorem page_displays (enable_sensors : Bool) (es : List (PageEvent R)) :
    let s := (page R enable_sensors).run .start es
    let h := heardIn enable_sensors es
    s.displays = h.shown enable_sensors ∧
      ((s.displays.drawLeft = Displays.start.drawLeft ↔ h.lost = false ∧ h.last 17 = none) ∧
        (s.displays.drawLeft = (Displays.start.onClose enable_sensors).drawLeft ↔
          h.lost = true ∧ h.last 17 = none)) ∧
      ((s.displays.drawRight = Displays.start.drawRight ↔ h.lost = false ∧ h.last 17 = none) ∧
        (s.displays.drawRight = (Displays.start.onClose enable_sensors).drawRight ↔
          h.lost = true ∧ h.last 17 = none)) := by
  intro s h
  have hs : s.displays = h.shown enable_sensors := displays_run enable_sensors es
  have hlen : ∀ {data}, h.last 17 = some data → ¬ data.length < 17 := by
    intro data hdata
    have hmem := List.mem_of_getLast? hdata
    simpa using (List.mem_filter.mp hmem).2
  have hbase : (h.base enable_sensors).display_odometry_left =
        (if h.lost then .number 0 else .text (List.replicate 8 '-')) ∧
      (h.base enable_sensors).display_odometry_right =
        if h.lost then .number 0 else .text (List.replicate 8 '-') := by
    rw [Heard.base]
    split_ifs <;> exact ⟨rfl, rfl⟩
  have hset : ∀ {data}, h.last 17 = some data → ∀ d : Displays,
      (d.onMessage enable_sensors data).display_odometry_left = .text (decimalText
          (onMessage (Vector.ofFn fun i => data.getD i 0)).odometry_left) ∧
        (d.onMessage enable_sensors data).display_odometry_right = .text (decimalText
          (onMessage (Vector.ofFn fun i => data.getD i 0)).odometry_right) := by
    intro data hdata d
    rw [Displays.onMessage, if_neg (hlen hdata)]
    split_ifs <;> exact ⟨rfl, rfl⟩
  refine ⟨hs, ?_, ?_⟩
  · refine draw_eq_iff (f := fun data =>
      (onMessage (Vector.ofFn fun i => data.getD i 0)).odometry_left) ?_
    rw [hs, Heard.shown, Heard.lastShown]
    cases hlast : h.last 17 with
    | none => exact hbase.1
    | some data => exact (hset hlast _).1
  · refine draw_eq_iff (f := fun data =>
      (onMessage (Vector.ofFn fun i => data.getD i 0)).odometry_right) ?_
    rw [hs, Heard.shown, Heard.lastShown]
    cases hlast : h.last 17 with
    | none => exact hbase.2
    | some data => exact (hset hlast _).2

end Wifibot.Dashboard
