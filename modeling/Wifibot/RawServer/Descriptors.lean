import Wifibot.Library.DescriptorTable
import Wifibot.RawServer.Sessions
import Mathlib.Logic.Function.Basic

set_option relaxedAutoImplicit false
set_option autoImplicit false

/-!
# The descriptors of the raw server

The threads keep their descriptors in global variables, which start at zero. Some of them are
closed without ever having been assigned, as `servSock` is in every recovery and `hUSB2` by the
handler of `SIGINT`, and zero is standard input. `openrs232` returns zero when it fails, and
`Thread_RS232_33f` closes what it returned the first time in any case. Once standard input is
closed, its number goes to whatever is opened next.

The calls of a step that succeed or fail by what the world does are `open` of the serial device and
`recv`; sockets are created and clients accepted without failure.

## Main definitions

* `Wifibot.Var`, `Wifibot.Owner` — the variables, and what a descriptor was opened for.
* `Wifibot.Call` — a call on the descriptor of a variable, with what that descriptor is.
* `Wifibot.descriptors` — the server with its descriptors; its outputs are the calls.
* `Wifibot.KeepsDescriptors` — the step is no recovery, no `SIGINT`, and no close after a failed
  open.

## Main results

* `Wifibot.descriptors_right_iff` — every call of a run is on the descriptor that its variable was
  given iff all its steps are such.
-/

namespace Wifibot

variable {longBits : ℕ}

/-- The variables that hold descriptors. -/
inductive Var
  | hUSB1
  | hUSB2
  | servSock
  | clntSock
  | socket_tcp
  | socket_in
  | socket_out
  deriving DecidableEq

/-- What a descriptor was opened for: it is one of the three open at the start, or what `open`,
`socket` or `accept` returned into a variable. -/
inductive Owner
  | std
  | var (v : Var)
  deriving DecidableEq

/-- What is done with a descriptor. -/
inductive Access
  | read
  | write
  | close
  deriving DecidableEq

/-- A call on the descriptor that a variable holds; `held` is what that descriptor is then open
for. -/
structure Call where
  access : Access
  var : Var
  held : Option Owner
  deriving DecidableEq

/-- The descriptor is open, and it was returned into this variable. -/
def Call.Right (c : Call) : Prop := c.held = some (.var c.var)

instance (c : Call) : Decidable c.Right := inferInstanceAs (Decidable (_ = _))

/-- How far `Thread_RS232_33f` is: before its first `openrs232`, which may fail; before its first
`close`; before its second `openrs232`; and in its loop. -/
inductive SerialStage
  | starting
  | opened (ok : Bool)
  | closed
  | looping
  deriving DecidableEq

/-- What `SIGINT` does: it ends the process before `main` has installed `gestionnaire`, and again
after `gestionnaire` has run once. -/
inductive Disposition
  | initial
  | installed
  | reset
  deriving DecidableEq

/-- The globals and the client of `Thread_TCP`; the open descriptors; the variables; and how far
the threads are. -/
structure DescState (longBits : ℕ) where
  session : SessionState longBits
  fds : DescriptorTable Owner
  vars : Var → ℕ
  serial : SerialStage
  tcp : Bool
  udpIn : Bool
  udpOut : Bool
  handler : Disposition
  terminated : Bool

/-- The steps of the threads, the installation of `gestionnaire`, and `SIGINT`. -/
inductive DescEvent
  | serialOpen (ok : Bool)
  | serialClose
  | serialReopen (ok : Bool)
  | serialLoop (sbuf : Payload)
  | tcpStart
  | accept
  | recv (r : Received)
  | udpInStart
  | udpIn (r : Received)
  | udpOutStart
  | udpOut (r : Received)
  | dog
  | key (k : Char)
  | sigaction
  | sigint
  deriving DecidableEq

namespace DescState

/-- A call on the descriptor of `v`. -/
def call (s : DescState longBits) (a : Access) (v : Var) : Call := ⟨a, v, s.fds.entry (s.vars v)⟩

/-- A call on a serial handle, which is not made without one. -/
def serialCall (s : DescState longBits) (a : Access) (v : Var) : List Call :=
  if s.vars v = 0 then [] else [s.call a v]

/-- A descriptor is opened and assigned to `v`. -/
def assign (s : DescState longBits) (v : Var) : DescState longBits :=
  { s with fds := s.fds.install (.var v), vars := Function.update s.vars v s.fds.lowest }

/-- `v = openrs232(…)`. -/
def openrs232 (s : DescState longBits) (v : Var) (ok : Bool) : DescState longBits :=
  if ok then s.assign v else { s with vars := Function.update s.vars v 0 }

/-- `close(v)`: the variable keeps its value. -/
def close (s : DescState longBits) (v : Var) : DescState longBits :=
  { s with fds := s.fds.close (s.vars v) }

/-- `StopMotorRS23233f`, which ignores its argument. -/
def stopMotor (s : DescState longBits) : List Call :=
  s.serialCall .write .hUSB1 ++ s.serialCall .write .hUSB2

/-- The loop of `Thread_TCP` after `recv`: the answer, or the end of the session. -/
def recv (s : DescState longBits) (r : Received) : DescState longBits × List Call :=
  let session := (sessions longBits).next s.session (.recv r)
  if r.size 9 < 1 then
    ({ s.close .clntSock with session := session },
      [s.call .read .clntSock, s.call .close .clntSock])
  else if (server longBits).emit s.session.globals (.tcpRecv r) = [] then
    ({ s with session := session }, [s.call .read .clntSock])
  else ({ s with session := session }, [s.call .read .clntSock, s.call .write .clntSock])

/-- A recovery of `Thread_Dog` closes three descriptors. -/
def recover (s : DescState longBits) : DescState longBits × List Call :=
  let s₁ := s.close .clntSock
  let s₂ := s₁.close .servSock
  ({ s₂.close .socket_tcp with tcp := false },
    [s.call .close .clntSock, s₁.call .close .servSock, s₂.call .close .socket_tcp])

/-- An iteration of `Thread_Dog`. -/
def dog (s : DescState longBits) : DescState longBits × List Call :=
  let session := (sessions longBits).next s.session (.thread .dog)
  if .restartTcp ∈ (server longBits).emit s.session.globals .dog then
    ({ s.recover.1 with session := session }, s.recover.2)
  else ({ s with session := session }, [])

/-- `gestionnaire` on `SIGINT`, installed with `SA_RESETHAND`. -/
def gestionnaire (s : DescState longBits) : DescState longBits × List Call :=
  let s₁ := s.close .hUSB1
  ({ s₁.close .hUSB2 with handler := .reset },
    s.stopMotor ++ [s.call .close .hUSB1] ++ s₁.stopMotor ++ [s₁.call .close .hUSB2])

/-- `SIGINT`. -/
def sigint (s : DescState longBits) : DescState longBits × List Call :=
  if s.handler = .installed then s.gestionnaire else ({ s with terminated := true }, [])

/-- A step of a thread that is not bound to a descriptor. -/
def thread (s : DescState longBits) (e : Event) : DescState longBits :=
  { s with session := (sessions longBits).next s.session (.thread e) }

/-- What an event does while the process runs. What a thread cannot do where it stands does not
happen. -/
def act (s : DescState longBits) : DescEvent → DescState longBits × List Call
  | .serialOpen ok =>
    if s.serial = .starting then ({ s.openrs232 .hUSB1 ok with serial := .opened ok }, [])
    else (s, [])
  | .serialClose =>
    if s.serial = .opened true ∨ s.serial = .opened false then
      ({ s.close .hUSB1 with serial := .closed }, [s.call .close .hUSB1])
    else (s, [])
  | .serialReopen ok =>
    if s.serial = .closed then
      let s₁ := s.openrs232 .hUSB1 ok
      ({ s₁ with serial := .looping }, s₁.serialCall .write .hUSB1 ++ s₁.serialCall .write .hUSB1)
    else (s, [])
  | .serialLoop sbuf =>
    if s.serial = .looping then
      (s.thread (.robot sbuf), s.serialCall .write .hUSB1 ++ s.serialCall .read .hUSB1)
    else (s, [])
  | .tcpStart =>
    if s.tcp = false then ({ s.assign .socket_tcp with tcp := true }, []) else (s, [])
  | .accept =>
    if s.tcp = true ∧ s.session.client = false then
      ({ s.assign .clntSock with session := (sessions longBits).next s.session .accept }, [])
    else (s, [])
  | .recv r => if s.tcp = true ∧ s.session.client = true then s.recv r else (s, [])
  | .udpInStart =>
    if s.udpIn = false then ({ s.assign .socket_in with udpIn := true }, []) else (s, [])
  | .udpIn r =>
    if s.udpIn = true then (s.thread (.trooperIn r), [s.call .read .socket_in]) else (s, [])
  | .udpOutStart =>
    if s.udpOut = false then ({ s.assign .socket_out with udpOut := true }, []) else (s, [])
  | .udpOut r =>
    if s.udpOut = true then
      (s.thread (.trooperOut r), s.call .read .socket_out ::
        if (server longBits).emit s.session.globals (.trooperOut r) = [] then []
        else [s.call .write .socket_out])
    else (s, [])
  | .dog => s.dog
  | .key k => (s.thread (.key k), [])
  | .sigaction =>
    if s.handler = .initial then ({ s with handler := .installed }, []) else (s, [])
  | .sigint => s.sigint

end DescState

/-- **The server with its descriptors.** Nothing happens in a process that has ended. -/
def descriptors (longBits : ℕ) : Machine (DescState longBits) DescEvent Call where
  step s e := if s.terminated then (s, []) else s.act e

/-- The state in which `main` creates the threads. -/
def DescState.start (debug : ℤ) : DescState longBits where
  session := SessionState.start debug 0
  fds := [some .std, some .std, some .std]
  vars := fun _ => 0
  serial := .starting
  tcp := false
  udpIn := false
  udpOut := false
  handler := .initial
  terminated := false

/-- The step is no recovery, no `SIGINT` that runs `gestionnaire`, and no close of the serial device
that the first `openrs232` failed to open. -/
def KeepsDescriptors (s : DescState longBits) (e : DescEvent) : Prop :=
  s.terminated = true ∨
    ¬ (e = .dog ∧ stops s.session.globals ∧ s.session.globals.connected ≠ 0) ∧
      ¬ (e = .sigint ∧ s.handler = .installed) ∧ ¬ (e = .serialClose ∧ s.serial = .opened false)

instance (s : DescState longBits) (e : DescEvent) : Decidable (KeepsDescriptors s e) :=
  inferInstanceAs (Decidable (_ ∨ _))

/-! ## Ownership -/

namespace DescState

/-- The descriptor of `v` is open, and it was returned into `v`. -/
def Holds (s : DescState longBits) (v : Var) : Prop := s.fds.entry (s.vars v) = some (.var v)

/-- The thread of `v` counts on its descriptor. -/
def InUse (s : DescState longBits) : Var → Prop
  | .hUSB1 => s.serial = .opened true ∨ s.serial = .looping ∧ s.vars .hUSB1 ≠ 0
  | .hUSB2 => False
  | .servSock => False
  | .clntSock => s.session.client = true
  | .socket_tcp => s.tcp = true
  | .socket_in => s.udpIn = true
  | .socket_out => s.udpOut = true

/-- A call is right iff its variable holds its descriptor. -/
lemma call_right (s : DescState longBits) (a : Access) (v : Var) :
    (s.call a v).Right ↔ s.Holds v := Iff.rfl

/-- The calls on a serial handle are right if it is zero or holds its descriptor. -/
lemma serialCall_right {s : DescState longBits} {v : Var} (h : s.vars v ≠ 0 → s.Holds v)
    (a : Access) : ∀ k ∈ s.serialCall a v, k.Right := by
  intro k hk
  rw [serialCall] at hk
  split_ifs at hk with hv
  · simp at hk
  · rw [List.mem_singleton.mp hk]
    exact h hv

/-- What is opened is held. -/
lemma holds_assign (s : DescState longBits) (v : Var) : (s.assign v).Holds v := by
  simp [Holds, assign]

/-- An assignment leaves the other variables. -/
lemma vars_assign_of_ne (s : DescState longBits) {v w : Var} (hwv : w ≠ v) :
    (s.assign v).vars w = s.vars w := Function.update_of_ne hwv _ _

/-- Opening for one variable leaves what another holds. -/
lemma holds_assign_of_ne {s : DescState longBits} {v w : Var} (h : s.Holds w) (hwv : w ≠ v) :
    (s.assign v).Holds w := by
  rw [Holds, vars_assign_of_ne s hwv]
  exact DescriptorTable.entry_install_of_open h _

/-- Closing what one variable holds leaves what another holds. -/
lemma holds_close_of_ne {s : DescState longBits} {v w : Var} (hv : s.Holds v) (hw : s.Holds w)
    (hwv : w ≠ v) : (s.close v).Holds w := by
  have hne : s.vars v ≠ s.vars w :=
    DescriptorTable.ne_of_entry hv hw fun h => hwv (Owner.var.inj h).symm
  rw [Holds, close, DescriptorTable.entry_close_of_ne hne]
  exact hw

end DescState

/-- **The ownership invariant**: standard input is open; the variables that nothing is assigned to
are zero, and so is the handle of a device that was not opened; and what a thread counts on is
held. -/
structure DescInv (s : DescState longBits) : Prop where
  std : s.fds.entry 0 = some .std
  servSock : s.vars .servSock = 0
  hUSB2 : s.vars .hUSB2 = 0
  failed : s.serial = .opened false → s.vars .hUSB1 = 0
  holds : ∀ v, s.InUse v → s.Holds v

namespace DescInv

variable {s s' : DescState longBits} {v : Var}

/-- A variable that is zero does not hold its descriptor: zero is standard input. -/
lemma not_holds (hs : DescInv s) (hv : s.vars v = 0) : ¬ s.Holds v := by
  rw [DescState.Holds, hv, hs.std]
  simp

/-- The handle of the serial loop is zero or held. -/
lemma holds_of_looping (hs : DescInv s) (hloop : s.serial = .looping) (h : s.vars .hUSB1 ≠ 0) :
    s.Holds .hUSB1 := hs.holds .hUSB1 (Or.inr ⟨hloop, h⟩)

/-- Steps that open and close nothing, and put at most a zero into `hUSB1`. -/
lemma of_fds_eq (hs : DescInv s) (hfds : s'.fds = s.fds)
    (hvars : ∀ w, w ≠ .hUSB1 → s'.vars w = s.vars w)
    (huse : ∀ w, s'.InUse w → s.InUse w ∧ s'.vars w = s.vars w)
    (hfailed : s'.serial = .opened false → s'.vars .hUSB1 = 0) : DescInv s' where
  std := by rw [hfds, hs.std]
  servSock := by rw [hvars _ (by decide), hs.servSock]
  hUSB2 := by rw [hvars _ (by decide), hs.hUSB2]
  failed := hfailed
  holds w hw := by
    obtain ⟨hold, hvar⟩ := huse w hw
    rw [DescState.Holds, hfds, hvar]
    exact hs.holds w hold

/-- Steps that open a descriptor for `v`. -/
lemma of_assign (hs : DescInv s) (hfds : s'.fds = (s.assign v).fds)
    (hvars : s'.vars = (s.assign v).vars) (hserv : v ≠ .servSock) (hUSB2 : v ≠ .hUSB2)
    (huse : ∀ w, w ≠ v → s'.InUse w → s.InUse w)
    (hfailed : s'.serial = .opened false → s.serial = .opened false ∧ v ≠ .hUSB1) :
    DescInv s' where
  std := by
    rw [hfds]
    exact DescriptorTable.entry_install_of_open hs.std _
  servSock := by
    rw [hvars, s.vars_assign_of_ne hserv.symm]
    exact hs.servSock
  hUSB2 := by
    rw [hvars, s.vars_assign_of_ne hUSB2.symm]
    exact hs.hUSB2
  failed h := by
    obtain ⟨hold, hv⟩ := hfailed h
    rw [hvars, s.vars_assign_of_ne hv.symm]
    exact hs.failed hold
  holds w hw := by
    rw [DescState.Holds, hfds, hvars]
    by_cases hwv : w = v
    · rw [hwv]
      exact s.holds_assign v
    · exact DescState.holds_assign_of_ne (hs.holds w (huse w hwv hw)) hwv

/-- Steps that close what `v` holds. -/
lemma of_close (hs : DescInv s) (hv : s.Holds v) (hfds : s'.fds = (s.close v).fds)
    (hvars : s'.vars = s.vars) (huse : ∀ w, s'.InUse w → s.InUse w ∧ w ≠ v)
    (hfailed : s'.serial = .opened false → s.serial = .opened false) : DescInv s' where
  std := by
    have hne : s.vars v ≠ 0 := fun h => hs.not_holds h hv
    rw [hfds, DescState.close, DescriptorTable.entry_close_of_ne hne]
    exact hs.std
  servSock := by rw [hvars, hs.servSock]
  hUSB2 := by rw [hvars, hs.hUSB2]
  failed h := by rw [hvars, hs.failed (hfailed h)]
  holds w hw := by
    obtain ⟨hold, hwv⟩ := huse w hw
    rw [DescState.Holds, hfds, hvars]
    exact DescState.holds_close_of_ne hv (hs.holds w hold) hwv

end DescInv

/-! ## One step -/

/-- An iteration of `Thread_Dog` that does not recover. -/
lemma DescState.dog_of_not_recover {s : DescState longBits}
    (h : ¬ (stops s.session.globals ∧ s.session.globals.connected ≠ 0)) :
    s.dog = (s.thread .dog, []) := by
  have hno : ¬ .restartTcp ∈ (server longBits).emit s.session.globals .dog := fun hmem =>
    h ((restartTcp_mem_emit_iff _ _).mp hmem).2
  rw [dog, if_neg hno]
  rfl

/-- The calls of one that does. -/
lemma DescState.dog_calls_of_recover {s : DescState longBits}
    (h : stops s.session.globals ∧ s.session.globals.connected ≠ 0) : s.dog.2 = s.recover.2 := by
  rw [dog, if_pos ((restartTcp_mem_emit_iff _ _).mpr ⟨rfl, h⟩)]

/-- A session step of another thread gains no client. -/
lemma client_of_thread {s : SessionState longBits} {e : Event}
    (h : ((sessions longBits).next s (.thread e)).client = true) : s.client = true := by
  by_cases htcp : ∃ r, e = .tcpRecv r
  · obtain ⟨r, rfl⟩ := htcp
    exact h
  · rw [next_thread (not_exists.mp htcp)] at h
    exact ((thread_flag s (not_exists.mp htcp)).2.mp h).1

/-- Steps that leave the descriptors, the variables and the places of the threads, and gain no
client. -/
lemma DescInv.of_session {s s' : DescState longBits} (hs : DescInv s) (hfds : s'.fds = s.fds)
    (hvars : s'.vars = s.vars) (hserial : s'.serial = s.serial) (htcp : s'.tcp = s.tcp)
    (hin : s'.udpIn = s.udpIn) (hout : s'.udpOut = s.udpOut)
    (hclient : s'.session.client = true → s.session.client = true) : DescInv s' := by
  refine hs.of_fds_eq hfds (fun w _ => by rw [hvars]) (fun w hw => ⟨?_, by rw [hvars]⟩)
    fun h => by rw [hvars, hs.failed (hserial ▸ h)]
  cases w with
  | clntSock => exact hclient hw
  | hUSB1 => simpa only [DescState.InUse, hserial, hvars] using hw
  | hUSB2 => exact hw
  | servSock => exact hw
  | socket_tcp => exact htcp.symm.trans hw
  | socket_in => exact hin.symm.trans hw
  | socket_out => exact hout.symm.trans hw

namespace DescInv

variable {s : DescState longBits}

/-- A step that a thread makes only where it stands right. -/
lemma of_guard {p : Prop} [Decidable p] {t : DescState longBits × List Call} (hs : DescInv s)
    (h : p → DescInv t.1) : DescInv (if p then t else (s, [])).1 := by
  split_ifs with hp
  · exact h hp
  · exact hs

/-- A step that is not bound to a descriptor. -/
lemma thread (hs : DescInv s) (e : Event) : DescInv (s.thread e) :=
  hs.of_session rfl rfl rfl rfl rfl rfl client_of_thread

/-- The serial device is opened, or `openrs232` fails and returns zero. -/
lemma openrs232 (hs : DescInv s) (ok : Bool) {stage : SerialStage}
    (hstage : stage = .opened ok ∨ stage = .looping) :
    DescInv { s.openrs232 .hUSB1 ok with serial := stage } := by
  cases ok with
  | false =>
    refine hs.of_fds_eq rfl (fun w hw => Function.update_of_ne hw _ _) (fun w hw => ?_) fun _ => rfl
    cases w with
    | hUSB1 => rcases hstage with rfl | rfl <;> simp [DescState.InUse, DescState.openrs232] at hw
    | _ => exact ⟨hw, rfl⟩
  | true =>
    have hfailed : stage ≠ .opened false := by rcases hstage with rfl | rfl <;> simp
    refine hs.of_assign (v := .hUSB1) rfl rfl (by decide) (by decide) (fun w hw huse => ?_)
      fun h => absurd h hfailed
    cases w with
    | hUSB1 => exact absurd rfl hw
    | _ => exact huse

/-- Steps that open a descriptor for the thread of `v`, which is not the serial one, and move no
other thread. -/
lemma of_start {s' : DescState longBits} {v : Var} (hs : DescInv s)
    (hv : v ≠ .hUSB1 ∧ v ≠ .servSock ∧ v ≠ .hUSB2) (hfds : s'.fds = (s.assign v).fds)
    (hvars : s'.vars = (s.assign v).vars) (hserial : s'.serial = s.serial)
    (hclient : v = .clntSock ∨ s'.session.client = s.session.client)
    (htcp : v = .socket_tcp ∨ s'.tcp = s.tcp) (hin : v = .socket_in ∨ s'.udpIn = s.udpIn)
    (hout : v = .socket_out ∨ s'.udpOut = s.udpOut) : DescInv s' := by
  refine hs.of_assign hfds hvars hv.2.1 hv.2.2 (fun w hw h => ?_) fun h => ⟨hserial ▸ h, hv.1⟩
  cases w with
  | hUSB1 => simpa only [DescState.InUse, hserial, hvars, s.vars_assign_of_ne hw] using h
  | hUSB2 => exact h
  | servSock => exact h
  | clntSock => exact (hclient.resolve_left hw.symm).symm.trans h
  | socket_tcp => exact (htcp.resolve_left hw.symm).symm.trans h
  | socket_in => exact (hin.resolve_left hw.symm).symm.trans h
  | socket_out => exact (hout.resolve_left hw.symm).symm.trans h

/-- A `recv` of a client: the last one of a session closes its descriptor. -/
lemma recv (hs : DescInv s) (hclient : s.session.client = true) (r : Received) :
    DescInv (s.recv r).1 := by
  rw [DescState.recv]
  split_ifs with hsize
  · refine hs.of_close (hs.holds .clntSock hclient) rfl rfl (fun w huse => ?_) id
    cases w with
    | clntSock =>
      have hend : decide (1 ≤ r.size 9) = true := by
        simpa only [DescState.InUse, next_recv_of_client hclient r] using huse
      exact absurd (of_decide_eq_true hend) (by omega)
    | _ => exact ⟨huse, by decide⟩
  · exact hs.of_session rfl rfl rfl rfl rfl rfl fun _ => hclient
  · exact hs.of_session rfl rfl rfl rfl rfl rfl fun _ => hclient

/-- The first descriptor of the serial device is closed. -/
lemma serialClose (hs : DescInv s) (hopened : s.serial = .opened true) :
    DescInv { s.close .hUSB1 with serial := .closed } := by
  refine hs.of_close (hs.holds .hUSB1 (Or.inl hopened)) rfl rfl (fun w huse => ?_) (by simp)
  cases w with
  | hUSB1 => simp [DescState.InUse] at huse
  | _ => exact ⟨huse, by decide⟩

end DescInv

/-- **One step** of those that keep the descriptors keeps the invariant.

**Proof sketch.** A step that opens gives its variable a descriptor and leaves the others; a step
that closes takes what its variable holds, since the thread counts on it, and puts the thread where
it no longer does; the other steps move no descriptor. -/
lemma descInv_next (s : DescState longBits) (e : DescEvent) (hkeep : KeepsDescriptors s e)
    (hs : DescInv s) : DescInv ((descriptors longBits).next s e) := by
  by_cases hterm : s.terminated = true
  · simpa [Machine.next, descriptors, hterm] using hs
  obtain ⟨hdog, hsigint, hclose⟩ := hkeep.resolve_left hterm
  have hnext : (descriptors longBits).next s e = (s.act e).1 := by
    simp [Machine.next, descriptors, hterm]
  rw [hnext]
  cases e with
  | serialOpen ok => exact hs.of_guard fun _ => hs.openrs232 ok (Or.inl rfl)
  | serialClose =>
    exact hs.of_guard fun h =>
      hs.serialClose (h.resolve_right fun hf => hclose ⟨rfl, hf⟩)
  | serialReopen ok => exact hs.of_guard fun _ => hs.openrs232 ok (Or.inr rfl)
  | serialLoop sbuf => exact hs.of_guard fun _ => hs.thread _
  | tcpStart =>
    exact hs.of_guard fun _ => hs.of_start (v := .socket_tcp) (by decide) rfl rfl rfl (Or.inr rfl)
      (Or.inl rfl) (Or.inr rfl) (Or.inr rfl)
  | accept =>
    exact hs.of_guard fun _ => hs.of_start (v := .clntSock) (by decide) rfl rfl rfl (Or.inl rfl)
      (Or.inr rfl) (Or.inr rfl) (Or.inr rfl)
  | recv r => exact hs.of_guard fun h => hs.recv h.2 r
  | udpInStart =>
    exact hs.of_guard fun _ => hs.of_start (v := .socket_in) (by decide) rfl rfl rfl (Or.inr rfl)
      (Or.inr rfl) (Or.inl rfl) (Or.inr rfl)
  | udpIn r => exact hs.of_guard fun _ => hs.thread _
  | udpOutStart =>
    exact hs.of_guard fun _ => hs.of_start (v := .socket_out) (by decide) rfl rfl rfl (Or.inr rfl)
      (Or.inr rfl) (Or.inr rfl) (Or.inl rfl)
  | udpOut r => exact hs.of_guard fun _ => hs.thread _
  | dog =>
    rw [DescState.act, DescState.dog_of_not_recover fun h => hdog ⟨rfl, h⟩]
    exact hs.thread .dog
  | key k => exact hs.thread _
  | sigaction => exact hs.of_guard fun _ => hs.of_session rfl rfl rfl rfl rfl rfl id
  | sigint =>
    rw [DescState.act, DescState.sigint, if_neg fun h => hsigint ⟨rfl, h⟩]
    exact hs.of_session rfl rfl rfl rfl rfl rfl id

/-- The calls of a step that a thread makes only where it stands right. -/
lemma right_of_guard {s : DescState longBits} {p : Prop} [Decidable p]
    {t : DescState longBits × List Call} (h : p → ∀ k ∈ t.2, k.Right) :
    ∀ k ∈ (if p then t else (s, [])).2, k.Right := by
  split_ifs with hp
  · exact h hp
  · simp

/-- **The calls of a step** that keeps the descriptors are right. -/
lemma act_right {s : DescState longBits} {e : DescEvent} (hs : DescInv s)
    (hdog : ¬ (e = .dog ∧ stops s.session.globals ∧ s.session.globals.connected ≠ 0))
    (hsigint : ¬ (e = .sigint ∧ s.handler = .installed))
    (hclose : ¬ (e = .serialClose ∧ s.serial = .opened false)) :
    ∀ k ∈ (s.act e).2, k.Right := by
  cases e with
  | serialOpen ok => exact right_of_guard fun _ => by simp
  | serialClose =>
    refine right_of_guard fun h => ?_
    have hopened : s.serial = .opened true := h.resolve_right fun hf => hclose ⟨rfl, hf⟩
    simpa [DescState.call_right] using hs.holds .hUSB1 (Or.inl hopened)
  | serialReopen ok =>
    refine right_of_guard fun _ => ?_
    have hholds : (s.openrs232 .hUSB1 ok).vars .hUSB1 ≠ 0 →
        (s.openrs232 .hUSB1 ok).Holds .hUSB1 := by
      cases ok with
      | false => exact fun h => absurd rfl h
      | true => exact fun _ => s.holds_assign .hUSB1
    have hwrite := DescState.serialCall_right hholds .write
    exact List.forall_mem_append.mpr ⟨hwrite, hwrite⟩
  | serialLoop sbuf =>
    refine right_of_guard fun h => ?_
    have hcall := DescState.serialCall_right (hs.holds_of_looping h)
    exact List.forall_mem_append.mpr ⟨hcall .write, hcall .read⟩
  | tcpStart => exact right_of_guard fun _ => by simp
  | accept => exact right_of_guard fun _ => by simp
  | recv r =>
    refine right_of_guard fun h => ?_
    have hclnt : s.Holds .clntSock := hs.holds .clntSock h.2
    rw [DescState.recv]
    split_ifs <;> simpa [DescState.call_right] using hclnt
  | udpInStart => exact right_of_guard fun _ => by simp
  | udpIn r =>
    refine right_of_guard fun h => ?_
    simpa [DescState.call_right] using hs.holds .socket_in h
  | udpOutStart => exact right_of_guard fun _ => by simp
  | udpOut r =>
    refine right_of_guard fun h => ?_
    have hout : s.Holds .socket_out := hs.holds .socket_out h
    split_ifs <;> simpa [DescState.call_right] using hout
  | dog =>
    rw [DescState.act, DescState.dog_of_not_recover fun h => hdog ⟨rfl, h⟩]
    simp
  | key k => simp [DescState.act]
  | sigaction => exact right_of_guard fun _ => by simp
  | sigint =>
    rw [DescState.act, DescState.sigint, if_neg fun h => hsigint ⟨rfl, h⟩]
    simp

/-- Of two closes, the second through a variable that is zero, one closes standard input: the first
if its variable is zero too. -/
lemma close_close_std {s : DescState longBits} (hs : DescInv s) {v w : Var} (hw : s.vars w = 0) :
    (s.call .close v).held = some .std ∨ ((s.close v).call .close w).held = some .std := by
  by_cases hv : s.vars v = 0
  · exact Or.inl (by rw [DescState.call, hv, hs.std])
  · refine Or.inr ?_
    show (s.fds.close (s.vars v)).entry (s.vars w) = _
    rw [hw, DescriptorTable.entry_close_of_ne hv, hs.std]

/-- What is open as standard input is not the descriptor of a variable. -/
lemma Call.not_right_of_std {k : Call} (h : k.held = some .std) : ¬ k.Right := by
  simp [Call.Right, h]

/-- **A recovery closes standard input**, since `servSock` is zero. -/
lemma recover_wrong {s : DescState longBits} (hs : DescInv s) : ¬ ∀ k ∈ s.recover.2, k.Right := by
  intro h
  rcases close_close_std (v := .clntSock) hs hs.servSock with hstd | hstd
  · exact Call.not_right_of_std hstd (h _ (by simp [DescState.recover]))
  · exact Call.not_right_of_std hstd (h _ (by simp [DescState.recover]))

/-- **`gestionnaire` closes standard input**, since `hUSB2` is zero. -/
lemma gestionnaire_wrong {s : DescState longBits} (hs : DescInv s) :
    ¬ ∀ k ∈ s.gestionnaire.2, k.Right := by
  intro h
  rcases close_close_std (v := .hUSB1) hs hs.hUSB2 with hstd | hstd
  · exact Call.not_right_of_std hstd (h _ (by simp [DescState.gestionnaire]))
  · exact Call.not_right_of_std hstd (h _ (by simp [DescState.gestionnaire]))

/-- **When the calls of a step are right**: when the step keeps the descriptors. -/
lemma emit_right_iff (s : DescState longBits) (e : DescEvent) (hs : DescInv s) :
    (∀ k ∈ (descriptors longBits).emit s e, k.Right) ↔ KeepsDescriptors s e := by
  by_cases hterm : s.terminated = true
  · simp [Machine.emit, descriptors, KeepsDescriptors, hterm]
  have hemit : (descriptors longBits).emit s e = (s.act e).2 := by
    simp [Machine.emit, descriptors, hterm]
  rw [hemit]
  constructor
  · refine fun h => Or.inr ⟨?_, ?_, ?_⟩
    · rintro ⟨rfl, hrestart⟩
      rw [DescState.act, DescState.dog_calls_of_recover hrestart] at h
      exact recover_wrong hs h
    · rintro ⟨rfl, hinstalled⟩
      rw [DescState.act, DescState.sigint, if_pos hinstalled] at h
      exact gestionnaire_wrong hs h
    · rintro ⟨rfl, hfailed⟩
      rw [DescState.act, if_pos (Or.inr hfailed)] at h
      exact hs.not_holds (hs.failed hfailed) (h _ (List.mem_singleton_self _))
  · rintro (hend | ⟨hdog, hsigint, hclose⟩)
    · exact absurd hend hterm
    · exact act_right hs hdog hsigint hclose

/-! ## Runs -/

/-- The invariant holds at the start. -/
lemma descInv_start (debug : ℤ) : DescInv (DescState.start debug : DescState longBits) where
  std := rfl
  servSock := rfl
  hUSB2 := rfl
  failed h := by simp [DescState.start] at h
  holds v hv := by cases v <;> simp [DescState.InUse, DescState.start, SessionState.start] at hv

/-- **When every descriptor is used for what it was opened for.** In a run of the raw server every
read, write and close is made on a descriptor that is open and that was returned into the variable
it is made through, iff the run has no recovery, no `SIGINT` that runs `gestionnaire`, and no close
of a serial device that the first `openrs232` failed to open.

**Proof sketch.** `DescInv` is an invariant of the steps that keep the descriptors, by
`descInv_next`, and under it those steps and no others have right calls, by `emit_right_iff`. The
rule `Machine.outputs_iff_along` puts the two together. -/
theorem descriptors_right_iff (debug : ℤ) (es : List DescEvent) :
    (∀ k ∈ (descriptors longBits).outputs (DescState.start debug) es, k.Right) ↔
      (descriptors longBits).Along KeepsDescriptors (DescState.start debug) es :=
  (descriptors longBits).outputs_iff_along descInv_next emit_right_iff (descInv_start debug) es

/-- A client that falls silent has standard input closed. -/
theorem not_descriptors_right_recovery :
    ¬ ∀ (debug : ℤ) (es : List DescEvent),
      ∀ k ∈ (descriptors 32).outputs (DescState.start debug) es, k.Right := by
  intro h
  have hright := h 0 [.tcpStart, .accept, .recv (.data [0xFF]), .dog, .dog, .dog, .dog]
    ⟨.close, .servSock, some .std⟩ (by decide +kernel)
  exact absurd hright (by decide)

end Wifibot
