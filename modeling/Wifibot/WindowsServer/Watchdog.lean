import Wifibot.Library.Deadman
import Wifibot.WindowsServer.Command

set_option relaxedAutoImplicit false
set_option autoImplicit false

/-!
# The watchdog of the Windows server

`Thread_TCP_Serial` resets the watchdog after every `recv`, also after one that brought no byte:
when the client has closed the connection or the call failed. The raw server resets it after a
byte only. So the watchdog of the Windows server is a dead-man's switch with two kinds of feeding,
and the second postpones a stop that the first makes due.

## Main definitions

* `Wifibot.Windows.sinceCommand`, `Wifibot.Windows.sinceSilence` — the iterations of `Thread_Dog`
  since the last command and since the last `recv` without a byte.
* `Wifibot.Windows.StopsWhenDue` — the stop branch is taken whenever it is due.

## Main results

* `Wifibot.Windows.stops_run_iff` — when an iteration takes the stop branch.
* `Wifibot.Windows.stopsWhenDue_iff` — a run takes every stop that is due iff no `recv` without a
  byte came shortly before one.
-/

namespace Wifibot.Windows

open Deadman

/-- An iteration of `Thread_Dog`. -/
def isDog (e : Event) : Bool := e = .dog

/-- The iterations of `Thread_Dog` since the last command of a run, `none` before the first. -/
def sinceCommand (s : State) (es : List Event) : Option ℕ := since server isCommand isDog s es

/-- The iterations of `Thread_Dog` since the last `recv` without a byte, `none` before the first. -/
def sinceSilence (s : State) (es : List Event) : Option ℕ :=
  since server (fun _ e => isSilent e) isDog s es

/-- `watchdog` and `cycles` are a dead-man's switch with the bound `3`, fed by commands and by
every `recv` without a byte. -/
lemma implements_watchdog :
    Implements server (fun s e => isCommand s e || isSilent e) isDog 3 (fun _ => True)
      State.watchdog State.cycles where
  ok_next _ _ _ := trivial
  counter_next s e _ := by simpa [isDog] using watchdog_next s e
  limit_next s e _ := cycles_next s e

/-- **When an iteration takes the stop branch**: when the last command and the last `recv` without
a byte, if there were any, are both at least three iterations ago. -/
lemma stops_run_iff (es : List Event) :
    stops (server.run State.start es) ↔
      Due 3 (sinceCommand State.start es) ∧ Due 3 (sinceSilence State.start es) := by
  have hrep := implements_watchdog.represents_run (s := State.start) trivial rfl rfl es
  rw [stops, hrep.at_limit_iff, due_since_or]
  rfl

/-- The stop branch clears the wheel speeds. -/
lemma speedsZero_next_stop {s : State} (hs : stops s) :
    SpeedsZero (server.next s .dog).buffso_rcvIN_Tcp := by
  rw [motorBuffer_next rfl, if_pos ⟨rfl, hs⟩]
  exact speedsZero_clearSpeeds _

/-- Every iteration of `Thread_Dog` with three iterations or more since the last command, or with
no command before it, takes its stop branch and clears the wheel speeds. -/
def StopsWhenDue (s : State) (es : List Event) : Prop :=
  ∀ pre post, es = pre ++ .dog :: post → Due 3 (sinceCommand s pre) →
    stops (server.run s pre) ∧ SpeedsZero (server.next (server.run s pre) .dog).buffso_rcvIN_Tcp

/-- **When the watchdog stops the robot.** In a run of the Windows server every stop that is due is
taken iff at no iteration of `Thread_Dog` at which one is due the client closed a connection, or a
`recv` failed, within the last three iterations. -/
theorem stopsWhenDue_iff (es : List Event) :
    StopsWhenDue State.start es ↔
      ∀ pre post, es = pre ++ .dog :: post → Due 3 (sinceCommand State.start pre) →
        Due 3 (sinceSilence State.start pre) := by
  constructor
  · intro h pre post hes hdue
    exact ((stops_run_iff pre).mp (h pre post hes hdue).1).2
  · intro h pre post hes hdue
    have hstop := (stops_run_iff pre).mpr ⟨hdue, h pre post hes hdue⟩
    exact ⟨hstop, speedsZero_next_stop hstop⟩

/-- The steps of a client that drives, falls silent, and then connects and closes once more. -/
def reconnectRun : List Event :=
  [.tcpConnect, .tcpRecv (.data [0xFF]), .dog, .dog, .dog, .tcpConnect, .tcpRecv (.data [])]

/-- The reconnection postpones the stop. -/
theorem not_stopsWhenDue_reconnect : ¬ ∀ es, StopsWhenDue State.start es := by
  intro h
  have hstop := h (reconnectRun ++ [.dog]) reconnectRun [] rfl (by decide +kernel)
  exact absurd hstop.1 (by decide +kernel)

end Wifibot.Windows
