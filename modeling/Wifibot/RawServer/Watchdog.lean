import Wifibot.Library.Deadman
import Wifibot.RawServer.Command

set_option relaxedAutoImplicit false
set_option autoImplicit false

/-!
# The dead-man's switch

What `Thread_Dog` is for: a robot that hears no command for three of its iterations stands still.
The abstract switch has one number, the iterations since the last command, and stops the robot
when there was no command yet or the number has reached three. The server's `watchdog` is that
number cut at `cycles`.

## Main definitions

* `Wifibot.sinceCommand` — the iterations of `Thread_Dog` since the last command of a run.
* `Wifibot.WatchdogInv` — how `watchdog` and `cycles` represent that number.

## Main results

* `Wifibot.watchdogInv_run` — they do so after every run.
* `Wifibot.deadman_switch` — the bounds, the stop branch, and the speeds that are written.
-/

namespace Wifibot

variable {longBits : ℕ}

/-- One step of the abstract switch. -/
def countSinceCommand (s : State longBits) (e : Event) (n : Option ℕ) : Option ℕ :=
  if isCommand s e then some 0 else if e = .dog then n.map (· + 1) else n

/-- The iterations of `Thread_Dog` since the last command of a run, `none` before the first. -/
def sinceCommand (s : State longBits) (es : List Event) : Option ℕ :=
  (server longBits).history countSinceCommand s none es

/-- The abstract switch after one more step. -/
lemma sinceCommand_concat (s : State longBits) (es : List Event) (e : Event) :
    sinceCommand s (es ++ [e]) =
      countSinceCommand ((server longBits).run s es) e (sinceCommand s es) := by
  rw [sinceCommand, Machine.history_append]
  rfl

/-- The server's watchdog represents the abstract number: it is cut at `cycles`, which is `3` from
the first command on. -/
structure WatchdogInv (s : State longBits) (n : Option ℕ) : Prop where
  debug : s.debug = 0
  watchdog : s.watchdog = n.elim 0 fun k => min (k : ℤ) 3
  cycles : s.cycles = n.elim 0 fun _ => 3

/-- The abstract switch is the one of the library, fed by commands. -/
lemma countSinceCommand_eq (s : State longBits) (e : Event) (n : Option ℕ) :
    countSinceCommand s e n = Deadman.sinceStep isCommand (fun e => decide (e = .dog)) s e n := by
  simp only [countSinceCommand, Deadman.sinceStep, decide_eq_true_eq]

/-- `watchdog` and `cycles` are its usual implementation, with the bound `3`. -/
lemma implements_watchdog :
    Deadman.Implements (server longBits) isCommand (fun e => decide (e = .dog)) 3
      (fun s => s.debug = 0) State.watchdog State.cycles where
  ok_next s e hs := by rw [debug_next, hs]
  counter_next s e hs := by simpa using watchdog_next hs e
  limit_next s e hs := cycles_next hs e

/-- The representation of the library. -/
lemma watchdogInv_iff {s : State longBits} {n : Option ℕ} :
    WatchdogInv s n ↔ s.debug = 0 ∧ Deadman.Represents 3 n s.watchdog s.cycles :=
  ⟨fun ⟨hdebug, hw, hc⟩ => ⟨hdebug, hw, hc⟩, fun ⟨hdebug, hw, hc⟩ => ⟨hdebug, hw, hc⟩⟩

/-- **One step** keeps the watchdog in agreement with the abstract switch. -/
lemma watchdogInv_next (s : State longBits) (n : Option ℕ) (e : Event) (h : WatchdogInv s n) :
    WatchdogInv ((server longBits).next s e) (countSinceCommand s e n) := by
  obtain ⟨hdebug, hrep⟩ := watchdogInv_iff.mp h
  rw [countSinceCommand_eq]
  exact watchdogInv_iff.mpr
    ⟨implements_watchdog.ok_next s e hdebug, implements_watchdog.represents_next hdebug e hrep⟩

/-- After every run the watchdog agrees with the abstract switch. -/
lemma watchdogInv_run (hUSB1 : ℤ) (es : List Event) :
    WatchdogInv ((server longBits).run (State.start 0 hUSB1) es)
      (sinceCommand (State.start 0 hUSB1 : State longBits) es) :=
  (server longBits).history_invariant countSinceCommand watchdogInv_next ⟨rfl, rfl, rfl⟩ es

/-- The stop branch, by the abstract number. -/
lemma WatchdogInv.stops_iff {s : State longBits} {n : Option ℕ} (h : WatchdogInv s n) :
    stops s ↔ n = none ∨ ∃ k, n = some k ∧ 3 ≤ k := by
  have hlimit : stops s ↔ Deadman.Due 3 n := (watchdogInv_iff.mp h).2.at_limit_iff
  rw [hlimit]
  cases n <;> simp

/-- The stop branch leaves the wheel speeds at zero. -/
lemma speedsZero_next_stop {s : State longBits} (hs : stops s) :
    SpeedsZero ((server longBits).next s .dog).buffso_Raw_Data_In := by
  rw [frame_next, if_neg (by simp [isCommand]), if_pos ⟨rfl, hs⟩]
  exact speedsZero_clearSpeeds _

/-- Without a command, wheel speeds at zero stay there. -/
lemma speedsZero_next {s : State longBits} {e : Event} (he : isCommand s e = false)
    (hs : SpeedsZero s.buffso_Raw_Data_In) :
    SpeedsZero ((server longBits).next s e).buffso_Raw_Data_In := by
  rw [frame_next, if_neg (by simp [he])]
  split_ifs
  · exact speedsZero_clearSpeeds _
  · exact hs

/-- **The dead-man's switch.** After every run, `0 ≤ watchdog ≤ cycles ≤ 3`; the next iteration of
`Thread_Dog` takes the stop branch iff there was no command, or three iterations since the last
one; and if it does, everything written to the serial port from then until the next command has
both wheel speeds at zero.

**Proof sketch.** The first two by the invariant of the run. For the third, the stop branch clears
the speeds, no step but a command changes that, and `driveraw` writes the frame as it stands. -/
theorem deadman_switch (hUSB1 : ℤ) (es : List Event) :
    let start : State longBits := State.start 0 hUSB1
    let s := (server longBits).run start es
    (0 ≤ s.watchdog ∧ s.watchdog ≤ s.cycles ∧ s.cycles ≤ 3) ∧
      (stops s ↔ sinceCommand start es = none ∨ ∃ k, sinceCommand start es = some k ∧ 3 ≤ k) ∧
      (stops s → ∀ mid,
        (server longBits).Along (fun s e => isCommand s e = false)
          ((server longBits).next s .dog) mid →
        ∀ f, .serial f ∈ (server longBits).outputs ((server longBits).next s .dog) mid →
          SpeedsZero f) := by
  intro start s
  have hinv : WatchdogInv s (sinceCommand start es) := watchdogInv_run hUSB1 es
  refine ⟨?_, hinv.stops_iff, fun hstop mid hmid f hf => ?_⟩
  · rw [hinv.watchdog, hinv.cycles]
    cases sinceCommand start es with
    | none => simp
    | some k =>
      simp only [Option.elim_some]
      omega
  · refine (server longBits).outputs_induction
      (I := fun s => SpeedsZero s.buffso_Raw_Data_In)
      (P := fun o => ∀ f, o = .serial f → SpeedsZero f)
      (fun _ _ he hs => speedsZero_next he hs) (fun _ _ _ hs o ho f hof => ?_)
      (speedsZero_next_stop hstop) hmid _ hf f rfl
    subst hof
    obtain ⟨-, rfl⟩ := serial_mem_emit ho
    exact hs

end Wifibot
