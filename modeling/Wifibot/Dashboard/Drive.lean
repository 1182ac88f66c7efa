import Wifibot.Library.Machine
import Wifibot.Library.RoundedNumber
import Mathlib.Algebra.Order.Floor.Ring
import Mathlib.Data.Finset.Basic
import Mathlib.Data.List.ReduceOption
import Mathlib.Data.Rat.Floor
import Mathlib.Logic.Function.Iterate

set_option relaxedAutoImplicit false
set_option autoImplicit false

/-!
# The drive packets of the dashboard

The scripts under `www/wifibot/js` keep two deflections, one of the pad that a pointer moves and
one of a gamepad, and send their sum to the robot at every tick of an interval. Releasing the pad
clears the first, and a websocket that closes clears both. Nothing clears the second when a gamepad
disconnects: `removegamepad` deletes the gamepad, and the next `updateStatus` throws before it
assigns anything.

A handler that throws does nothing more. The browser is one that fires gamepad events.

## Main definitions

* `Wifibot.Dashboard.toInt16`, `Wifibot.Dashboard.toFixed` — the conversions of the language.
* `Wifibot.Dashboard.DriveState`, `Wifibot.Dashboard.drive` — the dashboard as a machine; its
  outputs are the packets.
* `Wifibot.Dashboard.stranded` — the last gamepad left while it was deflected.
* `Wifibot.Dashboard.StillWhenIdle` — the packets sent without a pointer or a gamepad are zero.

## Main results

* `Wifibot.Dashboard.driveInv_run` — in every run the deflection of the pad is zero when no pointer
  is down, and that of a gamepad counts without one iff the run is stranded.
* `Wifibot.Dashboard.stillWhenIdle_iff` — every packet sent when idle is zero iff none is sent when
  stranded.
-/

namespace Wifibot.Dashboard

variable {R : Rounding 53}

/-! ## Numbers -/

/-- A number of JavaScript. -/
abbrev JsNumber (R : Rounding 53) := R.Number

/-- `isNaN`. -/
def isNaN (x : JsNumber R) : Bool := x.val.isNone

/-- The conversion of `setInt16`: the fraction is cut off and 16 bits are kept. -/
def toInt16 (x : JsNumber R) : BitVec 16 :=
  match x.val with
  | none => 0
  | some q => BitVec.ofInt 16 (q.num.tdiv q.den)

/-- What the decimals of `toFixed` spell: the nearest multiple, and of two the one of larger
magnitude. -/
def toFixed (q : ℚ) (digits : ℕ) : ℚ :=
  let n : ℚ := ⌊|q| * 10 ^ digits + 1 / 2⌋
  if q < 0 then -(n / 10 ^ digits) else n / 10 ^ digits

/-- `110 * x.toFixed(4)`, where the decimals become a number again. -/
def deflection (x : JsNumber R) : JsNumber R :=
  .ofInt 110 * .ofExact (x.val.map (toFixed · 4))

/-- Zero is cut to zero. -/
@[simp] lemma toInt16_zero : toInt16 (0 : JsNumber R) = 0 := by
  simp [toInt16]

/-- The fraction is cut off towards zero. -/
lemma toInt16_neg (x : JsNumber R) : toInt16 (-x) = -toInt16 x := by
  rw [toInt16, toInt16, Rounding.Number.val_neg]
  cases x.val with
  | none => simp
  | some q => simp [Int.neg_tdiv, BitVec.ofInt_neg]

/-! ## The pad -/

/-- A touch. -/
structure Touch (R : Rounding 53) where
  pageX : JsNumber R
  pageY : JsNumber R

/-- A mouse or touch event, with the offset of the pad. A coordinate that the event does not have
is not a number; `touches` is `none` if the event has no such property. -/
structure PointerEvent (R : Rounding 53) where
  left : JsNumber R
  top : JsNumber R
  clientX : JsNumber R
  clientY : JsNumber R
  pageX : JsNumber R
  pageY : JsNumber R
  touches : Option (List (Touch R))

/-- The position on the pad, `none` if reading it throws. -/
def PointerEvent.mPos (e : PointerEvent R) : Option (JsNumber R × JsNumber R) :=
  if isNaN (e.clientX - e.left) || isNaN (e.clientY - e.top) then
    match e.touches with
    | none => none
    | some [touch] => some (touch.pageX - e.left, touch.pageY - e.top)
    | some _ => some (e.pageX - e.left, e.pageY - e.top)
  else some (e.pageX - e.left, e.pageY - e.top)

/-- The globals of `virtual_joystick.js`, and its two of `basics.js`. -/
structure VirtualJoystick (R : Rounding 53) where
  enable_virtual_joystick : Bool
  init_x_virtual : JsNumber R
  init_y_virtual : JsNumber R
  ttl_x_virtual : JsNumber R
  ttl_y_virtual : JsNumber R

namespace VirtualJoystick

/-- `mousedown touchstart`. -/
def down (v : VirtualJoystick R) (e : PointerEvent R) : VirtualJoystick R :=
  match e.mPos with
  | none => { v with enable_virtual_joystick := true }
  | some mPos =>
    { v with enable_virtual_joystick := true, init_x_virtual := mPos.1, init_y_virtual := mPos.2 }

/-- `mousemove touchmove`. -/
def move (v : VirtualJoystick R) (e : PointerEvent R) : VirtualJoystick R :=
  if v.enable_virtual_joystick then
    match e.mPos with
    | none => v
    | some mPos =>
      { v with ttl_x_virtual := mPos.1 - v.init_x_virtual,
               ttl_y_virtual := mPos.2 - v.init_y_virtual }
  else v

/-- `mouseup touchend`, and the globals at the start. -/
def released : VirtualJoystick R where
  enable_virtual_joystick := false
  init_x_virtual := 0
  init_y_virtual := 0
  ttl_x_virtual := 0
  ttl_y_virtual := 0

/-- The pad is not followed and its deflection is zero. -/
def AtRest (v : VirtualJoystick R) : Prop :=
  v.enable_virtual_joystick = false ∧ v.ttl_x_virtual = 0 ∧ v.ttl_y_virtual = 0

end VirtualJoystick

/-! ## The gamepads -/

/-- A gamepad as the browser reports it. -/
structure Gamepad (R : Rounding 53) where
  index : ℕ
  axes : List (JsNumber R)

/-- The globals of `physical_joystick.js`, its two of `basics.js`, and how many calls of
`updateStatus` wait for the next animation frame. -/
structure PhysicalJoystick (R : Rounding 53) where
  controllers : ℕ → Option (Gamepad R)
  ttl_x_physical : JsNumber R
  ttl_y_physical : JsNumber R
  callbacks : ℕ

namespace PhysicalJoystick

/-- `addgamepad`. -/
def addgamepad (p : PhysicalJoystick R) (gamepad : Gamepad R) : PhysicalJoystick R :=
  { p with controllers := Function.update p.controllers gamepad.index (some gamepad),
           callbacks := p.callbacks + 1 }

/-- `removegamepad`. -/
def removegamepad (p : PhysicalJoystick R) (index : ℕ) : PhysicalJoystick R :=
  { p with controllers := Function.update p.controllers index none }

/-- One entry of the loop of `scangamepads`. -/
def scangamepad (p : PhysicalJoystick R) : Option (Gamepad R) → PhysicalJoystick R
  | none => p
  | some gamepad =>
    if p.controllers gamepad.index = none then p.addgamepad gamepad
    else { p with controllers := Function.update p.controllers gamepad.index (some gamepad) }

/-- `scangamepads`, for what `getGamepads` returns. -/
def scangamepads (gamepads : List (Option (Gamepad R))) (p : PhysicalJoystick R) :
    PhysicalJoystick R :=
  gamepads.foldl scangamepad p

/-- `updateStatus`. It throws where there is no gamepad with index 0, or where that has no such
axis. -/
def updateStatus (gamepads : List (Option (Gamepad R))) (p : PhysicalJoystick R) :
    PhysicalJoystick R :=
  let p := scangamepads gamepads p
  match p.controllers 0 with
  | none => p
  | some controller =>
    match controller.axes with
    | [] => p
    | [x] => { p with ttl_x_physical := deflection x }
    | x :: y :: _ =>
      { p with ttl_x_physical := deflection x, ttl_y_physical := deflection y,
               callbacks := p.callbacks + 1 }

/-- An animation frame makes the calls that wait. -/
def frame (gamepads : List (Option (Gamepad R))) (p : PhysicalJoystick R) : PhysicalJoystick R :=
  (updateStatus gamepads)^[p.callbacks] { p with callbacks := 0 }

/-- The deflection does not come out as zero in a packet. -/
def Deflected (p : PhysicalJoystick R) : Prop :=
  toInt16 p.ttl_x_physical ≠ 0 ∨ toInt16 p.ttl_y_physical ≠ 0

instance (p : PhysicalJoystick R) : Decidable p.Deflected := inferInstanceAs (Decidable (_ ∨ _))

end PhysicalJoystick

/-! ## The dashboard -/

/-- The globals of the scripts; the pointers that are down on the pad; and the indices of the
connected gamepads. -/
structure DriveState (R : Rounding 53) where
  conok : Bool
  virtual : VirtualJoystick R
  physical : PhysicalJoystick R
  pointers : Finset ℕ
  gamepads : Finset ℕ

/-- What the browser delivers. -/
inductive DriveEvent (R : Rounding 53)
  | down (pointer : ℕ) (e : PointerEvent R)
  | move (e : PointerEvent R)
  | up (pointer : ℕ)
  | gamepadconnected (gamepad : Gamepad R)
  | gamepaddisconnected (index : ℕ)
  | frame (gamepads : List (Option (Gamepad R)))
  | onOpen
  | onClose
  | tick

/-- The four values of a packet, in order. -/
def drivePacket (v : VirtualJoystick R) (p : PhysicalJoystick R) : Vector (BitVec 16) 4 :=
  #v[toInt16 (-v.ttl_x_virtual - p.ttl_x_physical), toInt16 (v.ttl_y_virtual + p.ttl_y_physical),
    toInt16 (-v.ttl_x_virtual - p.ttl_x_physical), toInt16 (v.ttl_y_virtual + p.ttl_y_physical)]

/-- **The dashboard.** An animation frame finds in the browser's list exactly the gamepads that are
connected. -/
def drive (R : Rounding 53) : Machine (DriveState R) (DriveEvent R) (Vector (BitVec 16) 4) where
  step s
    | .down pointer e =>
      ({ s with virtual := s.virtual.down e, pointers := insert pointer s.pointers }, [])
    | .move e => ({ s with virtual := s.virtual.move e }, [])
    | .up pointer => ({ s with virtual := .released, pointers := s.pointers.erase pointer }, [])
    | .gamepadconnected gamepad =>
      ({ s with physical := s.physical.addgamepad gamepad,
                gamepads := insert gamepad.index s.gamepads }, [])
    | .gamepaddisconnected index =>
      ({ s with physical := s.physical.removegamepad index,
                gamepads := s.gamepads.erase index }, [])
    | .frame gamepads =>
      if (gamepads.reduceOption.map Gamepad.index).toFinset = s.gamepads then
        ({ s with physical := s.physical.frame gamepads }, [])
      else (s, [])
    | .onOpen => ({ s with conok := true }, [])
    | .onClose =>
      ({ s with conok := false,
                virtual := { s.virtual with ttl_x_virtual := 0, ttl_y_virtual := 0 },
                physical := { s.physical with ttl_x_physical := 0, ttl_y_physical := 0 } }, [])
    | .tick => (s, if s.conok then [drivePacket s.virtual s.physical] else [])

/-- The dashboard when its scripts have been loaded. -/
def DriveState.start : DriveState R where
  conok := false
  virtual := .released
  physical :=
    { controllers := fun _ => none
      ttl_x_physical := 0
      ttl_y_physical := 0
      callbacks := 0 }
  pointers := ∅
  gamepads := ∅

/-- No pointer is down on the pad, and no gamepad is connected. -/
def DriveState.Idle (s : DriveState R) : Prop := s.pointers = ∅ ∧ s.gamepads = ∅

/-! ## One step -/

namespace VirtualJoystick

/-- A pad at rest does not move. -/
lemma move_of_atRest {v : VirtualJoystick R} (hv : v.AtRest) (e : PointerEvent R) :
    v.move e = v := by
  simp [move, hv.1]

lemma released_atRest : (released : VirtualJoystick R).AtRest := ⟨rfl, rfl, rfl⟩

end VirtualJoystick

namespace PhysicalJoystick

/-- An index under which `scangamepads` leaves a gamepad had one, or is in the browser's list. -/
lemma controllers_scangamepads {gamepads : List (Option (Gamepad R))} {p : PhysicalJoystick R}
    {i : ℕ} (h : (scangamepads gamepads p).controllers i ≠ none) :
    p.controllers i ≠ none ∨ i ∈ gamepads.reduceOption.map Gamepad.index := by
  induction gamepads generalizing p with
  | nil => exact Or.inl h
  | cons o gamepads ih =>
    cases o with
    | none => exact ih h
    | some gamepad =>
      rw [List.reduceOption_cons_of_some, List.map_cons, List.mem_cons]
      rcases ih h with hscan | hmem
      · by_cases hi : i = gamepad.index
        · exact Or.inr (Or.inl hi)
        · refine Or.inl ?_
          rw [scangamepad] at hscan
          split_ifs at hscan <;>
            simpa only [addgamepad, Function.update_of_ne hi] using hscan
      · exact Or.inr (Or.inr hmem)

/-- `updateStatus` adds no gamepad but by its scan. -/
lemma controllers_updateStatus (gamepads : List (Option (Gamepad R))) (p : PhysicalJoystick R) :
    (updateStatus gamepads p).controllers = (scangamepads gamepads p).controllers := by
  rw [updateStatus]
  split
  · rfl
  · split <;> rfl

/-- An animation frame leaves no gamepad that was not there and is not in the browser's list. -/
lemma controllers_frame {gamepads : List (Option (Gamepad R))} {p : PhysicalJoystick R} {i : ℕ}
    (h : (p.frame gamepads).controllers i ≠ none) :
    p.controllers i ≠ none ∨ i ∈ gamepads.reduceOption.map Gamepad.index := by
  have hcalls : ∀ n, ((updateStatus gamepads)^[n] { p with callbacks := 0 }).controllers i ≠ none →
      p.controllers i ≠ none ∨ i ∈ gamepads.reduceOption.map Gamepad.index := by
    intro n
    induction n with
    | zero => exact Or.inl
    | succ n ih =>
      intro hn
      rw [Function.iterate_succ_apply', controllers_updateStatus] at hn
      exact (controllers_scangamepads hn).elim ih Or.inr
  exact hcalls p.callbacks h

/-- **A frame without gamepads changes no deflection**: every `updateStatus` throws before it
assigns anything. -/
lemma frame_of_none {gamepads : List (Option (Gamepad R))} {p : PhysicalJoystick R}
    (hlist : gamepads.reduceOption = []) (hnone : ∀ i, p.controllers i = none) :
    p.frame gamepads = { p with callbacks := 0 } := by
  have hscan : ∀ q : PhysicalJoystick R, scangamepads gamepads q = q := by
    intro q
    induction gamepads with
    | nil => rfl
    | cons o gamepads ih =>
      cases o with
      | none => exact ih hlist
      | some gamepad => simp at hlist
  refine Function.iterate_fixed ?_ p.callbacks
  rw [updateStatus, hscan]
  simp only [hnone]

end PhysicalJoystick

/-- The packet of a pad at rest is zero iff the deflection of the gamepad counts as zero. -/
lemma drivePacket_eq_zero_iff {v : VirtualJoystick R} (hv : v.AtRest) (p : PhysicalJoystick R) :
    drivePacket v p = Vector.replicate 4 0 ↔ ¬ p.Deflected := by
  obtain ⟨-, hx, hy⟩ := hv
  rw [drivePacket, hx, hy, Rounding.Number.neg_zero, Rounding.Number.zero_sub,
    Rounding.Number.zero_add, toInt16_neg, PhysicalJoystick.Deflected, not_or, not_not, not_not]
  have hzero : Vector.replicate 4 (0 : BitVec 16) = #v[0, 0, 0, 0] := rfl
  rw [hzero]
  constructor
  · intro h
    simp only [Vector.mk.injEq, Array.mk.injEq, List.cons.injEq] at h
    exact ⟨by simpa using h.1, h.2.1⟩
  · rintro ⟨hx, hy⟩
    simp [hx, hy]

/-- One step of: the last gamepad left while it was deflected, and since then none was connected
and the websocket did not close. -/
def strandedStep (s : DriveState R) (e : DriveEvent R) (stranded : Bool) : Bool :=
  match e with
  | .gamepadconnected _ => false
  | .gamepaddisconnected index =>
    if s.gamepads ≠ ∅ ∧ s.gamepads.erase index = ∅ then decide s.physical.Deflected else stranded
  | .onClose => false
  | _ => stranded

/-- The last gamepad of a run left while it was deflected, and since then none was connected and
the websocket did not close. -/
def stranded (s : DriveState R) (es : List (DriveEvent R)) : Bool :=
  (drive R).history strandedStep s false es

/-- The pad is at rest when no pointer is down; `controllers` has connected gamepads only; and
without one the deflection counts iff the run is stranded. -/
structure DriveInv (s : DriveState R) (stranded : Bool) : Prop where
  atRest : s.pointers = ∅ → s.virtual.AtRest
  connected : ∀ i, s.physical.controllers i ≠ none → i ∈ s.gamepads
  deflected : s.gamepads = ∅ → (s.physical.Deflected ↔ stranded = true)

namespace DriveInv

variable {s : DriveState R} {b : Bool}

/-- A pointer moves: the pad follows it only while one is down. -/
lemma move (hs : DriveInv s b) (e : PointerEvent R) :
    DriveInv { s with virtual := s.virtual.move e } b where
  atRest h := by
    show (s.virtual.move e).AtRest
    rw [VirtualJoystick.move_of_atRest (hs.atRest h)]
    exact hs.atRest h
  connected := hs.connected
  deflected := hs.deflected

/-- A gamepad connects. -/
lemma gamepadconnected (hs : DriveInv s b) (gamepad : Gamepad R) :
    DriveInv
      { s with physical := s.physical.addgamepad gamepad,
               gamepads := insert gamepad.index s.gamepads } false where
  atRest := hs.atRest
  connected i hi := by
    show i ∈ insert gamepad.index s.gamepads
    by_cases hindex : i = gamepad.index
    · rw [hindex]
      exact Finset.mem_insert_self _ _
    · simp only [PhysicalJoystick.addgamepad, Function.update_of_ne hindex] at hi
      exact Finset.mem_insert_of_mem (hs.connected i hi)
  deflected h := absurd h (Finset.insert_ne_empty _ _)

/-- A gamepad disconnects: the deflection stays as it is. -/
lemma gamepaddisconnected (hs : DriveInv s b) (index : ℕ) :
    DriveInv
      { s with physical := s.physical.removegamepad index, gamepads := s.gamepads.erase index }
      (strandedStep s (.gamepaddisconnected index) b) where
  atRest := hs.atRest
  connected i hi := by
    show i ∈ s.gamepads.erase index
    by_cases hindex : i = index
    · simp [PhysicalJoystick.removegamepad, hindex] at hi
    · simp only [PhysicalJoystick.removegamepad, Function.update_of_ne hindex] at hi
      exact Finset.mem_erase_of_ne_of_mem hindex (hs.connected i hi)
  deflected h := by
    show s.physical.Deflected ↔ _
    rw [strandedStep]
    split_ifs with hlast
    · exact decide_eq_true_iff.symm
    · exact hs.deflected (by_contra fun hne => hlast ⟨hne, h⟩)

/-- An animation frame. -/
lemma frame (hs : DriveInv s b) {gamepads : List (Option (Gamepad R))}
    (hlist : (gamepads.reduceOption.map Gamepad.index).toFinset = s.gamepads) :
    DriveInv { s with physical := s.physical.frame gamepads } b where
  atRest := hs.atRest
  connected i hi := by
    rcases PhysicalJoystick.controllers_frame hi with hold | hmem
    · exact hs.connected i hold
    · show i ∈ s.gamepads
      rw [← hlist]
      exact List.mem_toFinset.mpr hmem
  deflected h := by
    have hempty : s.gamepads = ∅ := h
    have hnil : gamepads.reduceOption = [] := by
      rw [hempty, List.toFinset_eq_empty_iff] at hlist
      exact List.map_eq_nil_iff.mp hlist
    have hnone : ∀ i, s.physical.controllers i = none := by
      intro i
      by_contra hi
      exact absurd (hs.connected i hi) (by simp [hempty])
    show (s.physical.frame gamepads).Deflected ↔ b = true
    rw [PhysicalJoystick.frame_of_none hnil hnone]
    exact hs.deflected hempty

/-- The websocket closes. -/
lemma onClose (hs : DriveInv s b) : DriveInv ((drive R).next s .onClose) false where
  atRest h := ⟨(hs.atRest h).1, rfl, rfl⟩
  connected := hs.connected
  deflected _ := by
    show (toInt16 (0 : JsNumber R) ≠ 0 ∨ toInt16 (0 : JsNumber R) ≠ 0) ↔ false = true
    simp

end DriveInv

/-- **One step** keeps the invariant.

**Proof sketch.** The pad moves only while it is followed, and it is followed only while a pointer
is down. A gamepad enters `controllers` when it connects or when a frame finds it in the browser's
list, and leaves it when it disconnects. When none is connected no frame assigns a deflection, so it
is the one with which the last gamepad left, until the websocket closes. -/
lemma driveInv_next (s : DriveState R) (b : Bool) (e : DriveEvent R) (hs : DriveInv s b) :
    DriveInv ((drive R).next s e) (strandedStep s e b) := by
  cases e with
  | down pointer e =>
    exact ⟨fun h => absurd h (Finset.insert_ne_empty _ _), hs.connected, hs.deflected⟩
  | move e => exact hs.move e
  | up pointer => exact ⟨fun _ => VirtualJoystick.released_atRest, hs.connected, hs.deflected⟩
  | gamepadconnected gamepad => exact hs.gamepadconnected gamepad
  | gamepaddisconnected index => exact hs.gamepaddisconnected index
  | frame gamepads =>
    by_cases hlist : (gamepads.reduceOption.map Gamepad.index).toFinset = s.gamepads
    · have hnext : (drive R).next s (.frame gamepads) =
          { s with physical := s.physical.frame gamepads } := by
        simp [Machine.next, drive, hlist]
      rw [hnext]
      exact hs.frame hlist
    · have hnext : (drive R).next s (.frame gamepads) = s := by
        simp [Machine.next, drive, hlist]
      rw [hnext]
      exact hs
  | onOpen => exact ⟨hs.atRest, hs.connected, hs.deflected⟩
  | onClose => exact hs.onClose
  | tick => exact hs

/-! ## Runs -/

/-- **Every run** keeps the invariant. -/
lemma driveInv_run (es : List (DriveEvent R)) :
    DriveInv ((drive R).run .start es) (stranded .start es) :=
  (drive R).history_invariant strandedStep driveInv_next
    { atRest := fun _ => VirtualJoystick.released_atRest
      connected := fun _ h => absurd rfl h
      deflected := fun _ => by simp [PhysicalJoystick.Deflected, DriveState.start] } es

/-- Every packet sent when no pointer is down and no gamepad is connected is zero. -/
def StillWhenIdle (es : List (DriveEvent R)) : Prop :=
  ∀ pre post, es = pre ++ .tick :: post →
    let s := (drive R).run .start pre
    s.Idle → ∀ packet ∈ (drive R).emit s .tick, packet = Vector.replicate 4 0

/-- What a tick sends. -/
lemma emit_tick (s : DriveState R) :
    (drive R).emit s .tick = if s.conok then [drivePacket s.virtual s.physical] else [] := rfl

/-- An idle tick sends no packet but zero iff the websocket is not open or the deflection of the
gamepad does not count. -/
lemma idle_tick_iff {s : DriveState R} {b : Bool} (hs : DriveInv s b) (hidle : s.Idle) :
    (∀ packet ∈ (drive R).emit s .tick, packet = Vector.replicate 4 0) ↔
      ¬ (s.conok = true ∧ b = true) := by
  rw [emit_tick]
  by_cases hopen : s.conok = true
  · rw [if_pos hopen, List.forall_mem_singleton,
      drivePacket_eq_zero_iff (hs.atRest hidle.1), hs.deflected hidle.2]
    simp [hopen]
  · simp [hopen]

/-- **When the robot is left still.** In a run of the dashboard every packet sent at a tick at which
no pointer is down on the pad and no gamepad is connected is zero, iff no such tick finds the
websocket open after the last gamepad left while it was deflected, none having been connected and
the websocket not having closed since. -/
theorem stillWhenIdle_iff (R : Rounding 53) (es : List (DriveEvent R)) :
    StillWhenIdle es ↔
      ∀ pre post, es = pre ++ .tick :: post →
        let s := (drive R).run .start pre
        s.Idle → ¬ (s.conok = true ∧ stranded .start pre = true) := by
  constructor
  · intro h pre post hes s hidle
    exact (idle_tick_iff (driveInv_run pre) hidle).mp (h pre post hes hidle)
  · intro h pre post hes s hidle
    exact (idle_tick_iff (driveInv_run pre) hidle).mpr (h pre post hes hidle)

/-- A full deflection is 110. -/
lemma deflection_one : (deflection (.ofInt 1) : JsNumber R).val = some 110 := by
  have hone : (.ofInt 1 : JsNumber R).val = some 1 := Rounding.Number.val_ofInt (by decide)
  have hfixed : toFixed 1 4 = ((1 : ℤ) : ℚ) := by
    decide +kernel
  rw [deflection, hone, Option.map_some, hfixed]
  exact Rounding.Number.val_mul_ofInt (by decide) (by decide) (by decide)

/-- A gamepad unplugged while it is fully deflected leaves the robot driving. -/
theorem not_stillWhenIdle_unplugged :
    ¬ ∃ R : Rounding 53, ∀ es : List (DriveEvent R), StillWhenIdle es := by
  rintro ⟨R, h⟩
  let pad : Gamepad R := ⟨0, [.ofInt 1, .ofInt 0]⟩
  let pre : List (DriveEvent R) :=
    [.onOpen, .gamepadconnected pad, .frame [some pad], .gamepaddisconnected 0]
  have hidle : ((drive R).run .start pre).Idle := ⟨rfl, rfl⟩
  have hx : ((drive R).run .start pre).physical.ttl_x_physical = deflection (.ofInt 1) := rfl
  have hright := h (pre ++ [.tick]) pre [] rfl hidle
  have hpacket := hright (drivePacket _ _) (List.mem_singleton_self _)
  rw [drivePacket_eq_zero_iff ⟨rfl, rfl, rfl⟩, PhysicalJoystick.Deflected, hx, toInt16,
    deflection_one] at hpacket
  exact hpacket (Or.inl (by decide))

end Wifibot.Dashboard
