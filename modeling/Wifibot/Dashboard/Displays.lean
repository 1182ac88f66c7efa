import Wifibot.Dashboard.Telemetry
import Wifibot.Library.DecimalText
import Wifibot.TelemetryFormat
import Mathlib.Algebra.Order.Floor.Ring
import Mathlib.Data.Rat.Floor

set_option relaxedAutoImplicit false
set_option autoImplicit false

/-!
# The displays of the dashboard

`onMessage` of `www/wifibot/js/websocket.js` writes the robot's odometries and current on displays
of seven segments, whose patterns and initial values are in `segment_display.js`. A display draws as
many characters of its text as its pattern has, from the left. After a connection is lost the
odometries are given the number `0`, which has no length, and nothing of it is drawn.

Of a drawing only the segments that are lit are kept. A JavaScript number is kept as the rational it
stands for.

## Main definitions

* `Wifibot.Dashboard.SegmentDisplay` — a display; `Wifibot.Dashboard.SegmentDisplay.draw` lights its
  segments.
* `Wifibot.Dashboard.Displays` — what the scripts show of the robot, with the part of `onMessage`
  and of `onClose` that sets it.

## Main results

* `Wifibot.Dashboard.displays_readable` — what the lit segments tell of the robot's report.
-/

namespace Wifibot.Dashboard

/-! ## Displays of seven segments -/

/-- What a display is given: a text, or a number, which has no length. -/
inductive DisplayValue
  | text (s : List Char)
  | number (z : ℤ)
  deriving DecidableEq

/-- The characters of a value. -/
def DisplayValue.chars : DisplayValue → List Char
  | .text s => s
  | .number _ => []

/-- `SegmentDisplay` with `segmentCount` 7. -/
structure SegmentDisplay where
  pattern : List Char
  value : DisplayValue
  deriving DecidableEq

/-- The arguments `charSet7` of `drawDigit`: the characters for which the segments `a` to `g` are
lit. -/
def charSets7 : List (List Char) :=
  [['0', '2', '3', '5', '6', '7', '8', '9', 'a', 'c', 'e', 'f', 'p'],
    ['0', '1', '2', '3', '4', '7', '8', '9', 'a', 'd', 'h', 'p', 'y'],
    ['0', '1', '3', '4', '5', '6', '7', '8', '9', 'a', 'b', 'd', 'h', 'n', 'o', 'u', 'y'],
    ['0', '2', '3', '5', '6', '8', '9', 'b', 'c', 'd', 'e', 'l', 'o', 't', 'u', 'y', '_'],
    ['0', '2', '6', '8', 'a', 'b', 'c', 'd', 'e', 'f', 'h', 'l', 'n', 'o', 'p', 'r', 't', 'u'],
    ['0', '4', '5', '6', '8', '9', 'a', 'b', 'c', 'e', 'f', 'h', 'l', 'p', 't', 'y'],
    ['2', '3', '4', '5', '6', '8', '9', 'a', 'b', 'd', 'e', 'f', 'h', 'n', 'o', 'p', 'r', 't', 'y',
      '-', '=']]

/-- `drawDigit`: which of the segments or points of a place of the pattern are lit. -/
def drawDigit (mask c : Char) : List Bool :=
  if mask = '#' then charSets7.map fun set => c == '#' || set.contains c
  else if mask = '.' then [c == '#' || c == '.']
  else if mask = ':' then [c == '#' || c == ':', c == '#' || c == ':']
  else []

/-- The loop of `draw`. -/
def SegmentDisplay.draw (d : SegmentDisplay) : List (List Bool) :=
  (List.range d.pattern.length).map fun i =>
    drawDigit (d.pattern.getD i ' ') (d.value.chars.getD i ' ').toLower

/-- The pattern of `display_odometry_left` and `display_odometry_right`. -/
def odometryPattern : List Char := ['#', '#', '#', '#', '#', '#']

/-- The pattern of `display_intensite`. -/
def intensitePattern : List Char := ['#', '#', '.', '#']

/-! ## What is shown -/

/-- `pad`. -/
def pad (str : List Char) (max : ℕ) : List Char :=
  if str.length < max then pad ('0' :: str) max else str
termination_by max - str.length

/-- `toFixed` of a number that is not negative, as a text: of two nearest multiples it takes the
larger. -/
def toFixedText (x : ℚ) (f : ℕ) : List Char :=
  let m := Nat.toDigits 10 ⌊x * 10 ^ f + 1 / 2⌋.toNat
  let m := List.replicate (f + 1 - m.length) '0' ++ m
  m.take (m.length - f) ++ '.' :: m.drop (m.length - f)

/-- What `setDistance` does with one of its arguments: the height of a bar in percent. -/
def distance (x : ℤ) : ℚ :=
  let x := if x < 0 then 0 else x
  let x := if x > 255 then 255 else x
  x * 50 / 255

/-- The heights of the four bars. -/
structure Sensors where
  tl : ℚ
  tr : ℚ
  br : ℚ
  bl : ℚ
  deriving DecidableEq

/-- `setDistance`, if the cookie `enable_sensors` is `Yes`. -/
def setDistance (tl tr br bl : ℤ) : Sensors := ⟨distance tl, distance tr, distance br, distance bl⟩

/-- The values of the displays and the gauges, and the bars, `none` as long as no script has set
them. -/
structure Displays where
  display_odometry_left : DisplayValue
  display_odometry_right : DisplayValue
  display_intensite : DisplayValue
  gauge1 : ℚ
  gauge2 : ℚ
  sensors : Option Sensors
  deriving DecidableEq

namespace Displays

/-- The page when its scripts have been loaded. -/
def start : Displays where
  display_odometry_left := .text (List.replicate 8 '-')
  display_odometry_right := .text (List.replicate 8 '-')
  display_intensite := .text (List.replicate 4 '-')
  gauge1 := 0
  gauge2 := 0
  sensors := none

/-- The part of `onClose` that sets displays. -/
def onClose (enable_sensors : Bool) (s : Displays) : Displays where
  display_odometry_left := .number 0
  display_odometry_right := .number 0
  display_intensite := .text ['0', '0', '.', '0']
  gauge1 := 0
  gauge2 := 0
  sensors := if enable_sensors then some (setDistance 0 0 0 0) else s.sensors

/-- `onMessage`, for the bytes of a message. It reads byte `17` after it has set the odometries, and
a read past the end throws. -/
def onMessage (enable_sensors : Bool) (data : List Byte) (s : Displays) : Displays :=
  let m := Dashboard.onMessage (Vector.ofFn fun i => data.getD i 0)
  if data.length < 17 then s
  else
    let s := { s with
      display_odometry_left := .text (decimalText m.odometry_left)
      display_odometry_right := .text (decimalText m.odometry_right) }
    if data.length < 18 then s
    else { s with
      display_intensite := .text (pad (toFixedText (m.current / 10) 1) 4)
      gauge1 := m.battery / 10
      gauge2 := m.speedAvg / 100
      sensors := if enable_sensors then some (setDistance m.tl m.tr m.br m.bl) else s.sensors }

/-- The segments lit on the display of the left odometry. -/
def drawLeft (s : Displays) : List (List Bool) :=
  SegmentDisplay.draw ⟨odometryPattern, s.display_odometry_left⟩

/-- The segments lit on the display of the right odometry. -/
def drawRight (s : Displays) : List (List Bool) :=
  SegmentDisplay.draw ⟨odometryPattern, s.display_odometry_right⟩

/-- The segments lit on the display of the current. -/
def drawCurrent (s : Displays) : List (List Bool) :=
  SegmentDisplay.draw ⟨intensitePattern, s.display_intensite⟩

end Displays

/-! ## Reading the segments -/

/-- The characters of a number, and the blank. -/
def Readable (c : Char) : Prop := c = ' ' ∨ c = '-' ∨ c.isDigit = true

/-- A digit is that of a number below ten. -/
lemma exists_digitChar {c : Char} (hc : c.isDigit = true) : ∃ n < 10, c = Nat.digitChar n := by
  have hle : 48 ≤ c.toNat ∧ c.toNat ≤ 57 := by
    simp only [Char.isDigit, Bool.and_eq_true, decide_eq_true_eq, ge_iff_le,
      UInt32.le_iff_toNat_le] at hc
    exact hc
  refine ⟨c.toNat - 48, by omega, ?_⟩
  apply Char.toNat_inj.mp
  rw [Nat.toNat_digitChar_of_lt_ten (by omega)]
  omega

/-- The characters that can be read are twelve. -/
lemma Readable.mem {c : Char} (hc : Readable c) :
    c ∈ [' ', '-', '0', '1', '2', '3', '4', '5', '6', '7', '8', '9'] := by
  have hdigit : ∀ n < 10, Nat.digitChar n ∈
      [' ', '-', '0', '1', '2', '3', '4', '5', '6', '7', '8', '9'] := by decide
  rcases hc with rfl | rfl | hc
  · simp
  · simp
  · obtain ⟨n, hn, rfl⟩ := exists_digitChar hc
    exact hdigit n hn

/-- **Seven segments tell the characters of a number apart.** -/
lemma drawDigit_inj {c d : Char} (hc : Readable c) (hd : Readable d) :
    drawDigit '#' c.toLower = drawDigit '#' d.toLower ↔ c = d := by
  have hnodup : ([' ', '-', '0', '1', '2', '3', '4', '5', '6', '7', '8', '9'].map
      fun a => drawDigit '#' a.toLower).Nodup := by decide
  exact ⟨fun h => List.inj_on_of_nodup_map hnodup hc.mem hd.mem h, fun h => h ▸ rfl⟩

/-- A text of a number, or none. -/
def ReadableText (s : List Char) : Prop := ∀ c ∈ s, Readable c

/-- The texts of integers can be read. -/
lemma readableText_decimalText (z : ℤ) : ReadableText (decimalText z) :=
  fun _ hc => (mem_decimalText hc).elim (fun h => Or.inr (Or.inl h)) fun h => Or.inr (Or.inr h)

/-- The place of a text that can be read, or the blank after it. -/
lemma ReadableText.getD {s : List Char} (hs : ReadableText s) (i : ℕ) :
    Readable (s.getD i ' ') := by
  rw [List.getD_eq_getElem?_getD]
  cases h : s[i]? with
  | none => exact Or.inl rfl
  | some c => exact hs c (List.mem_of_getElem? h)

/-- Two odometry displays are lit alike iff their texts agree in the first six places. -/
lemma draw_odometry_eq_iff {v w : DisplayValue} (hv : ReadableText v.chars)
    (hw : ReadableText w.chars) :
    SegmentDisplay.draw ⟨odometryPattern, v⟩ = SegmentDisplay.draw ⟨odometryPattern, w⟩ ↔
      ∀ i < 6, v.chars.getD i ' ' = w.chars.getD i ' ' := by
  have hmask : ∀ i < 6, odometryPattern.getD i ' ' = '#' := by decide
  simp only [SegmentDisplay.draw, List.map_inj_left, List.mem_range]
  refine forall₂_congr fun i hi => ?_
  rw [hmask i hi, drawDigit_inj (hv.getD i) (hw.getD i)]

/-- A character of the text of an integer is not blank. -/
lemma decimalText_getD_ne {z : ℤ} {i : ℕ} (hi : i < (decimalText z).length) :
    (decimalText z).getD i ' ' ≠ ' ' := by
  rw [List.getD_eq_getElem _ _ hi]
  intro h
  have hmem : ' ' ∈ decimalText z := h ▸ List.getElem_mem hi
  rcases mem_decimalText hmem with h | h
  · exact absurd h (by decide)
  · exact absurd h (by decide)

/-- Texts that agree in the first `k` places, one of them with fewer characters, are the same. -/
lemma eq_of_getD_eq {z w : ℤ} {k : ℕ} (hz : (decimalText z).length < k)
    (h : ∀ i < k, (decimalText w).getD i ' ' = (decimalText z).getD i ' ') : w = z := by
  have hlen : (decimalText w).length = (decimalText z).length := by
    rcases lt_trichotomy (decimalText w).length (decimalText z).length with hlt | heq | hlt
    · -- where the one ends, the other goes on
      have hblank : (decimalText w).getD (decimalText w).length ' ' = ' ' := by simp
      exact absurd ((h _ (by omega)).symm.trans hblank) (decimalText_getD_ne hlt)
    · exact heq
    · have hblank : (decimalText z).getD (decimalText z).length ' ' = ' ' := by simp
      exact absurd ((h _ (by omega)).trans hblank) (decimalText_getD_ne hlt)
  apply decimalText_injective
  apply List.ext_getElem hlen
  intro i h₁ h₂
  have hi := h i (by omega)
  rwa [List.getD_eq_getElem _ _ h₁, List.getD_eq_getElem _ _ h₂] at hi

/-- **The odometries that can be read** are those whose text leaves a place of the display free. -/
lemma odometry_readable_iff (x : BitVec 32) :
    (∀ y : BitVec 32,
        SegmentDisplay.draw ⟨odometryPattern, .text (decimalText y.toInt)⟩ =
          SegmentDisplay.draw ⟨odometryPattern, .text (decimalText x.toInt)⟩ → y = x) ↔
      -10 ^ 4 < x.toInt ∧ x.toInt < 10 ^ 5 := by
  have hdraw : ∀ y : BitVec 32,
      SegmentDisplay.draw ⟨odometryPattern, .text (decimalText y.toInt)⟩ =
          SegmentDisplay.draw ⟨odometryPattern, .text (decimalText x.toInt)⟩ ↔
        ∀ i < 6, (decimalText y.toInt).getD i ' ' = (decimalText x.toInt).getD i ' ' := fun y =>
    draw_odometry_eq_iff (readableText_decimalText _) (readableText_decimalText _)
  have hlen := length_decimalText_le_iff (z := x.toInt) (by decide : 0 < 4)
  rw [← hlen]
  constructor
  · intro h
    by_contra hlong
    obtain ⟨w, hne, hw, hfill, htake⟩ :=
      exists_ne_take_decimalText_eq (k := 6) (by decide)
        (by omega : 6 ≤ (decimalText x.toInt).length)
    have hx := x.le_toInt
    have hx' := x.toInt_lt
    have htoInt : (BitVec.ofInt 32 w).toInt = w :=
      BitVec.toInt_ofInt_eq_self (by decide) (by omega) (by omega)
    refine hne ?_
    rw [← h (BitVec.ofInt 32 w) ((hdraw _).mpr fun i hi => ?_), htoInt]
    have hi' := congrArg (fun l => l[i]?) htake
    simp only [List.getElem?_take_of_lt hi] at hi'
    rw [htoInt, List.getD_eq_getElem?_getD, List.getD_eq_getElem?_getD, hi']
  · intro hshort y hy
    exact BitVec.eq_of_toInt_eq (eq_of_getD_eq (by omega) ((hdraw y).mp hy))

/-! ## The current -/

/-- `pad` fills up with zeros. -/
lemma pad_eq (str : List Char) (max : ℕ) :
    pad str max = List.replicate (max - str.length) '0' ++ str := by
  fun_induction pad str max with
  | case1 str h ih =>
    have hsub : max - str.length = max - ('0' :: str).length + 1 := by
      rw [List.length_cons]
      omega
    rw [ih, hsub, List.replicate_succ', List.append_assoc]
    rfl
  | case2 str h => simp [Nat.sub_eq_zero_of_le (by omega : max ≤ str.length)]

/-- The four characters of a current. -/
lemma currentText (b : Byte) :
    pad (toFixedText ((Byte.int b : ℚ) / 10) 1) 4 =
      [Nat.digitChar (b.toNat / 100), Nat.digitChar (b.toNat / 10 % 10), '.',
        Nat.digitChar (b.toNat % 10)] := by
  have hfloor : ⌊(Byte.int b : ℚ) / 10 * 10 ^ 1 + 1 / 2⌋.toNat = b.toNat := by
    have hexact : (Byte.int b : ℚ) / 10 * 10 ^ 1 = ((b.toNat : ℤ) : ℚ) := by
      rw [Byte.int]
      ring
    have hhalf : ⌊(1 / 2 : ℚ)⌋ = 0 := by norm_num
    rw [hexact, Int.floor_intCast_add, hhalf, add_zero, Int.toNat_natCast]
  have hall : ∀ n < 256,
      let m := Nat.toDigits 10 n
      let m := List.replicate (1 + 1 - m.length) '0' ++ m
      let str := m.take (m.length - 1) ++ '.' :: m.drop (m.length - 1)
      List.replicate (4 - str.length) '0' ++ str =
        [Nat.digitChar (n / 100), Nat.digitChar (n / 10 % 10), '.', Nat.digitChar (n % 10)] := by
    decide +kernel
  rw [pad_eq, toFixedText, hfloor]
  exact hall b.toNat b.isLt

/-- The digits below ten are different. -/
lemma digitChar_inj {m n : ℕ} (hm : m < 10) (hn : n < 10) (h : Nat.digitChar m = Nat.digitChar n) :
    m = n := by
  have hnat := congrArg Char.toNat h
  rw [Nat.toNat_digitChar_of_lt_ten hm, Nat.toNat_digitChar_of_lt_ten hn] at hnat
  omega

/-- **Every current can be read.** -/
lemma draw_current_eq_iff (b c : Byte) :
    SegmentDisplay.draw
          ⟨intensitePattern, .text (pad (toFixedText ((Byte.int b : ℚ) / 10) 1) 4)⟩ =
        SegmentDisplay.draw
          ⟨intensitePattern, .text (pad (toFixedText ((Byte.int c : ℚ) / 10) 1) 4)⟩ ↔
      b = c := by
  have hdigit : ∀ {n : ℕ}, n < 10 → Readable (Nat.digitChar n) := fun hn =>
    Or.inr (Or.inr (by simpa [Nat.isDigit_digitChar] using hn))
  refine ⟨fun h => ?_, fun h => h ▸ rfl⟩
  have hb := b.isLt
  have hc := c.isLt
  rw [currentText, currentText] at h
  obtain ⟨h₁, h₂, -, h₃⟩ : _ ∧ _ ∧ _ ∧ _ := by
    simpa only [SegmentDisplay.draw, intensitePattern, DisplayValue.chars, List.length_cons,
      List.length_nil, List.range_succ, List.range_zero, List.nil_append, List.cons_append,
      List.map_cons, List.map_nil, List.getD_cons_zero, List.getD_cons_succ, List.cons.injEq,
      and_true] using h
  rw [drawDigit_inj (hdigit (by omega)) (hdigit (by omega))] at h₁ h₂ h₃
  have h₁ := digitChar_inj (by omega) (by omega) h₁
  have h₂ := digitChar_inj (by omega) (by omega) h₂
  have h₃ := digitChar_inj (by omega) (by omega) h₃
  apply BitVec.eq_of_toNat_eq
  omega

/-! ## The displays after a message -/

/-- The odometry that the dashboard computes from a payload is that of its report. -/
lemma onMessage_odometry (p : Payload) :
    (onMessage p).odometry_left = (reportOf p).odometryLeft.toInt ∧
      (onMessage p).odometry_right = (reportOf p).odometryRight.toInt := by
  simp only [onMessage, reportOf, jsOdometry_eq, toInt_odometryOf_32, and_self]

/-- The bytes of a payload, read as a message. -/
lemma ofFn_getD_toList (p : Payload) : (Vector.ofFn fun i => p.toList.getD i 0 : Payload) = p := by
  ext i hi
  simp

namespace Displays

/-- The displays after a message with a report. -/
lemma onMessage_payload (enable_sensors : Bool) (s : Displays) (r : Report) :
    (s.onMessage enable_sensors r.payload.toList).display_odometry_left =
        .text (decimalText r.odometryLeft.toInt) ∧
      (s.onMessage enable_sensors r.payload.toList).display_odometry_right =
        .text (decimalText r.odometryRight.toInt) ∧
      (s.onMessage enable_sensors r.payload.toList).display_intensite =
        .text (pad (toFixedText ((Byte.int r.current : ℚ) / 10) 1) 4) := by
  have hlen : r.payload.toList.length = 21 := Vector.length_toList
  have hcurrent : (Dashboard.onMessage r.payload).current = Byte.int r.current := by
    show Byte.int r.payload[17]! = Byte.int r.current
    rw [r.payload_getElem! (by decide)]
    rfl
  obtain ⟨hleft, hright⟩ := onMessage_odometry r.payload
  rw [reportOf_payload] at hleft hright
  simp only [onMessage, ofFn_getD_toList, hlen, hleft, hright, hcurrent]
  exact ⟨rfl, rfl, rfl⟩

end Displays

/-- A number lights something, and not what the dashes light. -/
lemma draw_decimalText_ne (z : ℤ) :
    SegmentDisplay.draw ⟨odometryPattern, .text (decimalText z)⟩ ≠
        SegmentDisplay.draw ⟨odometryPattern, .number 0⟩ ∧
      SegmentDisplay.draw ⟨odometryPattern, .text (decimalText z)⟩ ≠
        SegmentDisplay.draw ⟨odometryPattern, .text (List.replicate 8 '-')⟩ := by
  have hdashes : ReadableText (List.replicate 8 '-') := by
    intro c hc
    exact Or.inr (Or.inl (List.eq_of_mem_replicate hc))
  have hne : decimalText z ≠ [] := by
    rw [decimalText]
    split_ifs <;> simp
  obtain ⟨c, l, hl⟩ := List.exists_cons_of_ne_nil hne
  constructor
  · intro h
    have hblank : ReadableText (DisplayValue.number 0).chars := by
      simp [ReadableText, DisplayValue.chars]
    have hplaces := (draw_odometry_eq_iff (v := .text _) (readableText_decimalText z) hblank).mp h
    exact decimalText_getD_ne (by simp [hl]) (hplaces 0 (by decide))
  · intro h
    have hplaces := (draw_odometry_eq_iff (v := .text _) (w := .text _)
      (readableText_decimalText z) hdashes).mp h
    -- after a dash comes a digit or a blank
    have h₀ : (decimalText z).getD 0 ' ' = '-' := hplaces 0 (by decide)
    have h₁ : (decimalText z).getD 1 ' ' = '-' := hplaces 1 (by decide)
    rw [hl, List.getD_cons_zero] at h₀
    rw [hl, List.getD_cons_succ] at h₁
    subst h₀
    rw [decimalText] at hl
    split_ifs at hl
    · obtain ⟨-, rfl⟩ := List.cons.inj hl
      cases hdigits : Nat.toDigits 10 z.natAbs with
      | nil => exact Nat.toDigits_ne_nil hdigits
      | cons d m =>
        rw [hdigits, List.getD_cons_zero] at h₁
        exact toDigits_ne_sign_cons _ _ (h₁ ▸ hdigits)
    · exact toDigits_ne_sign_cons _ _ hl

/-- **What the displays tell.** Whatever they showed before, the segments that a report lights tell
a wheel's odometry apart from all others iff its text has at most five characters, for a display
draws six of them and no more; they always tell the current; and they are neither the dashes of a
page without a message nor the blank of one whose connection was lost. -/
theorem displays_readable (enable_sensors : Bool) (s : Displays) (r : Report) :
    let shown := fun r : Report => s.onMessage enable_sensors r.payload.toList
    ((∀ r' : Report, (shown r').drawLeft = (shown r).drawLeft → r'.odometryLeft = r.odometryLeft) ↔
        -10 ^ 4 < r.odometryLeft.toInt ∧ r.odometryLeft.toInt < 10 ^ 5) ∧
      ((∀ r' : Report, (shown r').drawRight = (shown r).drawRight →
          r'.odometryRight = r.odometryRight) ↔
        -10 ^ 4 < r.odometryRight.toInt ∧ r.odometryRight.toInt < 10 ^ 5) ∧
      (∀ r' : Report, (shown r').drawCurrent = (shown r).drawCurrent ↔ r'.current = r.current) ∧
      ((shown r).drawLeft ≠ (s.onClose enable_sensors).drawLeft ∧
        (shown r).drawRight ≠ (s.onClose enable_sensors).drawRight) ∧
      ((shown r).drawLeft ≠ Displays.start.drawLeft ∧
        (shown r).drawRight ≠ Displays.start.drawRight) := by
  have hshown := s.onMessage_payload enable_sensors
  simp only [Displays.drawLeft, Displays.drawRight, Displays.drawCurrent, (hshown _).1,
    (hshown _).2.1, (hshown _).2.2]
  refine ⟨?_, ?_, fun r' => draw_current_eq_iff _ _, ?_, ?_⟩
  · rw [← odometry_readable_iff]
    exact ⟨fun h y => h { r with odometryLeft := y }, fun h r' => h r'.odometryLeft⟩
  · rw [← odometry_readable_iff]
    exact ⟨fun h y => h { r with odometryRight := y }, fun h r' => h r'.odometryRight⟩
  · exact ⟨(draw_decimalText_ne _).1, (draw_decimalText_ne _).1⟩
  · exact ⟨(draw_decimalText_ne _).2, (draw_decimalText_ne _).2⟩

end Wifibot.Dashboard
