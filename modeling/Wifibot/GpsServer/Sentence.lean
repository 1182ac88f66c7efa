import Wifibot.Library.Pattern
import Wifibot.Library.PercentEncoding
import Wifibot.Dashboard.Map

set_option relaxedAutoImplicit false
set_option autoImplicit false

/-!
# The sentences of the GPS receiver

`node_modules/node-nmea/src/index.js`, as far as `www/wifibot/server/GPS_server.js` uses it. A
sentence that matches `gprmc` or `gpgga` is taken apart by the groups of the pattern. The position
is looked up in the captures, and `degToDec` takes it apart again. A sentence that matches neither
pattern, or `gprmc` with a wrong checksum, has no position; a sentence that matches `gpgga` has one
whatever its checksum is.

The fields of a sentence that `GPS_server.js` does not read are left out.

## Main definitions

* `Wifibot.Gps.gprmc`, `Wifibot.Gps.gpgga` — the patterns.
* `Wifibot.Gps.degToDec`, `Wifibot.Gps.parse` — the functions of the source.
* `Wifibot.Gps.Dmm`, `Wifibot.Gps.Gga` — a coordinate and a sentence by their parts, which are well
  formed.

## Main results

* `Wifibot.Gps.degToDec_text` — what is read of a coordinate.
* `Wifibot.Gps.gga_sentences` — the sentences that match `gpgga` are the texts of well-formed parts,
  each of one only, and what is parsed of them is their position.
-/

namespace Wifibot.Gps

open Dashboard Pattern
open PercentEncoding (hexValue)

variable {R : Rounding 53}

/-! ## The patterns -/

/-- `\w`. -/
def isWord (a : Char) : Bool := a.isAlphanum || a = '_'

/-- `[0-9A-F]`. -/
def isUpperHex (a : Char) : Bool := a.isDigit || a ∈ ['A', 'B', 'C', 'D', 'E', 'F']

/-- `\d` so many times. -/
def digits (lo : ℕ) (hi : Option ℕ) : Pattern Char := chars Char.isDigit lo hi

/-- `([.]\d+)?`. -/
def fraction : Pattern Char := opt (group (seqs [lit '.', digits 1 none]))

/-- `a?` of a character. -/
def optLit (a : Char) : Pattern Char := chars (· = a) 0 (some 1)

/-- `(\d{1,3}[.]\d{1,3})?`. -/
def optDecimal : Pattern Char :=
  opt (group (seqs [digits 1 (some 3), lit '.', digits 1 (some 3)]))

/-- `([-]?\d+([.]\d+)?)?`. -/
def optSigned : Pattern Char := opt (group (seqs [optLit '-', digits 1 none, fraction]))

/-- `\*([0-9A-F]{2})`. -/
def checksumField : List (Pattern Char) := [lit '*', group (chars isUpperHex 2 (some 2))]

/-- The start of both patterns, up to the time. -/
def timeFields : List (Pattern Char) :=
  [lit '$', lit 'G', lit 'P', group (chars isWord 3 (some 3)), lit ',',
    group (seqs [digits 6 (some 6), fraction]), lit ',']

/-- `gprmc` behind the time, up to the checksum. -/
def rmcFields : List (Pattern Char) :=
  [group (set (· ∈ ['A', 'V'])), lit ',',
    group (seqs [digits 4 (some 4), fraction, lit ',', set (· ∈ ['N', 'S'])]), lit ',',
    group (seqs [digits 5 (some 5), fraction, lit ',', set (· ∈ ['W', 'E'])]), lit ',',
    optDecimal, lit ',', optDecimal, lit ',', group (digits 6 (some 6)), lit ',',
    group (seqs [optDecimal, lit ',', opt (group (set (· ∈ ['W', 'E'])))]), optLit ',',
    opt (group (set (· ∈ ['A', 'D', 'E', 'N', 'S'])))]

/-- The position in `gpgga`. -/
def ggaPosition : List (Pattern Char) :=
  [group (seqs [digits 4 (some 4), lit '.', digits 1 none, lit ',', set (· ∈ ['N', 'S'])]), lit ',',
    group (seqs [digits 5 (some 5), lit '.', digits 1 none, lit ',', set (· ∈ ['W', 'E'])]),
    lit ',']

/-- `gpgga` behind the position, up to the checksum. -/
def ggaFields : List (Pattern Char) :=
  [group (set (· ∈ ['0', '1', '2', '3', '4', '5', '6', '7', '8'])), lit ',',
    group (digits 1 (some 2)), lit ',', optDecimal, lit ',', optSigned, lit ',', optLit 'M',
    lit ',', optSigned, lit ',', optLit 'M', lit ',',
    opt (group (seqs [digits 1 none, fraction])), lit ',',
    opt (group (digits 4 (some 4))), optLit ',', opt (group (set (· ∈ ['A', 'D', 'E', 'N', 'S'])))]

/-- `gprmc`. -/
def gprmc : Pattern Char := seqs (timeFields ++ rmcFields ++ checksumField)

/-- `gpgga`. -/
def gpgga : Pattern Char := seqs (timeFields ++ ggaPosition ++ ggaFields ++ checksumField)

/-- The pattern of `degToDec`. -/
def dmm : Pattern Char :=
  seqs [group (digits 2 (some 3)), group (seqs [digits 2 (some 2), lit '.', digits 1 none]),
    lit ',', group (set (· ∈ ['N', 'S', 'W', 'E']))]

/-! ## The functions -/

/-- `indexOf`. -/
def indexOf (s text : List Char) : Option ℕ :=
  (List.range (s.length + 1)).find? fun i => text.isPrefixOf (s.drop i)

/-- `getChecksum`, `none` if it is undefined. -/
def getChecksum (data : List Char) : Option ℕ :=
  match indexOf data ['$', 'G', 'P'], indexOf data ['*'] with
  | some idx1, some idx2 =>
    some (((data.take idx2).drop (idx1 + 1)).foldl (fun y x => y ^^^ x.toNat) 0)
  | _, _ => none

/-- `parseInt` to base 16 without its sign, `none` if it is not a number. -/
def parseHex (s : List Char) : Option ℕ :=
  let s := match s with
    | '0' :: x :: t => if x = 'x' ∨ x = 'X' then t else s
    | _ => s
  let values := (s.takeWhile fun a => (hexValue a).isSome).filterMap hexValue
  if values = [] then none else some (values.foldl (fun n d => 16 * n + d) 0)

/-- `parseInt` to base 16. -/
def parseInt16 (s : List Char) : Option ℤ :=
  match s.dropWhile isStrWhiteSpace with
  | '-' :: s => (parseHex s).map fun n => -(n : ℤ)
  | '+' :: s => (parseHex s).map fun n => (n : ℤ)
  | s => (parseHex s).map fun n => (n : ℤ)

/-- `verifyChecksum`. What is not a number equals nothing. -/
def verifyChecksum (data : List Char) : Bool :=
  let idx : ℕ := ((indexOf data ['*']).map (· + 1)).getD 0
  match getChecksum data, parseInt16 ((data.drop idx).take 2) with
  | some checksum, some sent => (checksum : ℤ) = sent
  | _, _ => false

/-- `degToDec`, `none` if it throws. -/
def degToDec (R : Rounding 53) (data : List Char) : Option (JsNumber R) :=
  (dmm.search data).map fun m =>
    let deg := (m[1]?.join).getD []
    let min := (m[2]?.join).getD []
    let sign := (m[3]?.join).getD []
    if deg ≠ [] ∧ min ≠ [] ∧ sign ≠ [] then
      let decimal : JsNumber R := parseFloat (some deg) + parseFloat (some min) / .ofInt 60
      if sign = ['S'] ∨ sign = ['W'] then decimal * .ofInt (-1) else decimal
    else 0

/-- The `coordinates` of a position. -/
structure Coordinates (R : Rounding 53) where
  lng : JsNumber R
  lat : JsNumber R
  deriving DecidableEq

/-- What a sentence is parsed to; `loc` is undefined if it is `none`. -/
structure Data (R : Rounding 53) where
  valid : Bool
  loc : Option (Coordinates R)
  deriving DecidableEq

/-- `isValid`. -/
def isValid (data : List Char) : Bool := (gprmc.exec data).isSome && verifyChecksum data

/-- `parseRmc`, `none` if it throws. -/
def parseRmc (R : Rounding 53) (raw : List Char) : Option (Data R) :=
  if isValid raw then do
    let r ← gprmc.exec raw
    let lng ← degToDec R ((r[7]?.join).getD [])
    let lat ← degToDec R ((r[5]?.join).getD [])
    some { valid := true, loc := some ⟨lng, lat⟩ }
  else some { valid := false, loc := none }

/-- `parseGga`, `none` if it throws. -/
def parseGga (R : Rounding 53) (raw : List Char) : Option (Data R) := do
  let r ← gpgga.exec raw
  let lng ← degToDec R ((r[5]?.join).getD [])
  let lat ← degToDec R ((r[4]?.join).getD [])
  some { valid := verifyChecksum ((r[0]?.join).getD []), loc := some ⟨lng, lat⟩ }

/-- `parse`, `none` if it throws. -/
def parse (R : Rounding 53) (raw : List Char) : Option (Data R) :=
  if (gprmc.exec raw).isSome then parseRmc R raw
  else if (gpgga.exec raw).isSome then parseGga R raw
  else some { valid := false, loc := none }

/-! ## Coordinates -/

/-- Degrees of `n` digits, minutes and a sign. -/
@[ext] structure Dmm (n : ℕ) (signs : List Char) where
  deg : List Char
  min : List Char
  frac : List Char
  sign : Char
  isDigit_deg : ∀ a ∈ deg, a.isDigit = true
  length_deg : deg.length = n
  isDigit_min : ∀ a ∈ min, a.isDigit = true
  length_min : min.length = 2
  isDigit_frac : ∀ a ∈ frac, a.isDigit = true
  frac_ne : frac ≠ []
  mem_signs : sign ∈ signs

namespace Dmm

variable {n : ℕ} {signs : List Char}

/-- The text of a coordinate. -/
def text (d : Dmm n signs) : List Char := d.deg ++ d.min ++ '.' :: (d.frac ++ [',', d.sign])

/-- The coordinate in degrees, negative in the south and in the west. -/
def decimal (R : Rounding 53) (d : Dmm n signs) : JsNumber R :=
  let decimal : JsNumber R :=
    parseFloat (some d.deg) + parseFloat (some (d.min ++ '.' :: d.frac)) / .ofInt 60
  if d.sign = 'S' ∨ d.sign = 'W' then decimal * .ofInt (-1) else decimal

end Dmm

/-- A character that is not a digit is in no text of digits. -/
lemma notMem_of_isDigit {a : Char} (ha : a.isDigit = false) {l : List Char}
    (hl : ∀ b ∈ l, b.isDigit = true) : a ∉ l := fun h => by
  rw [hl a h] at ha
  cases ha

/-- **The texts of coordinates** are those of their pattern. -/
lemma lang_dmm {n : ℕ} {signs w : List Char} {caps : List (Option (List Char))} :
    (seqs [digits (n + 2) (some (n + 2)), lit '.', digits 1 none, lit ',',
      set (· ∈ signs)]).Lang w caps ↔ caps = [] ∧ ∃ d : Dmm n signs, w = d.text := by
  constructor
  · intro h
    obtain ⟨u, _, _, _, rfl, rfl, ⟨rfl, hu, hlo, hhi⟩, h₁⟩ := lang_seqs_cons.mp h
    obtain ⟨_, rfl, h₂⟩ := lang_seqs_lit.mp h₁
    obtain ⟨f, _, _, _, rfl, rfl, ⟨rfl, hf, hflo, -⟩, h₃⟩ := lang_seqs_cons.mp h₂
    obtain ⟨_, rfl, h₄⟩ := lang_seqs_lit.mp h₃
    obtain ⟨_, _, _, _, rfl, rfl, hc, h₅⟩ := lang_seqs_cons.mp h₄
    obtain ⟨a, ha, rfl, rfl⟩ := lang_set.mp hc
    obtain ⟨rfl, rfl⟩ := lang_seqs_nil.mp h₅
    have hlen : u.length = n + 2 := Nat.le_antisymm (hhi _ rfl) hlo
    refine ⟨rfl, ⟨u.take n, u.drop n, f, a, fun b hb => hu b (List.mem_of_mem_take hb), ?_,
      fun b hb => hu b (List.mem_of_mem_drop hb), ?_, hf, List.length_pos_iff.mp hflo,
      of_decide_eq_true ha⟩, ?_⟩
    · rw [List.length_take]
      omega
    · rw [List.length_drop]
      omega
    · simp [Dmm.text]
  · rintro ⟨rfl, d, rfl⟩
    have hdigits : ∀ a ∈ d.deg ++ d.min, a.isDigit = true := fun a ha =>
      (List.mem_append.mp ha).elim (d.isDigit_deg a) (d.isDigit_min a)
    have hlen : (d.deg ++ d.min).length = n + 2 := by
      rw [List.length_append, d.length_deg, d.length_min]
    refine lang_seqs_cons.mpr ⟨_, _, [], [], rfl, rfl,
      lang_chars hdigits hlen.ge fun h hh => Option.some.inj hh ▸ hlen.le, ?_⟩
    refine lang_seqs_lit.mpr ⟨_, rfl, lang_seqs_cons.mpr ⟨_, _, [], [], rfl, rfl,
      lang_chars d.isDigit_frac (List.length_pos_iff.mpr d.frac_ne) nofun, ?_⟩⟩
    exact lang_seqs_lit.mpr ⟨_, rfl, lang_seqs_cons.mpr ⟨[d.sign], [], [], [], rfl, rfl,
      lang_set.mpr ⟨_, decide_eq_true d.mem_signs, rfl, rfl⟩, lang_seqs_nil.mpr ⟨rfl, rfl⟩⟩⟩

/-- **What `degToDec` matches** at the start of the text of a coordinate are its parts. -/
lemma dmm_text {n : ℕ} {signs : List Char} (d : Dmm n signs)
    {w rest : List Char} (hw : d.text = w ++ rest) {caps : List (Option (List Char))}
    (h : dmm.Lang w caps) :
    caps = [some d.deg, some (d.min ++ '.' :: d.frac), some [d.sign]] := by
  obtain ⟨u, _, _, _, rfl, rfl, ⟨rfl, hu, -, -⟩, h₁⟩ := lang_seqs_group.mp h
  obtain ⟨_, _, _, _, rfl, rfl, hm, h₂⟩ := lang_seqs_group.mp h₁
  obtain ⟨_, rfl, h₃⟩ := lang_seqs_lit.mp h₂
  obtain ⟨_, _, _, _, rfl, rfl, hc, h₄⟩ := lang_seqs_group.mp h₃
  obtain ⟨a, -, rfl, rfl⟩ := lang_set.mp hc
  obtain ⟨rfl, rfl⟩ := lang_seqs_nil.mp h₄
  obtain ⟨x, _, _, _, rfl, rfl, ⟨rfl, hx, hxlo, hxhi⟩, hm₁⟩ := lang_seqs_cons.mp hm
  obtain ⟨_, rfl, hm₂⟩ := lang_seqs_lit.mp hm₁
  obtain ⟨f, _, _, _, rfl, rfl, ⟨rfl, hf, -, -⟩, hm₃⟩ := lang_seqs_cons.mp hm₂
  obtain ⟨rfl, rfl⟩ := lang_seqs_nil.mp hm₃
  have hdigits : ∀ b ∈ d.deg ++ d.min, b.isDigit = true := fun b hb =>
    (List.mem_append.mp hb).elim (d.isDigit_deg b) (d.isDigit_min b)
  have hux : ∀ b ∈ u ++ x, b.isDigit = true := fun b hb =>
    (List.mem_append.mp hb).elim (hu b) (hx b)
  -- the point parts both texts, and behind it the comma
  have hdot : d.deg ++ d.min ++ '.' :: (d.frac ++ ',' :: [d.sign]) =
      u ++ x ++ '.' :: (f ++ ',' :: (a :: rest)) := by
    simpa [Dmm.text] using hw
  obtain ⟨hleft, hright⟩ := append_cons_inj (notMem_of_isDigit rfl hdigits)
    (notMem_of_isDigit rfl hux) hdot
  obtain ⟨rfl, hsign⟩ := append_cons_inj (notMem_of_isDigit rfl d.isDigit_frac)
    (notMem_of_isDigit rfl hf) hright
  obtain ⟨rfl, rfl⟩ := List.cons.inj hsign
  have hxlen : x.length = 2 := Nat.le_antisymm (hxhi 2 rfl) hxlo
  obtain ⟨rfl, rfl⟩ := List.append_inj' hleft (by rw [d.length_min, hxlen])
  simp

/-- The text of a coordinate is one of the pattern of `degToDec`. -/
lemma lang_dmm_text {n : ℕ} (hn : n = 2 ∨ n = 3) {signs : List Char}
    (hsigns : ∀ a ∈ signs, a ∈ ['N', 'S', 'W', 'E']) (d : Dmm n signs) :
    dmm.Lang d.text [some d.deg, some (d.min ++ '.' :: d.frac), some [d.sign]] := by
  have hdeg : (digits 2 (some 3)).Lang d.deg [] := by
    refine lang_chars d.isDigit_deg ?_ fun h hh => ?_
    · rw [d.length_deg]
      omega
    · rw [d.length_deg, ← Option.some.inj hh]
      omega
  have hmin : (seqs [digits 2 (some 2), lit '.', digits 1 none]).Lang
      (d.min ++ '.' :: d.frac) [] := by
    refine lang_seqs_cons.mpr ⟨_, _, [], [], rfl, rfl, lang_chars d.isDigit_min d.length_min.ge
      fun h hh => Option.some.inj hh ▸ d.length_min.le, ?_⟩
    refine lang_seqs_lit.mpr ⟨d.frac, rfl, lang_seqs_cons.mpr ⟨d.frac, [], [], [], by simp, rfl,
      lang_chars d.isDigit_frac (List.length_pos_iff.mpr d.frac_ne) nofun, ?_⟩⟩
    exact lang_seqs_nil.mpr ⟨rfl, rfl⟩
  refine lang_seqs_group.mpr ⟨d.deg, d.min ++ '.' :: d.frac ++ [',', d.sign], [], _, ?_, rfl,
    hdeg, ?_⟩
  · simp [Dmm.text]
  refine lang_seqs_group.mpr ⟨_, [',', d.sign], [], _, rfl, rfl, hmin, ?_⟩
  refine lang_seqs_lit.mpr ⟨[d.sign], rfl, lang_seqs_group.mpr ⟨[d.sign], [], [], [], rfl, rfl,
    lang_set.mpr ⟨_, decide_eq_true (hsigns _ d.mem_signs), rfl, rfl⟩, ?_⟩⟩
  exact lang_seqs_nil.mpr ⟨rfl, rfl⟩

/-- **What is read of a coordinate** is its degrees and minutes with its sign. -/
lemma degToDec_text {n : ℕ} (hn : n = 2 ∨ n = 3) {signs : List Char}
    (hsigns : ∀ a ∈ signs, a ∈ ['N', 'S', 'W', 'E']) (d : Dmm n signs) :
    degToDec R d.text = some (d.decimal R) := by
  obtain ⟨t, ht⟩ : ∃ t, dmm.search (d.text ++ []) = some (some t :: _) :=
    exists_search (lang_dmm_text hn hsigns d) fun u m cu hu h =>
      dmm_text d (by rwa [List.append_nil] at hu) h
  have hdeg : d.deg ≠ [] := by
    intro h
    have hlen := d.length_deg
    rw [h, List.length_nil] at hlen
    omega
  rw [List.append_nil] at ht
  rw [degToDec, ht, Option.map_some, Dmm.decimal]
  simp [hdeg]

/-- A coordinate is determined by a text that starts with it. -/
lemma Dmm.text_append_inj {n : ℕ} {signs : List Char} {d d' : Dmm n signs} {u u' : List Char}
    (h : d.text ++ u = d'.text ++ u') : d = d' ∧ u = u' := by
  have hdigits : ∀ d : Dmm n signs, ∀ b ∈ d.deg ++ d.min, b.isDigit = true := fun d b hb =>
    (List.mem_append.mp hb).elim (d.isDigit_deg b) (d.isDigit_min b)
  have hdot : d.deg ++ d.min ++ '.' :: (d.frac ++ ',' :: (d.sign :: u)) =
      d'.deg ++ d'.min ++ '.' :: (d'.frac ++ ',' :: (d'.sign :: u')) := by
    simpa [Dmm.text] using h
  obtain ⟨hleft, hright⟩ := append_cons_inj (notMem_of_isDigit rfl (hdigits d))
    (notMem_of_isDigit rfl (hdigits d')) hdot
  obtain ⟨hfrac, hsign⟩ := append_cons_inj (notMem_of_isDigit rfl d.isDigit_frac)
    (notMem_of_isDigit rfl d'.isDigit_frac) hright
  obtain ⟨hdeg, hmin⟩ := List.append_inj hleft (by rw [d.length_deg, d'.length_deg])
  exact ⟨Dmm.ext hdeg hmin hfrac (List.cons.inj hsign).1, (List.cons.inj hsign).2⟩

/-! ## Sentences -/

/-- `\d{6}([.]\d+)?`. -/
def timeField : Pattern Char := seqs [digits 6 (some 6), fraction]

/-- The start of a sentence, and what follows its time. -/
def timeText (type time rest : List Char) : List Char :=
  '$' :: 'G' :: 'P' :: (type ++ ',' :: (time ++ ',' :: rest))

/-- A sentence that matches `gpgga` by its parts. -/
@[ext] structure Gga where
  type : List Char
  time : List Char
  lat : Dmm 2 ['N', 'S']
  lng : Dmm 3 ['W', 'E']
  rest : List Char
  isWord_type : ∀ a ∈ type, isWord a = true
  length_type : type.length = 3
  matches_time : timeField.Matches time
  matches_rest : (seqs (ggaFields ++ checksumField)).Matches rest

namespace Gga

/-- The sentence. -/
def text (g : Gga) : List Char :=
  timeText g.type g.time (g.lat.text ++ ',' :: (g.lng.text ++ ',' :: g.rest))

/-- The position of the sentence. -/
def position (R : Rounding 53) (g : Gga) : Coordinates R := ⟨g.lng.decimal R, g.lat.decimal R⟩

end Gga

/-- **The start of both patterns.** -/
lemma lang_timeFields {rs : List (Pattern Char)} {w : List Char}
    {caps : List (Option (List Char))} :
    (seqs (timeFields ++ rs)).Lang w caps ↔
      ∃ type time fr v cv, (∀ a ∈ type, isWord a = true) ∧ type.length = 3 ∧
        timeField.Lang time [fr] ∧ w = timeText type time v ∧
        caps = some type :: some time :: fr :: cv ∧ (seqs rs).Lang v cv := by
  constructor
  · intro h
    obtain ⟨_, rfl, h₁⟩ := lang_seqs_lit.mp h
    obtain ⟨_, rfl, h₂⟩ := lang_seqs_lit.mp h₁
    obtain ⟨_, rfl, h₃⟩ := lang_seqs_lit.mp h₂
    obtain ⟨type, _, _, _, rfl, rfl, ⟨rfl, htype, hlo, hhi⟩, h₄⟩ := lang_seqs_group.mp h₃
    obtain ⟨_, rfl, h₅⟩ := lang_seqs_lit.mp h₄
    obtain ⟨time, _, cu, _, rfl, rfl, htime, h₆⟩ := lang_seqs_group.mp h₅
    obtain ⟨v, rfl, hv⟩ := lang_seqs_lit.mp h₆
    obtain ⟨fr, rfl⟩ := List.length_eq_one_iff.mp (length_of_lang htime)
    exact ⟨type, time, fr, v, _, htype, Nat.le_antisymm (hhi 3 rfl) hlo, htime, rfl, rfl, hv⟩
  · rintro ⟨type, time, fr, v, cv, htype, hlen, htime, rfl, rfl, hv⟩
    refine lang_seqs_lit.mpr ⟨_, rfl, lang_seqs_lit.mpr ⟨_, rfl, lang_seqs_lit.mpr ⟨_, rfl, ?_⟩⟩⟩
    refine lang_seqs_group.mpr ⟨type, _, [], _, rfl, rfl,
      lang_chars htype hlen.ge fun h hh => Option.some.inj hh ▸ hlen.le, ?_⟩
    refine lang_seqs_lit.mpr ⟨_, rfl, lang_seqs_group.mpr ⟨time, _, [fr], cv, rfl, rfl, htime, ?_⟩⟩
    exact lang_seqs_lit.mpr ⟨v, rfl, hv⟩

/-- There is no comma in a type. -/
lemma notMem_of_isWord {l : List Char} (hl : ∀ a ∈ l, isWord a = true) : ',' ∉ l := fun h => by
  have hcomma := hl _ h
  revert hcomma
  decide

/-- Type and time are determined by a text that starts with them. -/
lemma timeText_inj {type type' time time' v v' : List Char} (htype : ∀ a ∈ type, isWord a = true)
    (htype' : ∀ a ∈ type', isWord a = true) (htime : timeField.Matches time)
    (htime' : timeField.Matches time') (h : timeText type time v = timeText type' time' v') :
    type = type' ∧ time = time' ∧ v = v' := by
  have hcomma : ∀ {l : List Char}, timeField.Matches l → ',' ∉ l := fun ⟨_, hl⟩ =>
    notMem_of_lang (by decide) hl
  simp only [timeText, List.cons.injEq, true_and] at h
  obtain ⟨rfl, hrest⟩ := append_cons_inj (notMem_of_isWord htype) (notMem_of_isWord htype') h
  obtain ⟨rfl, hv⟩ := append_cons_inj (hcomma htime) (hcomma htime') hrest
  exact ⟨rfl, rfl, hv⟩

/-- **The position in `gpgga`.** -/
lemma lang_ggaPosition {rs : List (Pattern Char)} {w : List Char}
    {caps : List (Option (List Char))} :
    (seqs (ggaPosition ++ rs)).Lang w caps ↔
      ∃ (lat : Dmm 2 ['N', 'S']) (lng : Dmm 3 ['W', 'E']) (v : List Char)
        (cv : List (Option (List Char))), w = lat.text ++ ',' :: (lng.text ++ ',' :: v) ∧
          caps = some lat.text :: some lng.text :: cv ∧ (seqs rs).Lang v cv := by
  constructor
  · intro h
    obtain ⟨_, _, _, _, rfl, rfl, hlat, h₁⟩ := lang_seqs_group.mp h
    obtain ⟨_, rfl, h₂⟩ := lang_seqs_lit.mp h₁
    obtain ⟨_, _, _, _, rfl, rfl, hlng, h₃⟩ := lang_seqs_group.mp h₂
    obtain ⟨v, rfl, hv⟩ := lang_seqs_lit.mp h₃
    obtain ⟨rfl, lat, rfl⟩ := lang_dmm.mp hlat
    obtain ⟨rfl, lng, rfl⟩ := lang_dmm.mp hlng
    exact ⟨lat, lng, v, _, rfl, rfl, hv⟩
  · rintro ⟨lat, lng, v, cv, rfl, rfl, hv⟩
    refine lang_seqs_group.mpr ⟨_, _, [], _, rfl, rfl, lang_dmm.mpr ⟨rfl, lat, rfl⟩, ?_⟩
    refine lang_seqs_lit.mpr ⟨_, rfl, lang_seqs_group.mpr ⟨_, _, [], _, rfl, rfl,
      lang_dmm.mpr ⟨rfl, lng, rfl⟩, ?_⟩⟩
    exact lang_seqs_lit.mpr ⟨v, rfl, hv⟩

/-- **The texts of `gpgga`** are the sentences, and their positions are captured. -/
lemma lang_gpgga {s : List Char} {caps : List (Option (List Char))} (h : gpgga.Lang s caps) :
    ∃ (g : Gga) (fr : Option (List Char)) (cv : List (Option (List Char))), s = g.text ∧
      caps = some g.type :: some g.time :: fr :: some g.lat.text :: some g.lng.text :: cv := by
  rw [gpgga, List.append_assoc, List.append_assoc] at h
  obtain ⟨type, time, fr, _, _, htype, hlen, htime, rfl, rfl, h₁⟩ := lang_timeFields.mp h
  obtain ⟨lat, lng, v, cv, rfl, rfl, hv⟩ := lang_ggaPosition.mp h₁
  exact ⟨⟨type, time, lat, lng, v, htype, hlen, ⟨_, htime⟩, ⟨_, hv⟩⟩, fr, cv, rfl, rfl⟩

/-- A sentence matches. -/
lemma matches_gpgga (g : Gga) : gpgga.Matches g.text := by
  obtain ⟨cu, htime⟩ := g.matches_time
  obtain ⟨fr, rfl⟩ := List.length_eq_one_iff.mp (length_of_lang htime)
  obtain ⟨cv, hrest⟩ := g.matches_rest
  rw [gpgga, List.append_assoc, List.append_assoc]
  exact ⟨_, lang_timeFields.mpr ⟨_, _, _, _, _, g.isWord_type, g.length_type, htime, rfl, rfl,
    lang_ggaPosition.mpr ⟨g.lat, g.lng, g.rest, cv, rfl, rfl, hrest⟩⟩⟩

/-- A sentence determines its parts. -/
lemma Gga.text_injective : Function.Injective Gga.text := by
  intro g g' h
  obtain ⟨htype, htime, hrest⟩ := timeText_inj g.isWord_type g'.isWord_type g.matches_time
    g'.matches_time h
  obtain ⟨hlat, hrest⟩ := Dmm.text_append_inj hrest
  obtain ⟨hlng, hrest⟩ := Dmm.text_append_inj (List.cons.inj hrest).2
  exact Gga.ext htype htime hlat hlng (List.cons.inj hrest).2

/-- A sentence does not match `gprmc`: behind the time it has a digit. -/
lemma not_matches_gprmc (g : Gga) : ¬ gprmc.Matches g.text := by
  rintro ⟨caps, h⟩
  rw [gprmc, List.append_assoc] at h
  obtain ⟨type, time, fr, v, cv, htype, -, htime, htext, -, h₁⟩ := lang_timeFields.mp h
  obtain ⟨-, -, rfl⟩ := timeText_inj g.isWord_type htype g.matches_time ⟨_, htime⟩ htext
  obtain ⟨u, m, _, _, hv, -, hu, -⟩ := lang_seqs_group.mp h₁
  obtain ⟨a, ha, rfl, -⟩ := lang_set.mp hu
  obtain ⟨b, l, hdeg⟩ := List.exists_cons_of_length_eq_add_one g.lat.length_deg
  rw [Dmm.text, hdeg] at hv
  simp only [List.cons_append, List.nil_append, List.cons.injEq] at hv
  have hdigit := g.lat.isDigit_deg b (by rw [hdeg]; exact List.mem_cons_self)
  rw [hv.1] at hdigit
  simp only [List.mem_cons, List.not_mem_nil, or_false, decide_eq_true_eq] at ha
  rcases ha with rfl | rfl <;> revert hdigit <;> decide

/-- What matches is the text of one sentence. -/
lemma exec_gpgga_iff (s : List Char) : (gpgga.exec s).isSome ↔ ∃! g : Gga, g.text = s := by
  constructor
  · intro h
    obtain ⟨caps, hcaps⟩ := exec_isSome_iff.mp h
    obtain ⟨g, -, -, rfl, -⟩ := lang_gpgga hcaps
    exact ⟨g, rfl, fun g' h' => Gga.text_injective h'⟩
  · rintro ⟨g, rfl, -⟩
    exact exec_isSome_iff.mpr (matches_gpgga g)

/-- **What is parsed of a sentence** is its position. -/
lemma parse_text (R : Rounding 53) (g : Gga) :
    parse R g.text = some { valid := verifyChecksum g.text, loc := some (g.position R) } := by
  have hgga : (gpgga.exec g.text).isSome = true := exec_isSome_iff.mpr (matches_gpgga g)
  have hrmc : ¬ (gprmc.exec g.text).isSome = true := fun h =>
    not_matches_gprmc g (exec_isSome_iff.mp h)
  obtain ⟨m, hm⟩ := Option.isSome_iff_exists.mp hgga
  obtain ⟨caps, rfl, hcaps⟩ := lang_of_exec hm
  obtain ⟨g', fr, cv, htext, rfl⟩ := lang_gpgga hcaps
  obtain rfl := Gga.text_injective htext
  have hlat : degToDec R g.lat.text = some (g.lat.decimal R) :=
    degToDec_text (Or.inl rfl) (by simp) g.lat
  have hlng : degToDec R g.lng.text = some (g.lng.decimal R) :=
    degToDec_text (Or.inr rfl) (by simp) g.lng
  rw [parse, if_neg hrmc, if_pos hgga, parseGga, hm]
  simp [hlat, hlng, Gga.position]

/-- **The sentences of the receiver.** What matches `gpgga` are the texts of well-formed parts, each
of one only; and what is parsed of such a sentence is the position of its parts, whether its
checksum is right or not.

**Proof sketch.** The first commas of a text part it in one way only, and a coordinate is parted by
its point. Behind the time a sentence goes on with a digit, so that it does not match `gprmc`. -/
theorem gga_sentences (R : Rounding 53) :
    (∀ s : List Char, (gpgga.exec s).isSome ↔ ∃! g : Gga, g.text = s) ∧
      ∀ g : Gga, parse R g.text =
        some { valid := verifyChecksum g.text, loc := some (g.position R) } :=
  ⟨exec_gpgga_iff, parse_text R⟩

end Wifibot.Gps
