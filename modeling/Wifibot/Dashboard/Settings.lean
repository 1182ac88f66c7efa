import Mathlib.Data.List.DropRight
import Mathlib.Data.List.TakeWhile
import Wifibot.Library.Machine
import Wifibot.Library.PercentEncoding
import Wifibot.Library.Simulation

set_option relaxedAutoImplicit false
set_option autoImplicit false

/-!
# The settings of the dashboard

`www/wifibot/js/settings.js` keeps five settings in the cookies of the browser, by the plugin
`js/libs/jquery.cookie.js`. When the page is loaded, `basics.js` and `gps.js` read the addresses of
the video and of the GPS server first; then `settings.js` gives a setting that is missing or empty
its default and fills the form in. A click of `#update_config` writes the form to the cookies and
loads the page again. `initWebSocket` reads the address of the server whenever it is called.

The browser keeps the cookies of one path in the order in which they were made. It ignores a cookie
whose name and value are too long, or whose name is empty. The date until which a cookie is kept is
far away and never comes. What the user writes has no unpaired surrogates.

## Main definitions

* `Wifibot.Dashboard.Cookie`, `Wifibot.Dashboard.setCookie`, `Wifibot.Dashboard.cookieText` — the
  cookies of the browser, and `document.cookie` when it is set and read.
* `Wifibot.Dashboard.readCookie`, `Wifibot.Dashboard.writeCookie` — the plugin.
* `Wifibot.Dashboard.Setting`, `Wifibot.Dashboard.settings` — the settings, and the page as a
  machine whose outputs are the addresses that it connects to.
* `Wifibot.Dashboard.store` — what the settings are for: a store of texts.

## Main results

* `Wifibot.Dashboard.readCookie_eq`, `Wifibot.Dashboard.writeCookie_eq` — what the plugin does to
  the cookies of the browser.
* `Wifibot.Dashboard.settings_kept` — the page does what the store does.
-/

namespace Wifibot.Dashboard

open PercentEncoding

/-! ## Functions of the language -/

/-- The characters that `encodeURIComponent` keeps. -/
def isUnreserved (a : Char) : Bool :=
  a.isAlphanum || a ∈ ['-', '_', '.', '!', '~', '*', '(', ')'] || a.toNat = 0x27

/-- `encodeURIComponent`. -/
def encodeURIComponent (s : List Char) : List Char := encode isUnreserved s

/-- `decodeURIComponent`, `none` if it throws. -/
def decodeURIComponent (s : List Char) : Option (List Char) := decode s

/-- `split('; ')`. -/
def splitCookies : List Char → List (List Char)
  | [] => [[]]
  | ';' :: ' ' :: s => [] :: splitCookies s
  | a :: s => (splitCookies s).modifyHead (a :: ·)

/-! ## The cookies of the browser -/

/-- A cookie. -/
structure Cookie where
  name : List Char
  value : List Char
  name_ne : name ≠ []
  name_ok : ∀ a ∈ name, a ≠ ';' ∧ a ≠ '='
  value_ok : ';' ∉ value

namespace Cookie

/-- The cookie in `document.cookie`. -/
def text (c : Cookie) : List Char := c.name ++ '=' :: c.value

end Cookie

/-- `document.cookie`. -/
def cookieText (jar : List Cookie) : List Char :=
  List.intercalate [';', ' '] (jar.map Cookie.text)

/-- A cookie takes the place of the one of its name, or the last place. -/
def putCookie : List Cookie → Cookie → List Cookie
  | [], c => [c]
  | d :: jar, c => if d.name = c.name then c :: jar else d :: putCookie jar c

/-- A name or a value without the white space around it. -/
def trimCookie (s : List Char) : List Char :=
  (s.dropWhile (· ∈ [' ', '\t'])).rdropWhile (· ∈ [' ', '\t'])

lemma mem_of_mem_trimCookie {a : Char} {s : List Char} (h : a ∈ trimCookie s) : a ∈ s :=
  (List.dropWhile_sublist _).subset ((List.rdropWhile_prefix _ _).subset h)

/-- The name in a text that `document.cookie` is set to. -/
def cookieName (text : List Char) : List Char :=
  trimCookie ((text.takeWhile (· ≠ ';')).takeWhile (· ≠ '='))

/-- The value in it. -/
def cookieValue (text : List Char) : List Char :=
  trimCookie (((text.takeWhile (· ≠ ';')).dropWhile (· ≠ '=')).drop 1)

lemma cookieName_ok (text : List Char) : ∀ a ∈ cookieName text, a ≠ ';' ∧ a ≠ '=' := by
  intro a ha
  have hname := mem_of_mem_trimCookie ha
  have hpair := (List.takeWhile_prefix _).subset hname
  exact ⟨by simpa using List.mem_takeWhile_imp hpair, by simpa using List.mem_takeWhile_imp hname⟩

lemma cookieValue_ok (text : List Char) : ';' ∉ cookieValue text := by
  intro h
  have hpair := (List.dropWhile_sublist _).subset (List.mem_of_mem_drop (mem_of_mem_trimCookie h))
  simpa using List.mem_takeWhile_imp hpair

/-- The cookies when `document.cookie` is set. -/
def setCookie (limit : ℕ) (jar : List Cookie) (text : List Char) : List Cookie :=
  if hne : cookieName text = [] then jar
  else if '=' ∈ text.takeWhile (· ≠ ';') ∧
      (cookieName text).length + (cookieValue text).length ≤ limit then
    putCookie jar
      ⟨cookieName text, cookieValue text, hne, cookieName_ok text, cookieValue_ok text⟩
  else jar

/-! ## The plugin -/

/-- `replace` of every `a` before a `b` by a `c`. -/
def replacePair (a b c : Char) : List Char → List Char
  | x :: y :: s =>
    if x = a ∧ y = b then c :: replacePair a b c s else x :: replacePair a b c (y :: s)
  | s => s

/-- The quotation mark. -/
def quote : Char := Char.ofNat 0x22

/-- The backslash. -/
def backslash : Char := Char.ofNat 0x5C

/-- `parseCookieValue`, `none` for `undefined`. -/
def parseCookieValue (s : List Char) : Option (List Char) :=
  let s :=
    if s.head? = some quote then
      replacePair backslash backslash backslash
        (replacePair backslash quote quote (s.drop 1).dropLast)
    else s
  decodeURIComponent (s.map fun a => if a = '+' then ' ' else a)

/-- The loop of `$.cookie`, `none` if it throws. -/
def readCookies (key : List Char) : List (List Char) → Option (Option (List Char))
  | [] => some none
  | cookie :: cookies =>
    let parts := cookie.splitOn '='
    match decodeURIComponent (parts.headD []) with
    | none => none
    | some name =>
      if key = name then some (parseCookieValue (List.intercalate ['='] parts.tail))
      else readCookies key cookies

/-- `$.cookie` with a key. -/
def readCookie (jar : List Cookie) (key : List Char) : Option (Option (List Char)) :=
  readCookies key (if cookieText jar = [] then [] else splitCookies (cookieText jar))

/-- `$.cookie` with a key and a value, and an option that stands for this date. -/
def writeCookie (limit : ℕ) (expires : List Char) (jar : List Cookie) (key value : List Char) :
    List Cookie :=
  setCookie limit jar (encodeURIComponent key ++ '=' :: encodeURIComponent value ++
    "; expires=".toList ++ expires)

/-! ## The settings -/

/-- The settings. -/
inductive Setting
  | ip_and_port_server
  | ip_and_port_ffmpeg
  | ip_and_port_gps
  | enable_gps_mapping
  | enable_sensors
  deriving DecidableEq, Repr

namespace Setting

/-- The key of its cookie and the name of its control. -/
def key : Setting → List Char
  | ip_and_port_server => "ip_and_port_server".toList
  | ip_and_port_ffmpeg => "ip_and_port_ffmpeg".toList
  | ip_and_port_gps => "ip_and_port_gps".toList
  | enable_gps_mapping => "enable_gps_mapping".toList
  | enable_sensors => "enable_sensors".toList

/-- Its default. -/
def default : Setting → List Char
  | ip_and_port_server => "192.168.2.106:7681".toList
  | ip_and_port_ffmpeg => "192.168.2.106:8084".toList
  | ip_and_port_gps => "192.168.2.106:8004".toList
  | enable_gps_mapping => "No".toList
  | enable_sensors => "No".toList

/-- The options of its control, `none` if it is a line of text. -/
def options : Setting → Option (List (List Char))
  | enable_gps_mapping => some ["Yes".toList, "No".toList]
  | enable_sensors => some ["Yes".toList, "No".toList]
  | _ => none

/-- What its control may say. -/
def Offers (k : Setting) (v : List Char) : Prop :=
  match k.options with
  | some vs => v ∈ vs
  | none => '\n' ∉ v ∧ '\r' ∉ v

instance (k : Setting) (v : List Char) : Decidable (k.Offers v) := by
  unfold Offers
  cases k.options <;> infer_instance

/-- What its control says when `val` has set it, `none` for no option. -/
def setVal (k : Setting) (v : Option (List Char)) : Option (List Char) :=
  match k.options with
  | some vs => if v.getD [] ∈ vs then some (v.getD []) else none
  | none => some ((v.getD []).filter fun a => a ≠ '\n' ∧ a ≠ '\r')

/-- The order in which `settings.js` goes through them. -/
def all : List Setting :=
  [ip_and_port_server, ip_and_port_ffmpeg, ip_and_port_gps, enable_gps_mapping, enable_sensors]

end Setting

/-- What the user and the timer do. -/
inductive SettingsEvent
  | load
  | fill (k : Setting) (v : List Char)
  | update_config
  | initWebSocket

/-- What the page connects to, and the script of the maps. -/
inductive Address
  | video (url : List Char)
  | maps
  | gps (url : List Char)
  | server (url : List Char)
  deriving DecidableEq

/-- The cookies, and the form if `settings.js` got to its end. -/
structure SettingsState where
  jar : List Cookie
  form : Option (Setting → Option (List Char))

/-- A text in a sum, `none` for `undefined`. -/
def textOf (v : Option (List Char)) : List Char := v.getD "undefined".toList

/-- The end of `basics.js`. -/
def basicsScript (jar : List Cookie) : List Address :=
  match readCookie jar Setting.ip_and_port_ffmpeg.key with
  | none => []
  | some v => [.video ("ws://".toList ++ textOf v ++ ['/'])]

/-- `gps.js` without its handlers. -/
def gpsScript (jar : List Cookie) : List Address :=
  match readCookie jar Setting.enable_gps_mapping.key with
  | none => []
  | some mapping =>
    (if mapping = some "Yes".toList then [.maps] else []) ++
      match readCookie jar Setting.ip_and_port_gps.key with
      | none => []
      | some v => [.gps ("http://".toList ++ textOf v)]

/-- The first half of `settings.js`, which goes on as long as nothing throws. -/
def setDefaults (limit : ℕ) (expires : List Char) :
    List Setting → List Cookie → List Cookie × Bool
  | [], jar => (jar, true)
  | k :: ks, jar =>
    match readCookie jar k.key with
    | none => (jar, false)
    | some v =>
      setDefaults limit expires ks
        (if v.getD [] = [] then writeCookie limit expires jar k.key k.default else jar)

/-- `settings.js` without its handler. -/
def settingsScript (limit : ℕ) (expires : List Char) (jar : List Cookie) : SettingsState :=
  let r := setDefaults limit expires Setting.all jar
  if r.2 ∧ ∀ k ∈ Setting.all, (readCookie r.1 k.key).isSome then
    ⟨r.1, some fun k => k.setVal (readCookie r.1 k.key).join⟩
  else ⟨r.1, none⟩

/-- The scripts of the page in their order. -/
def loadPage (limit : ℕ) (expires : List Char) (jar : List Cookie) : SettingsState × List Address :=
  (settingsScript limit expires jar, basicsScript jar ++ gpsScript jar)

/-- The handler of `#update_config`, before it loads the page. -/
def updateConfig (limit : ℕ) (expires : List Char) (form : Setting → Option (List Char))
    (jar : List Cookie) : List Cookie :=
  Setting.all.foldl
    (fun jar k => writeCookie limit expires jar k.key ((form k).getD "null".toList)) jar

/-- The page. -/
def settings (limit : ℕ) (expires : List Char) : Machine SettingsState SettingsEvent Address where
  step s
    | .load => loadPage limit expires s.jar
    | .fill k v =>
      (if k.Offers v then { s with form := s.form.map fun form => Function.update form k (some v) }
        else s, [])
    | .update_config =>
      match s.form with
      | none => (s, [])
      | some form => loadPage limit expires (updateConfig limit expires form s.jar)
    | .initWebSocket =>
      match readCookie s.jar Setting.ip_and_port_server.key with
      | none => (s, [])
      | some v => (s, [.server ("ws://".toList ++ textOf v)])

/-! ## The store -/

/-- The number of characters of the text when it is encoded. -/
def encodedLength (v : List Char) : ℕ :=
  v.foldr (fun a n => (if isUnreserved a then 1 else 3 * a.utf8Size) + n) 0

/-- The browser keeps a setting that says this. -/
def Setting.Fits (limit : ℕ) (k : Setting) (v : List Char) : Prop :=
  k.key.length + encodedLength v ≤ limit

instance (limit : ℕ) (k : Setting) (v : List Char) : Decidable (k.Fits limit v) :=
  inferInstanceAs (Decidable (_ ≤ _))

/-- A setting that is not missing or empty, or its default. -/
def Setting.orDefault (k : Setting) (v : Option (List Char)) : List Char :=
  if v.getD [] = [] then k.default else v.getD []

/-- The texts that the store keeps, and those in the form. -/
structure Store where
  saved : Setting → Option (List Char)
  form : Setting → List Char

namespace Store

/-- A store in which nothing is kept. -/
def start : Store where
  saved := fun _ => none
  form := Setting.default

/-- The addresses are those before a text that is missing or empty is replaced by its default. -/
def load (t : Store) : Store × List Address :=
  (⟨fun k => some (k.orDefault (t.saved k)), fun k => k.orDefault (t.saved k)⟩,
    [.video ("ws://".toList ++ textOf (t.saved .ip_and_port_ffmpeg) ++ ['/'])] ++
      ((if t.saved .enable_gps_mapping = some "Yes".toList then [.maps] else []) ++
        [.gps ("http://".toList ++ textOf (t.saved .ip_and_port_gps))]))

end Store

/-- The store. -/
def store (limit : ℕ) : Machine Store SettingsEvent Address where
  step t
    | .load => t.load
    | .fill k v => (if k.Offers v then { t with form := Function.update t.form k v } else t, [])
    | .update_config =>
      Store.load { t with
        saved := fun k => if k.Fits limit (t.form k) then some (t.form k) else t.saved k }
    | .initWebSocket =>
      (t, [.server ("ws://".toList ++ textOf (t.saved .ip_and_port_server))])

/-! ## The texts of the cookies -/

lemma isUnreserved_percent : isUnreserved '%' = false := by decide

/-- `encodeURIComponent` and `decodeURIComponent` are inverse. -/
lemma decodeURIComponent_encodeURIComponent (s : List Char) :
    decodeURIComponent (encodeURIComponent s) = some s :=
  decode_encode isUnreserved_percent s

/-- A character that is neither kept nor part of an escape. -/
lemma notMem_encodeURIComponent {a : Char}
    (ha : isUnreserved a = false ∧ a ≠ '%' ∧ ∀ n < 16, a ≠ hexDigit n) (s : List Char) :
    a ∉ encodeURIComponent s := by
  intro h
  rcases mem_encode h with hkeep | heq | ⟨n, hn, heq⟩
  · exact Bool.false_ne_true (ha.1.symm.trans hkeep)
  · exact ha.2.1 heq
  · exact ha.2.2 n hn heq

lemma semicolon_notMem (s : List Char) : ';' ∉ encodeURIComponent s :=
  notMem_encodeURIComponent (by decide) s

lemma equals_notMem (s : List Char) : '=' ∉ encodeURIComponent s :=
  notMem_encodeURIComponent (by decide) s

/-- What is read of an encoded value is the value. -/
lemma parseCookieValue_encodeURIComponent (v : List Char) :
    parseCookieValue (encodeURIComponent v) = some v := by
  have hquote : (encodeURIComponent v).head? ≠ some quote := fun h =>
    notMem_encodeURIComponent (by decide) v (List.mem_of_mem_head? h)
  have hplus : '+' ∉ encodeURIComponent v :=
    notMem_encodeURIComponent (by decide) v
  have hmap : (encodeURIComponent v).map (fun a => if a = '+' then ' ' else a) =
      encodeURIComponent v := by
    refine (List.map_congr_left fun a ha => ?_).trans (List.map_id _)
    have hne : a ≠ '+' := fun h => hplus (h ▸ ha)
    exact if_neg hne
  rw [parseCookieValue]
  simp only [if_neg hquote, hmap, decodeURIComponent_encodeURIComponent]

/-- A text without white space is not trimmed. -/
lemma trimCookie_encodeURIComponent (v : List Char) :
    trimCookie (encodeURIComponent v) = encodeURIComponent v := by
  have hspace : ∀ a ∈ encodeURIComponent v, a ∉ [' ', '\t'] := by
    intro a ha h
    simp only [List.mem_cons, List.not_mem_nil, or_false] at h
    rcases h with rfl | rfl
    · exact notMem_encodeURIComponent (by decide) v ha
    · exact notMem_encodeURIComponent (by decide) v ha
  have hdrop : (encodeURIComponent v).dropWhile (· ∈ [' ', '\t']) = encodeURIComponent v :=
    List.dropWhile_eq_self_iff.mpr fun hlen => by
      simpa using hspace _ (List.getElem_mem hlen)
  rw [trimCookie, hdrop, List.rdropWhile_eq_self_iff]
  intro hne
  simpa using hspace _ (List.getLast_mem hne)

/-! ## Reading -/

/-- A text before a separator. -/
lemma splitCookies_append {l : List Char} (hl : ';' ∉ l) (s : List Char) :
    splitCookies (l ++ ';' :: ' ' :: s) = l :: splitCookies s := by
  induction l with
  | nil => rfl
  | cons a l ih =>
    have ha : a ≠ ';' := fun h => hl (h ▸ List.mem_cons_self)
    rw [List.cons_append, splitCookies, ih fun h => hl (List.mem_cons_of_mem a h),
      List.modifyHead_cons]
    exact fun t h _ => ha h

/-- A text without a separator. -/
lemma splitCookies_of_notMem {l : List Char} (hl : ';' ∉ l) : splitCookies l = [l] := by
  induction l with
  | nil => rfl
  | cons a l ih =>
    have ha : a ≠ ';' := fun h => hl (h ▸ List.mem_cons_self)
    rw [splitCookies, ih fun h => hl (List.mem_cons_of_mem a h), List.modifyHead_cons]
    exact fun t h _ => ha h

lemma Cookie.semicolon_notMem_text (c : Cookie) : ';' ∉ c.text := by
  intro h
  rcases List.mem_append.mp h with h | h
  · exact (c.name_ok ';' h).1 rfl
  · exact c.value_ok ((List.mem_cons.mp h).resolve_left (by decide))

lemma cookieText_singleton (c : Cookie) : cookieText [c] = c.text :=
  List.append_nil _

lemma cookieText_cons_cons (c d : Cookie) (jar : List Cookie) :
    cookieText (c :: d :: jar) = c.text ++ ';' :: ' ' :: cookieText (d :: jar) := rfl

/-- The texts of the cookies are read back. -/
lemma splitCookies_cookieText {jar : List Cookie} (hne : jar ≠ []) :
    splitCookies (cookieText jar) = jar.map Cookie.text := by
  induction jar with
  | nil => exact absurd rfl hne
  | cons c jar ih =>
    cases jar with
    | nil =>
      rw [cookieText_singleton, splitCookies_of_notMem c.semicolon_notMem_text]
      rfl
    | cons d jar =>
      rw [cookieText_cons_cons, splitCookies_append c.semicolon_notMem_text,
        ih (List.cons_ne_nil _ _)]
      rfl

/-- There is a text if there is a cookie. -/
lemma cookieText_ne {jar : List Cookie} (hne : jar ≠ []) : cookieText jar ≠ [] := by
  obtain ⟨c, jar, rfl⟩ := List.exists_cons_of_ne_nil hne
  intro h
  cases jar with
  | nil =>
    rw [cookieText_singleton] at h
    exact c.name_ne (List.append_eq_nil_iff.mp h).1
  | cons d jar =>
    rw [cookieText_cons_cons] at h
    exact c.name_ne (List.append_eq_nil_iff.mp (List.append_eq_nil_iff.mp h).1).1

/-- A cookie is taken apart at its first equals sign. -/
lemma Cookie.splitOn_text (c : Cookie) : c.text.splitOn '=' = c.name :: c.value.splitOn '=' := by
  have hname : '=' ∉ c.name := fun h => (c.name_ok '=' h).2 rfl
  rw [Cookie.text, List.splitOn_append_cons_self, List.splitOn_eq_singleton hname,
    List.singleton_append]

/-- The names are encoded texts, and those of the settings are their keys. -/
def Decodes (jar : List Cookie) : Prop :=
  ∀ c ∈ jar, ∃ n, decodeURIComponent c.name = some n ∧ ∀ k : Setting, n = k.key → c.name = k.key

/-- The value of a setting in the cookies. -/
def jarValue (jar : List Cookie) (k : Setting) : Option (List Char) :=
  (jar.find? (·.name = k.key)).bind fun c => parseCookieValue c.value

/-- The keys are not changed by the encoding. -/
lemma Setting.encode_key (k : Setting) : encodeURIComponent k.key = k.key := by
  have hkeep : k.key.all isUnreserved = true := by cases k <;> decide
  exact encode_eq_self (List.all_eq_true.mp hkeep)

lemma Setting.decode_key (k : Setting) : decodeURIComponent k.key = some k.key := by
  conv_lhs => rw [← k.encode_key]
  exact decodeURIComponent_encodeURIComponent k.key

lemma Setting.key_inj {j k : Setting} : j.key = k.key ↔ j = k := by
  cases j <;> cases k <;> decide

/-- **What is read of a setting** is the value of the cookie of its name. -/
lemma readCookie_eq {jar : List Cookie} (h : Decodes jar) (k : Setting) :
    readCookie jar k.key = some (jarValue jar k) := by
  have hread : ∀ jar, Decodes jar →
      readCookies k.key (jar.map Cookie.text) = some (jarValue jar k) := by
    intro jar hjar
    induction jar with
    | nil => rfl
    | cons c jar ih =>
      obtain ⟨n, hn, hkey⟩ := hjar c List.mem_cons_self
      rw [List.map_cons, readCookies, c.splitOn_text, List.headD_cons, hn, List.tail_cons,
        List.intercalate_splitOn, jarValue, List.find?_cons]
      by_cases hk : k.key = n
      · simp [hk ▸ hkey k hk.symm, hk]
      · have hne : c.name ≠ k.key := by
          intro hc
          rw [hc, k.decode_key] at hn
          exact hk (Option.some.inj hn)
        simp only [hk, hne, if_false, decide_false]
        exact ih fun d hd => hjar d (List.mem_cons_of_mem c hd)
  rw [readCookie]
  split_ifs with hnil
  · have hjar : jar = [] := by
      by_contra hne
      exact cookieText_ne hne hnil
    rw [hjar]
    rfl
  · have hne : jar ≠ [] := by
      rintro rfl
      exact hnil rfl
    rw [splitCookies_cookieText hne, hread jar h]

/-! ## Writing -/

/-- The cookie of a setting that says this. -/
def Setting.cookie (k : Setting) (v : List Char) : Cookie where
  name := k.key
  value := encodeURIComponent v
  name_ne := by cases k <;> decide
  name_ok := fun a ha => by
    rw [← k.encode_key] at ha
    exact ⟨fun h => semicolon_notMem _ (h ▸ ha), fun h => equals_notMem _ (h ▸ ha)⟩
  value_ok := semicolon_notMem v

/-- The length of an encoded text. -/
lemma length_encodeURIComponent (v : List Char) :
    (encodeURIComponent v).length = encodedLength v :=
  length_encode v

/-- What the plugin sets `document.cookie` to. -/
def writtenText (expires key value : List Char) : List Char :=
  encodeURIComponent key ++ '=' :: encodeURIComponent value ++ "; expires=".toList ++ expires

/-- It is the name and the value up to its first semicolon. -/
lemma takeWhile_writtenText (expires key value : List Char) :
    (writtenText expires key value).takeWhile (· ≠ ';') =
      encodeURIComponent key ++ '=' :: encodeURIComponent value := by
  have hne : ∀ a ∈ encodeURIComponent key ++ '=' :: encodeURIComponent value,
      decide (a ≠ ';') = true := by
    intro a ha
    rw [decide_eq_true_iff]
    rintro rfl
    rcases List.mem_append.mp ha with h | h
    · exact semicolon_notMem key h
    · exact semicolon_notMem value ((List.mem_cons.mp h).resolve_left (by decide))
  rw [writtenText, List.append_assoc, List.takeWhile_append_of_pos hne]
  exact List.append_nil _

/-- No character of an encoded name is an equals sign. -/
lemma ne_equals_of_mem {a : Char} {key : List Char} (ha : a ∈ encodeURIComponent key) :
    decide (a ≠ '=') = true := by
  rw [decide_eq_true_iff]
  rintro rfl
  exact equals_notMem key ha

lemma cookieName_writtenText (expires key value : List Char) :
    cookieName (writtenText expires key value) = encodeURIComponent key := by
  rw [cookieName, takeWhile_writtenText, List.takeWhile_append_of_pos fun _ => ne_equals_of_mem,
    List.takeWhile_cons_of_neg (by simp), List.append_nil, trimCookie_encodeURIComponent]

lemma cookieValue_writtenText (expires key value : List Char) :
    cookieValue (writtenText expires key value) = encodeURIComponent value := by
  rw [cookieValue, takeWhile_writtenText, List.dropWhile_append_of_pos fun _ => ne_equals_of_mem,
    List.dropWhile_cons_of_neg (by simp), List.drop_one, List.tail_cons,
    trimCookie_encodeURIComponent]

/-- **What is written of a setting** is its cookie, unless that is too long. -/
lemma writeCookie_eq (limit : ℕ) (expires : List Char) (jar : List Cookie) (k : Setting)
    (v : List Char) :
    writeCookie limit expires jar k.key v =
      if k.Fits limit v then putCookie jar (k.cookie v) else jar := by
  have hwrite : writeCookie limit expires jar k.key v =
      setCookie limit jar (writtenText expires k.key v) := rfl
  have hmem : '=' ∈ encodeURIComponent k.key ++ '=' :: encodeURIComponent v := by simp
  have hne : k.key ≠ [] := (k.cookie v).name_ne
  rw [hwrite, setCookie]
  simp only [cookieName_writtenText, cookieValue_writtenText, takeWhile_writtenText, k.encode_key,
    length_encodeURIComponent, hne, dif_neg, not_false_eq_true]
  rw [k.encode_key] at hmem
  simp only [hmem, true_and]
  rfl

/-- What is found after a cookie was put in. -/
lemma find?_putCookie (jar : List Cookie) (c : Cookie) (name : List Char) :
    (putCookie jar c).find? (·.name = name) =
      if c.name = name then some c else jar.find? (·.name = name) := by
  induction jar with
  | nil =>
    rw [putCookie, List.find?_cons]
    split_ifs with h <;> simp [h]
  | cons d jar ih =>
    rw [putCookie]
    by_cases hd : d.name = c.name
    · rw [if_pos hd, List.find?_cons, List.find?_cons, hd]
      split_ifs with h <;> simp [h]
    · rw [if_neg hd, List.find?_cons, List.find?_cons, ih]
      by_cases hn : d.name = name
      · have hc : c.name ≠ name := fun h => hd (hn.trans h.symm)
        simp [hn, hc]
      · simp [hn]

/-- What is in it was put in or was there. -/
lemma mem_putCookie {jar : List Cookie} {c d : Cookie} (h : d ∈ putCookie jar c) :
    d = c ∨ d ∈ jar := by
  induction jar with
  | nil => exact Or.inl (List.mem_singleton.mp h)
  | cons e jar ih =>
    rw [putCookie] at h
    split_ifs at h with he
    · exact (List.mem_cons.mp h).imp id (List.mem_cons_of_mem e)
    · rcases List.mem_cons.mp h with rfl | h
      · exact Or.inr List.mem_cons_self
      · exact (ih h).imp id (List.mem_cons_of_mem e)

/-- Cookies of other names stay where they are. -/
lemma putCookie_append {jar : List Cookie} {c : Cookie} (h : ∀ d ∈ jar, d.name ≠ c.name)
    (own : List Cookie) : putCookie (jar ++ own) c = jar ++ putCookie own c := by
  induction jar with
  | nil => rfl
  | cons d jar ih =>
    rw [List.cons_append, putCookie, if_neg (h d List.mem_cons_self),
      ih fun e he => h e (List.mem_cons_of_mem d he), List.cons_append]

/-- A cookie of another page on this host. -/
def Cookie.Foreign (c : Cookie) : Prop :=
  ∃ n, decodeURIComponent c.name = some n ∧ ∀ k : Setting, n ≠ k.key

lemma Cookie.Foreign.name_ne {c : Cookie} (h : c.Foreign) (k : Setting) : c.name ≠ k.key := by
  obtain ⟨n, hn, hkey⟩ := h
  intro hc
  rw [hc, k.decode_key] at hn
  exact hkey k (Option.some.inj hn).symm

/-- The cookies of the page stand behind those of the other pages, and what is read of them is what
is saved. -/
structure Keeps (foreign jar : List Cookie) (saved : Setting → Option (List Char)) : Prop where
  decodes : Decodes jar
  foreign : ∃ own, jar = foreign ++ own
  saved : ∀ k, jarValue jar k = saved k

section Writing

variable {limit : ℕ} {expires : List Char} {foreign jar : List Cookie}
  {saved : Setting → Option (List Char)}

lemma Keeps.read (h : Keeps foreign jar saved) (k : Setting) :
    readCookie jar k.key = some (saved k) := by
  rw [readCookie_eq h.decodes, h.saved]

/-- Nothing is saved at first. -/
lemma keeps_foreign (h : ∀ c ∈ foreign, c.Foreign) : Keeps foreign foreign fun _ => none where
  decodes := fun c hc => by
    obtain ⟨n, hn, hkey⟩ := h c hc
    exact ⟨n, hn, fun k hk => absurd hk (hkey k)⟩
  foreign := ⟨[], (List.append_nil _).symm⟩
  saved := fun k => by
    have hfind : foreign.find? (·.name = k.key) = none := by
      rw [List.find?_eq_none]
      intro c hc
      simpa using (h c hc).name_ne k
    rw [jarValue, hfind, Option.bind_none]

/-- **A setting is written** and the others are not touched. -/
lemma Keeps.write (h : Keeps foreign jar saved) (hforeign : ∀ c ∈ foreign, c.Foreign)
    (k : Setting) (v : List Char) :
    Keeps foreign (writeCookie limit expires jar k.key v)
      (if k.Fits limit v then Function.update saved k (some v) else saved) := by
  rw [writeCookie_eq]
  split_ifs with hfits
  · refine ⟨fun c hc => ?_, ?_, fun j => ?_⟩
    · rcases mem_putCookie hc with rfl | hc
      · exact ⟨k.key, k.decode_key, fun j hj => hj⟩
      · exact h.decodes c hc
    · obtain ⟨own, rfl⟩ := h.foreign
      exact ⟨putCookie own (k.cookie v),
        putCookie_append (fun d hd => (hforeign d hd).name_ne k) own⟩
    · rw [jarValue, find?_putCookie]
      by_cases hj : j = k
      · subst hj
        have hkey : (j.cookie v).name = j.key := rfl
        rw [if_pos hkey, Function.update_self, Option.bind_some]
        exact parseCookieValue_encodeURIComponent v
      · have hkey : (k.cookie v).name ≠ j.key := fun hc => hj (Setting.key_inj.mp hc.symm)
        rw [if_neg hkey, Function.update_of_ne hj]
        exact h.saved j
  · exact h

/-- A default is short enough to be kept. -/
lemma Setting.fits_default (hlimit : 4096 ≤ limit) (k : Setting) : k.Fits limit k.default := by
  have h : k.key.length + encodedLength k.default ≤ 4096 := by cases k <;> decide
  exact h.trans hlimit

lemma Setting.default_ne (k : Setting) : k.default ≠ [] := by cases k <;> decide

lemma Setting.offers_default (k : Setting) : k.Offers k.default := by cases k <;> decide

lemma Setting.mem_all (k : Setting) : k ∈ Setting.all := by cases k <;> decide

lemma Setting.orDefault_ne (k : Setting) (v : Option (List Char)) : k.orDefault v ≠ [] := by
  rw [orDefault]
  split_ifs with h
  · exact k.default_ne
  · exact h

/-- What is there has no need of a default. -/
lemma Setting.orDefault_some {k : Setting} {v : List Char} (h : v ≠ []) :
    k.orDefault (some v) = v :=
  if_neg h

/-- **The first half of `settings.js`** gives the settings their defaults. -/
lemma Keeps.setDefaults (h : Keeps foreign jar saved) (hforeign : ∀ c ∈ foreign, c.Foreign)
    (hlimit : 4096 ≤ limit) (ks : List Setting) :
    (setDefaults limit expires ks jar).2 = true ∧
      Keeps foreign (setDefaults limit expires ks jar).1
        fun k => if k ∈ ks then some (k.orDefault (saved k)) else saved k := by
  induction ks generalizing jar saved with
  | nil => exact ⟨rfl, by simpa [Dashboard.setDefaults] using h⟩
  | cons k ks ih =>
    let saved' := Function.update saved k (some (k.orDefault (saved k)))
    have hnext : Keeps foreign
        (if (saved k).getD [] = [] then writeCookie limit expires jar k.key k.default else jar)
        saved' := by
      split_ifs with hnil
      · have hwrite := @Keeps.write limit expires _ _ _ h hforeign k k.default
        rw [if_pos (k.fits_default hlimit)] at hwrite
        simpa only [saved', Setting.orDefault, if_pos hnil] using hwrite
      · have hsaved : saved k = some (k.orDefault (saved k)) := by
          cases hk : saved k with
          | none => simp [hk] at hnil
          | some v => rw [Setting.orDefault_some (by simpa [hk] using hnil)]
        rwa [show saved' = saved from Function.update_eq_self_iff.mpr hsaved.symm]
    rw [Dashboard.setDefaults, h.read k]
    obtain ⟨hend, hkeeps⟩ := ih hnext
    have hsaved : (fun j => if j ∈ k :: ks then some (j.orDefault (saved j)) else saved j) =
        fun j => if j ∈ ks then some (j.orDefault (saved' j)) else saved' j := by
      funext j
      by_cases hj : j = k
      · subst hj
        simp [saved', Setting.orDefault_some (j.orDefault_ne _)]
      · simp [saved', hj]
    rw [hsaved]
    exact ⟨hend, hkeeps⟩

/-- **The handler of `#update_config`** writes what the browser keeps. -/
lemma Keeps.updateConfig (h : Keeps foreign jar saved) (hforeign : ∀ c ∈ foreign, c.Foreign)
    (form : Setting → List Char) :
    Keeps foreign (updateConfig limit expires (fun k => some (form k)) jar)
      fun k => if k.Fits limit (form k) then some (form k) else saved k := by
  have hfold : ∀ (ks : List Setting) (jar : List Cookie) (saved : Setting → Option (List Char)),
      Keeps foreign jar saved →
        Keeps foreign (ks.foldl (fun jar k => writeCookie limit expires jar k.key (form k)) jar)
          fun k => if k ∈ ks ∧ k.Fits limit (form k) then some (form k) else saved k := by
    intro ks
    induction ks with
    | nil => exact fun jar saved h => by simpa using h
    | cons k ks ih =>
      intro jar saved h
      let saved' := if k.Fits limit (form k) then Function.update saved k (some (form k)) else saved
      have hsaved :
          (fun j => if j ∈ k :: ks ∧ j.Fits limit (form j) then some (form j) else saved j) =
            fun j => if j ∈ ks ∧ j.Fits limit (form j) then some (form j) else saved' j := by
        funext j
        by_cases hj : j = k
        · subst hj
          by_cases hfits : j.Fits limit (form j) <;> simp [saved', hfits]
        · by_cases hfits : k.Fits limit (form k) <;> simp [saved', hfits, hj]
      rw [hsaved]
      exact ih _ saved' (h.write hforeign k (form k))
  have hall := hfold Setting.all jar saved h
  simp only [Setting.mem_all, true_and] at hall
  exact hall

/-! ## The page and the store -/

/-- A control says what it is set to, if it may say that. -/
lemma Setting.setVal_of_offers {k : Setting} {v : List Char} (h : k.Offers v) :
    k.setVal (some v) = some v := by
  rw [Offers] at h
  rw [setVal]
  cases hk : k.options with
  | some vs =>
    rw [hk] at h
    exact if_pos h
  | none =>
    rw [hk] at h
    have hfilter : v.filter (fun a => a ≠ '\n' ∧ a ≠ '\r') = v := by
      rw [List.filter_eq_self]
      intro a ha
      exact decide_eq_true ⟨fun hn => h.1 (hn ▸ ha), fun hr => h.2 (hr ▸ ha)⟩
    rw [Option.getD_some, hfilter]

/-- A setting says what its control may say. -/
def OffersSaved (saved : Setting → Option (List Char)) : Prop :=
  ∀ k v, saved k = some v → Setting.Offers k v

/-- The page shows what the store keeps. -/
structure Shows (foreign : List Cookie) (s : SettingsState) (t : Store) : Prop where
  keeps : Keeps foreign s.jar t.saved
  form : s.form = some fun k => some (t.form k)
  saved_offers : OffersSaved t.saved
  form_offers : ∀ k, Setting.Offers k (t.form k)

lemma OffersSaved.orDefault (h : OffersSaved saved) (k : Setting) :
    k.Offers (k.orDefault (saved k)) := by
  rw [Setting.orDefault]
  split_ifs with hnil
  · exact k.offers_default
  · cases hk : saved k with
    | none => simp [hk] at hnil
    | some v => exact h k v hk

/-- **The page is loaded** as the store is. -/
lemma Keeps.load (h : Keeps foreign jar saved) (hforeign : ∀ c ∈ foreign, c.Foreign)
    (hlimit : 4096 ≤ limit) (hoffers : OffersSaved saved) (form : Setting → List Char) :
    Shows foreign (loadPage limit expires jar).1 (Store.load ⟨saved, form⟩).1 ∧
      (loadPage limit expires jar).2 = (Store.load ⟨saved, form⟩).2 := by
  obtain ⟨hend, hkeeps⟩ := @Keeps.setDefaults limit expires _ _ _ h hforeign hlimit Setting.all
  simp only [Setting.mem_all, if_true] at hkeeps
  have hsome : ∀ k ∈ Setting.all,
      (readCookie (Dashboard.setDefaults limit expires Setting.all jar).1 k.key).isSome := by
    intro k _
    rw [hkeeps.read]
    rfl
  refine ⟨?_, ?_⟩
  · rw [loadPage, settingsScript]
    simp only [if_pos (And.intro hend hsome), Store.load]
    refine ⟨hkeeps, ?_, ?_, hoffers.orDefault⟩
    · refine congrArg some (funext fun k => ?_)
      rw [hkeeps.read, Option.join_some, Setting.setVal_of_offers (hoffers.orDefault k)]
    · intro k v hv
      obtain rfl := Option.some.inj hv
      exact hoffers.orDefault k
  · simp only [loadPage, Store.load, basicsScript, gpsScript, h.read]

/-- **A step** of the page is one of the store. -/
lemma Shows.step (hforeign : ∀ c ∈ foreign, c.Foreign) (hlimit : 4096 ≤ limit) {s : SettingsState}
    {t : Store} (h : Shows foreign s t) (e : SettingsEvent) :
    Shows foreign ((settings limit expires).next s e) ((store limit).next t e) ∧
      (settings limit expires).emit s e = (store limit).emit t e := by
  cases e with
  | load => exact h.keeps.load hforeign hlimit h.saved_offers t.form
  | fill k v =>
    simp only [Machine.next, Machine.emit, settings, store]
    split_ifs with hv
    · refine ⟨⟨h.keeps, ?_, h.saved_offers, fun j => ?_⟩, trivial⟩
      · rw [h.form, Option.map_some]
        refine congrArg some (funext fun j => ?_)
        by_cases hj : j = k
        · subst hj
          simp
        · simp [hj]
      · by_cases hj : j = k
        · subst hj
          simpa using hv
        · simpa [hj] using h.form_offers j
    · exact ⟨h, trivial⟩
  | update_config =>
    have hoffers : OffersSaved fun k =>
        if k.Fits limit (t.form k) then some (t.form k) else t.saved k := by
      intro k v hv
      dsimp only at hv
      split_ifs at hv with hfits
      · exact Option.some.inj hv ▸ h.form_offers k
      · exact h.saved_offers k v hv
    have hkeeps := @Keeps.updateConfig limit expires _ _ _ h.keeps hforeign t.form
    have hload := @Keeps.load limit expires _ _ _ hkeeps hforeign hlimit hoffers t.form
    simp only [Machine.next, Machine.emit, settings, h.form]
    exact hload
  | initWebSocket =>
    simp only [Machine.next, Machine.emit, settings, store, h.keeps.read]
    exact ⟨h, trivial⟩

end Writing

/-- Every setting of the store says something, once it has been loaded. -/
lemma Store.saved_load (t : Store) (k : Setting) : ∃ v, t.load.1.saved k = some v ∧ v ≠ [] :=
  ⟨_, rfl, k.orDefault_ne _⟩

lemma store_saved_next {limit : ℕ} {t : Store} (h : ∀ k, ∃ v, t.saved k = some v ∧ v ≠ [])
    (e : SettingsEvent) : ∀ k, ∃ v, ((store limit).next t e).saved k = some v ∧ v ≠ [] := by
  cases e with
  | load => exact t.saved_load
  | fill k v =>
    simp only [Machine.next, store]
    split_ifs with hv <;> exact h
  | update_config => exact Store.saved_load _
  | initWebSocket => exact h

/-- **The settings are kept.** Let other pages of the host have any cookies whose names can be
decoded and are none of the keys of the settings, let the browser keep cookies of 4096 characters
and as many more as it likes, and let the page be loaded and used in any way. It connects to the
addresses of the store, its form shows that, and what it reads of a setting is what the store keeps:
the text of the last update that the browser kept, whatever its characters, or the default where
that was empty. No setting is missing or empty, or says what its control does not offer; and the
cookies of the other pages are what they were.

**Proof sketch.** A cookie that is written is read back, since no character of an encoded text means
anything to `document.cookie` or to the plugin, and the cookies of other names do not change. -/
theorem settings_kept {limit : ℕ} (hlimit : 4096 ≤ limit) (expires : List Char)
    {foreign : List Cookie} (hforeign : ∀ c ∈ foreign, c.Foreign) (es : List SettingsEvent) :
    let page := settings limit expires
    let s := page.run ⟨foreign, none⟩ (.load :: es)
    let t := (store limit).run .start (.load :: es)
    page.outputs ⟨foreign, none⟩ (.load :: es) = (store limit).outputs .start (.load :: es) ∧
      (∀ k, readCookie s.jar k.key = some (t.saved k)) ∧
      s.form = some (fun k => some (t.form k)) ∧
      (∀ k, ∃ v, t.saved k = some v ∧ v ≠ [] ∧ k.Offers v) ∧
      ∃ own, s.jar = foreign ++ own := by
  intro page s t
  have hload : Shows foreign (page.next ⟨foreign, none⟩ .load)
        ((store limit).next .start .load) ∧
      page.emit ⟨foreign, none⟩ .load = (store limit).emit .start .load :=
    (keeps_foreign hforeign).load hforeign hlimit (fun _ _ => nofun) _
  obtain ⟨hshows, houtputs⟩ :=
    Machine.lockstep (fun _ _ e h => h.step hforeign hlimit e) hload.1 es
  have hsaved : ∀ k, ∃ v, t.saved k = some v ∧ v ≠ [] :=
    (store limit).run_invariant (I := fun t => ∀ k, ∃ v, t.saved k = some v ∧ v ≠ [])
      (fun _ e h => store_saved_next h e) (Store.saved_load .start) es
  refine ⟨?_, hshows.keeps.read, hshows.form, fun k => ?_, hshows.keeps.foreign⟩
  · rw [Machine.outputs_cons, Machine.outputs_cons, hload.2, houtputs]
  · obtain ⟨v, hv, hne⟩ := hsaved k
    exact ⟨v, hv, hne, hshows.saved_offers k v hv⟩

/-- A cookie of another page. -/
def langCookie : Cookie where
  name := "lang".toList
  value := "fr".toList
  name_ne := by decide
  name_ok := fun a ha =>
    ⟨fun h => absurd (h ▸ ha : ';' ∈ "lang".toList) (by decide),
      fun h => absurd (h ▸ ha : '=' ∈ "lang".toList) (by decide)⟩
  value_ok := by decide

/-- A page that keeps its own settings, on a host with a cookie of another page. -/
theorem settings_kept_otherCookie :
    let es : List SettingsEvent :=
      [.fill .ip_and_port_server "robot;7681=é".toList, .fill .ip_and_port_gps [], .update_config,
        .initWebSocket]
    let page := settings 4096 "Fri, 01 Jan 2038 00:00:00 GMT".toList
    page.outputs ⟨[langCookie], none⟩ (.load :: es) =
        (store 4096).outputs .start (.load :: es) ∧
      (store 4096).outputs .start (.load :: es) =
        [.video "ws://undefined/".toList, .gps "http://undefined".toList,
          .video "ws://192.168.2.106:8084/".toList, .gps "http://".toList,
          .server "ws://robot;7681=é".toList] := by
  refine ⟨(settings_kept le_rfl _ (fun c hc => ?_) _).1, by decide +kernel⟩
  rw [List.mem_singleton.mp hc]
  exact ⟨"lang".toList, by decide +kernel, fun k => by cases k <;> decide⟩

end Wifibot.Dashboard
