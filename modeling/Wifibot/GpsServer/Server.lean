import Wifibot.Dashboard.NumberText
import Wifibot.Library.Lines
import Wifibot.Library.Simulation
import Wifibot.GpsServer.Sentence

set_option relaxedAutoImplicit false
set_option autoImplicit false

/-!
# The GPS server

`www/wifibot/server/GPS_server.js` behind `node_modules/node-gpsd/lib/gpsd.js`. The listener splits
what each read of its socket brings, and emits the parts that are not empty. The handler parses
those that start with `$GPGGA` and sends their positions to all clients. If there is no position it
throws, and nothing catches that: the server is gone.

The log, the handlers of the other events of the socket and the answers to plain requests of the web
server are left out.

## Main definitions

* `Wifibot.Gps.onRaw` — the handler.
* `Wifibot.Gps.gpsServer` — listener and handler as a machine; its outputs are the messages to the
  clients.
* `Wifibot.Gps.LineOk` — a line of the daemon: a sentence with a position, or one of another type.
* `Wifibot.Gps.CutsSentence` — a sentence goes on behind a cut.

## Main results

* `Wifibot.Gps.gps_server_chunks` — however the stream is cut, the server sends positions of its
  sentences in their order; it sends all of them and lives on iff no sentence is cut.
* `Wifibot.Gps.gps_server_no_fix` — a sentence without a position stops the server.
-/

namespace Wifibot.Gps

open Dashboard Pattern Lines

variable {R : Rounding 53}

/-! ## The server -/

/-- `trim`. -/
def trim (s : List Char) : List Char :=
  (s.dropWhile isStrWhiteSpace).rdropWhile isStrWhiteSpace

/-- `data.substring(0, 6) == "$GPGGA"`. -/
def startsGga (data : List Char) : Prop := data.take 6 = ['$', 'G', 'P', 'G', 'G', 'A']

instance (data : List Char) : Decidable (startsGga data) :=
  inferInstanceAs (Decidable (data.take 6 = ['$', 'G', 'P', 'G', 'G', 'A']))

/-- The message for a position. -/
def message (loc : Coordinates R) : List Char := numberText loc.lng ++ ',' :: numberText loc.lat

/-- The handler of `raw`: the messages that it emits, `none` if it throws. -/
def onRaw (R : Rounding 53) (data : List Char) : Option (List (List Char)) :=
  if startsGga data then do
    let raw ← parse R (trim data)
    let loc ← raw.loc
    some [message loc]
  else some []

/-- What a read of the socket brings. -/
inductive GpsEvent
  | data (payload : List Char)

/-- The server is alive until a handler throws. -/
structure GpsState where
  alive : Bool

/-- The server when it has been started. -/
def GpsState.start : GpsState := ⟨true⟩

/-- **The GPS server as a machine.** -/
def gpsServer (R : Rounding 53) : Machine GpsState GpsEvent (List Char) where
  step s
    | .data payload =>
      if s.alive then
        let r := process (onRaw R) (pieces '\n' payload)
        (⟨r.2⟩, r.1)
      else (s, [])

/-! ## Runs -/

/-- A server that is gone does nothing. -/
lemma gone (R : Rounding 53) (es : List GpsEvent) :
    (gpsServer R).outputs ⟨false⟩ es = [] ∧ (gpsServer R).run ⟨false⟩ es = ⟨false⟩ := by
  induction es with
  | nil => exact ⟨rfl, rfl⟩
  | cons e es ih => exact ih

/-- **A run** processes the pieces of its reads. -/
lemma run_eq_process (R : Rounding 53) (cs : List (List Char)) :
    (gpsServer R).outputs .start (cs.map .data) =
        (process (onRaw R) (cs.flatMap (pieces '\n'))).1 ∧
      ((gpsServer R).run .start (cs.map .data)).alive =
        (process (onRaw R) (cs.flatMap (pieces '\n'))).2 := by
  induction cs with
  | nil => exact ⟨rfl, rfl⟩
  | cons c cs ih =>
    rw [List.map_cons, Machine.outputs_cons, Machine.run_cons, List.flatMap_cons, process_append_eq]
    have hnext : (gpsServer R).next .start (.data c) =
        ⟨(process (onRaw R) (pieces '\n' c)).2⟩ := rfl
    have hemit : (gpsServer R).emit .start (.data c) =
        (process (onRaw R) (pieces '\n' c)).1 := rfl
    rw [hnext, hemit]
    cases hp : (process (onRaw R) (pieces '\n' c)).2 with
    | false =>
      obtain ⟨hout, hrun⟩ := gone R (cs.map GpsEvent.data)
      rw [hout, hrun, List.append_nil]
      simp [hp]
    | true =>
      rw [if_pos rfl]
      exact ⟨congrArg _ ih.1, ih.2⟩

/-- A run of one read. -/
lemma outputs_one_chunk (R : Rounding 53) (l : List Char) :
    (gpsServer R).outputs .start [.data l] = (process (onRaw R) (pieces '\n' l)).1 := by
  have h := (run_eq_process R [l]).1
  rwa [List.flatMap_singleton] at h

/-! ## Sentences that are complete -/

/-- The text ends with a star and two characters behind it, and has no other star. -/
def Complete (t : List Char) : Prop := ∃ u h, t = u ++ '*' :: h ∧ '*' ∉ u ∧ h.length = 2

/-- What matches one of the patterns is complete. -/
lemma complete_of_matches {rs : List (Pattern Char)} (hrs : (seqs rs).avoids '*' = true)
    {t : List Char} (h : (seqs (rs ++ checksumField)).Matches t) : Complete t := by
  obtain ⟨caps, h⟩ := h
  obtain ⟨u, v, _, _, rfl, -, hu, hv⟩ := lang_seqs_append.mp h
  obtain ⟨_, rfl, hv₁⟩ := lang_seqs_lit.mp hv
  obtain ⟨x, _, _, _, rfl, -, ⟨-, -, hlo, hhi⟩, hv₂⟩ := lang_seqs_group.mp hv₁
  obtain ⟨rfl, -⟩ := lang_seqs_nil.mp hv₂
  refine ⟨u, x, by rw [List.append_nil], notMem_of_lang hrs hu, ?_⟩
  exact Nat.le_antisymm (hhi 2 rfl) hlo

/-- A sentence with a position is complete. -/
lemma complete_of_parse {t : List Char} {d : Data R} (h : parse R t = some d) (hd : d.loc ≠ none) :
    Complete t := by
  rw [parse] at h
  split_ifs at h with hrmc hgga
  · exact complete_of_matches (by decide) (exec_isSome_iff.mp hrmc)
  · exact complete_of_matches (by decide) (exec_isSome_iff.mp hgga)
  · obtain rfl := Option.some.inj h
    exact absurd rfl hd

/-- A text starts with one complete text only. -/
lemma Complete.unique {t t' l : List Char} (h : Complete t) (h' : Complete t') (hl : t <+: l)
    (hl' : t' <+: l) : t = t' := by
  obtain ⟨u, x, rfl, hu, hx⟩ := h
  obtain ⟨u', x', rfl, hu', hx'⟩ := h'
  obtain ⟨y, rfl⟩ := hl
  obtain ⟨y', hy⟩ := hl'
  rw [List.append_assoc, List.append_assoc, List.cons_append, List.cons_append] at hy
  obtain ⟨rfl, hxy⟩ := append_cons_inj hu' hu hy
  obtain ⟨rfl, -⟩ := List.append_inj hxy (by rw [hx, hx'])
  rfl

/-! ## Trimmed lines -/

/-- A line that starts with a dollar loses only what is behind its sentence. -/
lemma trim_of_startsGga {l : List Char} (hl : startsGga l) :
    trim l = l.rdropWhile isStrWhiteSpace := by
  have hhead : l.head? = some '$' := by
    have h := congrArg List.head? hl
    rwa [List.head?_take, if_neg (by decide)] at h
  obtain ⟨t, rfl⟩ : ∃ t, l = '$' :: t := by
    cases l with
    | nil => cases hhead
    | cons a t => exact ⟨t, by rw [Option.some.inj hhead]⟩
  rw [trim, List.dropWhile_cons_of_neg (by decide)]

lemma isPrefix_trim {l : List Char} (hl : startsGga l) : trim l <+: l := by
  rw [trim_of_startsGga hl]
  exact List.rdropWhile_prefix _ _

/-- Only the first characters matter. -/
lemma startsGga_append {a : List Char} (ha : startsGga a) (b : List Char) : startsGga (a ++ b) := by
  have hlen : 6 ≤ a.length := by
    have h := congrArg List.length ha
    rw [List.length_take] at h
    simp only [List.length_cons, List.length_nil] at h
    omega
  rw [startsGga, List.take_append_of_le_length hlen]
  exact ha

/-- The white space behind a trimmed line. -/
lemma trim_of_prefix {a b : List Char} (ha : startsGga a)
    (hle : (trim (a ++ b)).length ≤ a.length) : trim a = trim (a ++ b) := by
  have hab := startsGga_append ha b
  rw [trim_of_startsGga hab] at hle ⊢
  rw [trim_of_startsGga ha]
  obtain ⟨w, hw⟩ : (a ++ b).rdropWhile isStrWhiteSpace <+: a :=
    List.prefix_of_prefix_length_le (List.rdropWhile_prefix _ _) (List.prefix_append a b) hle
  have hwb : w ++ b = (a ++ b).rtakeWhile isStrWhiteSpace := by
    have hall : (a ++ b).rdropWhile isStrWhiteSpace ++ (a ++ b).rtakeWhile isStrWhiteSpace =
        a ++ b := List.rdropWhile_append_rtakeWhile
    nth_rewrite 3 [← hw] at hall
    rw [List.append_assoc, List.append_cancel_left_eq] at hall
    exact hall.symm
  have hws : ∀ x ∈ w.reverse, isStrWhiteSpace x = true := fun x hx =>
    List.mem_rtakeWhile_imp (hwb ▸ List.mem_append_left b (List.mem_reverse.mp hx))
  have hrdrop : ∀ l : List Char, l.rdropWhile isStrWhiteSpace =
      (l.reverse.dropWhile isStrWhiteSpace).reverse := fun l => rfl
  nth_rewrite 1 [← hw]
  rw [hrdrop (_ ++ w), List.reverse_append, List.dropWhile_append_of_pos hws, ← hrdrop,
    List.rdropWhile_idempotent]

/-! ## Lines of the daemon -/

/-- A line of the daemon. A dollar starts it or is not in it, and if it starts with `$GPGGA`, it is
a sentence with white space behind it. -/
structure LineOk (l : List Char) : Prop where
  dollar : '$' ∉ l.tail
  sentence : startsGga l → ∃ g : Gga, trim l = g.text

/-- The line goes on with `b` behind `a`, and is a sentence that is not complete in `a`. -/
def CutsSentence (a b : List Char) : Prop :=
  a ≠ [] ∧ startsGga (a ++ b) ∧ a.length < (trim (a ++ b)).length

/-- A line of another type. -/
lemma onRaw_other (R : Rounding 53) {l : List Char} (hl : ¬ startsGga l) :
    onRaw R l = some [] :=
  if_neg hl

/-- A line with a sentence. -/
lemma onRaw_sentence (R : Rounding 53) {l : List Char} (hl : startsGga l) {g : Gga}
    (hg : trim l = g.text) :
    onRaw R l = some [message (g.position R)] := by
  rw [onRaw, if_pos hl, hg, parse_text R g]
  rfl

/-- A sentence is longer than its type. -/
lemma Gga.six_le_length (g : Gga) : 6 ≤ g.text.length := by
  simp only [Gga.text, timeText, List.length_cons, List.length_append, g.length_type]
  omega

/-- If what is before a cut has a position, the sentence of its line is complete there: a line
starts with one complete text only. -/
lemma trim_eq_of_parse {a b : List Char} (ha : startsGga a) {g : Gga} (hg : trim (a ++ b) = g.text)
    {d : Data R} (hparse : parse R (trim a) = some d) (hd : d.loc ≠ none) :
    trim a = trim (a ++ b) := by
  have hcomplete' : Complete (trim (a ++ b)) :=
    complete_of_parse (hg ▸ parse_text R g) (by simp)
  have hstarts : trim a <+: a ++ b := (isPrefix_trim ha).trans (List.prefix_append a b)
  exact (complete_of_parse hparse hd).unique hcomplete' hstarts
    (isPrefix_trim (startsGga_append ha b))

/-- **The handler on lines that are cut.** -/
lemma tolerant_onRaw (R : Rounding 53) : Tolerant (onRaw R) LineOk where
  whole l hl := by
    by_cases hgga : startsGga l
    · obtain ⟨g, hg⟩ := hl.sentence hgga
      rw [onRaw_sentence R hgga hg]
      rfl
    · rw [onRaw_other R hgga]
      rfl
  start a b hab := by
    by_cases ha : startsGga a
    · obtain ⟨g, hg⟩ := hab.sentence (startsGga_append ha b)
      cases hparse : parse R (trim a) with
      | none => exact Or.inl (by rw [onRaw, if_pos ha, hparse]; rfl)
      | some d =>
        cases hloc : d.loc with
        | none =>
          refine Or.inl ?_
          rw [onRaw, if_pos ha, hparse]
          simp [hloc]
        | some loc =>
          have htrim := trim_eq_of_parse ha hg hparse (by simp [hloc])
          refine Or.inr (Or.inr ?_)
          rw [onRaw, onRaw, if_pos ha, if_pos (startsGga_append ha b), htrim]
    · exact Or.inr (Or.inl (onRaw_other R ha))
  rest a b hab ha hb := by
    have hdollar : '$' ∉ b := by
      obtain ⟨x, a, rfl⟩ := List.exists_cons_of_ne_nil ha
      intro h
      exact hab.dollar (List.mem_append_right a h)
    have hother : ¬ startsGga b := fun h =>
      hdollar (List.mem_of_mem_take (h.symm ▸ List.mem_cons_self : '$' ∈ b.take 6))
    exact ⟨⟨fun h => hdollar (List.mem_of_mem_tail h), fun h => absurd h hother⟩,
      onRaw_other R hother⟩

/-- **The cuts that matter.** What is before a cut does what its line does iff no sentence is
cut. -/
lemma onRaw_eq_iff (R : Rounding 53) {a b : List Char} (hab : LineOk (a ++ b)) :
    (a ≠ [] → onRaw R a = onRaw R (a ++ b)) ↔ ¬ CutsSentence a b := by
  constructor
  · rintro heq ⟨hne, hgga, hlt⟩
    obtain ⟨g, hg⟩ := hab.sentence hgga
    have ha := heq hne
    rw [onRaw_sentence R hgga hg] at ha
    have hstart : startsGga a := by
      by_contra h
      rw [onRaw_other R h] at ha
      cases ha
    rw [onRaw, if_pos hstart] at ha
    obtain ⟨d, hparse, hd⟩ := Option.bind_eq_some_iff.mp ha
    obtain ⟨loc, hloc, -⟩ := Option.bind_eq_some_iff.mp hd
    have hle := (isPrefix_trim hstart).length_le
    rw [trim_eq_of_parse hstart hg hparse (by simp [hloc])] at hle
    omega
  · intro hcut hne
    by_cases hgga : startsGga (a ++ b)
    · have hle : (trim (a ++ b)).length ≤ a.length := by
        by_contra hlt
        exact hcut ⟨hne, hgga, by omega⟩
      have hstart : startsGga a := by
        obtain ⟨g, hg⟩ := hab.sentence hgga
        have hlen := g.six_le_length
        rw [← hg] at hlen
        rw [startsGga, ← List.take_append_of_le_length (hlen.trans hle)]
        exact hgga
      rw [onRaw, onRaw, if_pos hstart, if_pos hgga, trim_of_prefix hstart hle]
    · have hother : ¬ startsGga a := fun h => hgga (startsGga_append h b)
      rw [onRaw_other R hgga, onRaw_other R hother]

/-- **Whole lines**: the positions of their sentences are sent, in order. -/
lemma exists_sentences (R : Rounding 53) {ls : List (List Char)} (hls : ∀ l ∈ ls, LineOk l) :
    ∃ gs : List Gga, gs.map Gga.text = (ls.filter startsGga).map trim ∧
      process (onRaw R) ls = (gs.map fun g => message (g.position R), true) := by
  induction ls with
  | nil => exact ⟨[], rfl, rfl⟩
  | cons l ls ih =>
    obtain ⟨hl, hls⟩ := List.forall_mem_cons.mp hls
    obtain ⟨gs, htexts, hgs⟩ := ih hls
    by_cases hgga : startsGga l
    · obtain ⟨g, hg⟩ := hl.sentence hgga
      refine ⟨g :: gs, ?_, ?_⟩
      · rw [List.filter_cons_of_pos (by simpa using hgga), List.map_cons, List.map_cons, htexts, hg]
      · rw [process_cons_some ls (onRaw_sentence R hgga hg), hgs]
        rfl
    · refine ⟨gs, ?_, ?_⟩
      · rw [List.filter_cons_of_neg (by simpa using hgga), htexts]
      · rw [process_cons_some ls (onRaw_other R hgga), hgs]
        rfl

/-! ## However the stream is cut -/

section Stream

variable (R : Rounding 53) {cs : List (List Char)} (hcs : ∀ l ∈ pieces '\n' cs.flatten, LineOk l)

include hcs

/-- A stream in one chunk: the positions of its sentences are sent, in order. -/
lemma exists_whole : ∃ gs : List Gga,
    gs.map Gga.text = ((pieces '\n' cs.flatten).filter startsGga).map trim ∧
      (gpsServer R).outputs .start [.data cs.flatten] =
        gs.map fun g => message (g.position R) := by
  obtain ⟨gs, htexts, hgs⟩ := exists_sentences R hcs
  exact ⟨gs, htexts, by rw [outputs_one_chunk, hgs]⟩

/-- Nothing is added. -/
lemma sent_sublist : ((gpsServer R).outputs .start (cs.map .data)).Sublist
    ((gpsServer R).outputs .start [.data cs.flatten]) := by
  rw [(run_eq_process R cs).1, outputs_one_chunk]
  exact (tolerant_onRaw R).sublist_process hcs

/-- **When nothing is lost.** -/
lemma sent_eq_iff :
    ((gpsServer R).outputs .start (cs.map .data) =
          (gpsServer R).outputs .start [.data cs.flatten] ∧
        ((gpsServer R).run .start (cs.map .data)).alive = true) ↔
      ∀ pre c post, cs = pre ++ c :: post →
        ¬ CutsSentence (openPart '\n' c) (restPart '\n' post.flatten) := by
  obtain ⟨hsent, halive⟩ := run_eq_process R cs
  have htolerant := tolerant_onRaw R
  obtain ⟨gs, -, hgs⟩ := exists_sentences R hcs
  have hpair : process (onRaw R) (cs.flatMap (pieces '\n')) =
        process (onRaw R) (pieces '\n' cs.flatten) ↔
      (process (onRaw R) (cs.flatMap (pieces '\n'))).1 =
          (process (onRaw R) (pieces '\n' cs.flatten)).1 ∧
        (process (onRaw R) (cs.flatMap (pieces '\n'))).2 = true := by
    rw [Prod.ext_iff, hgs]
  rw [hsent, outputs_one_chunk, halive, ← hpair, htolerant.process_chunks_iff hcs]
  refine forall_congr' fun pre => forall_congr' fun c => forall_congr' fun post =>
    forall_congr' fun hsplit => ?_
  rcases eq_or_ne (openPart '\n' c) [] with ha | ha
  · exact ⟨fun _ h => h.1 ha, fun _ h => absurd ha h⟩
  · have hrest : ∀ l ∈ pieces '\n' (c ++ post.flatten), LineOk l := by
      refine htolerant.ok_rest (c := pre.flatten) fun l hl => hcs l ?_
      rwa [hsplit, List.flatten_append, List.flatten_cons]
    exact onRaw_eq_iff R (hrest _ (mem_pieces_open_rest (by simp [ha])))

end Stream

/-- **The positions that are sent.** Take any stream of lines of the daemon, in which dollars only
start lines and every line that starts with `$GPGGA` is a sentence with a position, and any chunks
in which it comes. If it comes in one chunk, the server sends the positions of its sentences in
their order. If it comes in more, the server sends some of them in the same order and nothing else;
and it sends all of them and lives on iff no chunk ends inside of a sentence that it has begun.

**Proof sketch.** Only the start of a line starts with a dollar, so that what is left of a cut line
does nothing. The start of a sentence stops the server, or is too short to be noticed, or is the
sentence up to its white space: a line starts with one text only that ends with a checksum. -/
theorem gps_server_chunks (R : Rounding 53) {cs : List (List Char)}
    (hcs : ∀ l ∈ pieces '\n' cs.flatten, LineOk l) :
    let server := gpsServer R
    let sent := server.outputs .start (cs.map .data)
    let whole := server.outputs .start [.data cs.flatten]
    (∃ gs : List Gga,
        gs.map Gga.text = ((pieces '\n' cs.flatten).filter startsGga).map trim ∧
          whole = gs.map fun g => message (g.position R)) ∧
      sent.Sublist whole ∧
      ((sent = whole ∧ (server.run .start (cs.map .data)).alive = true) ↔
        ∀ pre c post, cs = pre ++ c :: post →
          ¬ CutsSentence (openPart '\n' c) (restPart '\n' post.flatten)) :=
  ⟨exists_whole R hcs, sent_sublist R hcs, sent_eq_iff R hcs⟩

/-- A line whose sentence matches. -/
lemma lineOk_of_exec {l : List Char} (hdollar : '$' ∉ l.tail)
    (h : startsGga l → (gpgga.exec (trim l)).isSome) : LineOk l :=
  ⟨hdollar, fun hl => ((exec_gpgga_iff (trim l)).mp (h hl)).exists.imp fun _ => Eq.symm⟩

/-- A sentence, a line of another type and a sentence that is cut. -/
def cutStream : List (List Char) :=
  ["$GPGGA,123519,4807.2,N,01130.0,E,1,08,,,,,,,*53\r\n$GPGSV,1\r\n$GPGGA,1".toList,
    "23520,4807.8,N,01130.0,E,1,08,,,,,,,*53\r\n".toList]

/-- The server does not survive it. -/
theorem gps_server_chunks_cutStream :
    let R := Rounding.nearest 53
    let server := gpsServer R
    let sent := server.outputs .start (cutStream.map .data)
    let whole := server.outputs .start [.data cutStream.flatten]
    (∃ gs : List Gga,
        gs.map Gga.text = ((pieces '\n' cutStream.flatten).filter startsGga).map trim ∧
          whole = gs.map fun g => message (g.position R)) ∧
      sent.Sublist whole ∧
      ((sent = whole ∧ (server.run .start (cutStream.map .data)).alive = true) ↔
        ∀ pre c post, cutStream = pre ++ c :: post →
          ¬ CutsSentence (openPart '\n' c) (restPart '\n' post.flatten)) := by
  refine gps_server_chunks (Rounding.nearest 53) fun l hl => ?_
  have hlines : pieces '\n' cutStream.flatten =
      ["$GPGGA,123519,4807.2,N,01130.0,E,1,08,,,,,,,*53\r".toList, "$GPGSV,1\r".toList,
        "$GPGGA,123520,4807.8,N,01130.0,E,1,08,,,,,,,*53\r".toList] := by decide +kernel
  rw [hlines] at hl
  simp only [List.mem_cons, List.not_mem_nil, or_false] at hl
  rcases hl with rfl | rfl | rfl
  · exact lineOk_of_exec (by decide) (by decide +kernel)
  · exact lineOk_of_exec (by decide) (by decide +kernel)
  · exact lineOk_of_exec (by decide) (by decide +kernel)

/-! ## A receiver without a fix -/

/-- A sentence with nothing behind its time matches neither pattern. -/
lemma parse_of_empty {u v x : List Char} (hu : ',' ∉ u) (hv : ',' ∉ v) :
    parse R (u ++ ',' :: (v ++ ',' :: ',' :: x)) = some { valid := false, loc := none } := by
  have hfield : ∀ {rs : List (Pattern Char)},
      (seqs (timeFields ++ rs)).Matches (u ++ ',' :: (v ++ ',' :: ',' :: x)) →
        (seqs rs).Matches (',' :: x) := by
    rintro rs ⟨caps, h⟩
    obtain ⟨type, time, fr, w, cv, htype, -, htime, htext, -, hw⟩ := lang_timeFields.mp h
    have hsplit : u ++ ',' :: (v ++ ',' :: ',' :: x) =
        ('$' :: 'G' :: 'P' :: type) ++ ',' :: (time ++ ',' :: w) := by
      rw [htext, timeText]
      rfl
    have hcomma : ',' ∉ '$' :: 'G' :: 'P' :: type := by
      simp [notMem_of_isWord htype]
    obtain ⟨-, hrest⟩ := append_cons_inj hu hcomma hsplit
    obtain ⟨-, rfl⟩ := append_cons_inj hv (notMem_of_lang (by decide) htime) hrest
    exact ⟨cv, hw⟩
  have hrmc : ¬ (gprmc.exec (u ++ ',' :: (v ++ ',' :: ',' :: x))).isSome = true := by
    intro h
    have hmatch := exec_isSome_iff.mp h
    rw [gprmc, List.append_assoc] at hmatch
    obtain ⟨_, hlang⟩ := hfield hmatch
    obtain ⟨y, _, _, _, hy, -, hlit, -⟩ := lang_seqs_group.mp hlang
    obtain ⟨a, ha, rfl, -⟩ := lang_set.mp hlit
    rw [← (List.cons.inj hy).1] at ha
    revert ha
    decide
  have hgga : ¬ (gpgga.exec (u ++ ',' :: (v ++ ',' :: ',' :: x))).isSome = true := by
    intro h
    have hmatch := exec_isSome_iff.mp h
    rw [gpgga, List.append_assoc, List.append_assoc] at hmatch
    obtain ⟨_, hlang⟩ := hfield hmatch
    obtain ⟨lat, _, _, _, htext, -, -⟩ := lang_ggaPosition.mp hlang
    obtain ⟨b, l, hdeg⟩ := List.exists_cons_of_length_eq_add_one lat.length_deg
    have hdigit := lat.isDigit_deg b (by rw [hdeg]; exact List.mem_cons_self)
    rw [Dmm.text, hdeg] at htext
    rw [← (List.cons.inj htext).1] at hdigit
    revert hdigit
    decide
  rw [parse, if_neg hrmc, if_neg hgga]

/-- **A receiver without a fix** stops the server. Take any run in which a chunk brings a sentence
with nothing where its latitude should be. From then on the server is gone: it sends no message
more, whatever comes. -/
theorem gps_server_no_fix (R : Rounding 53) (pre post : List GpsEvent)
    {c p u v x : List Char} (hp : p ∈ pieces '\n' c) (hgga : startsGga p)
    (htrim : trim p = u ++ ',' :: (v ++ ',' :: ',' :: x)) (hu : ',' ∉ u) (hv : ',' ∉ v) :
    ((gpsServer R).run .start (pre ++ .data c :: post)).alive = false ∧
      (gpsServer R).outputs .start (pre ++ .data c :: post) =
        (gpsServer R).outputs .start (pre ++ [.data c]) := by
  have hnone : onRaw R p = none := by
    rw [onRaw, if_pos hgga, htrim, parse_of_empty hu hv]
    rfl
  have hstop : (process (onRaw R) (pieces '\n' c)).2 = false := by
    rw [Bool.eq_false_iff]
    intro h
    have hsome := process_snd_iff.mp h p hp
    rw [hnone] at hsome
    cases hsome
  have hdead : ∀ s : GpsState, (gpsServer R).next s (.data c) = ⟨false⟩ := by
    rintro ⟨alive⟩
    cases alive with
    | false => rfl
    | true => exact congrArg GpsState.mk hstop
  rw [Machine.run_append, Machine.run_cons, hdead, (gone R post).2, Machine.outputs_append,
    Machine.outputs_append, Machine.outputs_cons, Machine.outputs_cons, hdead, (gone R post).1]
  exact ⟨rfl, rfl⟩

/-- A receiver that has just been switched on, and has a fix one second later. -/
theorem gps_server_no_fix_started :
    let R := Rounding.nearest 53
    let c := "$GPGGA,123519,,,,,0,00,,,,,,,*6B\r\n".toList
    let fix := "$GPGGA,123520,4807.1,N,01131.3,E,1,08,,,,,,,*58\r\n".toList
    ((gpsServer R).run .start ([] ++ .data c :: [.data fix])).alive = false ∧
      (gpsServer R).outputs .start ([] ++ .data c :: [.data fix]) =
        (gpsServer R).outputs .start ([] ++ [.data c]) :=
  gps_server_no_fix (p := "$GPGGA,123519,,,,,0,00,,,,,,,*6B\r".toList) (u := "$GPGGA".toList)
    (v := "123519".toList) (x := ",,,0,00,,,,,,,*6B".toList) (Rounding.nearest 53) []
    [.data "$GPGGA,123520,4807.1,N,01131.3,E,1,08,,,,,,,*58\r\n".toList] (by decide) (by decide)
    (by decide) (by decide) (by decide)

end Wifibot.Gps
