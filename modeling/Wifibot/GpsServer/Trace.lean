import Wifibot.GpsServer.Server

set_option relaxedAutoImplicit false
set_option autoImplicit false

/-!
# From the receiver to the map

The daemon's stream comes to the GPS server in chunks, the server's messages come to the dashboard
in order, and the dashboard draws them on its map, whatever its user does meanwhile. What the map
shows are positions of sentences of the receiver: the texts of the numbers on the way lose nothing.

## Main definitions

* `Wifibot.Gps.Gga.latLng` — the position of a sentence on the map.
* `Wifibot.Gps.messageOf` — the message that an event of the dashboard brings.

## Main results

* `Wifibot.Gps.map_follows_gps` — the trace is made of positions of sentences in their order, and
  has all of them if no sentence is cut.
-/

namespace Wifibot.Gps

open Dashboard Lines

variable {R : Rounding 53}

/-- The position of a sentence on the map. -/
def Gga.latLng (R : Rounding 53) (g : Gga) : LatLng R := ⟨g.lat.decimal R, g.lng.decimal R⟩

/-- Both coordinates of the sentence have texts. -/
def Gga.HasTexts (R : Rounding 53) (g : Gga) : Prop :=
  HasText (g.lat.decimal R) ∧ HasText (g.lng.decimal R)

/-- The message that an event of the dashboard brings. -/
def messageOf : MapEvent → Option (List Char)
  | .message m => some m.toList
  | _ => none

/-- **The dashboard reads what the server writes.** -/
lemma messagePosition_message {g : Gga} (hg : g.HasTexts R) :
    messagePosition (String.ofList (message (g.position R))) = g.latLng R := by
  have hsplit : (message (g.position R)).splitOn ',' =
      [numberText (g.lng.decimal R), numberText (g.lat.decimal R)] := by
    rw [message, List.splitOn_append_cons_self, List.splitOn_eq_singleton (notMem_numberText _),
      List.splitOn_eq_singleton (notMem_numberText _)]
    rfl
  rw [messagePosition, String.toList_ofList, hsplit]
  exact LatLng.mk.injEq .. ▸ ⟨parseFloat_numberText hg.1, parseFloat_numberText hg.2⟩

/-- The positions that the dashboard receives are those of its messages. -/
lemma received_eq_map (es : List MapEvent) :
    (received es : List (LatLng R)) =
      (es.filterMap messageOf).map fun t => messagePosition (String.ofList t) := by
  rw [received, List.map_filterMap]
  refine List.filterMap_congr fun e _ => ?_
  cases e with
  | message m => simp [MapEvent.position, messageOf]
  | _ => rfl

/-- Without a reset the trace is made of all positions received. -/
lemma sinceReset_eq_received {es : List MapEvent} (hes : .reset_trace_map ∉ es) :
    (sinceReset es : List (LatLng R)) = received es := by
  have hfold : ∀ trace : List (LatLng R),
      es.foldl sinceResetStep trace = trace ++ received es := by
    induction es with
    | nil => exact fun trace => (List.append_nil trace).symm
    | cons e es ih =>
      intro trace
      rw [List.mem_cons, not_or] at hes
      have hstep : sinceResetStep trace e = trace ++ e.position.toList := by
        cases e with
        | message m => rfl
        | reset_trace_map => exact absurd rfl hes.1
        | _ => exact (List.append_nil trace).symm
      rw [List.foldl_cons, ih hes.2, hstep, received_cons, List.append_assoc]
  exact hfold []

/-- **What the map shows.** Let the stream be one of lines of the daemon, in which dollars only
start lines and every line that starts with `$GPGGA` is a sentence with a position, in any chunks;
let the coordinates of the sentences have texts of at most 17 digits; and let a dashboard with the
mapping enabled get the messages of the server in order. In every run that opens the map and does
not reset its trace, the trace is made of positions of sentences of the receiver, in their order and
with nothing else, and once a message has come to the open map, its marker is at the last of them.
If no chunk ends inside of a sentence that it has begun, the trace has the positions of all
sentences.

**Proof sketch.** The server sends some of the positions, and each is read back from its text as the
number that it was. The trace is what was received. -/
theorem map_follows_gps (R : Rounding 53) {cs : List (List Char)}
    (hcs : ∀ l ∈ pieces '\n' cs.flatten, LineOk l)
    (htexts : ∀ g : Gga, g.text ∈ ((pieces '\n' cs.flatten).filter startsGga).map trim →
      g.HasTexts R)
    {pre post : List MapEvent} (hpre : ∀ e ∈ pre, BeforeMap e) (hpost : .reset_trace_map ∉ post)
    (hmessages : (pre ++ post).filterMap messageOf =
      (gpsServer R).outputs .start (cs.map .data)) :
    let s := (gps R "Yes").run .start (pre ++ .shown "#gps" :: post)
    ∃ gs drawn : List Gga,
      gs.map Gga.text = ((pieces '\n' cs.flatten).filter startsGga).map trim ∧
        drawn.Sublist gs ∧
        s.poly.map Polyline.path = some (drawn.map (Gga.latLng R)) ∧
        ((received post : List (LatLng R)) ≠ [] →
          s.marker = (drawn.map (Gga.latLng R)).getLast?) ∧
        ((∀ pre c post, cs = pre ++ c :: post →
            ¬ CutsSentence (openPart '\n' c) (restPart '\n' post.flatten)) → drawn = gs) := by
  intro s
  obtain ⟨gs, hgs, hwhole⟩ := exists_whole R hcs
  have hsub := sent_sublist R hcs
  rw [hwhole] at hsub
  obtain ⟨drawn, hdrawn, hsent⟩ := List.sublist_map_iff.mp hsub
  have hread : ∀ g ∈ drawn, messagePosition (String.ofList (message (g.position R))) = g.latLng R :=
    fun g hg => messagePosition_message <|
      htexts g (hgs ▸ List.mem_map_of_mem (hdrawn.subset hg))
  have hreceived : (received (pre ++ post) : List (LatLng R)) = drawn.map (Gga.latLng R) := by
    rw [received_eq_map, hmessages, hsent, List.map_map]
    exact List.map_congr_left hread
  have hopened := gps_run_opened (R := R) hpre post
  have hreset : MapEvent.reset_trace_map ∉ pre ++ .shown "#gps" :: post := by
    intro h
    rcases List.mem_append.mp h with h | h
    · exact (hpre _ h).2 rfl
    · exact hpost (List.mem_of_ne_of_mem (by simp) h)
  have hall : (received (pre ++ .shown "#gps" :: post) : List (LatLng R)) =
      drawn.map (Gga.latLng R) := by
    rw [← hreceived, received_append, received_append, received_cons]
    rfl
  refine ⟨gs, drawn, hgs, hdrawn, ?_, fun hne => ?_, fun hcut => ?_⟩
  · rw [hopened.poly, sinceReset_eq_received hreset, hall]
  · -- the last position received is the last one of all
    rw [hopened.marker, ← hreceived, received_append, List.getLast?_append]
    obtain ⟨position, hlast⟩ := Option.ne_none_iff_exists'.mp
      (mt List.getLast?_eq_none_iff.mp hne)
    rw [hlast]
    rfl
  · have heq := ((sent_eq_iff R hcs).mpr hcut).1
    rw [hwhole, hsent] at heq
    have hlen := congrArg List.length heq
    rw [List.length_map, List.length_map] at hlen
    exact hdrawn.eq_of_length hlen

/-- The position that is parsed is that of the sentence. -/
lemma hasTexts_of_parse {g : Gga} {t : List Char} (hg : g.text = t)
    (ht : ∃ d, parse R t = some d ∧ ∃ loc, d.loc = some loc ∧ HasText loc.lat ∧ HasText loc.lng) :
    g.HasTexts R := by
  obtain ⟨d, hd, loc, hloc, hlat, hlng⟩ := ht
  rw [← hg, parse_text R g] at hd
  obtain rfl := Option.some.inj hd
  obtain rfl := Option.some.inj hloc
  exact ⟨hlat, hlng⟩

/-- Two sentences of a moving robot, whose positions are not binary fractions. -/
def movingStream : List (List Char) :=
  ["$GPGGA,123519,4807.038,N,01131.000,E,1,08,,,,,,,*5B\r\n".toList,
    "$GPGGA,123520,4807.1,N,01131.3,E,1,08,,,,,,,*58\r\n".toList]

/-- The lines of the stream. -/
lemma pieces_movingStream : pieces '\n' movingStream.flatten =
    ["$GPGGA,123519,4807.038,N,01131.000,E,1,08,,,,,,,*5B\r".toList,
      "$GPGGA,123520,4807.1,N,01131.3,E,1,08,,,,,,,*58\r".toList] := by decide +kernel

/-- The map is opened between them. -/
theorem map_follows_gps_movingStream :
    let R := Rounding.nearest 53
    let post : List MapEvent := [.message "11.521666666666667,48.11833333333333", .interval]
    let s := (gps R "Yes").run .start
      ([.message "11.516666666666667,48.1173"] ++ .shown "#gps" :: post)
    ∃ gs drawn : List Gga,
      gs.map Gga.text = ((pieces '\n' movingStream.flatten).filter startsGga).map trim ∧
        drawn.Sublist gs ∧
        s.poly.map Polyline.path = some (drawn.map (Gga.latLng R)) ∧
        ((received post : List (LatLng R)) ≠ [] →
          s.marker = (drawn.map (Gga.latLng R)).getLast?) ∧
        ((∀ pre c post, movingStream = pre ++ c :: post →
            ¬ CutsSentence (openPart '\n' c) (restPart '\n' post.flatten)) → drawn = gs) := by
  refine map_follows_gps (Rounding.nearest 53) (fun l hl => ?_) (fun g hg => ?_)
    (List.forall_mem_singleton.mpr ⟨nofun, nofun⟩) (by decide) (by decide +kernel)
  · rw [pieces_movingStream] at hl
    simp only [List.mem_cons, List.not_mem_nil, or_false] at hl
    rcases hl with rfl | rfl
    · exact lineOk_of_exec (by decide) (by decide +kernel)
    · exact lineOk_of_exec (by decide) (by decide +kernel)
  · have hsentences : (([
        "$GPGGA,123519,4807.038,N,01131.000,E,1,08,,,,,,,*5B\r".toList,
        "$GPGGA,123520,4807.1,N,01131.3,E,1,08,,,,,,,*58\r".toList].filter startsGga).map trim) =
        ["$GPGGA,123519,4807.038,N,01131.000,E,1,08,,,,,,,*5B".toList,
          "$GPGGA,123520,4807.1,N,01131.3,E,1,08,,,,,,,*58".toList] := by decide +kernel
    rw [pieces_movingStream, hsentences] at hg
    simp only [List.mem_cons, List.not_mem_nil, or_false] at hg
    rcases hg with hg | hg
    · exact hasTexts_of_parse hg
        ⟨⟨true, some ⟨.ofExact (some (691 / 60)), .ofExact (some (481173 / 10000))⟩⟩,
        by decide +kernel, _, rfl, by decide +kernel, by decide +kernel⟩
    · exact hasTexts_of_parse hg
        ⟨⟨true, some ⟨.ofExact (some (6913 / 600)), .ofExact (some (28871 / 600))⟩⟩,
        by decide +kernel, _, rfl, by decide +kernel, by decide +kernel⟩

end Wifibot.Gps
