import Wifibot.Dashboard.Drive

set_option relaxedAutoImplicit false
set_option autoImplicit false

/-!
# The map of the dashboard

`www/wifibot/js/gps.js` gets the robot's positions from a socket, as texts with the longitude before
the latitude. Opening the tab `#gps` for the first time makes the map with a marker and a trace.
Until then the positions are kept in `poly_marker`, with which the trace starts. The marker starts
at `LAT` and `LNG`, which never change, and moves with the next message.

A handler that throws does nothing more. The objects of the map keep what they are given, and its
script has been loaded when the tab is opened.

The text of the info window, the canvas of the video and the calls of the console are left out.

## Main definitions

* `Wifibot.Dashboard.parseFloat` — the conversion of the language.
* `Wifibot.Dashboard.MapState`, `Wifibot.Dashboard.gps` — the globals and their handlers as a
  machine without outputs.
* `Wifibot.Dashboard.received`, `Wifibot.Dashboard.sinceReset` — the positions received in a run,
  and those since its last reset.
* `Wifibot.Dashboard.MapRight` — the trace is what was received since the last reset, and the marker
  is at the last position.

## Main results

* `Wifibot.Dashboard.gps_run_opened` — the trace and the marker after every run that opens the map.
* `Wifibot.Dashboard.mapRight_iff` — the map is right iff a position was received since it was
  opened, or the last one before that is where the marker starts.
-/

namespace Wifibot.Dashboard

variable {R : Rounding 53}

/-! ## Texts of numbers -/

/-- The white space and the line ends of the language. -/
def isStrWhiteSpace (a : Char) : Bool :=
  a.toNat ∈ [0x09, 0x0A, 0x0B, 0x0C, 0x0D, 0x20, 0xA0, 0x1680, 0x2028, 0x2029, 0x202F, 0x205F,
    0x3000, 0xFEFF] || (0x2000 ≤ a.toNat && a.toNat ≤ 0x200A)

/-- The number that decimal digits spell. -/
def digitsValue (ds : List Char) : ℕ :=
  ds.foldl (fun n d => 10 * n + (d.toNat - '0'.toNat)) 0

/-- The exponent with which a text starts, zero if with none. -/
def exponentPart : List Char → ℤ
  | [] => 0
  | e :: s =>
    if e = 'e' ∨ e = 'E' then
      match s with
      | '+' :: s => digitsValue (s.takeWhile Char.isDigit)
      | '-' :: s => -digitsValue (s.takeWhile Char.isDigit)
      | s => digitsValue (s.takeWhile Char.isDigit)
    else 0

/-- The value of the longest decimal literal without a sign with which a text starts. -/
def unsignedDecimal (s : List Char) : Option ℚ :=
  let whole := s.takeWhile Char.isDigit
  let rest := s.dropWhile Char.isDigit
  let fraction := if rest.head? = some '.' then rest.tail.takeWhile Char.isDigit else []
  let rest := if rest.head? = some '.' then rest.tail.dropWhile Char.isDigit else rest
  if whole = [] ∧ fraction = [] then none
  else some (digitsValue (whole ++ fraction) * 10 ^ (exponentPart rest - fraction.length))

/-- `parseFloat`, of `undefined` if the argument is `none`. The format has no infinities, so the
text of one is not a number. -/
def parseFloat (s : Option (List Char)) : JsNumber R :=
  match s with
  | none => .ofExact none
  | some s =>
    match s.dropWhile isStrWhiteSpace with
    | '+' :: s => .ofExact (unsignedDecimal s)
    | '-' :: s => -.ofExact (unsignedDecimal s)
    | s => .ofExact (unsignedDecimal s)

/-! ## The globals and the handlers -/

/-- A position. -/
structure LatLng (R : Rounding 53) where
  lat : JsNumber R
  lng : JsNumber R
  deriving DecidableEq

/-- `LAT`. -/
def LAT : JsNumber R := .ofExact (some 48.8584)

/-- `LNG`. -/
def LNG : JsNumber R := .ofExact (some 2.2945)

/-- What `gps.js` sets and reads of a `google.maps.Polyline`. -/
structure Polyline (R : Rounding 53) where
  path : List (LatLng R)
  strokeWeight : ℕ

/-- The globals of `gps.js` and the texts of its two buttons that have two. The map is its center
and the marker its position, `none` as long as they are not made. -/
structure MapState (R : Rounding 53) where
  map_already_opened : Bool
  marker : Option (LatLng R)
  map : Option (LatLng R)
  poly : Option (Polyline R)
  poly_marker : List (LatLng R)
  follow : Bool
  trace_map : String
  follow_map : String

namespace MapState

/-- The page when it is loaded. -/
def start : MapState R where
  map_already_opened := false
  marker := none
  map := none
  poly := none
  poly_marker := []
  follow := true
  trace_map := "Disable trace"
  follow_map := "Unfollow my Wifibot"

/-- `myMap`. -/
def myMap (s : MapState R) : MapState R :=
  { s with
    map := some ⟨LAT, LNG⟩
    marker := some ⟨LAT, LNG⟩
    poly := some ⟨s.poly_marker, 3⟩ }

/-- `map.setCenter(marker.getPosition())`, which throws without a marker. -/
def recenter (s : MapState R) : MapState R :=
  if s.marker.isSome then { s with map := s.marker } else s

/-- The handler of `shown.bs.tab`, for a link with this `href`. -/
def shown (enable_gps_mapping : String) (s : MapState R) (href : String) : MapState R :=
  if href = "#gps" then
    if s.map_already_opened then s.recenter
    else
      let s := if enable_gps_mapping = "Yes" then s.myMap else s
      { s with map_already_opened := true }.recenter
  else s

/-- The handler of `#trace_map`, which throws without a trace. -/
def traceClick (s : MapState R) : MapState R :=
  match s.poly with
  | none => s
  | some poly =>
    if s.trace_map = "Disable trace" then
      { s with poly := some { poly with strokeWeight := 0 }, trace_map := "Enable trace" }
    else
      { s with poly := some { poly with strokeWeight := 2 }, trace_map := "Disable trace" }

/-- The handler of `#reset_trace_map`, which throws without a trace. -/
def resetTraceClick (s : MapState R) : MapState R :=
  match s.poly with
  | none => s
  | some poly => { s with poly := some { poly with path := [] } }

/-- The handler of `#follow_map`. -/
def followClick (s : MapState R) : MapState R :=
  if s.follow_map = "Follow my Wifibot" then
    { s with follow := true, follow_map := "Unfollow my Wifibot" }
  else
    { s with follow := false, follow_map := "Follow my Wifibot" }

/-- The interval of `websocket.js`, as far as it is about the map. -/
def interval (enable_gps_mapping : String) (s : MapState R) : MapState R :=
  if enable_gps_mapping = "Yes" then
    if s.marker.isSome then
      if s.follow then s.recenter else s
    else s
  else s

end MapState

/-- The position in a message. -/
def messagePosition (message : String) : LatLng R :=
  let coord := message.toList.splitOn ','
  ⟨parseFloat coord[1]?, parseFloat coord[0]?⟩

namespace MapState

/-- The handler of the socket's `message`. A marker without a trace throws when it has moved. -/
def onMessage (s : MapState R) (message : String) : MapState R :=
  match s.marker with
  | some _ =>
    let s := { s with marker := some (messagePosition message) }
    match s.poly with
    | none => s
    | some poly =>
      let s := { s with poly := some { poly with path := poly.path ++ [messagePosition message] } }
      if s.follow then s.recenter else s
  | none => { s with poly_marker := s.poly_marker ++ [messagePosition message] }

end MapState

/-- What the dashboard reacts to. -/
inductive MapEvent
  | message (message : String)
  | shown (href : String)
  | recenter_map
  | trace_map
  | reset_trace_map
  | follow_map
  | interval
  deriving DecidableEq

/-- **The map as a machine**, with this value of the cookie `enable_gps_mapping`. -/
def gps (R : Rounding 53) (enable_gps_mapping : String) : Machine (MapState R) MapEvent Empty where
  step s e :=
    (match e with
    | .message message => s.onMessage message
    | .shown href => s.shown enable_gps_mapping href
    | .recenter_map => s.recenter
    | .trace_map => s.traceClick
    | .reset_trace_map => s.resetTraceClick
    | .follow_map => s.followClick
    | .interval => s.interval enable_gps_mapping, [])

/-! ## What the map should show -/

/-- The position that an event brings. -/
def MapEvent.position : MapEvent → Option (LatLng R)
  | .message m => some (messagePosition m)
  | _ => none

/-- The positions received in a run. -/
def received (es : List MapEvent) : List (LatLng R) := es.filterMap MapEvent.position

/-- One event for the positions since the last reset. -/
def sinceResetStep (trace : List (LatLng R)) : MapEvent → List (LatLng R)
  | .message message => trace ++ [messagePosition message]
  | .reset_trace_map => []
  | _ => trace

/-- The positions received since the last reset, and since the start if there was none. -/
def sinceReset (es : List MapEvent) : List (LatLng R) := es.foldl sinceResetStep []

/-- The trace is what was received since the last reset, and the marker is at the last position. -/
def MapRight (s : MapState R) (es : List MapEvent) : Prop :=
  s.poly.map Polyline.path = some (sinceReset es) ∧ s.marker = (received es).getLast?

/-- The event neither opens the map nor resets the trace. -/
def BeforeMap (e : MapEvent) : Prop := e ≠ .shown "#gps" ∧ e ≠ .reset_trace_map

/-- The map is not made yet, and `received` was received. -/
structure Closed (s : MapState R) (received : List (LatLng R)) : Prop where
  map_already_opened : s.map_already_opened = false
  marker : s.marker = none
  poly : s.poly = none
  poly_marker : s.poly_marker = received

/-- The map is made, its trace is `trace` and its marker is at `position`. -/
structure Opened (s : MapState R) (trace : List (LatLng R)) (position : LatLng R) : Prop where
  map_already_opened : s.map_already_opened = true
  poly : s.poly.map Polyline.path = some trace
  marker : s.marker = some position

/-! ## One step -/

section Received

@[simp] lemma received_nil : (received [] : List (LatLng R)) = [] := rfl

/-- The positions of a run are those of its first step and of the others. -/
lemma received_cons (e : MapEvent) (es : List MapEvent) :
    (received (e :: es) : List (LatLng R)) = e.position.toList ++ received es := by
  cases e <;> rfl

lemma received_append (es fs : List MapEvent) :
    (received (es ++ fs) : List (LatLng R)) = received es ++ received fs :=
  List.filterMap_append

/-- Without a reset the positions since the last one are all positions. -/
lemma foldl_sinceResetStep {es : List MapEvent} (hes : ∀ e ∈ es, BeforeMap e)
    (trace : List (LatLng R)) : es.foldl sinceResetStep trace = trace ++ received es := by
  induction es generalizing trace with
  | nil => simp
  | cons e es ih =>
    obtain ⟨he, hes⟩ := List.forall_mem_cons.mp hes
    have hstep : sinceResetStep trace e = trace ++ e.position.toList := by
      cases e with
      | message m => rfl
      | reset_trace_map => exact absurd rfl he.2
      | _ => exact (List.append_nil trace).symm
    rw [List.foldl_cons, ih hes, hstep, received_cons, List.append_assoc]

end Received

section Step

variable {s : MapState R}

/-- Centering the map changes nothing else. -/
lemma recenter_eq (s : MapState R) : ∃ map, s.recenter = { s with map := map } := by
  rw [MapState.recenter]
  split
  · exact ⟨s.marker, rfl⟩
  · exact ⟨s.map, rfl⟩

lemma Closed.recenter {l : List (LatLng R)} (hs : Closed s l) : Closed s.recenter l := by
  obtain ⟨map, h⟩ := recenter_eq s
  rw [h]
  exact ⟨hs.map_already_opened, hs.marker, hs.poly, hs.poly_marker⟩

lemma Opened.recenter {trace : List (LatLng R)} {position : LatLng R}
    (hs : Opened s trace position) : Opened s.recenter trace position := by
  obtain ⟨map, h⟩ := recenter_eq s
  rw [h]
  exact ⟨hs.map_already_opened, hs.poly, hs.marker⟩

/-- **One step before the map is opened** keeps what was received. -/
lemma closed_next (enable_gps_mapping : String) {e : MapEvent} (he : BeforeMap e)
    {l : List (LatLng R)} (hs : Closed s l) :
    Closed ((gps R enable_gps_mapping).next s e) (l ++ e.position.toList) := by
  have hnil : l ++ [] = l := List.append_nil l
  cases e with
  | message m =>
    show Closed (s.onMessage m) (l ++ [messagePosition m])
    rw [MapState.onMessage, hs.marker]
    exact ⟨hs.map_already_opened, rfl, hs.poly, by rw [hs.poly_marker]⟩
  | shown href =>
    have hhref : href ≠ "#gps" := fun h => he.1 (by rw [h])
    show Closed (s.shown enable_gps_mapping href) (l ++ [])
    rw [hnil, MapState.shown, if_neg hhref]
    exact hs
  | recenter_map =>
    show Closed s.recenter (l ++ [])
    rw [hnil]
    exact hs.recenter
  | trace_map =>
    show Closed s.traceClick (l ++ [])
    rw [hnil, MapState.traceClick, hs.poly]
    exact hs
  | reset_trace_map => exact absurd rfl he.2
  | follow_map =>
    show Closed s.followClick (l ++ [])
    rw [hnil, MapState.followClick]
    split <;> exact ⟨hs.map_already_opened, hs.marker, hs.poly, hs.poly_marker⟩
  | interval =>
    show Closed (s.interval enable_gps_mapping) (l ++ [])
    rw [hnil, MapState.interval, hs.marker]
    split <;> exact hs

/-- **Opening the map** starts the trace with what was received, and puts the marker at `LAT` and
`LNG`. -/
lemma opened_of_closed {l : List (LatLng R)} (hs : Closed s l) :
    Opened ((gps R "Yes").next s (.shown "#gps")) l ⟨LAT, LNG⟩ := by
  show Opened (s.shown "Yes" "#gps") l ⟨LAT, LNG⟩
  rw [MapState.shown, if_pos rfl, hs.map_already_opened, if_neg Bool.false_ne_true, if_pos rfl]
  refine Opened.recenter ⟨rfl, ?_, rfl⟩
  show some s.poly_marker = some l
  rw [hs.poly_marker]

/-- **One step of the open map** keeps the trace and the position. -/
lemma opened_next (enable_gps_mapping : String) (e : MapEvent) {trace : List (LatLng R)}
    {position : LatLng R} (hs : Opened s trace position) :
    Opened ((gps R enable_gps_mapping).next s e) (sinceResetStep trace e)
      (e.position.getD position) := by
  obtain ⟨poly, hpoly, hpath⟩ := Option.map_eq_some_iff.mp hs.poly
  cases e with
  | message m =>
    show Opened (s.onMessage m) (trace ++ [messagePosition m]) (messagePosition m)
    have hmoved : Opened
        { s with
          marker := some (messagePosition m)
          poly := some { poly with path := poly.path ++ [messagePosition m] } }
        (trace ++ [messagePosition m]) (messagePosition m) :=
      ⟨hs.map_already_opened, by rw [← hpath]; rfl, rfl⟩
    simp only [MapState.onMessage, hs.marker, hpoly]
    split
    · exact hmoved.recenter
    · exact hmoved
  | shown href =>
    show Opened (s.shown enable_gps_mapping href) trace position
    rw [MapState.shown, hs.map_already_opened, if_pos rfl]
    split
    · exact hs.recenter
    · exact hs
  | recenter_map => exact hs.recenter
  | trace_map =>
    show Opened s.traceClick trace position
    rw [MapState.traceClick, hpoly]
    show Opened (ite _ _ _) trace position
    split <;> exact ⟨hs.map_already_opened, congrArg some hpath, hs.marker⟩
  | reset_trace_map =>
    show Opened s.resetTraceClick [] position
    rw [MapState.resetTraceClick, hpoly]
    exact ⟨hs.map_already_opened, rfl, hs.marker⟩
  | follow_map =>
    show Opened s.followClick trace position
    rw [MapState.followClick]
    split <;> exact ⟨hs.map_already_opened, hs.poly, hs.marker⟩
  | interval =>
    show Opened (s.interval enable_gps_mapping) trace position
    rw [MapState.interval]
    split_ifs
    · exact hs.recenter
    all_goals exact hs

end Step

/-! ## Runs -/

/-- **Every run before the map is opened** keeps what was received. -/
lemma closed_run (enable_gps_mapping : String) {es : List MapEvent}
    (hes : ∀ e ∈ es, BeforeMap e) {s : MapState R} {l : List (LatLng R)} (hs : Closed s l) :
    Closed ((gps R enable_gps_mapping).run s es) (l ++ received es) := by
  induction es generalizing s l with
  | nil => simpa using hs
  | cons e es ih =>
    obtain ⟨he, hes⟩ := List.forall_mem_cons.mp hes
    rw [received_cons, ← List.append_assoc]
    exact ih hes (closed_next enable_gps_mapping he hs)

/-- **Every run of the open map** draws what is received since the last reset, and moves the marker
to the last position. -/
lemma opened_run (enable_gps_mapping : String) (es : List MapEvent) {s : MapState R}
    {trace : List (LatLng R)} {position : LatLng R} (hs : Opened s trace position) :
    Opened ((gps R enable_gps_mapping).run s es) (es.foldl sinceResetStep trace)
      ((received es).getLast?.getD position) := by
  induction es generalizing s trace position with
  | nil => exact hs
  | cons e es ih =>
    have hlast : (received (e :: es)).getLast?.getD position =
        (received es).getLast?.getD (e.position.getD position) := by
      rw [received_cons, List.getLast?_append]
      cases e.position <;> cases (received es : List (LatLng R)).getLast? <;> rfl
    rw [hlast]
    exact ih (opened_next enable_gps_mapping e hs)

/-- **The map after a run that opens it**: the trace is what was received since the last reset, and
the marker is at the last position since it was opened, or where it started. -/
lemma gps_run_opened {pre : List MapEvent} (hpre : ∀ e ∈ pre, BeforeMap e)
    (post : List MapEvent) :
    Opened ((gps R "Yes").run .start (pre ++ .shown "#gps" :: post))
      (sinceReset (pre ++ .shown "#gps" :: post))
      ((received post).getLast?.getD ⟨LAT, LNG⟩) := by
  have hstart : Closed (MapState.start : MapState R) [] := ⟨rfl, rfl, rfl, rfl⟩
  have hopen := opened_of_closed (closed_run "Yes" hpre hstart)
  have htrace : (sinceReset (pre ++ .shown "#gps" :: post) : List (LatLng R)) =
      post.foldl sinceResetStep ([] ++ received pre) := by
    rw [sinceReset, List.foldl_append, foldl_sinceResetStep hpre]
    rfl
  rw [htrace, Machine.run_append, Machine.run_cons]
  exact opened_run "Yes" post hopen

/-- **When the map is right.** In every run with mapping enabled that opens the map and resets the
trace only after that, the trace is what was received since the last reset and the marker is at the
last position received, iff a position was received since the map was opened or the last one before
that is where the marker starts.

**Proof sketch.** The trace takes over what was received before, so it is always right. The marker
does not: it is at `LAT` and `LNG` until the next message moves it. -/
theorem mapRight_iff (R : Rounding 53) (pre post : List MapEvent)
    (hpre : ∀ e ∈ pre, BeforeMap e) :
    MapRight ((gps R "Yes").run .start (pre ++ .shown "#gps" :: post))
        (pre ++ .shown "#gps" :: post) ↔
      (received post : List (LatLng R)) ≠ [] ∨
        (received pre).getLast? = some (⟨LAT, LNG⟩ : LatLng R) := by
  have hopened := gps_run_opened (R := R) hpre post
  have hall : (received (pre ++ .shown "#gps" :: post) : List (LatLng R)) =
      received pre ++ received post := by
    rw [received_append, received_cons]
    rfl
  rw [MapRight, hopened.poly, hopened.marker, hall, List.getLast?_append]
  cases hpost : (received post : List (LatLng R)) with
  | nil =>
    rw [List.getLast?_nil, Option.getD_none, Option.none_or]
    exact ⟨fun h => Or.inr h.2.symm, fun h => ⟨rfl, (h.resolve_left (absurd rfl)).symm⟩⟩
  | cons position l =>
    rw [List.getLast?_cons, Option.getD_some, Option.some_or]
    exact ⟨fun _ => Or.inl (List.cons_ne_nil _ _), fun _ => ⟨rfl, rfl⟩⟩

/-- A position before the map is opened and one after it. -/
theorem mapRight_iff_moving :
    MapRight ((gps default "Yes").run .start [.message "2,2", .shown "#gps", .message "3,3"])
      [.message "2,2", .shown "#gps", .message "3,3"] :=
  (mapRight_iff default [.message "2,2"] [.message "3,3"]
    (List.forall_mem_singleton.mpr ⟨nofun, nofun⟩)).mpr (Or.inl (List.cons_ne_nil _ _))

/-- The marker of a map that is opened after one message is not at both of two positions. -/
theorem not_mapRight_opened_later :
    ¬ ∃ R : Rounding 53, ∀ pre post : List MapEvent, (∀ e ∈ pre, BeforeMap e) →
      (received (pre ++ post) : List (LatLng R)) ≠ [] →
      MapRight ((gps R "Yes").run .start (pre ++ .shown "#gps" :: post))
        (pre ++ .shown "#gps" :: post) := by
  rintro ⟨R, h⟩
  have hmarker : ∀ message : String, messagePosition message = (⟨LAT, LNG⟩ : LatLng R) := by
    intro message
    have hpre : ∀ e ∈ [MapEvent.message message], BeforeMap e :=
      List.forall_mem_singleton.mpr ⟨nofun, nofun⟩
    have hright := (h [.message message] [] hpre (List.cons_ne_nil _ _)).2
    rw [(gps_run_opened hpre []).marker] at hright
    exact (Option.some.inj hright).symm
  have htwo : (messagePosition "2,2" : LatLng R).lat = .ofInt 2 := by
    have h : unsignedDecimal ['2'] = some ((2 : ℤ) : ℚ) := by decide +kernel
    exact congrArg Rounding.Number.ofExact h
  have hthree : (messagePosition "3,3" : LatLng R).lat = .ofInt 3 := by
    have h : unsignedDecimal ['3'] = some ((3 : ℤ) : ℚ) := by decide +kernel
    exact congrArg Rounding.Number.ofExact h
  have hint : (.ofInt 2 : JsNumber R) = .ofInt 3 := by
    rw [← htwo, ← hthree, hmarker "2,2", hmarker "3,3"]
  have hval := congrArg Rounding.Number.val hint
  rw [Rounding.Number.val_ofInt (by decide), Rounding.Number.val_ofInt (by decide)] at hval
  exact absurd hval (by decide)

end Wifibot.Dashboard
