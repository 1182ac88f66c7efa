import Wifibot.RawServer.SerialDecoder
import Mathlib.Data.Rat.Defs

set_option relaxedAutoImplicit false
set_option autoImplicit false

/-!
# The telemetry of the dashboard

`onMessage` of `www/wifibot/js/websocket.js` on the 21 bytes of a payload: the values it computes
and hands to its displays. A JavaScript number is kept as the integer or the rational it stands
for. The displays divide what they are given by a constant, which is left out.

## Main definitions

* `Wifibot.Dashboard.jsShiftLeft` — the operator `<<` of JavaScript.
* `Wifibot.Dashboard.onMessage` — the source's function.
-/

namespace Wifibot.Dashboard

/-- `x << k` in JavaScript: `x` is taken as a 32-bit number, shifted, and read as a signed one. -/
def jsShiftLeft (x : ℤ) (k : ℕ) : ℤ := (BitVec.ofInt 32 x <<< k).toInt

/-- What `onMessage` computes; `tl`, `tr`, `br` and `bl` are the arguments of `setDistance`. -/
structure Message where
  speedLeft : ℤ
  speedRight : ℤ
  speedAvg : ℚ
  battery : ℤ
  odometry_left : ℤ
  odometry_right : ℤ
  current : ℤ
  tl : ℤ
  tr : ℤ
  br : ℤ
  bl : ℤ
  deriving DecidableEq

/-- A wheel's speed, from its low and high byte. -/
def jsSpeed (lo hi : Byte) : ℤ :=
  let speed := jsShiftLeft (Byte.int hi) 8 + Byte.int lo
  if speed > 32767 then speed - 65536 else speed

/-- A wheel's odometry: the shifts are signed 32-bit numbers, the additions are not. -/
def jsOdometry (b₃ b₂ b₁ b₀ : Byte) : ℤ :=
  jsShiftLeft (Byte.int b₃) 24 + jsShiftLeft (Byte.int b₂) 16 + jsShiftLeft (Byte.int b₁) 8 +
    Byte.int b₀

/-- `onMessage`, for the bytes `dv` of a message. -/
def onMessage (dv : Payload) : Message :=
  let speedLeft := jsSpeed dv[0]! dv[1]!
  let speedRight := jsSpeed dv[9]! dv[10]!
  let speedAvg := |((speedLeft + speedRight : ℤ) : ℚ) / 2|
  { speedLeft := speedLeft
    speedRight := speedRight
    speedAvg := if speedAvg / 100 < 2 then speedAvg else 200
    battery := Byte.int dv[2]!
    odometry_left := jsOdometry dv[8]! dv[7]! dv[6]! dv[5]!
    odometry_right := jsOdometry dv[16]! dv[15]! dv[14]! dv[13]!
    current := Byte.int dv[17]!
    tl := Byte.int dv[3]!
    tr := Byte.int dv[11]!
    br := Byte.int dv[12]!
    bl := Byte.int dv[4]! }

end Wifibot.Dashboard
