/-!
# Preferences for opening a device

Only wgpu devices are opened with preferences; contexts of the GL family come ready-made from the
host.
-/

namespace LitTiles

/-- How frames wait for the screen. -/
inductive PresentMode where
  /-- In order, one per refresh. -/
  | fifo
  /-- At once. -/
  | immediate
  deriving DecidableEq, Inhabited

/-- The name of a mode. -/
def PresentMode.label : PresentMode → String
  | fifo => "Fifo"
  | immediate => "Immediate"

/-- Which adapter to prefer. -/
inductive PowerPreference where
  /-- The economical one. -/
  | lowPower
  /-- The fast one. -/
  | highPerformance
  deriving DecidableEq, Inhabited

/-- The name of a preference. -/
def PowerPreference.label : PowerPreference → String
  | lowPower => "LowPower"
  | highPerformance => "HighPerformance"

/-- Preferences for a device and its surface. -/
structure DeviceOptions where
  /-- Native interfaces an adapter may come from, as a bit set. -/
  backends : Nat := 63
  /-- Which adapter to prefer. -/
  power : PowerPreference := .highPerformance
  /-- Whether to take an sRGB surface (and sRGB atlases) when there is one. -/
  preferSrgb : Bool := true
  /-- How frames wait for the screen. -/
  presentMode : PresentMode := .fifo
  /-- Frames that may be under way. -/
  frameLatency : Nat := 2
  /-- Whether to ask for the limits of WebGL2 class devices only. -/
  downlevelLimits : Bool := true
  deriving Inhabited

end LitTiles
