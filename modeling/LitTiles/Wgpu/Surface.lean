import LitTiles.Device.Options
import LitTiles.Geometry.Extent

/-!
# Surfaces

A surface is what a window presents. It reports the formats and the ways of compositing it can do,
and is configured with one of each. Its next texture has to be acquired for every frame, which may
fail for a number of reasons; some are healed by configuring the surface again.
-/

namespace LitTiles.Wgpu

/-- A texture format, by name. -/
structure TextureFormat where
  /-- Its name. -/
  name : String
  deriving DecidableEq, Inhabited

namespace TextureFormat

/-- Eight bits per channel. -/
def rgba8 : TextureFormat := ⟨"Rgba8Unorm"⟩

/-- Eight bits per channel, gamma-encoded. -/
def rgba8Srgb : TextureFormat := ⟨"Rgba8UnormSrgb"⟩

/-- Eight bits per channel, gamma-encoded, blue first. -/
def bgra8Srgb : TextureFormat := ⟨"Bgra8UnormSrgb"⟩

/-- Whether a format is gamma-encoded; its name says so. -/
def isSrgb (f : TextureFormat) : Bool := f.name.endsWith "Srgb"

/-- The format of atlases for a surface: both are gamma-encoded or neither is, so that blending is
always linear. -/
def forAtlas (surface : TextureFormat) : TextureFormat :=
  if surface.isSrgb then rgba8Srgb else rgba8

end TextureFormat

/-- A way of compositing a surface with what is behind the window, by name. -/
structure AlphaMode where
  /-- Its name. -/
  name : String
  deriving DecidableEq, Inhabited

namespace AlphaMode

/-- Alpha is ignored. -/
def opaqueSurface : AlphaMode := ⟨"Opaque"⟩

/-- Whatever the system likes. -/
def automatic : AlphaMode := ⟨"Auto"⟩

end AlphaMode

/-- What a surface can do. -/
structure SurfaceCapabilities where
  /-- Formats, the preferred one first. -/
  formats : List TextureFormat := [.bgra8Srgb]
  /-- Ways of compositing, the preferred one first. -/
  alphaModes : List AlphaMode := [.opaqueSurface]
  deriving Inhabited

namespace SurfaceCapabilities

/-- The gamma-encoded formats that are looked for, best first. -/
def preferredFormats : List TextureFormat := [.bgra8Srgb, .rgba8Srgb]

/-- The format to use: a gamma-encoded one if there is one and it is wanted, else the first. -/
def format? (c : SurfaceCapabilities) (preferSrgb : Bool) : Option TextureFormat :=
  match preferSrgb, preferredFormats.find? c.formats.contains with
  | true, some f => some f
  | _, _ => c.formats.head?

/-- The way of compositing to use. The alpha that the last pass leaves means nothing, so it is
ignored where that is on offer. -/
def alphaMode (c : SurfaceCapabilities) : AlphaMode :=
  if c.alphaModes.contains .opaqueSurface then .opaqueSurface
  else c.alphaModes.head?.getD .automatic

end SurfaceCapabilities

/-- How a surface is configured. -/
structure SurfaceConfig where
  /-- Format of its textures. -/
  format : TextureFormat
  /-- Size of its textures; a surface has at least one pixel. -/
  size : SurfaceSize
  /-- How frames wait for the screen. -/
  presentMode : PresentMode
  /-- How it is composited. -/
  alphaMode : AlphaMode
  /-- Frames that may be under way. -/
  frameLatency : Nat
  deriving Inhabited

namespace SurfaceConfig

/-- The configuration for a surface of a size, or none if it has no format at all. -/
def choose? (c : SurfaceCapabilities) (size : SurfaceSize) (o : DeviceOptions) :
    Option SurfaceConfig := do
  let format ← c.format? o.preferSrgb
  return {
    format, size := ⟨max size.width 1, max size.height 1⟩, presentMode := o.presentMode
    alphaMode := c.alphaMode, frameLatency := o.frameLatency }

end SurfaceConfig

/-- Why the next texture of a surface could not be had. -/
inductive AcquireError where
  /-- It took too long. -/
  | timeout
  /-- The surface has changed. -/
  | outdated
  /-- The surface is gone. -/
  | lost
  /-- There is no memory. -/
  | outOfMemory
  /-- Something else. -/
  | other
  deriving DecidableEq, Inhabited

namespace AcquireError

/-- All of them. -/
def all : List AcquireError := [timeout, outdated, lost, outOfMemory, other]

/-- The name of an error. -/
def label : AcquireError → String
  | timeout => "timeout"
  | outdated => "outdated"
  | lost => "lost"
  | outOfMemory => "oom"
  | other => "other"

/-- The text of an error. -/
def message : AcquireError → String
  | timeout => "A timeout was encountered while trying to acquire the next frame"
  | outdated =>
    "The underlying surface has changed, and therefore the swap chain must be updated"
  | lost => "The swap chain has been lost and needs to be recreated"
  | outOfMemory => "There is no more memory left to allocate a new frame"
  | other =>
    "Acquiring a texture failed with a generic error. Check error callbacks for more information"

/-- Whether configuring the surface again may help. -/
def isHealable : AcquireError → Bool
  | lost | outdated => true
  | _ => false

end AcquireError

end LitTiles.Wgpu
