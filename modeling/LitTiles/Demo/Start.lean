import LitTiles.App.Control
import LitTiles.Demo.Room

/-!
# Starting the demonstration

The atlas is uploaded and a vignette is put between the composite and the surface.
-/

namespace LitTiles

namespace Demo

/-- The passes of the demonstration. -/
def passes : List Stage :=
  [{ effect := EffectName.vignette
     inputs := [OffscreenSlot.primary.index]
     output := OffscreenSlot.post0.target
     overrides :=
      [⟨"strength", .float 0.8⟩, ⟨"radius", .float 0.75⟩, ⟨"softness", .float 0.45⟩] },
   { effect := EffectName.copy
     inputs := [OffscreenSlot.post0.index]
     output := .surface }]

/-- What the demonstration does with a new renderer. -/
def onStart : Turn Renderer Control := do
  match ← (Renderer.loadTexture atlas).run with
  | .error e =>
    Script.say .error .demo ("atlas upload failed: " ++ e.message)
    return .exit
  | .ok () =>
    modify fun r => { r with passes := passes }
    Script.say .info .demo ("demo scene ready on " ++ (← get).interface.describe)
    return .proceed

end Demo

end LitTiles
