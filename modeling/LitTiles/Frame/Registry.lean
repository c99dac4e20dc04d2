import LitTiles.Backend.Script
import LitTiles.Effect.Library

/-!
# The registry of effects

Effects are compiled under a name, which the lighting chain and the passes refer to. Registering a
name again replaces what it stood for; a rejected program leaves it as it was.
-/

namespace LitTiles

/-- An effect that was compiled. -/
structure RegisteredEffect where
  /-- The effect. -/
  effect : Effect
  /-- How its output is blended. -/
  blend : BlendMode
  deriving Inhabited

/-- Compiled effects by name. -/
structure Registry where
  /-- The interface whose dialect effects are written in. -/
  interface : Interface
  /-- The effects, each name once. -/
  entries : List (String × RegisteredEffect) := []
  deriving Inhabited

namespace Registry

/-- The effect registered under a name. -/
def find? (r : Registry) (name : String) : Option RegisteredEffect := r.entries.lookup name

/-- Whether a name is registered. -/
def contains (r : Registry) (name : String) : Bool := (r.find? name).isSome

/-- The effect registered under a name, or the error of a frame that uses an unknown one. -/
def get (r : Registry) (name : String) : Except RenderError RegisteredEffect :=
  match r.find? name with
  | some e => .ok e
  | none => .error (.unknownProgram name)

/-- Lets a name stand for an effect. -/
def insert (r : Registry) (name : String) (e : RegisteredEffect) : Registry :=
  { r with entries := (name, e) :: r.entries.filter (·.1 != name) }

/-- Writes an effect in the dialect of the interface and compiles it under a name. -/
def register (name : String) (effect : Effect) (blend : BlendMode) : Action Registry Unit := do
  let dialect := (← getThe Registry).interface.dialect
  Action.issue (.compileProgram name (.ofEffect dialect effect blend))
  Action.say .debug .registry ("compiled shader `" ++ name ++ "` for " ++ dialect.describe ++
    " (" ++ blend.describe ++ ")")
  modify (·.insert name ⟨effect, blend⟩)

/-- The effects that the lighting chain and the passes can count on. -/
def builtIns : List (String × Effect × BlendMode) :=
  [(EffectName.copy, .copy, .replace),
   (EffectName.lightAccumulate, .copy, .additive),
   (EffectName.light, .light, .replace),
   (EffectName.blurH, .blurH, .replace),
   (EffectName.blurV, .blurV, .replace),
   (EffectName.vignette, .vignette, .replace),
   (EffectName.grayscale, .grayscale, .replace)]

/-- Registers the built-in effects, in order. -/
def registerBuiltIns : Action Registry Unit :=
  builtIns.forM fun b => register b.1 b.2.1 b.2.2

@[simp] theorem find?_insert_self (r : Registry) (name : String) (e : RegisteredEffect) :
    (r.insert name e).find? name = some e := by
  simp [find?, insert]

end Registry

end LitTiles
