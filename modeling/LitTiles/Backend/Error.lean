import LitTiles.Program.Dialect

/-!
# Errors of rendering

Every error ends the call that produced it. They report mistakes of the caller or of the
configuration, or a host that cannot run the chosen interface; none is worth a second try.
-/

namespace LitTiles

/-- Why a rendering call failed. -/
inductive RenderError where
  /-- The host cannot run an interface. -/
  | unsupported (interface : Interface) (reason : String)
  /-- A program was rejected, with the compiler's log. -/
  | rejectedProgram (name log : String)
  /-- No program of that name was registered. -/
  | unknownProgram (name : String)
  /-- No texture of that name was loaded. -/
  | unknownTexture (name : String)
  /-- The pixels of a texture do not fill it exactly, or it has no pixels at all. -/
  | invalidTexture (name : String) (width height : UInt32) (expected actual : Nat)
  /-- A pass samples more inputs than there are channels. -/
  | tooManyInputs (program : String) (count max : Nat)
  /-- There is no offscreen target of that index. -/
  | unknownTarget (index : Nat)
  /-- Offscreen targets were used before they were configured. -/
  | notInitialized
  /-- The surface or the driver failed. -/
  | surface (text : String)
  deriving DecidableEq, Inhabited

/-- The text of an error. -/
def RenderError.message : RenderError → String
  | unsupported interface reason =>
    "backend " ++ interface.describe ++ " is not supported by this host: " ++ reason
  | rejectedProgram name log => "shader `" ++ name ++ "` failed to compile: " ++ log
  | unknownProgram name => "unknown shader `" ++ name ++ "`"
  | unknownTexture name => "unknown texture `" ++ name ++ "`"
  | invalidTexture name width height expected actual =>
    "texture `" ++ name ++ "` has " ++ toString actual ++ " bytes, expected " ++
      toString expected ++ " for " ++ toString width.toNat ++ "x" ++ toString height.toNat ++
      " RGBA8"
  | tooManyInputs program count max =>
    "pass stage `" ++ program ++ "` samples " ++ toString count ++ " inputs; at most " ++
      toString max ++ " are supported"
  | unknownTarget index => "offscreen target " ++ toString index ++ " does not exist"
  | notInitialized => "renderer used before init() completed"
  | surface text => "surface error: " ++ text

end LitTiles
