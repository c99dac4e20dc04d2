import LitTiles.Record.Recorder
import LitTiles.Record.Trace

/-!
# Traces of backend calls

The full trace shows all data of a call; the brief one shows counts in place of pixels, instances
and corners, and leaves the contents of effects out.
-/

namespace LitTiles

namespace Trace

/-- A target: the index of an offscreen one. -/
def ofTarget : Target → Trace
  | .offscreen i => nat i
  | .surface => text "surface"

/-- A colour. -/
def ofColor (c : Color) : Trace := floats c.toList

/-- A run of instances. -/
def ofDrawCall (c : DrawCall) : Trace :=
  list [text c.texture, nat c.offset.toNat, nat c.count.toNat]

/-- A view: origin and extent. -/
def ofView (r : Rect) : Trace := floats (r.origin.toList ++ r.size.toList)

/-- A blend mode. -/
def ofBlend : BlendMode → Trace
  | .replace => text "replace"
  | .alpha => text "alpha"
  | .additive => text "additive"
  | .multiply => text "multiply"

/-- What the sprite program writes. -/
def ofMode : SpriteMode → Trace
  | .color => text "color"
  | .mask => text "mask"

/-- A place in a uniform table. -/
def ofUniform (u : Uniform) : Trace := list [text u.name, text u.type.glslName, nat u.offset]

/-- The texts of a program, each by length and hash. -/
def ofSource : ProgramSource → Trace
  | .glsl v f => list [list (digest v), list (digest f)]
  | .wgsl m => list [list (digest m)]

/-- A point. -/
def ofVec (v : Vec2) : Trace := floats v.toList

/-- The handle of a buffer. -/
def ofBuffer (b : BufferId) : Trace := nat b.val.toNat

end Trace

namespace RecordedCall

open Trace

/-- The bytes of instances, in memory order. -/
def instanceBytes (instances : List SpriteInstance) : List UInt8 :=
  instances.flatMap fun i => floatBytes i.toList

/-- The arguments of the commands that both traces show alike. -/
def sharedArgs : Command → List Trace
  | .configureTargets s ts => [ofSize s, list (ts.map ofSize)]
  | .beginFrame v => [ofView v]
  | .clear t c => [ofTarget t, ofColor c]
  | .drawSprites t m b cs => [ofTarget t, ofMode m, ofBuffer b, list (cs.map ofDrawCall)]
  | .drawLight t l => [ofTarget t, floats l.toList]
  | .runProgram n is o us c =>
    [text n, nats is, ofTarget o, floats us, Trace.option ofColor c]
  | _ => []

/-- All data of a call. -/
def trace (c : RecordedCall) : Trace :=
  command (CallKind.of c.call).label <|
    match c.call with
    | .createBuffer capacity => [Trace.option ofBuffer c.made, nat capacity]
    | .freeBuffer b => [ofBuffer b]
    | .issue (.loadTexture t) =>
      [text t.name, nat t.width.toNat, nat t.height.toNat, .bytes t.pixels]
    | .issue (.compileProgram n p) =>
      [text n, ofBlend p.blend, list (p.uniforms.map ofUniform), nat p.uniformLength,
       ofSource p.source]
    | .issue (.writeInstances b is) =>
      [ofBuffer b, nat is.length, .bytes (instanceBytes is)]
    | .issue (.drawShadows t ps) => [ofTarget t, list (ps.map ofVec)]
    | .issue other => sharedArgs other

/-- A call without its data. -/
def brief (c : RecordedCall) : Trace :=
  match c.call with
  | .createBuffer capacity => command "create_buffer" [Trace.option ofBuffer c.made, nat capacity]
  | .freeBuffer b => command "free_buffer" [ofBuffer b]
  | .issue i =>
    command (CallKind.of c.call).label <|
      match i with
      | .loadTexture t => [text t.name]
      | .compileProgram n _ => [text n]
      | .writeInstances b is => [ofBuffer b, nat is.length]
      | .drawShadows t ps => [ofTarget t, nat ps.length]
      | other => sharedArgs other

end RecordedCall

end LitTiles
