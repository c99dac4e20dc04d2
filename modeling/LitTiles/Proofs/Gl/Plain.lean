import LitTiles.Proofs.Gl.Calls
import Mathlib.Data.List.Flatten

/-!
# Calls that make no objects

Most commands are `Plain`: they make nothing, and what they change is the state of the context or
the contents of a buffer. A call that makes no objects gives plain commands, and at times fills the
buffer of lights and shadows anew. `Adapter.commands_induction` says so: what holds of both, and of
one list after another, holds of all such calls.
-/

namespace LitTiles.Gl

/-- The command makes no object, deletes none, gives no memory to any and attaches nothing. -/
@[simp] def Command.Plain : Command → Prop
  | create _ _ | createShader _ _ | delete _ _ | shaderSource _ _ | compileShader _
  | bindAttribute _ _ _
  | attachShader _ _ | linkProgram _ | detachShader _ _ | bufferSize _ _ _ | bufferData _ _ _
  | textureImage _ _ _ _ | framebufferTexture _ => False
  | _ => True

namespace Adapter

variable {a : Adapter} {cs ds : List Command}

theorem plain_bindTarget {target : Target} (h : a.bindTarget target = .ok cs) :
    ∀ c ∈ cs, c.Plain := by
  cases target with
  | surface =>
    obtain rfl := Except.ok.inj h
    simp
  | offscreen i =>
    obtain ⟨t, -, h⟩ := bind_eq_ok_iff.mp h
    obtain rfl := Except.ok.inj h
    simp

theorem plain_select (f : FixedProgram) (view : Rect) : ∀ c ∈ f.select view, c.Plain := by
  simp only [FixedProgram.select, List.mem_cons, List.mem_append, Option.mem_toList,
    Option.map_eq_some_iff]
  rintro c (rfl | ⟨l, -, rfl⟩ | ⟨l, -, rfl⟩) <;> trivial

theorem plain_applyBlend (mode : BlendMode) : ∀ c ∈ applyBlend mode, c.Plain := by
  cases mode <;> simp [applyBlend, blendFactors]

theorem plain_bindSquare (a : Adapter) : ∀ c ∈ a.bindSquare, c.Plain := by simp [bindSquare]

theorem plain_bindInstances (buffer : Handle .buffer) (stride start : Int32)
    (fields : List InstanceField) :
    ∀ c ∈ bindInstances buffer stride start fields, c.Plain := by
  refine List.forall_mem_cons.mpr ⟨trivial, List.forall_mem_flatMap.mpr fun f _ => ?_⟩
  simp

theorem plain_releaseInstances (fields : List InstanceField) :
    ∀ c ∈ releaseInstances fields, c.Plain :=
  List.forall_mem_flatMap.mpr fun i _ => by simp

theorem plain_drawRun (buffer : Handle .buffer) (call : DrawCall) :
    ∀ c ∈ a.drawRun buffer call, c.Plain := by
  unfold drawRun
  split
  · simp
  · exact List.forall_mem_append.mpr ⟨plain_bindInstances _ _ _ _, by simp⟩

/-- The commands of sprites are plain, block by block. -/
theorem plain_spriteCommands (mode : SpriteMode) (instances : InstanceBuffer)
    (calls : List DrawCall) :
    ∀ c ∈ a.spriteCommands mode instances calls, c.Plain :=
  List.forall_mem_append.mpr ⟨plain_select _ _, List.forall_mem_append.mpr ⟨plain_applyBlend _,
    List.forall_mem_append.mpr ⟨plain_bindSquare _, List.forall_mem_append.mpr
      ⟨List.forall_mem_flatMap.mpr fun _ _ => plain_drawRun _ _, plain_releaseInstances _⟩⟩⟩⟩

/-- So are those of an effect. What an effect uploads are values of uniforms. -/
theorem plain_effectCommands (e : LinkedEffect) (textures : List (Handle .texture))
    (uniforms : List Scalar) (clear : Option Color) :
    ∀ c ∈ a.effectCommands e textures uniforms clear, c.Plain := by
  have filled : ∀ c ∈ (clear.map fill).getD [], c.Plain := by cases clear <;> simp [fill]
  have bound : ∀ c ∈ textures.zipIdx.flatMap fun p =>
      [Command.activeTexture p.2, .bindTexture (some p.1)],
      c.Plain := List.forall_mem_flatMap.mpr fun p _ => by simp
  have units : ∀ c ∈ e.bindUnits, c.Plain := by
    intro c hc
    obtain ⟨p, -, hc⟩ := List.mem_filterMap.mp hc
    obtain ⟨l, -, rfl⟩ := Option.map_eq_some_iff.mp hc
    trivial
  have uploaded : ∀ c ∈ e.upload uniforms, c.Plain := by
    intro c hc
    obtain ⟨u, -, hc⟩ := List.mem_filterMap.mp hc
    obtain ⟨l, -, rfl⟩ := Option.map_eq_some_iff.mp hc
    trivial
  exact List.forall_mem_append.mpr
    ⟨filled, List.forall_mem_append.mpr ⟨by simp, List.forall_mem_append.mpr ⟨bound,
    List.forall_mem_append.mpr
    ⟨units, List.forall_mem_append.mpr ⟨uploaded, List.forall_mem_append.mpr
      ⟨plain_applyBlend _, List.forall_mem_append.mpr ⟨plain_bindSquare _, by simp⟩⟩⟩⟩⟩⟩⟩

section Induction

variable {P : List Command → Prop} (append : ∀ {cs ds}, P cs → P ds → P (cs ++ ds))
  (plain : ∀ {cs}, (∀ c ∈ cs, c.Plain) → P cs) (stream : ∀ bytes, P (a.fillStream bytes))

include append plain stream

/-- Lights and shadows fill the stream, which is not plain. A property of command lists that goes
through appending holds of theirs if it holds of plain lists and of filling the stream. -/
theorem lightCommands_induction (light : LightInstance) : P (a.lightCommands light) := by
  refine append (plain (plain_select _ _)) (append (plain (plain_applyBlend _)) ?_)
  refine append (plain (plain_bindSquare _)) (append (stream _) (plain ?_))
  exact List.forall_mem_append.mpr ⟨plain_bindInstances _ _ _ _, List.forall_mem_append.mpr
    ⟨by simp, plain_releaseInstances _⟩⟩

theorem shadowCommands_induction (triangles : List Vec2) : P (a.shadowCommands triangles) := by
  refine append (plain (plain_select _ _)) (append (plain (plain_applyBlend _)) ?_)
  exact append (stream _) (plain (by simp))

/-- **A call that makes no objects gives plain commands, and fills the buffer of lights and
shadows.** -/
theorem commands_induction {c : LitTiles.Command} (hc : a.commands c = .ok cs) : P cs := by
  cases orders_of_commands hc with
  | nothing => exact plain (List.forall_mem_nil _)
  | write hb instances => exact plain (by simp)
  | begin view hv => exact plain (by simp)
  | clear hb color => exact append (plain (plain_bindTarget hb)) (plain (by simp [fill]))
  | sprites hb hid mode calls =>
    exact append (plain (plain_bindTarget hb)) (plain (plain_spriteCommands _ _ _))
  | light hb light =>
    exact append (plain (plain_bindTarget hb)) (lightCommands_induction append plain stream light)
  | shadows hb triangles =>
    exact append (plain (plain_bindTarget hb))
      (shadowCommands_induction append plain stream triangles)
  | effect hb he ht uniforms clear =>
    exact append (plain (plain_bindTarget hb)) (plain (plain_effectCommands _ _ _ _))
  | finish => exact plain (by simp)

end Induction

end Adapter

end LitTiles.Gl
