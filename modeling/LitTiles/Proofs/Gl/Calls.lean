import LitTiles.Proofs.Answer
import LitTiles.Proofs.Gl.Making
import LitTiles.Proofs.Gl.Runs

/-!
# The calls of a GL adapter

Each call has an inversion lemma here, which says all that it can do to the adapter and to the
context.

Most calls make no objects. They leave the tables of the adapter alone, and give commands that
follow from the adapter and the call: `Adapter.commands` is a function of these, without any context
(`leads_execute_of_spares`). If there is something wrong with the call then no command is given at
all, and `Adapter.Orders` says what there is to give otherwise.
-/

namespace LitTiles

/-- The command neither makes objects nor deletes any. -/
def Command.SparesObjects : Command → Prop
  | .loadTexture _ | .compileProgram _ _ | .configureTargets _ _ => False
  | _ => True

namespace Gl

open ContextM AdapterM

variable {s s' : Session} {x y z : Context}

/-! ## Calls that make no objects -/

namespace Adapter

/-- The texture that a channel samples. -/
def channelTexture (a : Adapter) (output : Target) (slot : Nat) :
    Except RenderError (Handle .texture) := do
  let t ← a.target? slot
  return if output = .offscreen slot then a.empty else t.texture

/-- The textures that all channels sample, in order. -/
def channelTextures (a : Adapter) (inputs : List Nat) (output : Target) :
    Except RenderError (List (Handle .texture)) := do
  let used ← (inputs.take maxChannels).mapM (a.channelTexture output)
  return used ++ List.replicate (maxChannels - used.length) a.empty

/-- What draws runs of sprites from a buffer, once a target is bound. -/
def spriteCommands (a : Adapter) (mode : SpriteMode) (b : InstanceBuffer) (calls : List DrawCall) :
    List Command :=
  (a.spriteProgram mode).select a.view ++ (applyBlend .alpha ++ (a.bindSquare ++
    (calls.flatMap (a.drawRun b.buffer) ++ releaseInstances spriteFields)))

/-- What draws a light, once a target is bound. -/
def lightCommands (a : Adapter) (light : LightInstance) : List Command :=
  a.light.select a.view ++ (applyBlend .replace ++ (a.bindSquare ++
    (a.fillStream (floatBytes light.toList) ++
      (bindInstances a.stream (signedSize LightInstance.stride) 0 lightFields ++
        ([.drawElementsInstanced (signedSize UnitSquare.indexCount) 1] ++
          releaseInstances lightFields)))))

/-- What draws shadows, once a target is bound. -/
def shadowCommands (a : Adapter) (triangles : List Vec2) : List Command :=
  a.shadow.select a.view ++ (applyBlend .replace ++
    (a.fillStream (floatBytes (triangles.flatMap (·.toList))) ++
      [.enableAttribute 0, .attributePointer 0 2 8 0, .attributeDivisor 0 0,
        .drawArrays (signedSize triangles.length)]))

/-- What runs an effect, once a target is bound. -/
def effectCommands (a : Adapter) (e : LinkedEffect) (textures : List (Handle .texture))
    (uniforms : List Scalar) (clear : Option Color) : List Command :=
  (clear.map fill).getD [] ++ ([.useProgram e.program] ++
    ((textures.zipIdx.flatMap fun (t, unit) => [.activeTexture unit, .bindTexture (some t)]) ++
      (e.bindUnits ++ (e.upload uniforms ++ (applyBlend e.blend ++ (a.bindSquare ++
        [.drawElements (signedSize UnitSquare.indexCount), .activeTexture 0]))))))

/-- The commands of a call that makes no objects, or what is wrong with it. -/
def commands (a : Adapter) : LitTiles.Command → Except RenderError (List Command)
  | .writeInstances id instances =>
    match a.buffers.lookup id with
    | none => .ok []
    | some b => .ok [.bindBuffer .vertices b.buffer,
        .bufferSubData .vertices ((instances.take b.capacity).flatMap fun i => floatBytes i.toList)]
  | .beginFrame _ => .ok (a.vertexArray.map .bindVertexArray).toList
  | .clear target color => do return (← a.bindTarget target) ++ fill color
  | .drawSprites target mode id calls =>
    match calls.find? fun c => (a.atlases.lookup c.texture).isNone with
    | some c => .error (.unknownTexture c.texture)
    | none =>
      match a.buffers.lookup id with
      | none => .ok []
      | some b =>
        if calls.isEmpty then .ok []
        else do return (← a.bindTarget target) ++ a.spriteCommands mode b calls
  | .drawLight target light => do return (← a.bindTarget target) ++ a.lightCommands light
  | .drawShadows target triangles =>
    if triangles.isEmpty then .ok []
    else do return (← a.bindTarget target) ++ a.shadowCommands triangles
  | .runProgram name inputs output uniforms clear =>
    match a.effects.lookup name with
    | none => .error (.unknownProgram name)
    | some e => do
      let textures ← a.channelTextures inputs output
      return (← a.bindTarget output) ++ a.effectCommands e textures uniforms clear
  | .endFrame => .ok [.bindFramebuffer none, .flush]
  | _ => .ok []

/-- What a call that makes no objects orders, and what the adapter has that it needs for it. -/
inductive Orders (a : Adapter) : LitTiles.Command → List Command → Prop
  /-- There is nothing to do. -/
  | nothing (c : LitTiles.Command) : Orders a c []
  /-- Instances are written to a buffer. -/
  | write {id : BufferId} {b : InstanceBuffer} (hb : a.buffers.lookup id = some b)
    (instances : List SpriteInstance) :
    Orders a (.writeInstances id instances) [.bindBuffer .vertices b.buffer,
      .bufferSubData .vertices ((instances.take b.capacity).flatMap fun i => floatBytes i.toList)]
  /-- A frame begins with the arrays of the adapter. -/
  | begin (view : Rect) {v : Handle .vertexArray} (hv : a.vertexArray = some v) :
    Orders a (.beginFrame view) [.bindVertexArray v]
  /-- A target is filled. -/
  | clear {target : Target} {bs : List Command} (hb : a.bindTarget target = .ok bs)
    (color : Color) :
    Orders a (.clear target color) (bs ++ fill color)
  /-- Sprites are drawn from a buffer. -/
  | sprites {target : Target} {bs : List Command}
    (hb : a.bindTarget target = .ok bs) {id : BufferId}
    {b : InstanceBuffer} (hid : a.buffers.lookup id = some b) (mode : SpriteMode)
      (calls : List DrawCall) :
    Orders a (.drawSprites target mode id calls) (bs ++ a.spriteCommands mode b calls)
  /-- A light is drawn. -/
  | light {target : Target} {bs : List Command} (hb : a.bindTarget target = .ok bs)
    (light : LightInstance) :
    Orders a (.drawLight target light) (bs ++ a.lightCommands light)
  /-- Shadows are drawn. -/
  | shadows {target : Target} {bs : List Command} (hb : a.bindTarget target = .ok bs)
    (triangles : List Vec2) :
    Orders a (.drawShadows target triangles) (bs ++ a.shadowCommands triangles)
  /-- An effect is run. -/
  | effect {output : Target} {bs : List Command} (hb : a.bindTarget output = .ok bs) {name : String}
    {e : LinkedEffect}
    (he : a.effects.lookup name = some e) {inputs : List Nat} {textures : List (Handle .texture)}
    (ht : a.channelTextures inputs output = .ok textures) (uniforms : List Scalar)
      (clear : Option Color) :
    Orders a (.runProgram name inputs output uniforms clear)
    (bs ++ a.effectCommands e textures uniforms clear)
  /-- A frame ends. -/
  | finish : Orders a .endFrame [.bindFramebuffer none, .flush]

/-- The commands of a call are one of the cases of `Orders`, so that proofs about all calls go by
these cases. -/
theorem orders_of_commands {a : Adapter} {c : LitTiles.Command} {cs : List Command}
    (hc : a.commands c = .ok cs) :
    a.Orders c cs := by
  -- the commands of each call are computed; where a check fails there are none to speak of
  cases c with
  | writeInstances id instances =>
    rw [commands] at hc
    split at hc <;> obtain rfl := Except.ok.inj hc
    · exact .nothing _
    · exact .write ‹_› instances
  | beginFrame view =>
    obtain rfl := Except.ok.inj hc
    cases hv : a.vertexArray with
    | none => exact .nothing _
    | some v => exact .begin view hv
  | clear target color =>
    obtain ⟨bs, hb, hc⟩ := bind_eq_ok_iff.mp hc
    obtain rfl := Except.ok.inj hc
    exact .clear hb color
  | drawSprites target mode id calls =>
    rw [commands] at hc
    split at hc
    · cases hc
    split at hc
    · obtain rfl := Except.ok.inj hc
      exact .nothing _
    split at hc
    · obtain rfl := Except.ok.inj hc
      exact .nothing _
    obtain ⟨bs, hb, hc⟩ := bind_eq_ok_iff.mp hc
    obtain rfl := Except.ok.inj hc
    exact .sprites hb ‹_› mode calls
  | drawLight target light =>
    obtain ⟨bs, hb, hc⟩ := bind_eq_ok_iff.mp hc
    obtain rfl := Except.ok.inj hc
    exact .light hb light
  | drawShadows target triangles =>
    rw [commands] at hc
    split at hc
    · obtain rfl := Except.ok.inj hc
      exact .nothing _
    obtain ⟨bs, hb, hc⟩ := bind_eq_ok_iff.mp hc
    obtain rfl := Except.ok.inj hc
    exact .shadows hb triangles
  | runProgram name inputs output uniforms clear =>
    rw [commands] at hc
    split at hc
    · cases hc
    obtain ⟨textures, ht, hc⟩ := bind_eq_ok_iff.mp hc
    obtain ⟨bs, hb, hc⟩ := bind_eq_ok_iff.mp hc
    obtain rfl := Except.ok.inj hc
    exact .effect hb ‹_› ht uniforms clear
  | endFrame =>
    obtain rfl := Except.ok.inj hc
    exact .finish
  | _ =>
    obtain rfl := Except.ok.inj hc
    exact .nothing _

/-- The adapter after a call that makes no objects: the part of the world that is visible is
kept. -/
def looking (a : Adapter) : LitTiles.Command → Adapter
  | .beginFrame view => { a with view := view }
  | _ => a

end Adapter

namespace AdapterM

variable {α : Type}

/-- The commands of a call, if there is nothing wrong with it. -/
def given : Except RenderError (List Command) → List Command
  | .ok cs => cs
  | .error _ => []

/-- The outcome of a call that gives commands, or not. -/
def outcome : Except RenderError (List Command) → Except RenderError Unit
  | .ok _ => .ok ()
  | .error e => .error e

/-- A computation does what is known of it beforehand: it gives some commands, or fails without one.
The adapter is the same afterwards. -/
def Gives (m : AdapterM Unit) (a : Adapter) (known : Except RenderError (List Command)) : Prop :=
  ∀ s r s', s.adapter = a → m.Leads s r s' →
    s'.adapter = a ∧ r = outcome known ∧ s.context.Gave (given known) s'.context

variable {a : Adapter} {known : Except RenderError (List Command)} {cs ds : List Command}

theorem gives_pure : (pure () : AdapterM Unit).Gives a (.ok []) := by
  intro s r s' ha h
  obtain ⟨rfl, rfl⟩ := leads_pure h
  exact ⟨ha, rfl, s'.context.gave_nil⟩

theorem gives_throw (e : RenderError) : (throw e : AdapterM Unit).Gives a (.error e) := by
  intro s r s' ha h
  obtain ⟨rfl, rfl⟩ := leads_throw h
  exact ⟨ha, rfl, s'.context.gave_nil⟩

theorem gives_giveAll : (giveAll cs).Gives a (.ok cs) := by
  intro s r s' ha h
  obtain ⟨hr, ha', gave⟩ := leads_giveAll h
  exact ⟨ha'.trans ha, hr, gave⟩

theorem gives_say (severity : Severity) (text : String) : (say severity text).Gives a (.ok []) := by
  intro s r s' ha h
  obtain ⟨hr, ha', gave⟩ := leads_say h
  exact ⟨ha'.trans ha, hr, gave⟩

/-- A computation that reads the adapter first gives what the rest gives for this adapter. -/
theorem gives_get_bind {f : Adapter → AdapterM Unit} (hf : (f a).Gives a known) :
    (get >>= f).Gives a known := by
  intro s r s' ha h
  exact hf s r s' ha (ha ▸ leads_get_bind h)

/-- Commands at the front are the first that are given. -/
theorem gives_giveAll_bind {f : Unit → AdapterM Unit} (hf : (f ()).Gives a (.ok ds)) :
    (giveAll cs >>= f).Gives a (.ok (cs ++ ds)) := by
  intro s r s' ha h
  obtain ⟨t, ht, gave, h⟩ := leads_giveAll_bind h
  obtain ⟨ha', hr, gave'⟩ := hf t r s' (ht.trans ha) h
  exact ⟨ha', hr, gave.append gave'⟩

/-- A look into the tables at the front. If it fails, nothing is given, which is what the `do` block
of the commands says as well. -/
theorem gives_ofExcept_bind {v : Except RenderError α} {f : α → AdapterM Unit}
    {k : α → Except RenderError (List Command)} (hf : ∀ w, v = .ok w → (f w).Gives a (k w)) :
    ((ofExcept v : AdapterM α) >>= f).Gives a (v >>= k) := by
  intro s r s' ha h
  rcases leads_ofExcept_bind h with ⟨e, rfl, rfl, rfl⟩ | ⟨w, rfl, h⟩
  · exact ⟨ha, rfl, s'.context.gave_nil⟩
  · exact hf w rfl s r s' ha h

/-- A target is bound first, and then it is drawn to. -/
theorem gives_bindTarget {target : Target} {f : Unit → AdapterM Unit}
    (hf : (f ()).Gives a (.ok ds)) :
    ((ofExcept (a.bindTarget target) : AdapterM _) >>= fun cs => giveAll cs >>= f).Gives a
      (do return (← a.bindTarget target) ++ ds) :=
  gives_ofExcept_bind fun _ _ => gives_giveAll_bind hf

end AdapterM

/-! ### Each of these calls -/

namespace Adapter

variable {a : Adapter}

/-- A channel's texture is known beforehand, and nothing happens but a warning perhaps. -/
theorem leads_channelInput {output : Target} {slot channel : Nat}
    {r : Except RenderError (Handle .texture)}
    (h : (channelInput output slot channel).Leads s r s') :
    r = s.adapter.channelTexture output slot ∧ s'.adapter = s.adapter ∧
    s.context.Gave [] s'.context := by
  unfold channelInput at h
  rcases leads_ofExcept_bind (leads_get_bind h) with ⟨e, he, rfl, rfl⟩ | ⟨t, ht, h⟩
  · exact ⟨by rw [channelTexture, he]; rfl, rfl, s'.context.gave_nil⟩
  · rw [channelTexture, ht]
    split at h
    · rename_i self
      rcases leads_bind h with ⟨e, -, hs⟩ | ⟨v, t, hs, h⟩
      · obtain ⟨he, -⟩ := leads_say hs
        cases he
      · obtain ⟨-, ha, gave⟩ := leads_say hs
        obtain ⟨rfl, rfl⟩ := leads_pure h
        exact ⟨congrArg Except.ok (if_pos self).symm, ha, gave⟩
    · rename_i other
      obtain ⟨rfl, rfl⟩ := leads_pure h
      exact ⟨congrArg Except.ok (if_neg other).symm, rfl, s'.context.gave_nil⟩

/-- The channels are looked up one after the other, up to the first that is missing. By induction on
the inputs, for every number of the first channel. -/
theorem leads_channelLoop {output : Target} {inputs : List Nat} {first : Nat}
    {r : Except RenderError (List (Handle .texture))}
    (h : ((inputs.zipIdx first).mapM fun (slot, c) => channelInput output slot c).Leads s r s') :
    r = inputs.mapM (s.adapter.channelTexture output) ∧ s'.adapter = s.adapter ∧
      s.context.Gave [] s'.context := by
  induction inputs generalizing s s' r first with
  | nil =>
    obtain ⟨rfl, rfl⟩ := leads_pure h
    exact ⟨rfl, rfl, s'.context.gave_nil⟩
  | cons slot inputs ih =>
    rw [List.zipIdx_cons, List.mapM_cons] at h
    rw [List.mapM_cons]
    -- the loop stops with the first channel that is refused
    rcases leads_bind h with ⟨e, rfl, hc⟩ | ⟨t, u, hc, h⟩
    · obtain ⟨hr, ha, gave⟩ := leads_channelInput hc
      rw [← hr]
      exact ⟨rfl, ha, gave⟩
    · obtain ⟨hr, ha, gave⟩ := leads_channelInput hc
      rw [← hr]
      rcases leads_bind h with ⟨e, rfl, hl⟩ | ⟨ts, v, hl, h⟩
      · obtain ⟨hr', ha', gave'⟩ := ih hl
        rw [← ha, ← hr']
        exact ⟨rfl, ha', gave.append gave'⟩
      · obtain ⟨hr', ha', gave'⟩ := ih hl
        obtain ⟨rfl, rfl⟩ := leads_pure h
        rw [← ha, ← hr']
        exact ⟨rfl, ha', gave.append gave'⟩

/-- So it is with all channels of a run. -/
theorem gives_channelInputs_bind {inputs : List Nat} {output : Target}
    {f : List (Handle .texture) → AdapterM Unit}
    {k : List (Handle .texture) → Except RenderError (List Command)}
    (hf : ∀ ts, a.channelTextures inputs output = .ok ts → (f ts).Gives a (k ts)) :
    (channelInputs inputs output >>= f).Gives a (a.channelTextures inputs output >>= k) := by
  intro s r s' ha h
  subst ha
  unfold channelInputs at h
  simp only [bind_assoc, pure_bind] at h
  rcases leads_bind h with ⟨e, rfl, hl⟩ | ⟨used, t, hl, h⟩
  · obtain ⟨hr, ha, gave⟩ := leads_channelLoop hl
    rw [channelTextures, ← hr]
    exact ⟨ha, rfl, gave⟩
  · obtain ⟨hr, ha, gave⟩ := leads_channelLoop hl
    have known : s.adapter.channelTextures inputs output =
        .ok (used ++ List.replicate (maxChannels - used.length) s.adapter.empty) := by
      rw [channelTextures, ← hr]
      rfl
    replace h := leads_get_bind h
    rw [ha] at h
    obtain ⟨ha', hr', gave'⟩ := hf _ known t r s' ha h
    rw [known]
    exact ⟨ha', hr', gave.append gave'⟩

theorem gives_writeInstances (id : BufferId) (instances : List SpriteInstance) :
    (writeInstances id instances).Gives a (a.commands (.writeInstances id instances)) := by
  refine gives_get_bind ?_
  rw [commands]
  cases a.buffers.lookup id with
  | none => exact gives_say _ _
  | some b => exact gives_giveAll

theorem gives_clear (target : Target) (color : Color) :
    (clear target color).Gives a (a.commands (.clear target color)) :=
  gives_get_bind (gives_bindTarget gives_giveAll)

theorem gives_drawSprites (target : Target) (mode : SpriteMode) (id : BufferId)
    (calls : List DrawCall) :
    (drawSprites target mode id calls).Gives a
    (a.commands (.drawSprites target mode id calls)) := by
  refine gives_get_bind ?_
  rw [commands]
  cases calls.find? fun c => (a.atlases.lookup c.texture).isNone with
  | some c => exact gives_throw _
  | none =>
    cases a.buffers.lookup id with
    | none => exact gives_say _ _
    | some b =>
      dsimp only
      split
      · exact gives_pure
      · exact gives_bindTarget (gives_giveAll_bind (gives_giveAll_bind (gives_giveAll_bind
          (gives_giveAll_bind gives_giveAll))))

theorem gives_drawLight (target : Target) (light : LightInstance) :
    (drawLight target light).Gives a (a.commands (.drawLight target light)) :=
  gives_get_bind (gives_bindTarget (gives_giveAll_bind (gives_giveAll_bind (gives_giveAll_bind
    (gives_giveAll_bind (gives_giveAll_bind (gives_giveAll_bind gives_giveAll)))))))

theorem gives_drawShadows (target : Target) (triangles : List Vec2) :
    (drawShadows target triangles).Gives a (a.commands (.drawShadows target triangles)) := by
  rw [commands, drawShadows]
  split
  · exact gives_pure
  · exact gives_get_bind (gives_bindTarget
      (gives_giveAll_bind (gives_giveAll_bind (gives_giveAll_bind
      gives_giveAll))))

theorem gives_runProgram (name : String) (inputs : List Nat) (output : Target)
    (uniforms : List Scalar) (clear : Option Color) :
    (runProgram name inputs output uniforms clear).Gives a
      (a.commands (.runProgram name inputs output uniforms clear)) := by
  refine gives_get_bind ?_
  rw [commands]
  cases a.effects.lookup name with
  | none => exact gives_throw _
  | some e =>
    refine gives_channelInputs_bind fun ts _ => ?_
    exact gives_bindTarget (gives_giveAll_bind
      (gives_giveAll_bind (gives_giveAll_bind (gives_giveAll_bind
      (gives_giveAll_bind (gives_giveAll_bind (gives_giveAll_bind gives_giveAll)))))))

/-- **What a call does that makes no objects is known beforehand.** -/
theorem leads_execute_of_spares {c : LitTiles.Command} {r : Except RenderError Unit}
    (hc : c.SparesObjects) (h : (execute c).Leads s r s') :
    s'.adapter = s.adapter.looking c ∧ r = outcome (s.adapter.commands c) ∧
      s.context.Gave (given (s.adapter.commands c)) s'.context := by
  cases c with
  | loadTexture t => exact hc.elim
  | compileProgram name p => exact hc.elim
  | configureTargets surface sizes => exact hc.elim
  | beginFrame view =>
    obtain ⟨hr, ha, gave⟩ := leads_giveAll (leads_get_bind (leads_modify_bind h))
    exact ⟨ha, hr, gave⟩
  | writeInstances id instances => exact gives_writeInstances id instances s r s' rfl h
  | clear target color => exact gives_clear target color s r s' rfl h
  | drawSprites target mode id calls => exact gives_drawSprites target mode id calls s r s' rfl h
  | drawLight target light => exact gives_drawLight target light s r s' rfl h
  | drawShadows target triangles => exact gives_drawShadows target triangles s r s' rfl h
  | runProgram name inputs output uniforms clear =>
    exact gives_runProgram name inputs output uniforms clear s r s' rfl h
  | endFrame => exact gives_giveAll s r s' rfl h

/-! ## Calls that make objects -/

/-- A texture is refused, or it cannot be made, or it takes the place of one that is deleted. -/
theorem leads_loadTexture {t : Texture} {r : Except RenderError Unit}
    (h : (loadTexture t).Leads s r s') :
    (∃ e, t.validate = .error e ∧ r = .error e ∧ s' = s) ∨
    t.validate = .ok () ∧ ∃ made y,
      (createTexture s.adapter.capabilities t.width t.height (some t.pixels) .nearest).Leads
      s.context made y ∧
      ((∃ e, made = .error e ∧ r = .error e ∧ s' = ⟨s.adapter, y⟩) ∨ ∃ texture, made = .ok texture ∧
        r = .ok () ∧ s'.adapter = { s.adapter with
          atlases := (t.name, texture) :: s.adapter.atlases.filter (·.1 != t.name) } ∧
        y.Gave ((s.adapter.atlases.lookup t.name).map (.delete .texture ·)).toList s'.context) := by
  unfold loadTexture at h
  rcases leads_ofExcept_bind h with ⟨e, he, rfl, rfl⟩ | ⟨⟨⟩, hv, h⟩
  · exact .inl ⟨e, he, rfl, rfl⟩
  · refine .inr ⟨hv, ?_⟩
    replace h := leads_get_bind h
    rcases leads_bind h with ⟨e, rfl, hm⟩ | ⟨texture, u, hm, h⟩
    · obtain ⟨ha, hm⟩ := leads_onContext hm
      exact ⟨_, _, hm, .inl ⟨e, rfl, rfl, by rw [← ha]⟩⟩
    · obtain ⟨ha, hm⟩ := leads_onContext hm
      obtain ⟨hr, ha', gave⟩ := leads_giveAll (leads_set_bind h)
      exact ⟨_, _, hm, .inr ⟨texture, rfl, hr, ha', gave⟩⟩

/-- A program cannot be linked, or its uniforms are looked up and it takes the place of one that is
deleted. -/
theorem leads_compileProgram {name : String} {p : EffectProgram} {r : Except RenderError Unit}
    (h : (compileProgram name p).Leads s r s') :
    ∃ linked y, (linkSource name p.source Glsl.fullscreenAttributes).Leads s.context linked y ∧
      ((∃ e, linked = .error e ∧ r = .error e ∧ s' = ⟨s.adapter, y⟩) ∨
        ∃ program made z, linked = .ok program ∧
          (LinkedEffect.make program p.uniforms p.blend).Leads y made z ∧
          ((∃ e, made = .error e) ∨ ∃ effect, made = .ok effect ∧ r = .ok () ∧
            s'.adapter = { s.adapter with
              effects := (name, effect) :: s.adapter.effects.filter (·.1 != name) } ∧
            z.Gave ((s.adapter.effects.lookup name).map fun e => .delete .program e.program).toList
              s'.context)) := by
  unfold compileProgram at h
  rcases leads_bind h with ⟨e, rfl, hl⟩ | ⟨program, t, hl, h⟩
  · obtain ⟨ha, hl⟩ := leads_onContext hl
    exact ⟨_, _, hl, .inl ⟨e, rfl, rfl, by rw [← ha]⟩⟩
  · obtain ⟨ha, hl⟩ := leads_onContext hl
    refine ⟨_, _, hl, .inr ⟨program, ?_⟩⟩
    rcases leads_bind h with ⟨e, -, hm⟩ | ⟨effect, u, hm, h⟩
    · obtain ⟨-, hm⟩ := leads_onContext hm
      exact ⟨_, _, rfl, hm, .inl ⟨e, rfl⟩⟩
    · obtain ⟨ha', hm⟩ := leads_onContext hm
      obtain ⟨hr, ha'', gave⟩ := leads_giveAll (leads_set_bind (leads_get_bind h))
      rw [ha', ha] at ha'' gave
      exact ⟨_, _, rfl, hm, .inr ⟨effect, rfl, hr, ha'', gave⟩⟩

/-- Targets are made one after the other, until one cannot be made or all of them are there. -/
inductive Built (c : Capabilities) :
    List (SurfaceSize × Nat) → Context → List RenderTarget →
    Except RenderError Unit → Context → Prop
  /-- All are there. -/
  | done (x : Context) : Built c [] x [] (.ok ()) x
  /-- One cannot be made. -/
  | failed {size : SurfaceSize} {i : Nat} {rest : List (SurfaceSize × Nat)} {x y : Context}
      {e : RenderError} (h : (RenderTarget.make c i size).Leads x (.error e) y) :
      Built c ((size, i) :: rest) x [] (.error e) y
  /-- One is made, and there may be more. -/
  | next {size : SurfaceSize} {i : Nat} {rest : List (SurfaceSize × Nat)} {x y z : Context}
      {t : RenderTarget} {ts : List RenderTarget} {r : Except RenderError Unit}
      (h : (RenderTarget.make c i size).Leads x (.ok t) y) (hrest : Built c rest y ts r z) :
      Built c ((size, i) :: rest) x (t :: ts) r z

/-- The loop that makes targets, as a relation: it appends each to the table, and stops at the first
that is refused. -/
theorem leads_targetLoop {c : Capabilities} {sizes : List (SurfaceSize × Nat)}
    {r : Except RenderError PUnit} (h : AdapterM.Leads (sizes.forM fun (size, i) => do
      let t ← onContext (RenderTarget.make c i size)
      modify fun a : Adapter => { a with targets := a.targets ++ [t] }) s r s') :
    ∃ ts, Built c sizes s.context ts r s'.context ∧
      s'.adapter = { s.adapter with targets := s.adapter.targets ++ ts } := by
  induction sizes generalizing s r with
  | nil =>
    obtain ⟨rfl, rfl⟩ := leads_pure h
    exact ⟨[], .done _, by rw [List.append_nil]⟩
  | cons size sizes ih =>
    obtain ⟨size, i⟩ := size
    -- a target that cannot be made ends the loop, and is not in the table
    rcases leads_bind h with ⟨e, rfl, hb⟩ | ⟨⟨⟩, u, hb, h⟩
    · rcases leads_bind hb with ⟨e', he, hm⟩ | ⟨t, v, -, hb⟩
      · obtain rfl := Except.error.inj he
        obtain ⟨ha, hm⟩ := leads_onContext hm
        exact ⟨[], .failed hm, by rw [ha, List.append_nil]⟩
      · obtain ⟨he, -⟩ := leads_modify hb
        cases he
    · rcases leads_bind hb with ⟨e, he, -⟩ | ⟨t, v, hm, hb⟩
      · cases he
      · obtain ⟨ha, hm⟩ := leads_onContext hm
        obtain ⟨-, rfl⟩ := leads_modify hb
        obtain ⟨ts, built, ha'⟩ := ih h
        refine ⟨t :: ts, .next hm built, ?_⟩
        rw [ha', ha]
        simp

/-- The old targets are deleted, and new ones are made as far as possible. -/
theorem leads_configureTargets {surface : SurfaceSize} {sizes : List SurfaceSize}
    {r : Except RenderError Unit} (h : (configureTargets surface sizes).Leads s r s') :
    ∃ y ts z, s.context.Gave s.adapter.deleteTargets y ∧
      Built s.adapter.capabilities sizes.zipIdx y ts r z ∧ z.Gave [] s'.context ∧
      s'.adapter = { s.adapter with targets := ts, surface := surface } := by
  unfold configureTargets at h
  obtain ⟨t, ha, gave, h⟩ := leads_giveAll_bind (leads_get_bind h)
  replace h := leads_set_bind h
  rcases leads_bind h with ⟨e, rfl, hl⟩ | ⟨⟨⟩, u, hl, h⟩
  · obtain ⟨ts, built, ha'⟩ := leads_targetLoop hl
    exact ⟨_, ts, _, gave, built, s'.context.gave_nil, ha'⟩
  · obtain ⟨ts, built, ha'⟩ := leads_targetLoop hl
    obtain ⟨rfl, ha'', gave'⟩ := leads_say h
    exact ⟨_, ts, _, gave, built, gave', ha''.trans ha'⟩

/-- A buffer is refused, or it is there under the next number. -/
theorem leads_createBuffer {capacity : Nat} {r : Except RenderError BufferId}
    (h : (createBuffer capacity).Leads s r s') :
    ∃ made y, (Context.create .buffer (refusedBy "create_buffer")).Leads s.context made y ∧
      ((∃ e, made = .error e ∧ r = .error e ∧ s' = ⟨s.adapter, y⟩) ∨ ∃ buffer, made = .ok buffer ∧
        r = .ok ⟨s.adapter.nextBuffer⟩ ∧ s'.adapter = { s.adapter with
          nextBuffer := s.adapter.nextBuffer + 1
          buffers := (⟨s.adapter.nextBuffer⟩, ⟨buffer, capacity⟩) ::
            s.adapter.buffers.filter (·.1 != ⟨s.adapter.nextBuffer⟩) } ∧
        y.Gave [.bindBuffer .vertices buffer, .bufferSize .vertices
          (signedSize (max capacity 1 * SpriteInstance.stride)) .dynamic] s'.context) := by
  unfold createBuffer at h
  rcases leads_bind h with ⟨e, rfl, hm⟩ | ⟨buffer, t, hm, h⟩
  · obtain ⟨ha, hm⟩ := leads_onContext hm
    exact ⟨_, _, hm, .inl ⟨e, rfl, rfl, by rw [← ha]⟩⟩
  · obtain ⟨ha, hm⟩ := leads_onContext hm
    obtain ⟨u, ha', gave, h⟩ := leads_giveAll_bind h
    replace h := leads_get_bind h
    dsimp only at h
    replace h := leads_set_bind h
    obtain ⟨rfl, rfl⟩ := leads_pure h
    rw [ha', ha]
    exact ⟨_, _, hm, .inr ⟨buffer, rfl, rfl, rfl, gave⟩⟩

/-- A buffer is deleted and forgotten, or it is not known. -/
theorem leads_freeBuffer {id : BufferId} {r : Except RenderError Unit}
    (h : (freeBuffer id).Leads s r s') :
    (s.adapter.buffers.lookup id = none ∧ s'.adapter = s.adapter ∧ s.context.Gave [] s'.context) ∨
    ∃ b, s.adapter.buffers.lookup id = some b ∧
      s'.adapter = { s.adapter with buffers := s.adapter.buffers.filter (·.1 != id) } ∧
      s.context.Gave [.delete .buffer b.buffer] s'.context := by
  unfold freeBuffer at h
  replace h := leads_get_bind h
  split at h
  · rename_i b hb
    obtain ⟨-, ha, gave⟩ := leads_giveAll (leads_set_bind h)
    exact .inr ⟨b, hb, ha, gave⟩
  · rename_i hb
    obtain ⟨-, ha, gave⟩ := leads_say h
    exact .inl ⟨hb, ha, gave⟩

/-! ## What calls leave alone -/

/-- A part of an adapter that commands do not set, or only effects do, is left as it is by all other
commands. -/
theorem keep_execute {κ : Type} (keep : Adapter → κ) {c : LitTiles.Command}
    {r : Except RenderError Unit}
    (atlases : ∀ (a : Adapter) x, keep { a with atlases := x } = keep a)
    (effects : ∀ name p, c = .compileProgram name p → ∀ (a : Adapter) x,
      keep { a with effects := x } = keep a)
    (targets : ∀ (a : Adapter) x y, keep { a with targets := x, surface := y } = keep a)
    (view : ∀ (a : Adapter) x, keep { a with view := x } = keep a)
    (h : (execute c).Leads s r s') :
    keep s'.adapter = keep s.adapter := by
  -- only the three commands that make objects touch a table or the targets
  by_cases spares : c.SparesObjects
  · obtain ⟨ha, -⟩ := leads_execute_of_spares spares h
    rw [ha]
    cases c with
    | beginFrame visible => exact view _ _
    | _ => rfl
  cases c with
  | loadTexture t =>
    rcases leads_loadTexture h with ⟨e, -, -, rfl⟩ | ⟨-, made, y, -,
      ⟨e, -, -, rfl⟩ | ⟨texture, -, -, ha, -⟩⟩
    · rfl
    · rfl
    · rw [ha]
      exact atlases _ _
  | compileProgram name p =>
    obtain ⟨linked, y, -, ⟨e, -, -, rfl⟩ | ⟨program, made, z, -, hm, outcome⟩⟩ :=
      leads_compileProgram h
    · rfl
    obtain ⟨effect, cs, rfl, -⟩ := LinkedEffect.leads_make hm
    rcases outcome with ⟨e, he⟩ | ⟨effect', -, -, ha, -⟩
    · cases he
    · rw [ha]
      exact effects name p rfl _ _
  | configureTargets surface sizes =>
    obtain ⟨y, ts, z, -, -, -, ha⟩ := leads_configureTargets h
    rw [ha]
    exact targets _ _ _
  | _ => exact absurd trivial spares

end Adapter

/-- A part of an adapter that calls do not set, or only effects do, is left as it is by all other
calls. -/
theorem Session.keep_perform {κ : Type} (keep : Adapter → κ) {c : Call}
    (atlases : ∀ (a : Adapter) x, keep { a with atlases := x } = keep a)
    (effects : ∀ name p, c = .issue (.compileProgram name p) →
      ∀ (a : Adapter) x, keep { a with effects := x } = keep a)
    (targets : ∀ (a : Adapter) x y, keep { a with targets := x, surface := y } = keep a)
    (view : ∀ (a : Adapter) x, keep { a with view := x } = keep a)
    (buffers : ∀ (a : Adapter) x y, keep { a with nextBuffer := x, buffers := y } = keep a)
    (s : Session) :
    keep (s.perform c).2.adapter = keep s.adapter := by
  cases c with
  | createBuffer capacity =>
    obtain ⟨-, y, -, ⟨e, -, -, h⟩ | ⟨b, -, -, ha, -⟩⟩ :=
      Adapter.leads_createBuffer (s.leads_createBuffer capacity)
    · rw [h]
    · rw [ha]
      exact buffers _ _ _
  | freeBuffer id =>
    obtain ⟨r, h⟩ := s.leads_freeBuffer id
    -- an unknown id is only reported, a known one leaves the table of buffers
    rcases Adapter.leads_freeBuffer h with ⟨-, ha, -⟩ | ⟨b, -, ha, -⟩
    · rw [ha]
    · rw [ha]
      exact buffers _ _ _
  | issue command =>
    exact Adapter.keep_execute keep atlases (fun name p hc =>
      effects name p (congrArg Call.issue hc)) targets view
      (s.leads_issue command)

end Gl

end LitTiles
