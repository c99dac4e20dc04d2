import LitTiles.Gl.Command
import Mathlib.Logic.Function.Basic

/-!
# The state of a GL context that draws read

A context is one machine whose state is set by most commands and read by a few. `Machine` is the
part of this state that a draw reads, from its defaults on, and `Machine.apply` is what a command
does to it. A `Drawn` is one draw with all that it reads: `Machine.draws` lists those of some
commands.

Deleting an object takes it out of what is bound. A link forgets the uniforms of the program. The
enabled attributes and the indices belong to the vertex array that is bound.

Which uniforms of a program are samplers is known to the driver alone. It has to follow one rule
(`SamplesDeclared`): a program samples nothing unless one of its stages mentions a sampler.
-/

namespace LitTiles.Gl

/-- The value of a uniform. -/
inductive Setting where
  /-- One to four floats. -/
  | floats (values : List Scalar)
  /-- An integer. -/
  | int (value : Nat)

/-- The unit that a sampler reads; one that was not set reads the first unit. -/
def Setting.unit : Option Setting → Nat
  | some (.int n) => n
  | _ => 0

/-- A vertex attribute. -/
structure Attribute where
  /-- Whether it is read from a buffer. -/
  enabled : Bool := false
  /-- The buffer. -/
  buffer : Option (Handle .buffer) := none
  /-- Number of floats. -/
  components : Int32 := 4
  /-- Bytes from one item to the next. -/
  stride : Int32 := 0
  /-- Where the first item starts. -/
  offset : Int32 := 0
  /-- Whether there is an item per vertex (zero) or per instance (one). -/
  divisor : Nat := 0

/-- What a vertex array keeps. -/
structure VertexArray where
  /-- Attributes by location. -/
  attributes : Nat → Attribute := fun _ => {}
  /-- Where indices are read from. -/
  indices : Option (Handle .buffer) := none

/-- The state of a context, as far as draws read it. -/
structure Machine where
  /-- Vertex arrays, the one that is always there included. -/
  arrays : Option (Handle .vertexArray) → VertexArray := fun _ => {}
  /-- The vertex array that is bound. -/
  array : Option (Handle .vertexArray) := none
  /-- The buffer that attribute pointers refer to. -/
  vertices : Option (Handle .buffer) := none
  /-- The texture unit that is active. -/
  unit : Nat := 0
  /-- Textures by unit. -/
  textures : Nat → Option (Handle .texture) := fun _ => none
  /-- The program in use. -/
  program : Option (Handle .program) := none
  /-- Uniforms of programs by location. -/
  uniforms : Handle .program → Nat → Option Setting := fun _ _ => none
  /-- What is drawn to; none is the surface. -/
  framebuffer : Option (Handle .framebuffer) := none
  /-- The part that is drawn to, once it was set. -/
  viewport : Option (Int32 × Int32) := none
  /-- Whether blending is on. -/
  blending : Bool := false
  /-- The factors of the blend equation. -/
  factors : BlendFactor × BlendFactor := (.one, .zero)
  /-- The colour of clears. -/
  clearColor : Color := ⟨0, 0, 0, 0⟩

/-! ## Commands -/

namespace Command

/-- What a command sets a uniform of the program in use to. -/
def sets : Command → Nat → Option Setting
  | uniformFloats location values, l => if l = location then some (.floats values) else none
  | uniformInt location value, l => if l = location then some (.int value) else none
  | _, _ => none

end Command

/-- What some commands set uniforms to, the last one counting. -/
def settings : List Command → Nat → Option Setting
  | [], _ => none
  | c :: cs, l => (settings cs l).or (c.sets l)

namespace VertexArray

/-- Changes one attribute. -/
def onAttribute (location : Nat) (f : Attribute → Attribute) (v : VertexArray) : VertexArray :=
  { v with attributes := Function.update v.attributes location (f (v.attributes location)) }

/-- The attributes that are read from buffers. -/
def enabled (v : VertexArray) (location : Nat) : Option Attribute :=
  if (v.attributes location).enabled then some (v.attributes location) else none

/-- A buffer is deleted that the array may refer to. -/
def forget (b : Handle .buffer) (v : VertexArray) : VertexArray where
  attributes l :=
    if (v.attributes l).buffer = some b then { v.attributes l with buffer := none }
      else v.attributes l
  indices := if v.indices = some b then none else v.indices

end VertexArray

namespace Machine

/-- The vertex array that is bound. -/
def bound (m : Machine) : VertexArray := m.arrays m.array

/-- Changes the vertex array that is bound. -/
def onArray (f : VertexArray → VertexArray) (m : Machine) : Machine :=
  { m with arrays := Function.update m.arrays m.array (f m.bound) }

/-- Changes one attribute of the vertex array that is bound. -/
def onAttribute (location : Nat) (f : Attribute → Attribute) : Machine → Machine :=
  onArray (.onAttribute location f)

/-- The state after a command. -/
def apply (m : Machine) (c : Command) : Machine :=
  match c with
  | .delete .buffer b =>
    { m.onArray (.forget b) with vertices := if m.vertices = some b then none else m.vertices }
  | .delete .texture t =>
    { m with textures := fun unit => if m.textures unit = some t then none else m.textures unit }
  | .delete .framebuffer f =>
    { m with framebuffer := if m.framebuffer = some f then none else m.framebuffer }
  | .delete .vertexArray a =>
    { m with
      arrays := Function.update m.arrays (some a) {}
      array := if m.array = some a then none else m.array }
  | .linkProgram p => { m with uniforms := Function.update m.uniforms p fun _ => none }
  | .useProgram p => { m with program := some p }
  | .uniformFloats _ _ | .uniformInt _ _ =>
    match m.program with
    | some p =>
      { m with uniforms := Function.update m.uniforms p fun l => (c.sets l).or (m.uniforms p l) }
    | none => m
  | .bindBuffer .vertices b => { m with vertices := some b }
  | .bindBuffer .indices b => m.onArray fun v => { v with indices := some b }
  | .bindVertexArray a => { m with array := some a }
  | .enableAttribute l => m.onAttribute l fun t => { t with enabled := true }
  | .disableAttribute l => m.onAttribute l fun t => { t with enabled := false }
  | .attributePointer l components stride offset =>
    m.onAttribute l fun t => { t with buffer := m.vertices, components, stride, offset }
  | .attributeDivisor l divisor => m.onAttribute l fun t => { t with divisor }
  | .activeTexture unit => { m with unit }
  | .bindTexture t => { m with textures := Function.update m.textures m.unit t }
  | .bindFramebuffer f => { m with framebuffer := f }
  | .viewport width height => { m with viewport := some (width, height) }
  | .clearColor color => { m with clearColor := color }
  | .enableBlend => { m with blending := true }
  | .disableBlend => { m with blending := false }
  | .blendFunction new old => { m with factors := (new, old) }
  | _ => m

/-- The state after some commands. -/
def after (m : Machine) (cs : List Command) : Machine := cs.foldl apply m

/-! ## Draws -/

/-- The state that a draw reads besides what belongs to vertices and textures. -/
structure Pose where
  /-- What is drawn to; none is the surface. -/
  framebuffer : Option (Handle .framebuffer)
  /-- The part that is drawn to. -/
  viewport : Option (Int32 × Int32)
  /-- The program in use. -/
  program : Option (Handle .program)
  /-- Its uniforms by location. -/
  uniforms : Nat → Option Setting
  /-- The factors of the blend equation, if blending is on. -/
  blend : Option (BlendFactor × BlendFactor)

/-- What vertices are made of. -/
inductive Vertices where
  /-- The vertices come one after the other. -/
  | consecutive (count : Int32)
  /-- The vertices are chosen by indices. -/
  | indexed (buffer : Option (Handle .buffer)) (count : Int32)
  /-- The same, several times. -/
  | instanced (buffer : Option (Handle .buffer)) (count instances : Int32)

end Machine

open Machine in
/-- A draw with all that it reads. -/
structure Draw where
  /-- The target, the program with its uniforms, and blending. -/
  pose : Pose
  /-- The texture of each sampler of the program. -/
  textures : List (Option (Handle .texture))
  /-- The attributes that are enabled, by location. -/
  attributes : Nat → Option Attribute
  /-- The vertices. -/
  vertices : Vertices

/-- Something that changes a framebuffer. -/
inductive Drawn where
  /-- A framebuffer is filled with a colour. -/
  | fill (framebuffer : Option (Handle .framebuffer)) (color : Color)
  /-- Triangles are drawn. -/
  | triangles (draw : Draw)

namespace Machine

/-- The state besides vertices and textures. -/
def pose (m : Machine) : Pose where
  framebuffer := m.framebuffer
  viewport := m.viewport
  program := m.program
  uniforms := match m.program with
    | some p => m.uniforms p
    | none => fun _ => none
  blend := if m.blending then some m.factors else none

/-- The textures that samplers read, from the uniforms and the textures by unit. -/
def sampled (places : List Nat) (uniforms : Nat → Option Setting)
    (units : Nat → Option (Handle .texture)) : List (Option (Handle .texture)) :=
  places.map fun l => units (Setting.unit (uniforms l))

section Draws

-- The locations of the samplers of a program.
variable (samplers : Handle .program → List Nat)

/-- A draw of some vertices, in a state. -/
def drawing (m : Machine) (vertices : Vertices) : Drawn :=
  .triangles {
    pose := m.pose
    textures := match m.program with
      | some p => sampled (samplers p) m.pose.uniforms m.textures
      | none => []
    attributes := m.bound.enabled
    vertices }

/-- What a command draws in a state. -/
def drawn (m : Machine) : Command → Option Drawn
  | .clear => some (.fill m.framebuffer m.clearColor)
  | .drawArrays n => some (m.drawing samplers (.consecutive n))
  | .drawElements n => some (m.drawing samplers (.indexed m.bound.indices n))
  | .drawElementsInstanced n k => some (m.drawing samplers (.instanced m.bound.indices n k))
  | _ => none

/-- What commands draw, one after the other. -/
def draws (m : Machine) : List Command → List Drawn
  | [] => []
  | c :: cs => (m.drawn samplers c).toList ++ draws (m.apply c) cs

end Draws

/-! ## Laws -/

variable {samplers : Handle .program → List Nat} {m : Machine} {cs ds : List Command} {c : Command}

@[simp] theorem after_nil : m.after [] = m := rfl

/-- The state after some commands is reached one command at a time. -/
@[simp] theorem after_cons : m.after (c :: cs) = (m.apply c).after cs := rfl

/-- The state after two blocks of commands is that of the second, from where the first has led. -/
@[simp] theorem after_append : m.after (cs ++ ds) = (m.after cs).after ds := List.foldl_append

@[simp] theorem draws_nil : m.draws samplers [] = [] := rfl

/-- A command draws in the state before it. The rest is drawn in the state after it. -/
@[simp] theorem draws_cons :
    m.draws samplers (c :: cs) = (m.drawn samplers c).toList ++ (m.apply c).draws samplers cs := rfl

/-- The draws of two blocks in a row: those of the first, and those of the second in the state that
the first leaves. -/
theorem draws_append : m.draws samplers (cs ++ ds) = m.draws samplers cs ++
    (m.after cs).draws samplers ds := by
  induction cs generalizing m with
  | nil => rfl
  | cons c cs ih => simp [ih]

/-- From one state to the other some commands lead, and these are their draws. -/
def Does (samplers : Handle .program → List Nat) (m : Machine) (cs : List Command)
    (drawn : List Drawn) (m' : Machine) : Prop :=
  m.draws samplers cs = drawn ∧ m.after cs = m'

/-- Without commands nothing is drawn, and the state stays. -/
theorem does_nil : m.Does samplers [] [] m := ⟨rfl, rfl⟩

/-- Blocks compose. With this the commands of a call are followed block by block, and only the state
in between is carried from one to the next. -/
theorem Does.append {m' m'' : Machine} {drawn more : List Drawn} (h : m.Does samplers cs drawn m')
    (h' : m'.Does samplers ds more m'') : m.Does samplers (cs ++ ds) (drawn ++ more) m'' := by
  obtain ⟨rfl, rfl⟩ := h
  obtain ⟨rfl, rfl⟩ := h'
  exact ⟨draws_append, after_append⟩

/-- A change of the bound array that is none leaves the whole state. -/
@[simp] theorem onArray_id : m.onArray id = m := by
  simp [onArray, bound]

/-- Two changes of the bound array are their composition, since neither binds another one. -/
@[simp] theorem onArray_onArray (f g : VertexArray → VertexArray) :
    (m.onArray f).onArray g = m.onArray (g ∘ f) := by
  simp [onArray, bound]

end Machine

/-! ## Samplers -/

/-- Some bytes come in a row somewhere in others. -/
def occurs (word : List UInt8) : List UInt8 → Bool
  | [] => word.isEmpty
  | b :: bs => word.isPrefixOf (b :: bs) || occurs word bs

/-- The text mentions a sampler; the names of all sampler types do. -/
def mentionsSampler (text : String) : Bool := 
  occurs "sampler".toUTF8.data.toList text.toUTF8.data.toList

/-- The program that a command links. -/
def Command.links : Command → Option (Handle .program)
  | linkProgram p => some p
  | _ => none

/-- A shader with a text was attached to a program. -/
def Attached (before : List Command) (p : Handle .program) (text : String) : Prop :=
  ∃ s, .attachShader p s ∈ before ∧ .shaderSource s text ∈ before

/-- One of the shaders that were attached to a program mentions a sampler. -/
def declaresSampler (before : List Command) (p : Handle .program) : Bool :=
  before.any fun
    | .attachShader q s => q = p && before.any fun
      | .shaderSource s' text => s' = s && mentionsSampler text
      | _ => false
    | _ => false

/-- A sampler is declared in the text of some stage that is attached to the program. -/
theorem exists_of_declaresSampler {before : List Command} {p : Handle .program}
    (h : declaresSampler before p = true) : ∃ text, Attached before p text ∧
    mentionsSampler text = true := by
  obtain ⟨c, hc, declares⟩ := List.any_eq_true.mp h
  cases c with
  | attachShader q s =>
    obtain ⟨hq, declares⟩ := Bool.and_eq_true_iff.mp declares
    obtain ⟨c, hc', mentions⟩ := List.any_eq_true.mp declares
    cases c with
    | shaderSource s' text =>
      obtain ⟨hs, mentions⟩ := Bool.and_eq_true_iff.mp mentions
      exact ⟨text, ⟨s, of_decide_eq_true hq ▸ hc, of_decide_eq_true hs ▸ hc'⟩, mentions⟩
    | _ => exact Bool.noConfusion mentions
  | _ => exact Bool.noConfusion declares

/-- What a driver has to follow when it links: a program with samplers has a stage that mentions
one. -/
def SamplesDeclared (samplers : Handle .program → List Nat) (before : List Command)
    (c : Command) : Prop :=
  ∀ p ∈ c.links, samplers p ≠ [] → declaresSampler before p = true

instance (samplers : Handle .program → List Nat) (before : List Command) (c : Command) :
    Decidable (SamplesDeclared samplers before c) :=
  inferInstanceAs (Decidable (∀ p ∈ c.links, _ → _))

end LitTiles.Gl
