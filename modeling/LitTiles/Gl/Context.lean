import LitTiles.Answers
import LitTiles.Gl.Capability
import LitTiles.Gl.Command
import LitTiles.Log

/-!
# GL contexts

A context takes commands one after the other. Of its answers only those are modelled that the
adapter looks at: whether an object could be made, whether a shader compiled and a program linked,
where a uniform is found, and whether a framebuffer is complete. These answers come from a `Host`,
which may be any function of how many questions of the kind were asked before; a statement about all
hosts covers every driver.

Objects of one kind are numbered from one in the order they are asked for, and no number is given
twice. The uniforms of a program get the locations zero, one, two and so on in the order they are
first asked for.
-/

namespace LitTiles.Gl

/-- The status of a framebuffer that can be drawn to. -/
def framebufferComplete : Nat := 0x8cd5

/-- What a context answers. -/
structure Host where
  /-- Version of the context. -/
  version : Version := {}
  /-- Names of its extensions. -/
  extensions : List String := []
  /-- Why an object cannot be made. -/
  creationError : ObjectKind → Answers (Option String) := fun _ => .always none
  /-- The log of a compilation that fails. -/
  compileLog : Answers (Option String) := .always none
  /-- The log of a link that fails. -/
  linkLog : Answers (Option String) := .always none
  /-- The status of a framebuffer. -/
  framebufferStatus : Answers Nat := .always framebufferComplete
  /-- Names of uniforms that are nowhere found. -/
  missingUniforms : Answers (List String) := .always []
  deriving Inhabited

/-- The state of a context. -/
structure Context where
  /-- Where its answers come from. -/
  host : Host
  /-- The commands so far. -/
  commands : Array Command := #[]
  /-- Records of the log. -/
  log : Array Record := #[]
  /-- How many objects of a kind were asked for. -/
  requested : ObjectKind → Nat := fun _ => 0
  /-- Number of compilations. -/
  compiled : Nat := 0
  /-- Number of links. -/
  linked : Nat := 0
  /-- Number of framebuffers checked. -/
  checked : Nat := 0
  /-- Number of uniforms looked up. -/
  sought : Nat := 0
  /-- The uniforms that were found, in the order they were first asked for. -/
  located : List (Handle .program × String) := []
  deriving Inhabited

/-- A computation on a context that may fail; commands given before a failure stay given. -/
abbrev ContextM (α : Type) := ExceptT RenderError (StateM Context) α

namespace Context

/-- Gives a command. -/
def give (c : Command) : ContextM Unit :=
  modify fun x => { x with commands := x.commands.push c }

/-- Gives commands in order. -/
def giveAll (cs : List Command) : ContextM Unit := cs.forM give

/-- Writes a record. -/
def say (severity : Severity) (text : String) : ContextM Unit :=
  modify fun x => { x with log := x.log.push ⟨severity, .gl, text⟩ }

/-- Asks for an object, or fails with what its refusal means to the caller. -/
def request (k : ObjectKind) (refused : String → RenderError) : ContextM (Handle k) := do
  let x ← get
  let n := x.requested k
  set { x with requested := fun k' => if k' = k then n + 1 else x.requested k' }
  match x.host.creationError k n with
  | some e => throw (refused e)
  | none => return ⟨n + 1⟩

/-- Makes an object other than a shader. -/
def create (k : ObjectKind) (refused : String → RenderError) : ContextM (Handle k) := do
  let h ← request k refused
  give (.create k h)
  return h

/-- Makes a shader. -/
def createShader (stage : ShaderStage) (refused : String → RenderError) :
    ContextM (Handle .shader) := do
  let h ← request .shader refused
  give (.createShader stage h)
  return h

/-- Compiles a shader; the answer is the log if that fails. -/
def compileShader (s : Handle .shader) : ContextM (Option String) := do
  give (.compileShader s)
  modifyGet fun x => (x.host.compileLog x.compiled, { x with compiled := x.compiled + 1 })

/-- Links a program; the answer is the log if that fails. -/
def linkProgram (p : Handle .program) : ContextM (Option String) := do
  give (.linkProgram p)
  modifyGet fun x => (x.host.linkLog x.linked, { x with linked := x.linked + 1 })

/-- The status of the bound framebuffer. -/
def checkFramebuffer : ContextM Nat :=
  modifyGet fun x => (x.host.framebufferStatus x.checked, { x with checked := x.checked + 1 })

/-- The names of the uniforms found in a program, by location. -/
def namesIn (x : Context) (p : Handle .program) : List String :=
  (x.located.filter (·.1 == p)).map (·.2)

/-- Where a uniform of a program is found. -/
def locate (p : Handle .program) (name : String) : ContextM (Option Nat) := do
  let x ← get
  let names := x.namesIn p
  let answer :=
    if (x.host.missingUniforms x.sought).contains name then none
    else some ((names.idxOf? name).getD names.length)
  let found := if answer = some names.length then [(p, name)] else []
  set { x with sought := x.sought + 1, located := x.located ++ found }
  give (.uniformLocation p name answer)
  return answer

end Context

/-- The error of a creation that is refused by the driver. -/
def refusedBy (what : String) (reason : String) : RenderError :=
  .surface (what ++ " failed: " ++ reason)

end LitTiles.Gl
