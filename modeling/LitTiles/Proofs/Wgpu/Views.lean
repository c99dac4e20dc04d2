import LitTiles.Proofs.Wgpu.Frames
import Mathlib.Data.List.Flatten
import Mathlib.Data.List.Nodup
import Mathlib.Data.List.Pairwise

/-!
# What views show

A view is made of one image: a texture, or a texture of the surface. A platform `Sees` some views if
it made them of these images and no two of them are the same view, or show the same image. An
adapter always holds views that its platform sees so: the view of the empty texel, those of its
targets, and that of its frame (`Session.sees_serve`).

What is made anew has new numbers (`Platform.Showed`), so that all that is left to say is which
calls make views that an adapter keeps. These are the ones that configure targets and that begin a
frame.
-/

namespace LitTiles

open Wgpu

namespace Wgpu

/-- Something that a view can be made of. -/
inductive Image where
  /-- A texture. -/
  | texture (t : Handle .texture)
  /-- A texture of the surface. -/
  | surface (t : Handle .surfaceTexture)
  deriving DecidableEq

/-- An object of some kind, by its number. -/
structure Token where
  /-- The kind. -/
  kind : ObjectKind
  /-- The number among those of the kind. -/
  number : Nat
  deriving DecidableEq

/-- An image as an object. -/
def Image.token : Image → Token
  | texture t => ⟨.texture, t.number⟩
  | surface t => ⟨.surfaceTexture, t.number⟩

/-- A view and what it shows. -/
structure Sight where
  /-- The view. -/
  view : Handle .view
  /-- What it is made of. -/
  image : Image
  deriving DecidableEq

/-- The two objects. -/
def Sight.tokens (x : Sight) : List Token := [⟨.view, x.view.number⟩, x.image.token]

/-- The view that a command makes. -/
def Command.sight? : Command → Option Sight
  | .createView v t => some ⟨v, .texture t⟩
  | .createSurfaceView v t => some ⟨v, .surface t⟩
  | _ => none

/-- The view of a target. -/
def RenderTarget.sight (t : RenderTarget) : Sight := ⟨t.view, .texture t.texture⟩

/-- The view of a frame. -/
def Frame.sight (f : Frame) : Sight := ⟨f.view, .surface f.texture⟩

/-- The views that an adapter draws to and that effects sample. The texel of the empty view is not
kept by the adapter. -/
def Adapter.sights (a : Adapter) (texel : Handle .texture) : List Sight :=
  ⟨a.empty, .texture texel⟩ :: (a.targets.map (·.sight) ++ (a.frame.map (·.sight)).toList)

end Wgpu

/-! ## Platforms -/

namespace Platform

/-- The views that were made so far. -/
def sights (p : Platform) : List Sight := p.commands.filterMap (·.sight?)

/-- From one state of a platform to the other some views were made of new images, and maybe
others. -/
structure Showed (p : Platform) (new : List Sight) (p' : Platform) : Prop where
  /-- What was made stays made. -/
  kept : ∀ x ∈ p.sights, x ∈ p'.sights
  /-- The views were made. -/
  made : ∀ x ∈ new, x ∈ p'.sights
  /-- All views and images are different ones. -/
  once : (new.flatMap Sight.tokens).Nodup
  /-- They have new numbers. -/
  fresh : ∀ o ∈ new.flatMap Sight.tokens, p.made o.kind < o.number ∧ o.number ≤ p'.made o.kind
  /-- Numbers are never taken back. -/
  numbers : ∀ k, p.made k ≤ p'.made k

/-- A texture was made of one transparent texel. -/
structure Blank (p : Platform) (texel : Handle .texture) : Prop where
  /-- It has one texel. -/
  made : .createTexture texel "tessera empty channel" 1 1 .rgba8 .uploaded ∈ p.commands
  /-- This texel is transparent. -/
  written : .writeTexture texel [0, 0, 0, 0] 1 1 ∈ p.commands

/-- A platform has made some views, all different ones, of different images. -/
structure Sees (p : Platform) (xs : List Sight) : Prop where
  /-- They were made. -/
  made : ∀ x ∈ xs, x ∈ p.sights
  /-- All views and images are different ones. -/
  once : (xs.flatMap Sight.tokens).Nodup
  /-- What was made is numbered. -/
  numbered : ∀ o ∈ xs.flatMap Sight.tokens, o.number ≤ p.made o.kind

variable {p p₁ p₂ p' : Platform} {xs ys new : List Sight} {cs : List Concern}

theorem sees_nil (p : Platform) : p.Sees [] :=
  ⟨List.forall_mem_nil _, List.nodup_nil, List.forall_mem_nil _⟩

/-- What was shown in two stretches is the concatenation. The second could not show again what the
first did, since it only made new numbers. -/
theorem Showed.append (h : p.Showed xs p₁) (h' : p₁.Showed ys p₂) : p.Showed (xs ++ ys) p₂ where
  kept x hx := h'.kept x (h.kept x hx)
  made := List.forall_mem_append.mpr ⟨fun x hx => h'.kept x (h.made x hx), h'.made⟩
  once := by
    rw [List.flatMap_append]
    refine List.nodup_append.mpr ⟨h.once, h'.once, ?_⟩
    rintro o ho _ ho' rfl
    have before := (h.fresh o ho).2
    have after := (h'.fresh o ho').1
    omega
  fresh := by
    rw [List.flatMap_append]
    refine List.forall_mem_append.mpr ⟨fun o ho => ?_, fun o ho => ?_⟩
    · exact ⟨(h.fresh o ho).1, Nat.le_trans (h.fresh o ho).2 (h'.numbers _)⟩
    · exact ⟨Nat.lt_of_le_of_lt (h.numbers _) (h'.fresh o ho).1, (h'.fresh o ho).2⟩
  numbers k := Nat.le_trans (h.numbers k) (h'.numbers k)

/-- Some of the views that were seen, and those that were made since, are seen. -/
theorem Sees.renew {kept all : List Sight} (h : p.Sees xs) (hk : kept.Sublist xs)
    (showed : p.Showed new p') (ha : all.Perm (kept ++ new)) : p'.Sees all := by
  have tokens : (all.flatMap Sight.tokens).Perm
      (kept.flatMap Sight.tokens ++ new.flatMap Sight.tokens) := by
    rw [← List.flatMap_append]
    exact ha.flatMap_right _
  have old : ∀ o ∈ kept.flatMap Sight.tokens, o.number ≤ p.made o.kind :=
    fun o ho => h.numbered o ((hk.flatMap _).subset ho)
  refine ⟨fun x hx => ?_, ?_, fun o ho => ?_⟩
  · rcases List.mem_append.mp (ha.mem_iff.mp hx) with hx | hx
    · exact showed.kept x (h.made x (hk.subset hx))
    · exact showed.made x hx
  · refine tokens.nodup_iff.mpr
      (List.nodup_append.mpr ⟨h.once.sublist (hk.flatMap _), showed.once, ?_⟩)
    rintro o ho _ ho' rfl
    have before := old o ho
    have after := (showed.fresh o ho').1
    omega
  · rcases List.mem_append.mp (tokens.mem_iff.mp ho) with ho | ho
    · exact Nat.le_trans (old o ho) (showed.numbers _)
    · exact (showed.fresh o ho).2

/-- No two of the views that are seen are the same view, or show the same image. -/
theorem Sees.nodup (h : p.Sees xs) : xs.Nodup ∧
    ∀ x ∈ xs, ∀ y ∈ xs, x.view = y.view ∨ x.image = y.image → x = y := by
  obtain ⟨-, apart⟩ := List.nodup_flatMap.mp h.once
  have symmetric : Std.Symm (Function.onFun List.Disjoint Sight.tokens) :=
    ⟨fun _ _ disjoint o hy hx => disjoint hx hy⟩
  refine ⟨apart.imp fun {x y} disjoint same => ?_, fun x hx y hy same => by_contra fun other => ?_⟩
  · exact disjoint List.mem_cons_self (same ▸ List.mem_cons_self)
  · have disjoint : x.tokens.Disjoint y.tokens := apart.forall hx hy other
    rcases same with same | same
    · exact disjoint List.mem_cons_self (by simp [Sight.tokens, same])
    · exact disjoint (List.mem_cons_of_mem _ List.mem_cons_self) (by simp [Sight.tokens, same])

/-- A stretch that is confined to some concerns keeps what was seen, and unveils nothing that is to
be kept. -/
theorem Saw.showed (h : p.Saw cs p') : p.Showed [] p' where
  kept x hx := by
    obtain ⟨more, grown, -⟩ := h.history
    rw [sights, commands, grown, List.filterMap_append, List.filterMap_append]
    exact List.mem_append_left _ hx
  made := List.forall_mem_nil _
  once := List.nodup_nil
  fresh := List.forall_mem_nil _
  numbers := h.made

theorem showed_nil (p : Platform) : p.Showed [] p :=
  have saw : p.Saw [] p := .refl p
  saw.showed

/-- What is shown later on is new from the start. -/
theorem Showed.trans (h : p.Showed [] p₁) (h' : p₁.Showed new p₂) : p.Showed new p₂ := h.append h'

/-- A stretch that unveils nothing may follow. -/
theorem Showed.trans_nil (h : p.Showed new p₁) (h' : p₁.Showed [] p₂) : p.Showed new p₂ := by
  have both := h.append h'
  rwa [List.append_nil] at both

/-- An object was made by a command. -/
structure Made (p : Platform) {k : ObjectKind} (o : Handle k) (c : Wgpu.Command)
    (p' : Platform) : Prop where
  /-- It has the next number. -/
  object : o = (p.fresh k).1
  /-- The command was given. -/
  platform : p' = (p.fresh k).2.add (.device c)

variable {k : ObjectKind} {o : Handle k} {c : Wgpu.Command} {v : Handle .view} {image : Image}

/-- A new object has the next number of its kind. -/
theorem Made.number (h : p.Made o c p') : o.number = p.made k + 1 := by
  rw [h.object]
  rfl

/-- Only the counter of its own kind has moved. -/
theorem Made.made (h : p.Made o c p') (k' : ObjectKind) :
    p'.made k' = if k' = k then p.made k + 1 else p.made k' := by
  rw [h.platform]
  rfl

/-- The command that makes it was given. -/
theorem Made.commands (h : p.Made o c p') : p'.commands = p.commands ++ [c] := by
  rw [h.platform]
  exact ((p.fresh k).2.gave_add (.device c)).commands

/-- If the command makes a view, that view is seen from now on. -/
theorem Made.sights (h : p.Made o c p') : p'.sights = p.sights ++ c.sight?.toList := by
  rw [Platform.sights, h.commands, List.filterMap_append]
  refine congrArg (p.sights ++ ·) ?_
  cases hs : c.sight? with
  | none => exact List.filterMap_cons_none hs
  | some x => exact List.filterMap_cons_some hs

/-- Whatever was seen is still seen after something was made. -/
theorem Made.showed (h : p.Made o c p') : p.Showed [] p' := by
  have saw : p.Saw [c.concern] ((p.fresh k).2.add (.device c)) :=
    (p.saw_fresh k).trans ((p.fresh k).2.saw_add (List.mem_singleton.mpr rfl))
  rw [h.platform]
  exact saw.showed

/-- An image is made, and then a view of it. -/
theorem showed_of_made (hk : k ≠ .view) (first : p.Made o c p₁)
    (token : image.token = ⟨k, o.number⟩) (between : p₁.Showed [] p₂) {c' : Wgpu.Command}
    (second : p₂.Made v c' p') (hc : c'.sight? = some ⟨v, image⟩) :
    p.Showed [⟨v, image⟩] p' := by
  have number := first.number
  have grown := between.numbers k
  rw [first.made, if_pos rfl] at grown
  obtain ⟨kept, -, -, -, numbers⟩ := (first.showed.trans between).trans second.showed
  refine ⟨kept, List.forall_mem_singleton.mpr ?_, ?_, ?_, numbers⟩
  · rw [second.sights, hc]
    exact List.mem_append_right _ List.mem_cons_self
  · have apart : (⟨.view, v.number⟩ : Token) ≠ ⟨k, o.number⟩ :=
      fun same => hk (congrArg Token.kind same).symm
    simpa [Sight.tokens, token] using apart
  · have before := (first.showed.trans between).numbers .view
    refine List.forall_mem_cons.mpr ⟨?_, List.forall_mem_singleton.mpr ?_⟩
    · rw [second.made, if_pos rfl, second.number]
      exact ⟨Nat.lt_succ_of_le before, Nat.le_refl _⟩
    · rw [token, second.made, if_neg hk, number]
      exact ⟨Nat.lt_succ_self _, grown⟩

end Platform

/-! ## Computations on a platform -/

namespace PlatformM

variable {α β : Type} {cs : List Concern} {m : PlatformM α} {f : α → PlatformM β} {p p' : Platform}

/-- The answer of the computation, if it has one, has to do with views that were made, and with what
the platform is then. -/
def Unveils (about : α → List Sight → Platform → Prop) (m : PlatformM α) : Prop :=
  ∀ p v p', m.Leads p (.ok v) p' → ∃ xs, about v xs p' ∧ p.Showed xs p'

theorem unveils_pure {about : α → List Sight → Platform → Prop} {v : α} (hv : ∀ p, about v [] p) :
    (pure v : PlatformM α).Unveils about := by
  intro p w p' h
  obtain ⟨hw, rfl⟩ := leads_pure h
  obtain rfl := Except.ok.inj hw
  exact ⟨[], hv p', p'.showed_nil⟩

/-- What comes before views are made. -/
theorem Confined.unveils_bind {about : β → List Sight → Platform → Prop} (hm : m.Confined cs)
    (hf : ∀ v, (f v).Unveils about) :
    (m >>= f).Unveils about := by
  intro p w p' h
  rcases leads_bind h with ⟨e, he, -⟩ | ⟨v, p₁, h, h'⟩
  · cases he
  · obtain ⟨xs, hx, showed⟩ := hf v _ _ _ h'
    exact ⟨xs, hx, (hm _ _ _ h).showed.trans showed⟩

/-- Reading the platform unveils nothing. -/
theorem unveils_get_bind {about : α → List Sight → Platform → Prop} {f : Platform → PlatformM α}
    (hf : ∀ p, (f p).Unveils about) : ((get : PlatformM Platform) >>= f).Unveils about :=
  fun p v p' h => hf p p v p' (leads_get_bind h)

/-- The rule of sequencing: what the rest unveils comes behind what the first part did. -/
theorem Unveils.bind {about : α → List Sight → Platform → Prop}
    {about' : β → List Sight → Platform → Prop} (hm : m.Unveils about)
    (hf : ∀ v xs p, about v xs p → (f v).Unveils fun w ys p' => about' w (xs ++ ys) p') :
    (m >>= f).Unveils about' := by
  intro p w p' h
  rcases leads_bind h with ⟨e, he, -⟩ | ⟨v, p₁, h, h'⟩
  · cases he
  · obtain ⟨xs, hx, showed⟩ := hm _ _ _ h
    obtain ⟨ys, hy, showed'⟩ := hf v xs p₁ hx _ _ _ h'
    exact ⟨xs ++ ys, hy, showed.append showed'⟩

/-- What is made of the answer has to do with the same views. -/
theorem Unveils.map {about : α → List Sight → Platform → Prop}
    {about' : β → List Sight → Platform → Prop} {g : α → β} (hm : m.Unveils about)
    (hg : ∀ v xs p, about v xs p → about' (g v) xs p) :
    (m >>= fun v => pure (g v)).Unveils about' := by
  intro p w p' h
  rcases leads_bind h with ⟨e, he, -⟩ | ⟨v, p₁, hv, h'⟩
  · cases he
  · obtain ⟨hw, rfl⟩ := leads_pure h'
    obtain rfl := Except.ok.inj hw
    obtain ⟨xs, hx, showed⟩ := hm _ _ _ hv
    exact ⟨xs, hg v xs p' hx, showed⟩

/-- Making an object at the front of a `do` block, with what is known of the new object. -/
theorem leads_make_bind {k : ObjectKind} {command : Handle k → Wgpu.Command}
    {f : Handle k → PlatformM β} {r : Except RenderError β}
    (h : (make command >>= f).Leads p r p') :
    ∃ o p₁, p.Made o (command o) p₁ ∧ (f o).Leads p₁ r p' := ⟨_, _, ⟨rfl, rfl⟩, h⟩

/-- A command at the front of a `do` block unveils nothing that an adapter keeps. -/
theorem leads_give_bind {c : Wgpu.Command} {f : Unit → PlatformM β} {r : Except RenderError β}
    (h : (give c >>= f).Leads p r p') : ∃ p₁, p.Gave [c] p₁ ∧ p.Showed [] p₁ ∧
    (f ()).Leads p₁ r p' :=
  have saw : p.Saw [c.concern] (p.add (.device c)) := p.saw_add (List.mem_singleton.mpr rfl)
  ⟨_, p.gave_add (.device c), saw.showed, h⟩

end PlatformM

namespace Wgpu

open PlatformM

/-- A target unveils the one view of its own new texture. -/
theorem unveils_renderTarget (index : Nat) (size : SurfaceSize) (format : TextureFormat) :
    (RenderTarget.make index size format).Unveils fun t xs _ => xs = [t.sight] := by
  intro p t p' h
  obtain ⟨texture, p₁, first, h⟩ := leads_make_bind h
  obtain ⟨view, p₂, second, h⟩ := leads_make_bind h
  obtain ⟨ht, rfl⟩ := leads_pure h
  obtain rfl := Except.ok.inj ht
  exact ⟨_, rfl, Platform.showed_of_made (by decide) first rfl p₁.showed_nil second rfl⟩

/-- A row of targets unveils their views in order. By induction on the sizes. -/
theorem unveils_renderTargets (sizes : List (SurfaceSize × Nat)) (format : TextureFormat) :
    PlatformM.Unveils (fun ts xs _ => xs = ts.map RenderTarget.sight)
      (sizes.mapM fun (size, i) => RenderTarget.make i size format) := by
  induction sizes with
  | nil => exact unveils_pure fun _ => rfl
  | cons x sizes ih =>
    rw [List.mapM_cons]
    refine (unveils_renderTarget _ _ _).bind fun t xs _ hx => ih.map fun ts ys _ hy => ?_
    rw [hx, hy]
    rfl

/-- The empty view shows a texture of one texel, which was written to be transparent. -/
theorem unveils_makeEmptyView :
    makeEmptyView.Unveils fun v xs p => ∃ texel, xs = [⟨v, .texture texel⟩] ∧ p.Blank texel := by
  intro p v p' h
  obtain ⟨texture, p₁, first, h⟩ := leads_make_bind h
  obtain ⟨p₂, gave, written, h⟩ := leads_give_bind h
  obtain ⟨view, p₃, second, h⟩ := leads_make_bind h
  obtain ⟨p₄, gave', dropped, h⟩ := leads_give_bind h
  obtain ⟨hv, rfl⟩ := leads_pure h
  obtain rfl := Except.ok.inj hv
  have showed : p.Showed [⟨v, .texture texture⟩] p₃ :=
    Platform.showed_of_made (by decide) first rfl written second rfl
  have blank : p'.Blank texture := by
    constructor <;> simp [gave'.commands, second.commands, gave.commands, first.commands]
  exact ⟨_, ⟨texture, rfl, blank⟩, showed.trans_nil dropped⟩

namespace Adapter

/-- An adapter starts with the view of a texel. -/
theorem unveils_connect (size : SurfaceSize) (o : DeviceOptions) :
    (connect size o).Unveils fun a xs p => ∃ texel, xs = a.sights texel ∧ p.Blank texel := by
  have object : Concern.object ∈ [Concern.surface, .buffer, .object] := by decide
  have buffer : Concern.buffer ∈ [Concern.surface, .buffer, .object] := by decide
  -- up to the last step nothing makes a view
  refine (confined_openDevice (by decide) object size o).unveils_bind fun config => ?_
  refine (confined_layouts object).unveils_bind fun layouts => ?_
  refine (confined_makePipeline object _ _ _ _ _ _).unveils_bind fun _ => ?_
  refine (confined_makePipeline object _ _ _ _ _ _).unveils_bind fun _ => ?_
  refine (confined_makePipeline object _ _ _ _ _ _).unveils_bind fun _ => ?_
  refine (confined_makePipeline object _ _ _ _ _ _).unveils_bind fun _ => ?_
  refine (confined_filledBuffer buffer _ _ _).unveils_bind fun _ => ?_
  refine (confined_filledBuffer buffer _ _ _).unveils_bind fun _ => ?_
  refine (confined_make fun _ => buffer).unveils_bind fun _ =>
    (confined_make fun _ => object).unveils_bind fun _ => ?_
  refine unveils_get_bind fun _ => (confined_arena buffer _ _ _ _).unveils_bind fun _ => ?_
  refine (confined_arena buffer _ _ _ _).unveils_bind fun _ =>
    (confined_arena buffer _ _ _ _).unveils_bind fun _ => ?_
  refine (confined_make fun _ => object).unveils_bind fun _ =>
    (confined_make fun _ => object).unveils_bind fun _ => ?_
  -- the view of the empty texture is the first one, and its contents are blank
  refine unveils_makeEmptyView.map fun empty xs p hx => ?_
  obtain ⟨texel, rfl, blank⟩ := hx
  exact ⟨texel, rfl, blank⟩

/-! ## Adapters -/

open AdapterM

variable {s s' : Session}

/-- An object made by the adapter at the front of a `do` block. -/
theorem made_make_bind {k : ObjectKind} {command : Handle k → Command} {β : Type}
    {f : Handle k → AdapterM β} {r : Except RenderError β}
    (h : (AdapterM.make command >>= f).Leads s r s') :
    ∃ o t, t.adapter = s.adapter ∧ s.platform.Made o (command o) t.platform ∧ (f o).Leads t r s' :=
  ⟨(s.platform.fresh k).1,
    { s with platform := (s.platform.fresh k).2.add (.device (command (s.platform.fresh k).1)) },
    rfl, ⟨rfl, rfl⟩, h⟩

/-- A frame that begins has a view of its own. -/
theorem showed_takeTexture {r : Except RenderError Acquired} (h : takeTexture.Leads s r s') :
    ∃ f, r = .ok (.frame f) ∧ s.platform.Showed [f.sight] s'.platform := by
  obtain ⟨texture, t, -, first, h⟩ := made_make_bind h
  obtain ⟨view, u, -, second, h⟩ := made_make_bind h
  obtain ⟨encoder, w, -, third, h⟩ := made_make_bind h
  obtain ⟨rfl, rfl⟩ := AdapterM.leads_pure h
  have showed : s.platform.Showed [⟨view, .surface texture⟩] u.platform :=
    Platform.showed_of_made (by decide) first rfl t.platform.showed_nil second rfl
  exact ⟨_, rfl, showed.trans_nil third.showed⟩

/-- The view of the frame that an attempt comes to, if it does. -/
def Acquired.sights : Acquired → List Sight
  | .frame f => [f.sight]
  | _ => []

/-- An attempt to acquire unveils the view of the texture it got, if it got one. -/
theorem showed_acquireOnce {r : Except RenderError Acquired} (h : acquireOnce.Leads s r s') :
    s.platform.Showed ((r.toOption.map Acquired.sights).getD []) s'.platform := by
  -- attempts are counted, and nothing else is changed by that
  obtain ⟨t, rfl, ⟨-, taken⟩ | ⟨e, -, lacked⟩⟩ := AdapterM.leads_acquireOnce h
  · obtain ⟨f, rfl, kept, made, once, fresh, numbers⟩ := showed_takeTexture taken
    exact ⟨kept, made, once, fresh, numbers⟩
  · obtain ⟨no_frame, -⟩ := asked_lackTexture lacked
    have nothing : (r.toOption.map Acquired.sights).getD [] = [] := by
      cases r with
      | error e => rfl
      | ok acquired =>
        cases acquired with
        | frame f => exact absurd rfl (no_frame f)
        | _ => rfl
    have confined : acquireOnce.Confined [Concern.surface, .frame] Adapter.frame s.adapter.frame :=
      confined_acquireOnce (by decide) (by decide)
    rw [nothing]
    exact (confined _ _ _ rfl h).2.showed

/-- Of several attempts only the successful one unveils a view. By induction on the number of
attempts left. -/
theorem showed_acquire {n : Nat} {r : Except RenderError (Option Frame)}
    (h : (acquire n).Leads s r s') :
    s.platform.Showed (r.toOption.join.map Frame.sight).toList s'.platform := by
  induction n generalizing s with
  | zero =>
    obtain ⟨rfl, rfl⟩ := AdapterM.leads_pure h
    exact s'.platform.showed_nil
  | succ n ih =>
    rcases AdapterM.leads_bind h with ⟨e, rfl, ho⟩ | ⟨acquired, t, ho, h⟩
    · exact showed_acquireOnce ho
    have once := showed_acquireOnce ho
    cases acquired with
    | frame f =>
      obtain ⟨rfl, rfl⟩ := AdapterM.leads_pure h
      exact once
    | retry => exact once.trans (ih h)
    | skip =>
      obtain ⟨rfl, rfl⟩ := AdapterM.leads_pure h
      exact once

/-- Commands in a row unveil nothing that is kept. -/
theorem showed_giveAll_bind {β : Type} {ds : List Command} {f : Unit → AdapterM β}
    {r : Except RenderError β} (h : (AdapterM.giveAll ds >>= f).Leads s r s') :
    ∃ t, t.adapter = s.adapter ∧ s.platform.Showed [] t.platform ∧ (f ()).Leads t r s' :=
  have saw : s.platform.Saw (ds.map (·.concern)) (s.platform.addAll ds) :=
    s.platform.saw_addAll fun _ hc => List.mem_map_of_mem hc
  ⟨{ s with platform := s.platform.addAll ds }, rfl, saw.showed, h⟩

/-- To begin a frame shows what is recorded then. -/
theorem showed_beginFrame {visible : Rect} {r : Except RenderError Unit}
    (h : (beginFrame visible).Leads s r s') :
    s.platform.Showed (s'.adapter.frame.map (·.sight)).toList s'.platform := by
  obtain ⟨t, ht, abandoned, h⟩ := showed_giveAll_bind (leads_get_bind h)
  replace h := leads_modify_bind h
  have same : ∀ a : Adapter, (acquire 2).Confined [Concern.surface, .frame] id a :=
    fun a => confined_acquire (by decide) (by decide) 2
  rcases AdapterM.leads_bind h with ⟨e, -, ho⟩ | ⟨got, u, ho, h⟩
  · have frame : s'.adapter.frame = none := congrArg Adapter.frame (same _ _ _ _ rfl ho).1
    rw [frame]
    have acquired := showed_acquire ho
    exact abandoned.trans acquired
  · have acquired := showed_acquire ho
    obtain ⟨w, hw, written, h⟩ := showed_giveAll_bind (leads_get_bind h)
    obtain ⟨-, rfl⟩ := leads_set h
    exact (abandoned.trans acquired).trans_nil written

/-- To configure targets shows the new ones, if anything is done. -/
theorem showed_configureTargets {surface : SurfaceSize} {sizes : List SurfaceSize}
    {r : Except RenderError Unit} (h : (configureTargets surface sizes).Leads s r s') :
    s.platform.Showed (s'.adapter.targets.map (·.sight)) s'.platform := by
  -- the surface is configured, or is left alone
  have configured : ∀ {o t}, (configureSurface surface).Leads s o t →
      o = .ok () ∧ s.platform.Showed [] t.platform := by
    intro o t hc
    have confined : (configureSurface surface).Confined [Concern.surface]
        Adapter.frame s.adapter.frame :=
      confined_configureSurface (by decide) (fun _ _ => rfl) surface
    refine ⟨?_, (confined _ _ _ rfl hc).2.showed⟩
    unfold configureSurface at hc
    split at hc
    · exact (AdapterM.leads_pure hc).1
    · exact (leads_giveAll (leads_set_bind (leads_get_bind hc))).1
  rcases AdapterM.leads_bind h with ⟨e, -, hc⟩ | ⟨⟨⟩, t, hc, h⟩
  · cases (configured hc).1
  rcases AdapterM.leads_bind (leads_get_bind h) with ⟨e, -, hm⟩ | ⟨targets, u, hm, h⟩
  · obtain ⟨-, hm⟩ := leads_onPlatform hm
    obtain ⟨⟨_, ok, -⟩, -⟩ :=
      PlatformM.Prepares.mapM (fun _ => prepares_renderTarget _ _ _) _ _ _ _ hm
    cases ok
  · obtain ⟨-, hm⟩ := leads_onPlatform hm
    obtain ⟨xs, rfl, showed⟩ := unveils_renderTargets _ _ _ _ _ hm
    obtain ⟨w, hw, dropped, h⟩ := showed_giveAll_bind (leads_set_bind h)
    have say : ∀ text, (AdapterM.say .debug text).Confined [] Adapter.targets w.adapter.targets :=
      confined_say .debug
    obtain ⟨ha, said⟩ := say _ _ _ _ rfl h
    rw [ha, hw]
    exact (((configured hc).2.trans showed).trans_nil dropped).trans_nil said.showed

end Adapter

/-! ## Sessions -/

namespace Session

variable {s s' : Session} {texel : Handle .texture}

/-- The views that an adapter keeps. -/
def parts (a : Adapter) : Handle .view × List RenderTarget × Option Frame :=
  (a.empty, a.targets, a.frame)

/-- A computation that leaves targets, frame and empty view alone leaves what is seen of them. -/
theorem sees_of_confined {α : Type} {cs : List Concern} {m : AdapterM α} {r : Except RenderError α}
    (hm : ∀ v, m.Confined cs parts v) (h : s.platform.Sees (s.adapter.sights texel))
    (hl : m.Leads s r s') :
    s'.platform.Sees (s'.adapter.sights texel) := by
  obtain ⟨same, saw⟩ := hm _ _ _ _ rfl hl
  simp only [parts, Prod.mk.injEq] at same
  obtain ⟨empty, targets, frame⟩ := same
  refine h.renew (List.Sublist.refl _) saw.showed ?_
  rw [List.append_nil, Adapter.sights, empty, targets, frame]
  rfl

/-- The views of targets are made anew, and those of other targets go. -/
theorem sees_configureTargets {surface : SurfaceSize} {sizes : List SurfaceSize}
    {r : Except RenderError Unit} (h : s.platform.Sees (s.adapter.sights texel))
    (hl : (Adapter.configureTargets surface sizes).Leads s r s') :
    s'.platform.Sees (s'.adapter.sights texel) := by
  have confined : (Adapter.configureTargets surface sizes).Confined Concern.all
      (fun a => (a.empty, a.frame)) (s.adapter.empty, s.adapter.frame) :=
    Adapter.confined_configureTargets (by decide) (by decide) (fun _ _ => rfl) (fun _ _ => rfl)
      surface sizes
  obtain ⟨same, -⟩ := confined _ _ _ rfl hl
  obtain ⟨empty, frame⟩ := Prod.mk.inj same
  have rest :
      ((⟨s.adapter.empty, .texture texel⟩ : Sight) ::
        (s.adapter.frame.map (·.sight)).toList).Sublist
      (s.adapter.sights texel) := (List.sublist_append_right _ _).cons_cons _
  refine h.renew rest (Adapter.showed_configureTargets hl) ?_
  rw [Adapter.sights, empty, frame]
  exact List.perm_append_comm.cons _

/-- Without the view of a frame the others are left. -/
theorem sublist_sights (a : Adapter) (texel : Handle .texture) :
    ((⟨a.empty, .texture texel⟩ : Sight) :: a.targets.map (·.sight)).Sublist (a.sights texel) :=
  (List.sublist_append_left _ _).cons_cons _

/-- The view of a frame that begins is a new one, of a texture of the surface that is new as
well. -/
theorem sees_beginFrame {visible : Rect} {r : Except RenderError Unit}
    (h : s.platform.Sees (s.adapter.sights texel))
    (hl : (Adapter.beginFrame visible).Leads s r s') :
    s'.platform.Sees (s'.adapter.sights texel) := by
  have confined : (Adapter.beginFrame visible).Confined Concern.all (fun a => (a.empty, a.targets))
      (s.adapter.empty, s.adapter.targets) :=
    Adapter.confined_beginFrame (by decide) (by decide) (by decide) (fun _ _ => rfl)
      (fun _ _ => rfl) visible
  obtain ⟨same, -⟩ := confined _ _ _ rfl hl
  obtain ⟨empty, targets⟩ := Prod.mk.inj same
  refine h.renew (sublist_sights s.adapter texel) (Adapter.showed_beginFrame hl) ?_
  rw [Adapter.sights, empty, targets]
  rfl

/-- The view of the frame is given up; the others are kept. -/
theorem sees_endFrame (h : s.platform.Sees (s.adapter.sights texel)) :
    (s.perform (.issue .endFrame)).2.platform.Sees
    ((s.perform (.issue .endFrame)).2.adapter.sights texel) := by
  have confined : Adapter.endFrame.Confined Concern.all (fun a => (a.empty, a.targets))
      (s.adapter.empty, s.adapter.targets) :=
    Adapter.confined_endFrame (by decide) fun _ _ => rfl
  obtain ⟨same, saw⟩ := confined _ _ _ rfl (s.leads_issue .endFrame)
  obtain ⟨empty, targets⟩ := Prod.mk.inj same
  refine h.renew (sublist_sights s.adapter texel) saw.showed ?_
  have ended : (s.perform (.issue .endFrame)).2.adapter.frame = none := by
    cases s.turn_endFrame with
    | shows hf => exact hf
    | goesOn hc => cases hc
  rw [Adapter.sights, empty, targets, ended, List.append_nil]
  exact List.Perm.of_eq (congrArg _ (List.append_nil _))

/-- Each call keeps it so. Only configuring targets and frames have an argument of their own. -/
theorem sees_perform (h : s.platform.Sees (s.adapter.sights texel)) (c : Call) :
    (s.perform c).2.platform.Sees ((s.perform c).2.adapter.sights texel) := by
  -- beginning, ending and remaking the targets change what is seen, the others are confined
  have pass : Concern.pass ∈ Concern.all := by decide
  have buffer : Concern.buffer ∈ Concern.all := by decide
  have object : Concern.object ∈ Concern.all := by decide
  cases c with
  | createBuffer capacity =>
    exact sees_of_confined (fun _ =>
      Adapter.confined_createBuffer buffer (fun _ _ _ => rfl) capacity) h
      (s.leads_createBuffer capacity)
  | freeBuffer id =>
    obtain ⟨r, hl⟩ := s.leads_freeBuffer id
    exact sees_of_confined (fun _ => Adapter.confined_freeBuffer buffer (fun _ _ => rfl) id) h hl
  | issue c =>
    have hl := s.leads_issue c
    cases c with
    | loadTexture t =>
      exact sees_of_confined (fun _ => Adapter.confined_loadTexture object (fun _ _ => rfl) t) h hl
    | compileProgram name p =>
      exact sees_of_confined (fun _ =>
        Adapter.confined_compileProgram object (fun _ _ => rfl) name p) h hl
    | configureTargets size sizes => exact sees_configureTargets h hl
    | writeInstances id instances =>
      exact sees_of_confined (fun _ => Adapter.confined_writeInstances object id instances) h hl
    | beginFrame visible => exact sees_beginFrame h hl
    | clear target color =>
      exact sees_of_confined (fun _ => Adapter.confined_clear pass target color) h hl
    | drawSprites target mode id calls =>
      exact sees_of_confined (fun _ => Adapter.confined_drawSprites pass target mode id calls) h hl
    | drawLight target light =>
      exact sees_of_confined (fun _ =>
        Adapter.confined_drawLight buffer object pass (fun _ _ => rfl) target light) h hl
    | drawShadows target corners =>
      exact sees_of_confined (fun _ =>
        Adapter.confined_drawShadows buffer object pass (fun _ _ => rfl) target corners)
        h hl
    | runProgram name inputs output uniforms clear =>
      exact sees_of_confined (fun _ =>
        Adapter.confined_runProgram buffer object pass (fun _ _ => rfl) name inputs output
        uniforms clear) h hl
    | endFrame => exact sees_endFrame h

/-- **At any time an adapter holds views that were made for it, no two of which are the same view or
show the same image.** The empty view shows a single texel. -/
theorem sees_serve {size : SurfaceSize} {o : DeviceOptions} {window : WindowId} {p : Platform}
    (hs : Session.start size o window p = .ok s) :
    ∃ texel, s.platform.Blank texel ∧ ∀ calls,
    (s.serve calls).platform.Sees ((s.serve calls).adapter.sights texel) := by
  obtain ⟨xs, ⟨texel, rfl, blank⟩, showed⟩ :=
    Adapter.unveils_connect size o p s.adapter s.platform (leads_start hs)
  refine ⟨texel, blank, fun calls => ?_⟩
  induction calls using List.reverseRecOn with
  | nil => exact p.sees_nil.renew (List.Sublist.refl _) showed (List.Perm.refl _)
  | append_singleton calls c ih =>
    rw [serve_append]
    exact sees_perform ih c

end Session

end Wgpu

end LitTiles
