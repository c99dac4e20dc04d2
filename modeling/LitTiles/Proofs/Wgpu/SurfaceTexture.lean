import LitTiles.Proofs.Backend.Ledger
import LitTiles.Proofs.Wgpu.Quiet
import LitTiles.Proofs.Wgpu.Runs

/-!
# Textures of a surface

A texture of a surface is held from the moment it is acquired until it is presented or discarded. A
surface may not be configured while a texture of it is held, and no other texture may be acquired:
`SurfaceFree` is this law.

An adapter is `Tidy` if it holds the texture of its frame and no other. From there frames begin and
end lawfully (`beginFrame_spec`, `endFrame_spec`), but targets are configured lawfully only if there
is no frame (`configureTargets_spec`).
-/

namespace LitTiles

open Wgpu

/-! ## The law -/

/-- The held textures after a happening. -/
def Happening.settle (held : List (Handle .surfaceTexture)) :
    Happening → List (Handle .surfaceTexture)
  | .device (.acquire t) => t :: held
  | .device (.present t) => held.erase t
  | .device (.discard t) => held.erase t
  | _ => held

/-- The textures of the surface that are held after a number of happenings. -/
def heldAfter (h : List Happening) : List (Handle .surfaceTexture) := h.foldl Happening.settle []

@[simp] theorem heldAfter_concat (h : List Happening) (e : Happening) :
    heldAfter (h ++ [e]) = e.settle (heldAfter h) := by
  simp [heldAfter]

/-- The surface is configured, or a texture of it is asked for. -/
def Happening.needsSurface : Happening → Bool
  | .device (.configureSurface _) | .device (.acquire _) | .device (.failAcquire _) => true
  | _ => false

/-- When the surface is configured, or a texture of it is asked for, no texture of it is held. -/
def SurfaceFree (before : List Happening) (e : Happening) : Prop :=
  e.needsSurface = true → heldAfter before = []

instance (before : List Happening) (e : Happening) : Decidable (SurfaceFree before e) :=
  inferInstanceAs (Decidable (_ → _))

namespace Happening

variable {e : Happening}

theorem IsQuiet.settle (he : e.IsQuiet) (held : List (Handle .surfaceTexture)) :
    e.settle held = held := by
  cases e with
  | device c => cases c <;> first | rfl | exact he.elim
  | _ => rfl

theorem IsQuiet.surfaceFree (he : e.IsQuiet) (before : List Happening) : SurfaceFree before e := by
  intro hn
  cases e with
  | device c => cases c <;> first | exact he.elim | cases hn
  | _ => cases hn

end Happening

namespace Platform

/-- The textures of surfaces that are held. -/
def held (p : Platform) : List (Handle .surfaceTexture) := heldAfter p.history.toList

/-- The law was kept so far. -/
def Lawful (p : Platform) : Prop := Throughout SurfaceFree p.history.toList

variable {p p' : Platform}

theorem held_add (p : Platform) (e : Happening) : (p.add e).held = e.settle p.held := by
  simp [held, add]

theorem lawful_add (p : Platform) {e : Happening} (he : e.needsSurface = true) :
    (p.add e).Lawful ↔ p.Lawful ∧ p.held = [] := by
  rw [Lawful, add, Array.toList_push, throughout_concat, SurfaceFree, imp_iff_right he]
  rfl

theorem lawful_add_other (p : Platform) {e : Happening} (he : e.needsSurface = false) :
    (p.add e).Lawful ↔ p.Lawful := by
  rw [Lawful, add, Array.toList_push, throughout_concat]
  refine and_iff_left fun hn => ?_
  rw [he] at hn
  cases hn

theorem Quietly.held (h : Quietly p p') : p'.held = p.held := by
  obtain ⟨more, he, hq⟩ := h
  rw [Platform.held, he]
  clear he
  induction more using List.reverseRecOn with
  | nil => rw [List.append_nil]; rfl
  | append_singleton more e ih =>
    rw [← List.append_assoc, heldAfter_concat, (hq e (by simp)).settle]
    exact ih fun e' he' => hq e' (List.mem_append_left _ he')

theorem Quietly.lawful (h : Quietly p p') : p'.Lawful ↔ p.Lawful := by
  obtain ⟨more, he, hq⟩ := h
  rw [Lawful, he]
  clear he
  induction more using List.reverseRecOn with
  | nil => rw [List.append_nil]; rfl
  | append_singleton more e ih =>
    rw [← List.append_assoc, throughout_concat, ih fun e' he' => hq e' (List.mem_append_left _ he')]
    exact and_iff_left ((hq e (by simp)).surfaceFree _)

end Platform

open Platform (Quietly)

namespace Wgpu

namespace Adapter

variable {a : Adapter} {p : Platform}

/-! ## Acquiring a texture -/

/-- The frame that comes with an attempt to acquire a texture. -/
def Acquired.frame? : Acquired → Option Frame
  | frame f => some f
  | _ => none

/-- The textures of an answer. -/
def textures {α : Type} (frame? : α → Option Frame) :
    Except RenderError α → List (Handle .surfaceTexture)
  | .ok v => ((frame? v).map (·.texture)).toList
  | .error _ => []

/-- A texture that is acquired is held, and it is lawful to acquire it where none is held. -/
theorem takeTexture_spec (hp : p.held = []) :
    let q := (takeTexture.run.run a).run p
    q.1.2 = a ∧ q.2.held = textures Acquired.frame? q.1.1 ∧ (q.2.Lawful ↔ p.Lawful) := by
  let t := p.fresh .surfaceTexture
  let p₁ := t.2.add (.device (.acquire t.1))
  have held : p₁.held = [t.1] := by
    rw [Platform.held_add]
    exact congrArg (t.1 :: ·) hp
  have lawful : p₁.Lawful ↔ p.Lawful := (t.2.lawful_add rfl).trans (and_iff_left hp)
  let v := p₁.fresh .view
  let p₂ := v.2.add (.device (.createSurfaceView v.1 t.1))
  let e := p₂.fresh .encoder
  let p₃ := e.2.add (.device (.createEncoder e.1 "tessera frame encoder"))
  have quiet : Quietly p₁ p₃ := by
    have h₁ : Quietly p₁ p₂ :=
      (Platform.quietly_of_history_eq rfl).trans (v.2.quietly_add trivial)
    exact (h₁.trans (Platform.quietly_of_history_eq rfl)).trans (e.2.quietly_add trivial)
  exact ⟨rfl, quiet.held.trans held, quiet.lawful.trans lawful⟩

/-- Where no texture is held none is held after a refusal, and all that is done is lawful: asking
for a texture, and configuring the surface again. -/
theorem lackTexture_spec (hp : p.held = []) (e : AcquireError) :
    let q := ((lackTexture e).run.run a).run p
    q.1.2 = a ∧ q.2.held = textures Acquired.frame? q.1.1 ∧ (q.2.Lawful ↔ p.Lawful) := by
  let p₁ := p.addAll [.failAcquire e]
  have asked : p₁ = p.add (.device (.failAcquire e)) := p.addAll_singleton _
  have held : p₁.held = [] := by
    rw [asked, Platform.held_add]
    exact hp
  have lawful : p₁.Lawful ↔ p.Lawful := by
    rw [asked, Platform.lawful_add _ rfl]
    exact and_iff_left hp
  -- a lost surface is configured again, and no texture is held then
  have again : (p₁.addAll [.configureSurface a.config]).held = [] ∧
      ((p₁.addAll [.configureSurface a.config]).Lawful ↔ p.Lawful) := by
    rw [Platform.addAll_singleton, Platform.held_add, Platform.lawful_add _ rfl]
    exact ⟨held, (and_iff_left held).trans lawful⟩
  -- otherwise the frame is skipped with a word in the log
  have skipped : ∀ r : Record, (p₁.add (.record r)).held = [] ∧
      ((p₁.add (.record r)).Lawful ↔ p.Lawful) := by
    intro r
    have quiet := p₁.quietly_add (e := .record r) trivial
    exact ⟨quiet.held.trans held, quiet.lawful.trans lawful⟩
  cases e with
  | lost => exact ⟨rfl, again⟩
  | outdated => exact ⟨rfl, again⟩
  | outOfMemory => exact ⟨rfl, held, lawful⟩
  | timeout => exact ⟨rfl, skipped _⟩
  | other => exact ⟨rfl, skipped _⟩

/-- An attempt to acquire a texture, where none is held: afterwards the texture that was acquired is
held, if there is one. -/
theorem acquireOnce_spec (hp : p.held = []) :
    let q := (acquireOnce.run.run a).run p
    q.1.2 = a ∧ q.2.held = textures Acquired.frame? q.1.1 ∧ (q.2.Lawful ↔ p.Lawful) := by
  let p₁ : Platform := p.count .texture
  have step : (acquireOnce.run.run a).run p =
      ((attempted (p.host.acquireError (p.asked .texture))).run.run a).run p₁ := rfl
  have hp₁ : p₁.held = [] := hp
  rw [step]
  cases p.host.acquireError (p.asked .texture) with
  | none => exact takeTexture_spec hp₁
  | some e => exact lackTexture_spec hp₁ e

/-- The same for a number of attempts: none of them is made while a texture is held. -/
theorem acquire_spec (n : Nat) (hp : p.held = []) :
    let q := ((acquire n).run.run a).run p
    q.1.2 = a ∧ q.2.held = textures id q.1.1 ∧ (q.2.Lawful ↔ p.Lawful) := by
  induction n generalizing p with
  | zero => exact ⟨rfl, hp, Iff.rfl⟩
  | succ n ih =>
    have once := acquireOnce_spec (a := a) hp
    rw [acquire, AdapterM.run_bind]
    generalize (acquireOnce.run.run a).run p = q at once ⊢
    obtain ⟨⟨x, a'⟩, p'⟩ := q
    obtain ⟨ha, held, lawful⟩ := once
    simp only at ha
    subst ha
    cases x with
    | error e => exact ⟨rfl, held, lawful⟩
    | ok y =>
      cases y with
      | frame f => exact ⟨rfl, held, lawful⟩
      -- another attempt is made only where this one acquired nothing
      | skip => exact ⟨rfl, held, lawful⟩
      | retry =>
        obtain ⟨ha, held', lawful'⟩ := ih held
        exact ⟨ha, held', lawful'.trans lawful⟩

/-! ## Commands -/

/-- What is held is the texture of the frame, and nothing where there is none. -/
def Tidy (a : Adapter) (p : Platform) : Prop := p.held = (a.frame.map (·.texture)).toList

theorem Tidy.frame_eq_none_iff (h : a.Tidy p) : a.frame = none ↔ p.held = [] := by
  rw [h]
  cases a.frame <;> simp

theorem Tidy.quietly {a' : Adapter} {p' : Platform} (h : a.Tidy p) (hf : a'.frame = a.frame)
    (hq : Quietly p p') : a'.Tidy p' := by
  rw [Tidy, hf, hq.held]
  exact h

/-- Nothing is held any more once the frame was given up. -/
theorem abandon_spec (h : a.Tidy p) :
    (p.addAll a.abandon).held = [] ∧ ((p.addAll a.abandon).Lawful ↔ p.Lawful) := by
  unfold Tidy at h
  unfold abandon
  cases hf : a.frame with
  | none =>
    have idle : Quietly p (p.addAll []) := p.quietly_addAll (by simp)
    rw [hf] at h
    exact ⟨idle.held.trans h, idle.lawful⟩
  | some f =>
    rw [hf] at h
    have step : p.addAll ((some f).map fun f => .discard f.texture).toList =
        p.add (.device (.discard f.texture)) := p.addAll_singleton _
    rw [step, Platform.held_add, Platform.lawful_add_other _ rfl, h]
    exact ⟨by simp [Happening.settle], Iff.rfl⟩

/-- A frame may begin at any time: a texture that is still held is discarded before another one is
asked for. -/
theorem beginFrame_spec (h : a.Tidy p) (visible : Rect) :
    let q := ((beginFrame visible).run.run a).run p
    q.1.2.Tidy q.2 ∧ (q.2.Lawful ↔ p.Lawful) := by
  obtain ⟨held, lawful⟩ := abandon_spec h
  have got := acquire_spec (a := { a with frame := none }) 2 held
  have step : ((beginFrame visible).run.run a).run p =
      ((acquire 2 >>= startRecording visible).run.run { a with frame := none }).run
        (p.addAll a.abandon) := rfl
  rw [step, AdapterM.run_bind]
  generalize ((acquire 2).run.run { a with frame := none }).run (p.addAll a.abandon) = q at got ⊢
  obtain ⟨⟨x, a'⟩, p'⟩ := q
  obtain ⟨ha, held', lawful'⟩ := got
  simp only at ha
  subst ha
  cases x with
  | error e => exact ⟨held', lawful'.trans lawful⟩
  | ok frame =>
    have quiet : Quietly p' (((startRecording visible frame).run.run { a with frame := none }).run
        p').2 := p'.quietly_addAll (by simp [Happening.IsQuiet])
    exact ⟨quiet.held.trans held', (quiet.lawful.trans lawful').trans lawful⟩

theorem inFrame_none {m : Frame → AdapterM Unit} (hf : a.frame = none) :
    ((inFrame m).run.run a).run p = ((.ok (), a), p) := by
  have step : ((inFrame m).run.run a).run p = ((onFrame m a.frame).run.run a).run p := rfl
  rw [step, hf]
  rfl

theorem inFrame_some {m : Frame → AdapterM Unit} {f : Frame} (hf : a.frame = some f) :
    ((inFrame m).run.run a).run p = ((m f).run.run a).run p := by
  have step : ((inFrame m).run.run a).run p = ((onFrame m a.frame).run.run a).run p := rfl
  rw [step, hf]
  rfl

/-- A frame that ends gives its texture back. -/
theorem endFrame_spec (h : a.Tidy p) :
    let q := (endFrame.run.run a).run p
    q.1.2.frame = none ∧ q.1.2.Tidy q.2 ∧ (q.2.Lawful ↔ p.Lawful) := by
  cases hf : a.frame with
  | none =>
    rw [endFrame, inFrame_none hf]
    exact ⟨hf, h, Iff.rfl⟩
  | some f =>
    rw [endFrame, inFrame_some hf]
    -- the texture of the frame is the only one that is held
    rw [Tidy, hf] at h
    let p₁ := p.addAll [.finish f.encoder, .submit f.encoder]
    have quiet : Quietly p p₁ := p.quietly_addAll (by simp [Happening.IsQuiet])
    have shown : p.addAll [.finish f.encoder, .submit f.encoder, .present f.texture] =
        p₁.add (.device (.present f.texture)) := by
      simp [p₁, Platform.addAll, Platform.add]
    have held : (p₁.add (.device (.present f.texture))).held = [] := by
      rw [Platform.held_add, quiet.held, h]
      simp [Happening.settle]
    have lawful : (p₁.add (.device (.present f.texture))).Lawful ↔ p.Lawful := by
      rw [Platform.lawful_add_other _ rfl, quiet.lawful]
    rw [← shown] at held lawful
    exact ⟨rfl, held, lawful⟩

/-- The surface may be configured if and only if there is no frame. -/
theorem configureTargets_spec (h : a.Tidy p) {surface : SurfaceSize} (hs : surface.isEmpty = false)
    (sizes : List SurfaceSize) :
    let q := ((configureTargets surface sizes).run.run a).run p
    q.1.2.frame = a.frame ∧ q.1.2.Tidy q.2 ∧ (q.2.Lawful ↔ p.Lawful ∧ a.frame = none) := by
  -- the surface is configured first, and only that step can break the rule
  let a₁ : Adapter := { a with config := { a.config with size := surface } }
  let p₁ := p.addAll [.configureSurface a₁.config]
  have configured : p₁ = p.add (.device (.configureSurface a₁.config)) := p.addAll_singleton _
  have held : p₁.held = p.held := by
    rw [configured, Platform.held_add]
    rfl
  have lawful : p₁.Lawful ↔ p.Lawful ∧ a.frame = none := by
    rw [configured, Platform.lawful_add _ rfl, h.frame_eq_none_iff]
  have first : ((configureSurface surface).run.run a).run p = ((.ok (), a₁), p₁) := by
    unfold configureSurface
    rw [hs]
    rfl
  have step : ((configureTargets surface sizes).run.run a).run p =
      ((remakeTargets surface sizes).run.run a₁).run p₁ := by
    rw [configureTargets, AdapterM.run_bind, first]
  -- remaking the targets neither holds nor configures anything
  obtain ⟨hf, quiet⟩ := calm_remakeTargets surface sizes a₁ p₁ rfl
  rw [step]
  refine ⟨hf, ?_, quiet.lawful.trans lawful⟩
  rw [Tidy, hf, quiet.held, held]
  exact h

end Adapter

end Wgpu

end LitTiles
