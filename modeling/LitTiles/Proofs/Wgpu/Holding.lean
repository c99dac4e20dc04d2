import LitTiles.Proofs.Backend.History
import LitTiles.Proofs.Wgpu.SurfaceTexture

/-!
# What sessions hold

A session is tidy if it holds the texture of its frame and no other. It is so from the moment it is
connected (`Session.connect_spec`), and after every call and notice. A call keeps the law as well,
unless it configures targets (`Session.follows_perform`, `Session.configure_spec`).
-/

namespace LitTiles

open Wgpu
open Platform (Quietly)

/-! ## Connecting -/

namespace PlatformM

variable {α β : Type}

/-- Where no texture is held and the law was kept, this is so in the end, and a result has a
property. -/
def Settles (m : PlatformM α) (post : α → Prop) : Prop :=
  ∀ p : Platform, p.held = [] → p.Lawful →
    (m.run.run p).2.held = [] ∧ (m.run.run p).2.Lawful ∧ ∀ v, (m.run.run p).1 = .ok v → post v

theorem Confined.settles {m : PlatformM α} (hm : m.Confined Concern.calm) :
    m.Settles fun _ => True :=
  fun p hp hl => ⟨(hm.calm p).held.trans hp, (hm.calm p).lawful.mpr hl, fun _ _ => trivial⟩

theorem settles_get_bind {f : Platform → PlatformM β} {post : β → Prop}
    (hf : ∀ p, (f p).Settles post) :
    ((get : PlatformM Platform) >>= f).Settles post := fun p => hf p p

theorem settles_pure {post : α → Prop} {v : α} (hv : post v) :
    (pure v : PlatformM α).Settles post :=
  fun _ hp hl => ⟨hp, hl, fun _ he => Except.ok.inj he ▸ hv⟩

theorem Settles.bind {m : PlatformM α} {f : α → PlatformM β} {post : β → Prop}
    (hm : m.Settles fun _ => True) (hf : ∀ v, (f v).Settles post) : (m >>= f).Settles post := by
  intro p hp hl
  have key : (m >>= f).run.run p =
      (ExceptT.bindCont f (m.run.run p).1 : StateM Platform _).run (m.run.run p).2 := rfl
  obtain ⟨hp', hl', -⟩ := hm p hp hl
  rw [key]
  cases (m.run.run p).1 with
  | error e =>
    refine ⟨hp', hl', fun v he => ?_⟩
    cases he
  | ok v => exact hf v _ hp' hl'

/-- Where no texture is held the surface may be configured. -/
theorem settles_configure (config : SurfaceConfig) :
    (give (.configureSurface config)).Settles fun _ => True := by
  intro p hp hl
  refine ⟨?_, (p.lawful_add rfl).mpr ⟨hl, hp⟩, fun _ _ => trivial⟩
  exact (Platform.held_add p _).trans hp

end PlatformM

namespace Wgpu

open PlatformM

namespace Adapter

theorem settles_openDevice (size : SurfaceSize) (o : DeviceOptions) :
    (openDevice size o).Settles fun _ => True := by
  have object : .object ∈ Concern.calm := by decide
  refine settles_get_bind fun p => ?_
  refine (confined_give object).settles.bind fun _ => ?_
  refine (confined_ask _ _).settles.bind fun _ =>
    (confined_attempt object _ _).settles.bind fun _ => ?_
  refine (confined_ask _ _).settles.bind fun _ =>
    (confined_attempt object _ _).settles.bind fun _ => ?_
  refine (confined_ask _ _).settles.bind fun _ =>
    (confined_attempt object _ _).settles.bind fun _ => ?_
  refine (confined_ask _ _).settles.bind fun capabilities => ?_
  cases SurfaceConfig.choose? capabilities size o with
  | none => exact (confined_throw _).settles
  | some config =>
    refine (settles_configure config).bind fun _ => ?_
    exact ((confined_say _ _ _).bind fun _ => confined_pure _).settles

/-- A device is opened without a frame, and the surface is configured at a time when nothing is
held. -/
theorem settles_connect (size : SurfaceSize) (o : DeviceOptions) :
    (connect size o).Settles fun a => a.frame = none := by
  have object : .object ∈ Concern.calm := by decide
  have buffer : .buffer ∈ Concern.calm := by decide
  refine (settles_openDevice size o).bind fun config => ?_
  refine (confined_layouts object).settles.bind fun layouts => ?_
  -- the four pipelines
  refine (confined_makePipeline object _ _ _ _ _ _).settles.bind fun _ => ?_
  refine (confined_makePipeline object _ _ _ _ _ _).settles.bind fun _ => ?_
  refine (confined_makePipeline object _ _ _ _ _ _).settles.bind fun _ => ?_
  refine (confined_makePipeline object _ _ _ _ _ _).settles.bind fun _ => ?_
  -- buffers
  refine (confined_filledBuffer buffer _ _ _).settles.bind fun _ => ?_
  refine (confined_filledBuffer buffer _ _ _).settles.bind fun _ => ?_
  refine (confined_make fun _ => buffer).settles.bind fun _ => ?_
  refine (confined_make fun _ => object).settles.bind fun _ => ?_
  refine settles_get_bind fun _ => ?_
  refine (confined_arena buffer _ _ _ _).settles.bind fun _ => ?_
  refine (confined_arena buffer _ _ _ _).settles.bind fun _ => ?_
  refine (confined_arena buffer _ _ _ _).settles.bind fun _ => ?_
  -- samplers
  refine (confined_make fun _ => object).settles.bind fun _ => ?_
  refine (confined_make fun _ => object).settles.bind fun _ => ?_
  exact (confined_makeEmptyView object).settles.bind fun _ => settles_pure rfl

end Adapter

/-! ## Calls -/

namespace Session

variable {s s' : Session}

/-- The texture of the frame is held, and no other. -/
def Tidy (s : Session) : Prop := s.adapter.Tidy s.platform

/-- A tidy session leads to a tidy one that was just as lawful. -/
def Follows (s s' : Session) : Prop :=
  s.Tidy → s'.Tidy ∧ (s'.platform.Lawful ↔ s.platform.Lawful)

theorem Follows.refl (s : Session) : s.Follows s := fun h => ⟨h, Iff.rfl⟩

theorem Follows.trans {s₁ s₂ s₃ : Session} (h : s₁.Follows s₂) (h' : s₂.Follows s₃) :
    s₁.Follows s₃ := by
  intro ht
  obtain ⟨ht, hl⟩ := h ht
  obtain ⟨ht', hl'⟩ := h' ht
  exact ⟨ht', hl'.trans hl⟩

theorem follows_run {α : Type} {m : AdapterM α} (hm : ∀ fr, m.Calm fr) (s : Session) :
    s.Follows (s.run m).2 := by
  intro h
  obtain ⟨hf, hq⟩ := hm s.adapter.frame s.adapter s.platform rfl
  exact ⟨Adapter.Tidy.quietly h hf hq, hq.lawful⟩

theorem follows_notice (n : Notice) (s : Session) : s.Follows (backend.notice n s) := by
  intro h
  have quiet : Quietly s.platform (backend.notice n s).platform := by
    cases n <;> exact s.platform.quietly_add (by trivial)
  exact ⟨Adapter.Tidy.quietly h rfl quiet, quiet.lawful⟩

/-- All calls but one kind keep a session tidy and the law. -/
theorem follows_perform {c : Call} (hc : ¬ c.Configures) (s : Session) :
    s.Follows (backend.perform c s).2 := by
  cases c with
  | createBuffer capacity => exact follows_run (fun _ => Adapter.calm_createBuffer capacity) s
  | freeBuffer b => exact follows_run (fun _ => Adapter.calm_freeBuffer b) s
  | issue c =>
    cases hu : Adapter.usesSurface c with
    | false => exact follows_run (fun _ => Adapter.calm_execute hu) s
    | true =>
      -- three commands use the surface, and one of them is left out here
      intro h
      cases c with
      | configureTargets surface sizes => exact (hc trivial).elim
      | beginFrame visible => exact Adapter.beginFrame_spec h visible
      | endFrame => exact (Adapter.endFrame_spec h).2
      | _ => cases hu

/-- Targets may be configured if and only if there is no frame. -/
theorem configure_spec (h : s.Tidy) {surface : SurfaceSize} (hs : surface.isEmpty = false)
    (sizes : List SurfaceSize) :
    let s' := (backend.perform (.issue (.configureTargets surface sizes)) s).2
    s'.Tidy ∧ (s'.platform.Lawful ↔ s.platform.Lawful ∧ s.adapter.frame = none) :=
  (Adapter.configureTargets_spec h hs sizes).2

variable {size : SurfaceSize} {o : DeviceOptions} {window : WindowId} {host : DeviceHost}

theorem start_spec (hs : start size o window { host := host } = .ok s) :
    s.platform.held = [] ∧ s.platform.Lawful ∧ s.adapter.frame = none := by
  have connected : (Adapter.connect size o).run.run { host := host } =
    (.ok s.adapter, s.platform) := leads_start hs
  obtain ⟨hp, hl, ha⟩ := Adapter.settles_connect size o { host := host } rfl throughout_nil
  rw [connected] at hp hl ha
  exact ⟨hp, hl, ha s.adapter rfl⟩

/-- A session that was just connected holds nothing. -/
theorem connect_spec (hs : connect .wgpu size o window { host := host } = .ok s) :
    s.Tidy ∧ s.platform.Lawful ∧ s.adapter.frame = none := by
  unfold connect at hs
  cases hx : start size o window { host := host } with
  | error e =>
    rw [hx] at hs
    cases hs
  | ok s₀ =>
    obtain ⟨hp, hl, hn⟩ := start_spec hx
    rw [hx] at hs
    obtain rfl := Except.ok.inj hs
    have quiet : Quietly s₀.platform (s₀.platform.add (.record ⟨.info, .connection,
      "connected " ++ Interface.wgpu.describe ++ " backend"⟩)) := s₀.platform.quietly_add trivial
    refine ⟨?_, quiet.lawful.mpr hl, hn⟩
    rw [Tidy, Adapter.Tidy, hn]
    exact quiet.held.trans hp

end Session

end Wgpu

end LitTiles
