import LitTiles.Backend.Call
import LitTiles.Proofs.Answer
import LitTiles.Proofs.Table

/-!
# What calls draw

A call says what is to be drawn by names and numbers: of targets, textures, effects and instance
buffers. Whether it is drawn depends on which of these are known, and on nothing else.
`Tables.drawings` is what a call draws in these words, or what is wrong with it; adapters differ
only in how they show a `Drawing`.

Where nothing goes wrong with the hardware, a call answers `Tables.reply`, and what is known after
it is `Tables.after`.
-/

namespace LitTiles

/-- What an outcome says, with the number of a buffer that was made. -/
def Call.reply : (c : Call) → c.Outcome → Except RenderError (Option BufferId)
  | createBuffer _, o => o.map some
  | freeBuffer _, () => .ok none
  | issue _, o => o.map fun _ => none

/-- The call draws. -/
def Call.isDrawing : Call → Bool
  | issue (.clear _ _) | issue (.drawSprites _ _ _ _) | issue (.drawLight _ _)
  | issue (.drawShadows _ _)
  | issue (.runProgram _ _ _ _ _) => true
  | _ => false

/-- Whether a frame is under way after a call, if one was before or not. -/
def Call.inFrame (before : Bool) : Call → Bool
  | issue (.beginFrame _) => true
  | issue .endFrame => false
  | _ => before

/-- Two errors of the same variant, whatever they say besides. -/
def RenderError.SameVariant (e e' : RenderError) : Prop := e.ctorIdx = e'.ctorIdx

/-- Two answers that say the same: both are errors of one variant, or neither is and they are
equal. -/
inductive SameReply {α : Type} : Except RenderError α → Except RenderError α → Prop
  /-- Equal answers. -/
  | ok (v : α) : SameReply (.ok v) (.ok v)
  /-- Errors. -/
  | error {e e' : RenderError} (h : e.SameVariant e') : SameReply (.error e) (.error e')

theorem SameReply.refl {α : Type} (r : Except RenderError α) : SameReply r r := by
  cases r with
  | ok v => exact .ok v
  | error e => exact .error rfl

theorem SameReply.symm {α : Type} {r r' : Except RenderError α} (h : SameReply r r') :
    SameReply r' r := by
  cases h with
  | ok v => exact .ok v
  | error h => exact .error (Eq.symm h)

/-- Replies that are the same up to the detail of their errors stay so when their values are
mapped. -/
theorem SameReply.map {α β : Type} {r r' : Except RenderError α} (h : SameReply r r') (f : α → β) :
    SameReply (r.map f) (r'.map f) := by
  cases h with
  | ok v => exact .ok (f v)
  | error h => exact .error h

/-- Something that is drawn, in the words of the calls. -/
inductive Drawing where
  /-- A target is filled with a colour. -/
  | fill (target : Target) (color : Color)
  /-- A run of sprites is drawn from an instance buffer. -/
  | sprites (target : Target) (mode : SpriteMode) (buffer : BufferId) (run : DrawCall)
  /-- A light is drawn. -/
  | light (target : Target) (light : LightInstance)
  /-- Shadows are drawn, given by the corners of triangles. -/
  | shadows (target : Target) (corners : List Vec2)
  /-- An effect is run. A channel reads the target of a slot, or nothing. -/
  | effect (name : String) (channels : List (Option Nat)) (output : Target) (uniforms : List Scalar)

/-- The names and numbers that are known. -/
structure Tables where
  /-- Names of textures. -/
  textures : List String
  /-- Names of effects. -/
  effects : List String
  /-- Numbers of instance buffers. -/
  buffers : List BufferId
  /-- Number of the next instance buffer. -/
  next : UInt32
  /-- How many offscreen targets there are. -/
  targets : Nat
  deriving DecidableEq

namespace Tables

variable {t : Tables}

/-- A target can be drawn to, or there is none of its index. -/
def reach (t : Tables) : Target → Except RenderError Unit
  | .surface => .ok ()
  | .offscreen i =>
    if i < t.targets then .ok ()
    else .error (if t.targets = 0 then .notInitialized else .unknownTarget i)

/-- What a channel reads: nothing if that is what is drawn to. -/
def channel (t : Tables) (output : Target) (slot : Nat) : Except RenderError (Option Nat) := do
  t.reach (.offscreen slot)
  return if output = .offscreen slot then none else some slot

/-- What all channels read, in order. -/
def channels (t : Tables) (inputs : List Nat) (output : Target) :
    Except RenderError (List (Option Nat)) := do
  let used ← (inputs.take maxChannels).mapM (t.channel output)
  return used ++ List.replicate (maxChannels - used.length) none

/-- What a call draws, or what is wrong with it. -/
def drawings (t : Tables) : Command → Except RenderError (List Drawing)
  | .loadTexture texture => do
    texture.validate
    return []
  | .clear target color => do
    t.reach target
    return [.fill target color]
  | .drawSprites target mode id calls =>
    match calls.find? fun c => !t.textures.contains c.texture with
    | some c => .error (.unknownTexture c.texture)
    | none =>
      if !t.buffers.contains id || calls.isEmpty then .ok []
      else do
        t.reach target
        return calls.map (.sprites target mode id)
  | .drawLight target light => do
    t.reach target
    return [.light target light]
  | .drawShadows target corners =>
    if corners.isEmpty then .ok []
    else do
      t.reach target
      return [.shadows target corners]
  | .runProgram name inputs output uniforms clear =>
    if t.effects.contains name then do
      let channels ← t.channels inputs output
      t.reach output
      return (clear.map (.fill output)).toList ++ [.effect name channels output uniforms]
    else .error (.unknownProgram name)
  | _ => .ok []

/-- What a call draws; nothing if there is something wrong with it. -/
def drawn (t : Tables) : Call → List Drawing
  | .issue c =>
    match t.drawings c with
    | .ok ds => ds
    | .error _ => []
  | _ => []

/-- What is known after a call. -/
def after (t : Tables) : Call → Tables
  | .createBuffer _ => { t with
      buffers := ⟨t.next⟩ :: t.buffers.filter (· != ⟨t.next⟩)
      next := t.next + 1 }
  | .freeBuffer id => { t with buffers := t.buffers.filter (· != id) }
  | .issue (.loadTexture texture) =>
    match texture.validate with
    | .ok () => { t with textures := texture.name :: t.textures.filter (· != texture.name) }
    | .error _ => t
  | .issue (.compileProgram name _) => { t with effects := name :: t.effects.filter (· != name) }
  | .issue (.configureTargets _ sizes) => { t with targets := sizes.length }
  | _ => t

/-- What a call answers, with the number of a buffer that it makes. -/
def reply (t : Tables) : Call → Except RenderError (Option BufferId)
  | .createBuffer _ => .ok (some ⟨t.next⟩)
  | .freeBuffer _ => .ok none
  | .issue c => (t.drawings c).map fun _ => none

/-- The error says that a target is missing. -/
inductive Missing (t : Tables) : RenderError → Prop
  /-- There are no targets at all. -/
  | all (h : t.targets = 0) : t.Missing .notInitialized
  /-- There are others. -/
  | one (h : t.targets ≠ 0) (i : Nat) : t.Missing (.unknownTarget i)

/-- The tables settle whether one target or all of them are missing, and with it the variant. -/
theorem Missing.sameVariant {e e' : RenderError} (h : t.Missing e) (h' : t.Missing e') :
    e.SameVariant e' := by
  cases h with
  | all h =>
    cases h' with
    | all => rfl
    | one h' => exact absurd h h'
  | one h =>
    cases h' with
    | all h' => exact absurd h' h
    | one => rfl

theorem missing_of_reach {target : Target} {e : RenderError} (h : t.reach target = .error e) :
    t.Missing e := by
  cases target with
  | surface => cases h
  | offscreen i =>
    rw [reach] at h
    split at h
    · cases h
    obtain rfl := Except.error.inj h
    split
    · exact .all ‹_›
    · exact .one ‹_› i

theorem missing_of_channel {output : Target} {slot : Nat} {e : RenderError}
    (h : t.channel output slot = .error e) : t.Missing e := by
  rcases bind_eq_error_iff.mp h with hr | ⟨-, -, h⟩
  · exact missing_of_reach hr
  · cases h

/-- If the channels cannot be had, some target is missing. -/
theorem missing_of_channels {inputs : List Nat} {output : Target} {e : RenderError}
    (h : t.channels inputs output = .error e) : t.Missing e := by
  rcases bind_eq_error_iff.mp h with hu | ⟨used, -, h⟩
  · obtain ⟨slot, -, hs⟩ := exists_of_mapM_error hu
    exact missing_of_channel hs
  · cases h

/-- Every channel is accounted for. -/
theorem length_channels {inputs : List Nat} {output : Target} {channels : List (Option Nat)}
    (h : t.channels inputs output = .ok channels) : channels.length = maxChannels := by
  obtain ⟨used, hu, h⟩ := bind_eq_ok_iff.mp h
  obtain rfl := Except.ok.inj h
  have length := length_of_mapM hu
  rw [List.length_take] at length
  rw [List.length_append, List.length_replicate]
  omega

/-- What is answered after a check is the answer. -/
theorem eq_of_check {α : Type} {check : Except RenderError Unit} {v w : α}
    (h : (do check; return v) = Except.ok w) : check = .ok () ∧ v = w := by
  cases check with
  | error e => cases h
  | ok u => exact ⟨rfl, Except.ok.inj h⟩

/-- An effect is drawn by a call that runs it, where it is known and all that it reads is there. -/
theorem of_effect_mem_drawn {c : Call} {name : String} {channels : List (Option Nat)}
    {output : Target} {uniforms : List Scalar}
    (h : .effect name channels output uniforms ∈ t.drawn c) :
    ∃ inputs clear, c = .issue (.runProgram name inputs output uniforms clear) ∧
      t.effects.contains name = true ∧ t.channels inputs output = .ok channels ∧
      t.reach output = .ok () := by
  cases c with
  | createBuffer capacity => cases h
  | freeBuffer id => cases h
  | issue c =>
    rw [drawn] at h
    split at h
    case h_2 => cases h
    rename_i ds hd
    -- only one kind of command draws an effect; the others are gone through to see that they do not
    cases c with
    | runProgram name' inputs output' uniforms' clear =>
      rw [drawings] at hd
      split at hd
      · rename_i known
        obtain ⟨channels', hc, hd⟩ := bind_eq_ok_iff.mp hd
        obtain ⟨hr, rfl⟩ := eq_of_check hd
        have same : Drawing.effect name channels output uniforms =
            .effect name' channels' output' uniforms' := by
          cases clear <;> simpa using h
        obtain ⟨rfl, rfl, rfl, rfl⟩ := Drawing.effect.inj same
        exact ⟨inputs, clear, rfl, known, hc, hr⟩
      · cases hd
    | drawSprites target mode id calls =>
      rw [drawings] at hd
      split at hd
      · cases hd
      · split at hd
        · obtain rfl := Except.ok.inj hd
          cases h
        · obtain ⟨-, rfl⟩ := eq_of_check hd
          simp at h
    | drawShadows target corners =>
      rw [drawings] at hd
      split at hd
      · obtain rfl := Except.ok.inj hd
        cases h
      · obtain ⟨-, rfl⟩ := eq_of_check hd
        simp at h
    | loadTexture texture | clear target color | drawLight target light =>
      obtain ⟨-, rfl⟩ := eq_of_check hd
      simp at h
    | _ =>
      obtain rfl := Except.ok.inj hd
      cases h

end Tables

end LitTiles
