import LitTiles.Proofs.Gl.Attachments
import LitTiles.Proofs.Wgpu.Views

/-!
# What effects sample

An effect samples eight channels. A channel is to read the target that the input of its number
names, unless the effect is drawn to this target, and a transparent texel otherwise (`channelSlot`).
Tables tell when a run can be drawn (`Tables.Lacks`), and both adapters draw it if it can: what is
bound then is what the channels are to read, and nothing of it is what is drawn to
(`effects_sample_other_targets`).

That a texture is not drawn to while it is sampled takes more than different slots. Targets have
different textures, framebuffers are still attached to those of their targets, and views show what
they were made of.
-/

namespace LitTiles

/-- The target that a channel of an effect is to read, if there is one. -/
def channelSlot (inputs : List Nat) (output : Target) (channel : Nat) : Option Nat :=
  inputs[channel]?.filter (output ≠ .offscreen ·)

theorem ne_of_channelSlot {inputs : List Nat} {output : Target} {channel slot : Nat}
    (h : channelSlot inputs output channel = some slot) : output ≠ .offscreen slot :=
  of_decide_eq_true (Option.filter_eq_some_iff.mp h).2

namespace Tables

variable {t : Tables} {name : String} {inputs : List Nat} {output : Target}
  {channels : List (Option Nat)}

/-- Something that a run of an effect needs is not there. -/
inductive Lacks (t : Tables) (name : String) (inputs : List Nat) (output : Target) : Prop
  /-- The effect. -/
  | effect (h : t.effects.contains name = false)
  /-- The target of an input. -/
  | input {slot : Nat} (hs : slot ∈ inputs.take maxChannels) (h : t.targets ≤ slot)
  /-- The target that is drawn to. -/
  | output {slot : Nat} (hs : output = .offscreen slot) (h : t.targets ≤ slot)

/-- Where nothing is lacking, what a channel is to read is there. -/
theorem lt_of_channelSlot (complete : ¬ t.Lacks name inputs output) {c slot : Nat}
    (hc : c < maxChannels) (h : channelSlot inputs output c = some slot) : slot < t.targets := by
  have named : slot ∈ inputs.take maxChannels := by
    refine List.mem_of_getElem? (i := c) ?_
    rw [List.getElem?_take_of_lt hc]
    exact (Option.filter_eq_some_iff.mp h).1
  exact Nat.not_le.mp fun missing => complete (.input named missing)

theorem lt_of_reach {slot : Nat} (h : t.reach (.offscreen slot) = .ok ()) : slot < t.targets := by
  rw [reach] at h
  split at h
  · assumption
  · cases h

theorem of_channel {slot : Nat} {read : Option Nat} (h : t.channel output slot = .ok read) :
    slot < t.targets ∧ read = (some slot).filter (output ≠ .offscreen ·) := by
  obtain ⟨⟨⟩, hr, h⟩ := bind_eq_ok_iff.mp h
  obtain rfl := Except.ok.inj h
  refine ⟨lt_of_reach hr, ?_⟩
  by_cases self : output = .offscreen slot <;> simp [self, Option.filter]

/-- If all targets are there that are named, the channels read what they are to read. -/
theorem of_channels (h : t.channels inputs output = .ok channels) :
    channels = (List.range maxChannels).map (channelSlot inputs output) ∧
      ∀ slot ∈ inputs.take maxChannels, slot < t.targets := by
  have length := length_channels h
  obtain ⟨used, hu, h⟩ := bind_eq_ok_iff.mp h
  have used_length := length_of_mapM hu
  obtain rfl := Except.ok.inj h
  refine ⟨List.ext_getElem? fun c => ?_, fun slot hs => ?_⟩
  -- channel by channel: the inputs that are used, and the padding behind them
  · by_cases hc : c < maxChannels
    swap
    · rw [List.getElem?_eq_none (by omega), List.getElem?_eq_none (by simpa using hc)]
    rw [List.getElem?_map, List.getElem?_range hc, Option.map_some, channelSlot]
    cases hi : inputs[c]? with
    | some slot =>
      obtain ⟨read, hr, hch⟩ := exists_of_mapM_getElem? hu (by rw [List.getElem?_take_of_lt hc, hi])
      rw [List.getElem?_append_left (List.getElem?_eq_some_iff.mp hr).1, hr, (of_channel hch).2]
    | none =>
      have past : used.length ≤ c := by
        rw [used_length, List.length_take]
        have := List.getElem?_eq_none_iff.mp hi
        omega
      rw [List.getElem?_append_right past, List.getElem?_replicate, if_pos (by omega)]
      rfl
  · obtain ⟨i, hi⟩ := List.getElem?_of_mem hs
    obtain ⟨read, -, hch⟩ := exists_of_mapM_getElem? hu hi
    exact (of_channel hch).1

theorem exists_of_reach_error {e : RenderError} (h : t.reach output = .error e) :
    ∃ slot, output = .offscreen slot ∧ t.targets ≤ slot := by
  cases output with
  | surface => cases h
  | offscreen slot =>
    rw [reach] at h
    split at h
    · cases h
    · exact ⟨slot, rfl, Nat.not_lt.mp ‹_›⟩

theorem exists_of_channels_error {e : RenderError} (h : t.channels inputs output = .error e) :
    ∃ slot ∈ inputs.take maxChannels, t.targets ≤ slot := by
  rcases bind_eq_error_iff.mp h with hu | ⟨used, -, h⟩
  swap
  · cases h
  obtain ⟨slot, hs, hch⟩ := exists_of_mapM_error hu
  rcases bind_eq_error_iff.mp hch with hr | ⟨-, -, hch⟩
  · obtain ⟨slot', hs', missing⟩ := exists_of_reach_error hr
    obtain rfl := Target.offscreen.inj hs'
    exact ⟨slot, hs, missing⟩
  · cases hch

/-- An effect is drawn with its channels, unless something is lacking. -/
theorem drawings_runProgram (t : Tables) (name : String) (inputs : List Nat) (output : Target)
    (uniforms : List Scalar) (clear : Option Color) :
    (¬ t.Lacks name inputs output ∧ t.effects.contains name = true ∧
      t.channels inputs output = .ok ((List.range maxChannels).map (channelSlot inputs output)) ∧
      t.reach output = .ok () ∧ t.drawings (.runProgram name inputs output uniforms clear) =
        .ok ((clear.map (.fill output)).toList ++
          [.effect name ((List.range maxChannels).map (channelSlot inputs output))
            output uniforms])) ∨
    (t.Lacks name inputs output ∧
      ∃ e, t.drawings (.runProgram name inputs output uniforms clear) = .error e) := by
  rw [drawings]
  -- the checks are made in this order, and each that fails names something that is lacking
  cases known : t.effects.contains name with
  | false => exact .inr ⟨.effect known, _, rfl⟩
  | true =>
    cases hc : t.channels inputs output with
    | error e =>
      obtain ⟨slot, hs, missing⟩ := exists_of_channels_error hc
      exact .inr ⟨.input hs missing, e, rfl⟩
    | ok channels =>
      cases hr : t.reach output with
      | error e =>
        obtain ⟨slot, hs, missing⟩ := exists_of_reach_error hr
        exact .inr ⟨.output hs missing, e, rfl⟩
      | ok u =>
        -- all three have passed, so nothing can be lacking
        obtain ⟨rfl, there⟩ := of_channels hc
        refine .inl ⟨?_, rfl, rfl, rfl, rfl⟩
        rintro (unknown | ⟨hs, missing⟩ | ⟨rfl, missing⟩)
        · rw [known] at unknown
          cases unknown
        · exact absurd (there _ hs) (Nat.not_lt.mpr missing)
        · exact absurd (lt_of_reach hr) (Nat.not_lt.mpr missing)

end Tables

/-! ## Drivers -/

namespace Gl

open Gl.Machine

/-- The texture of a target, or the texture of a single texel. -/
def Adapter.textureOf (a : Adapter) : Option Nat → Option (Handle .texture)
  | some slot => a.targets[slot]?.map (·.texture)
  | none => some a.empty

/-- A texture was given one transparent texel while it was bound. -/
def Blank (log : List Command) (u : Handle .texture) : Prop :=
  ∃ before between format after, log = before ++ .bindTexture (some u) :: between ++
    .textureImage format 1 1 (some [0, 0, 0, 0]) :: after ∧ ∀ t, .bindTexture t ∉ between

variable {samplers : Handle .program → List Nat} {s s' : Session}
  {lost : List Object} {name : String} {inputs : List Nat} {output : Target}
    {uniforms : List Scalar} {clear : Option Color}

namespace Session

/-- An effect is drawn once some commands were given: its channels are bound, and it does not sample
what it is drawn to. -/
structure SamplesOthers (s : Session) (name : String) (inputs : List Nat) (output : Target)
    (before : List Command) (d : Draw) : Prop where
  /-- It is drawn to all of its target. -/
  target : ∃ k, s.adapter.canvas output = some k ∧ d.pose.framebuffer = k.1 ∧
    d.pose.viewport = some k.2
  /-- The unit of a channel holds the texture that the channel is to read. -/
  channels : ∀ c < maxChannels, ∃ u, s.adapter.textureOf (channelSlot inputs output c) = some u ∧
    (Machine.after {} (s.context.commands.toList ++ before)).textures c = some u
  /-- The sampler of a channel is told the unit of this number. -/
  units : ∀ e, s.adapter.effects.lookup name = some e → ∀ c l, e.channels[c]? = some (some l) →
    .uniformInt l c ∈ before
  /-- Whatever is sampled is held by the unit of a channel. -/
  sampled : ∀ u ∈ d.textures, ∃ c < maxChannels,
    u = (Machine.after {} (s.context.commands.toList ++ before)).textures c
  /-- The texture that is attached to what is drawn to is neither held by one of these units nor
  sampled. -/
  others : ∀ i t, output = .offscreen i → s.adapter.targets[i]? = some t →
    d.pose.framebuffer = some t.framebuffer ∧
    (Attachments.after {} (s.context.commands.toList ++ before)).Joins t ∧
    (∀ c < maxChannels, (Machine.after {} (s.context.commands.toList ++ before)).textures c ≠
      some t.texture) ∧
    some t.texture ∉ d.textures

/-- What comes of a run of an effect: an answer, and commands. -/
inductive RunsEffect (samplers : Handle .program → List Nat) (s : Session) (name : String)
    (inputs : List Nat) (output : Target) (clear : Option Color) :
    Except RenderError Unit → List Command → Prop
  /-- It is drawn. -/
  | drawn (complete : ¬ s.adapter.tables.Lacks name inputs output) {before after : List Command}
      {n : Int32} {d : Draw}
      (run : s.SamplesOthers name inputs output before d)
      (draws : (Machine.after {} s.context.commands.toList).draws samplers
        (before ++ .drawElements n :: after) =
          (clear.map (.fill d.pose.framebuffer)).toList ++ [.triangles d])
      (draw : (Machine.after {} (s.context.commands.toList ++ before)).drawn samplers
        (.drawElements n) = some (.triangles d)) :
      RunsEffect samplers s name inputs output clear (.ok ()) (before ++ .drawElements n :: after)
  /-- Something is lacking, and no command is given. -/
  | refused (lacks : s.adapter.tables.Lacks name inputs output) (e : RenderError) :
      RunsEffect samplers s name inputs output clear (.error e) []

/-! ### Textures of targets -/

/-- Targets have different textures. -/
theorem Holds.texture_ne (held : s.Holds lost) {i j : Nat} {t t' : RenderTarget}
    (ht : s.adapter.targets[i]? = some t) (ht' : s.adapter.targets[j]? = some t') (h : j ≠ i) :
    t'.texture ≠ t.texture := by
  have nodup := held.nodup_objects
  simp only [Adapter.objects, List.append_assoc] at nodup
  obtain ⟨-, apart⟩ := List.nodup_flatMap.mp (List.nodup_append.mp nodup).1
  obtain ⟨hi, rfl⟩ := List.getElem?_eq_some_iff.mp ht
  obtain ⟨hj, rfl⟩ := List.getElem?_eq_some_iff.mp ht'
  intro same
  have shared : ∀ {t t' : RenderTarget}, t'.texture = t.texture →
      ¬ t.objects.Disjoint t'.objects := by
    intro t t' same disjoint
    exact disjoint (a := t.texture.object) (by simp [RenderTarget.objects])
      (by simp [RenderTarget.objects, same])
  rcases Nat.lt_or_gt_of_ne h with lt | lt
  · exact shared same.symm (List.pairwise_iff_getElem.mp apart j i hj hi lt)
  · exact shared same (List.pairwise_iff_getElem.mp apart i j hi hj lt)

/-- None of them is the texture of a single texel. -/
theorem Holds.empty_ne (held : s.Holds lost) {t : RenderTarget} (ht : t ∈ s.adapter.targets) :
    s.adapter.empty ≠ t.texture := by
  have nodup := held.nodup_objects
  simp only [Adapter.objects, List.append_assoc] at nodup
  obtain ⟨-, -, apart⟩ := List.nodup_append.mp nodup
  intro same
  refine apart t.texture.object (List.mem_flatMap.mpr ⟨t, ht, by simp [RenderTarget.objects]⟩)
    s.adapter.empty.object ?_ (congrArg Handle.object same).symm
  simp [Adapter.fixedObjects]

theorem Holds.textureOf_ne (held : s.Holds lost) {i c : Nat} {t : RenderTarget}
    {u : Handle .texture} (ht : s.adapter.targets[i]? = some t)
    (hu : s.adapter.textureOf (channelSlot inputs (.offscreen i) c) = some u) :
    u ≠ t.texture := by
  cases hs : channelSlot inputs (.offscreen i) c with
  | none =>
    rw [hs] at hu
    obtain rfl := Option.some.inj hu
    exact held.empty_ne (List.mem_of_getElem? ht)
  | some j =>
    rw [hs] at hu
    obtain ⟨t', ht', rfl⟩ := Option.map_eq_some_iff.mp hu
    exact held.texture_ne ht ht' fun same =>
      ne_of_channelSlot hs (congrArg Target.offscreen same.symm)

/-! ### Runs -/

theorem textureOf_eq {c : Nat} (complete : ¬ s.adapter.tables.Lacks name inputs output)
    (hc : c < maxChannels) :
    s.adapter.textureOf (channelSlot inputs output c) =
      some (s.adapter.channelOf (channelSlot inputs output c)) := by
  cases hs : channelSlot inputs output c with
  | none => rfl
  | some slot =>
    have there : slot < s.adapter.targets.length := Tables.lt_of_channelSlot complete hc hs
    simp [Adapter.textureOf, Adapter.channelOf, there]

/-- An effect that is shown samples what the units of its samplers hold. -/
theorem exists_of_shown_effect {a : Adapter} {e : LinkedEffect}
    (he : a.effects.lookup name = some e) {k : Option (Handle .framebuffer) × Int32 × Int32}
    (hk : a.canvas output = some k) {channels : List (Option Nat)} {x : Drawn}
    (h : a.shown samplers (.effect name channels output uniforms) = some x) :
    ∃ d : Draw, x = .triangles d ∧ d.pose.framebuffer = k.1 ∧ d.pose.viewport = some k.2 ∧
      d.textures = Machine.sampled (samplers e.program)
      (settings (e.bindUnits ++ e.upload uniforms))
        fun unit => channels[unit]?.map a.channelOf := by
  rw [Adapter.shown, he] at h
  obtain ⟨k', hk', rfl⟩ := Option.map_eq_some_iff.mp h
  obtain rfl := Option.some.inj (hk'.symm.trans hk)
  exact ⟨_, rfl, rfl, rfl, rfl⟩

/-- What is commanded for an effect before it is drawn. -/
def effectPrelude (a : Adapter) (k : Option (Handle .framebuffer) × Int32 × Int32)
    (e : LinkedEffect) (textures : List (Handle .texture)) (uniforms : List Scalar)
    (clear : Option Color) : List Command :=
  aim k ++ ((clear.map Adapter.fill).getD [] ++ ([.useProgram e.program] ++
    ((textures.zipIdx.flatMap fun p => [.activeTexture p.2, .bindTexture (some p.1)]) ++
      (e.bindUnits ++ (e.upload uniforms ++ (applyBlend e.blend ++ a.bindSquare))))))

theorem effectCommands_eq (a : Adapter) (k : Option (Handle .framebuffer) × Int32 × Int32)
    (e : LinkedEffect) (textures : List (Handle .texture)) (uniforms : List Scalar)
    (clear : Option Color) :
    aim k ++ a.effectCommands e textures uniforms clear =
    effectPrelude a k e textures uniforms clear ++
      .drawElements (signedSize UnitSquare.indexCount) :: [.activeTexture 0] := by
  simp only [effectPrelude, Adapter.effectCommands, List.append_assoc]

/-- After the prelude the units hold the textures of the channels, and then triangles are drawn that
sample them. -/
theorem Rests.exists_draw (rests : s.Rests samplers) (held : s.Holds lost) {e : LinkedEffect}
    (he : s.adapter.effects.lookup name = some e) {k : Option (Handle .framebuffer) × Int32 × Int32}
    (hk : s.adapter.canvas output = some k) {channels : List (Option Nat)}
    (all : channels.length = maxChannels) (uniforms : List Scalar) (clear : Option Color) :
    let before := effectPrelude s.adapter k e (channels.map s.adapter.channelOf) uniforms clear
    let m := Machine.after {} (s.context.commands.toList ++ before)
    (∀ c < maxChannels, m.textures c = channels[c]?.map s.adapter.channelOf) ∧
      ∃ d : Draw,
        m.drawn samplers (.drawElements (signedSize UnitSquare.indexCount)) =
          some (.triangles d) ∧
        (Machine.after {} s.context.commands.toList).draws samplers
          (before ++ .drawElements (signedSize UnitSquare.indexCount) :: [.activeTexture 0]) =
            (clear.map (.fill k.1)).toList ++ [.triangles d] ∧
        d.pose.framebuffer = k.1 ∧ d.pose.viewport = some k.2 ∧
        ∀ u ∈ d.textures, ∃ c < maxChannels, u = m.textures c := by
  intro before m
  have fit := rests.fit held
  obtain ⟨drawn, m', ⟨hdraws, hafter⟩, shown, -, bound⟩ :=
    fit.does_effect hk he all uniforms clear rests.idle
  have now : (Machine.after {} s.context.commands.toList).after before = m := after_append.symm
  rw [effectCommands_eq, draws_append] at hdraws
  rw [effectCommands_eq, after_append] at hafter
  change Machine.draws samplers _ before ++ Machine.draws samplers
    (Machine.after _ before) _ = _ at hdraws
  change Machine.after (Machine.after _ before) _ = _ at hafter
  rw [now] at hdraws hafter
  have units : ∀ c < maxChannels, m.textures c = channels[c]?.map s.adapter.channelOf := by
    intro c hc
    rw [← bound c hc, ← hafter]
    rfl
  -- the last of the draws is the effect
  have last : m.draws samplers
      (.drawElements (signedSize UnitSquare.indexCount) :: [.activeTexture 0]) =
      [m.drawing samplers (.indexed m.bound.indices (signedSize UnitSquare.indexCount))] := rfl
  rw [last] at hdraws
  rw [← hdraws, List.map_append, List.map_append, List.map_singleton, List.map_singleton,
    List.append_singleton_inj] at shown
  obtain ⟨fills, effect⟩ := shown
  have filled : (Machine.after {} s.context.commands.toList).draws samplers before =
      (clear.map (.fill k.1)).toList := by
    refine List.map_injective_iff.mpr (fun _ _ => Option.some.inj) (fills.trans ?_)
    cases clear with
    | none => rfl
    | some color => simp [Adapter.shown, hk]
  obtain ⟨d, hd, framebuffer, viewport, sampled⟩ := exists_of_shown_effect he hk effect.symm
  refine ⟨units, d, ?_, ?_, framebuffer, viewport, fun u hu => ?_⟩
  · rw [← hd]
    rfl
  · rw [draws_append, filled, now, last, hd]
  · rw [sampled] at hu
    obtain ⟨l, -, rfl⟩ := List.mem_map.mp hu
    have unit := unit_lt (fit.channels _ (mem_of_lookup he)) uniforms l
    exact ⟨_, unit, (units _ unit).symm⟩

/-- An effect is drawn with its channels, if nothing is lacking. -/
theorem Rests.samplesOthers (rests : s.Rests samplers) (held : s.Holds lost) (attached : s.Attached)
    (complete : ¬ s.adapter.tables.Lacks name inputs output) {e : LinkedEffect}
    (he : s.adapter.effects.lookup name = some e) {k : Option (Handle .framebuffer) × Int32 × Int32}
    (hk : s.adapter.canvas output = some k) (hb : s.adapter.bindTarget output = .ok (aim k))
    (uniforms : List Scalar) (clear : Option Color) :
    s.RunsEffect samplers name inputs output clear (.ok ()) (aim k ++ s.adapter.effectCommands e
      (((List.range maxChannels).map (channelSlot inputs output)).map s.adapter.channelOf)
      uniforms clear) := by
  let textures := ((List.range maxChannels).map (channelSlot inputs output)).map s.adapter.channelOf
  let before := effectPrelude s.adapter k e textures uniforms clear
  let m := Machine.after {} (s.context.commands.toList ++ before)
  have all : ((List.range maxChannels).map (channelSlot inputs output)).length = maxChannels := by
    simp
  obtain ⟨units, d, drawn, draws, framebuffer, viewport, samples⟩ :=
    rests.exists_draw held he hk all uniforms clear
  -- the draw follows the commands that bind the channels, so it finds in each unit what they bound
  have channels : ∀ c < maxChannels,
      m.textures c = s.adapter.textureOf (channelSlot inputs output c) := by
    intro c hc
    refine (units c hc).trans ?_
    rw [List.getElem?_map, List.getElem?_range hc, textureOf_eq complete hc]
    rfl
  rw [effectCommands_eq]
  refine .drawn complete ⟨⟨k, hk, framebuffer, viewport⟩, fun c hc =>
    ?_, fun e' he' c l hl => ?_, samples, ?_⟩
    (framebuffer ▸ draws) drawn
  · exact ⟨_, textureOf_eq complete hc, (channels c hc).trans (textureOf_eq complete hc)⟩
  · obtain rfl := Option.some.inj (he.symm.trans he')
    have told : .uniformInt l c ∈ e.bindUnits := by
      refine List.mem_filterMap.mpr ⟨(some l, c), ?_, rfl⟩
      exact List.mem_zipIdx_iff_getElem?.mpr hl
    simp [effectPrelude, told]
  · rintro i t rfl ht
    have own : k.1 = some t.framebuffer := by
      rw [Adapter.canvas, ht] at hk
      exact congrArg Prod.fst (Option.some.inj hk).symm
    have plain : ∀ c ∈ before ++ .drawElements (signedSize UnitSquare.indexCount) ::
        [.activeTexture 0], c.Plain :=
      effectCommands_eq s.adapter k e textures uniforms clear ▸
        List.forall_mem_append.mpr ⟨Adapter.plain_bindTarget hb,
          Adapter.plain_effectCommands _ _ _ _⟩
    -- the texture of the target is bound to no unit, because no object is held twice
    have apart : ∀ c < maxChannels, m.textures c ≠ some t.texture := by
      intro c hc same
      exact held.textureOf_ne ht ((channels c hc).symm.trans same) rfl
    refine ⟨framebuffer.trans own, ?_, apart, fun hu => ?_⟩
    -- and it stays attached meanwhile, as nothing of this kind attaches
    · rw [Attachments.after_append]
      refine keeps_of_spares (fun c hc => ?_) _ (attached t (List.mem_of_getElem? ht))
      exact (plain c (List.mem_append_left _ hc)).sparesTarget t
    · obtain ⟨c, hc, same⟩ := samples _ hu
      exact apart c hc same.symm

/-- A run of an effect is drawn with its channels, or refused. -/
theorem Rests.runsEffect (rests : s.Rests samplers) (held : s.Holds lost)
    (attached : s.Attached) (name : String) (inputs : List Nat) (output : Target)
    (uniforms : List Scalar) (clear : Option Color) :
    let c := Call.issue (.runProgram name inputs output uniforms clear)
    ∃ cs, (s.perform c).2.context.commands.toList = s.context.commands.toList ++ cs ∧
      s.RunsEffect samplers name inputs output clear (s.perform c).1 cs := by
  intro c
  have spares : (LitTiles.Command.runProgram name inputs output uniforms clear).SparesObjects :=
    trivial
  obtain ⟨-, reply, gave⟩ := Adapter.leads_execute_of_spares spares (s.leads_issue _)
  refine ⟨_, gave.commands, ?_⟩
  change s.RunsEffect samplers name inputs output clear (s.perform (.issue _)).1 _
  rw [reply]
  rcases s.adapter.tables.drawings_runProgram name inputs output uniforms clear with
    ⟨complete, known, channels, reached, -⟩ | ⟨lacks, e, refused⟩
  · obtain ⟨e, k, he, hk, hb, commands⟩ :=
      s.adapter.exists_commands_runProgram uniforms clear known channels reached
    rw [commands]
    exact rests.samplesOthers held attached complete he hk hb uniforms clear
  -- where something is lacking, commands and drawings are refused together
  · rcases (rests.fit held).agrees_commands spares with ⟨e', he, -⟩ | ⟨cs, ds, -, hd, -⟩
    · rw [he]
      exact .refused lacks e'
    · rw [refused] at hd
      cases hd

/-! ### The texture of a single texel -/

theorem empty_serve (s : Session) (calls : List Call) :
    (s.serve calls).adapter.empty = s.adapter.empty := by
  induction calls using List.reverseRecOn with
  | nil => rfl
  | append_singleton calls c ih =>
    rw [serve_append]
    refine Eq.trans ?_ ih
    exact keep_perform Adapter.empty (fun _ _ => rfl) (fun _ _ _ _ _ => rfl)
      (fun _ _ _ => rfl) (fun _ _ => rfl) (fun _ _ _ => rfl) _

end Session

open ContextM in
theorem blank_of_createTexture {c : Capabilities} {filter : Filter}
    {u : Handle .texture} {x y : Context}
    (h : (createTexture c 1 1 (some [0, 0, 0, 0]) filter).Leads x (.ok u) y) :
    Blank y.commands.toList u := by
  unfold createTexture at h
  rcases leads_create_bind h with ⟨reason, he, -⟩ | ⟨u', x₁, -, asked, -, h⟩
  · cases he
  obtain ⟨x₂, gave, h⟩ := leads_giveAll_bind h
  obtain ⟨hu, rfl⟩ := leads_pure h
  obtain rfl := Except.ok.inj hu
  refine ⟨x.commands.toList ++ [.create .texture u], [.textureParameter (.minified filter),
    .textureParameter (.magnified filter), .textureParameter .clampedAcross,
    .textureParameter .clampedDown,
    .unpackAlignment 1], if c.sizedFormats then .rgba8 else .rgba, [.bindTexture none], ?_, by simp⟩
  rw [gave.commands, asked.commands]
  simp

open ContextM in
theorem blank_of_equip {interface : Interface} {size : SurfaceSize} {c : Capabilities}
    {spriteColor spriteMask light shadow : FixedProgram}
    {vertexArray : Option (Handle .vertexArray)} {a : Adapter} {x y : Context}
    (h : (Adapter.equip interface size c spriteColor spriteMask light shadow vertexArray).Leads x
      (.ok a) y) :
    Blank y.commands.toList a.empty := by
  unfold Adapter.equip at h
  obtain ⟨corners, x₁, -, h⟩ := leads_bind_ok h
  obtain ⟨indices, x₂, -, h⟩ := leads_bind_ok h
  obtain ⟨stream, x₃, -, h⟩ := leads_bind_ok h
  obtain ⟨empty, x₄, made, h⟩ := leads_bind_ok h
  obtain ⟨ha, rfl⟩ := leads_pure h
  rw [Except.ok.inj ha]
  exact blank_of_createTexture made

open ContextM in
/-- An adapter starts with a texture of a single texel. -/
theorem Session.blank_start {interface : Interface} {size : SurfaceSize} {x : Context}
    (h : Session.start interface size x = .ok s) :
    Blank s.context.commands.toList s.adapter.empty := by
  have connected := leads_start h
  unfold Adapter.connect at connected
  replace connected := leads_get_bind connected
  dsimp only at connected
  split at connected
  swap
  · cases (leads_throw connected).1
  simp only [pure_bind] at connected
  obtain ⟨_, x₁, -, connected⟩ := leads_bind_ok connected
  obtain ⟨color, x₂, -, connected⟩ := leads_bind_ok connected
  obtain ⟨mask, x₃, -, connected⟩ := leads_bind_ok connected
  obtain ⟨light, x₄, -, connected⟩ := leads_bind_ok connected
  obtain ⟨shadow, x₅, -, connected⟩ := leads_bind_ok connected
  split at connected
  · obtain ⟨vertexArray, x₆, -, connected⟩ := leads_bind_ok connected
    obtain ⟨x₇, -, connected⟩ := leads_give_bind connected
    exact blank_of_equip connected
  · exact blank_of_equip connected

end Gl

/-! ## Devices -/

namespace Wgpu

variable {s s' : Session} {name : String} {inputs : List Nat} {output : Target}
  {uniforms : List Scalar} {clear : Option Color} {texel : Handle .texture}

/-- The view of a target, or the view of a single texel. -/
def Adapter.viewOf (a : Adapter) : Option Nat → Option (Handle .view)
  | some slot => a.targets[slot]?.map (·.view)
  | none => some a.empty

namespace Session

/-- An effect is drawn: its channels are bound, and it does not sample what it is drawn to. -/
structure SamplesOthers (s : Session) (inputs : List Nat) (output : Target) (d : Draw) : Prop where
  /-- It is drawn to its target. -/
  target : s.adapter.canvas output = some d.pass.view
  /-- Its group holds the views that the channels are to read. -/
  channels : ∃ views : List (Handle .view),
    d.resources 1 = some (views.map Resource.view ++ [.sampler s.adapter.channelSampler]) ∧
    views.length = maxChannels ∧
    ∀ c < maxChannels, ∃ v, s.adapter.viewOf (channelSlot inputs output c) = some v ∧
    views[c]? = some v
  /-- No view of the group is the one that is drawn to, or shows the same image. -/
  others : ∀ v, .view v ∈ (d.resources 1).getD [] → v ≠ d.pass.view ∧
    ∃ x ∈ s.platform.sights, ∃ y ∈ s.platform.sights, x.view = v ∧ y.view = d.pass.view ∧
    x.image ≠ y.image

/-- What comes of a run of an effect: an answer, and commands. -/
inductive RunsEffect (s : Session) (name : String) (inputs : List Nat) (output : Target)
    (clear : Option Color) : Except RenderError Unit → List Command → Prop
  /-- It is drawn. -/
  | drawn (complete : ¬ s.adapter.tables.Lacks name inputs output)
      (frame : s.adapter.frame.isSome = true) {cs : List Command} (draws : ∀ rec : Recorder, ∃ d,
        rec.draws cs = (clear.map (.fill d.pass.view)).toList ++ [.vertices d 3] ∧
        s.SamplesOthers inputs output d) :
      RunsEffect s name inputs output clear (.ok ()) cs
  /-- Something is lacking, and nothing is drawn. -/
  | refused (lacks : s.adapter.tables.Lacks name inputs output) (e : RenderError)
      {cs : List Command} (nothing : ∀ rec : Recorder, rec.draws cs = []) :
      RunsEffect s name inputs output clear (.error e) cs
  /-- No frame is recorded, and nothing is drawn. -/
  | unseen (frame : s.adapter.frame = none) (r : Except RenderError Unit) :
      RunsEffect s name inputs output clear r []

/-- The view of a channel shows something else than what is drawn to. -/
theorem sight_ne (sees : s.platform.Sees (s.adapter.sights texel)) {v : Handle .view}
    (hv : s.adapter.canvas output = some v) {c : Nat} {u : Handle .view}
    (hu : s.adapter.viewOf (channelSlot inputs output c) = some u) :
    ∃ x ∈ s.adapter.sights texel, ∃ y ∈ s.adapter.sights texel, x.view = u ∧
    y.view = v ∧ x ≠ y := by
  have apart := sees.nodup.1
  simp only [Adapter.sights, List.nodup_cons, List.nodup_append, List.mem_append] at apart
  obtain ⟨first, targets, -, frame⟩ := apart
  -- the view that is drawn to is that of a target or of the frame, and comes after the empty one
  have drawn : ∃ y ∈ s.adapter.targets.map (·.sight) ++ (s.adapter.frame.map (·.sight)).toList,
      y.view = v ∧
      ∀ i t, output ≠ .offscreen i → s.adapter.targets[i]? = some t → t.sight ≠ y := by
    cases output with
    | surface =>
      obtain ⟨f, hf, rfl⟩ := Option.map_eq_some_iff.mp hv
      refine ⟨f.sight, by simp [hf], rfl, fun i t _ ht same => ?_⟩
      cases congrArg Sight.image same
    | offscreen j =>
      obtain ⟨t, ht, rfl⟩ := Option.map_eq_some_iff.mp hv
      refine ⟨t.sight, List.mem_append_left _ (List.mem_map_of_mem (List.mem_of_getElem? ht)), rfl,
        ?_⟩
      intro i t' other ht' same
      have hi : (s.adapter.targets.map (·.sight))[i]? = some t'.sight := by
        rw [List.getElem?_map, ht']; rfl
      have hj : (s.adapter.targets.map (·.sight))[j]? = some t'.sight := by
        rw [List.getElem?_map, ht, same]; rfl
      have lt := (List.getElem?_eq_some_iff.mp hi).1
      exact other (congrArg _ ((List.getElem?_inj lt targets).mp (hi.trans hj.symm)).symm)
  obtain ⟨y, hy, rfl, others⟩ := drawn
  cases hs : channelSlot inputs output c with
  | none =>
    rw [hs] at hu
    obtain rfl := Option.some.inj hu
    refine ⟨_, List.mem_cons_self, y, List.mem_cons_of_mem _ hy, rfl, rfl, ?_⟩
    rintro rfl
    exact first (List.mem_append.mp hy)
  | some i =>
    rw [hs] at hu
    obtain ⟨t, ht, rfl⟩ := Option.map_eq_some_iff.mp hu
    refine ⟨t.sight, ?_, y, List.mem_cons_of_mem _ hy, rfl, rfl,
      others i t (ne_of_channelSlot hs) ht⟩
    exact List.mem_cons_of_mem _
      (List.mem_append_left _ (List.mem_map_of_mem (List.mem_of_getElem? ht)))

theorem viewOf_eq {c : Nat} (complete : ¬ s.adapter.tables.Lacks name inputs output)
    (hc : c < maxChannels) :
    s.adapter.viewOf (channelSlot inputs output c) = some
    (s.adapter.channelOf (channelSlot inputs output c)) := by
  cases hs : channelSlot inputs output c with
  | none => rfl
  | some slot =>
    have there : slot < s.adapter.targets.length := Tables.lt_of_channelSlot complete hc hs
    simp [Adapter.viewOf, Adapter.channelOf, there]

/-- An effect that is shown samples the views of its channels. -/
theorem samplesOthers_of_shows (sees : s.platform.Sees (s.adapter.sights texel))
    (complete : ¬ s.adapter.tables.Lacks name inputs output) {x : Drawn} (h : s.adapter.Shows
      (.effect name ((List.range maxChannels).map (channelSlot inputs output)) output uniforms) x) :
    ∃ d, x = .vertices d 3 ∧ s.SamplesOthers inputs output d := by
  cases h with
  | @effect _ _ v p hv hp _ _ block group resources hr =>
    have views : ∀ c < maxChannels, s.adapter.viewOf (channelSlot inputs output c) =
        some (s.adapter.channelOf (channelSlot inputs output c)) :=
      fun c hc => viewOf_eq complete hc
    refine ⟨_, rfl, hv,
      ⟨((List.range maxChannels).map (channelSlot inputs output)).map s.adapter.channelOf,
        ?_, by simp, fun c hc => ⟨_, views c hc, by simp [hc]⟩⟩, fun u hu => ?_⟩
    · refine hr.trans ?_
      simp only [List.map_map, Function.comp_def]
    · change Resource.view u ∈ (resources 1).getD [] at hu
      rw [hr] at hu
      simp only [Option.getD_some, List.mem_append, List.mem_map, List.mem_range,
        List.mem_singleton, reduceCtorEq, or_false] at hu
      obtain ⟨_, ⟨c, hc, rfl⟩, same⟩ := hu
      obtain rfl := Resource.view.inj same
      -- the two views are different entries of what the adapter sees, hence views of different
      -- images
      obtain ⟨x, hx, y, hy, hu, hv, other⟩ := sight_ne sees hv (views c hc)
      have different := sees.nodup.2 x hx y hy
      refine ⟨?_, x, sees.made x hx, y, sees.made y hy, hu, hv, fun same =>
        other (different (.inr same))⟩
      rw [← hu]
      exact fun same => other (different (.inl (same.trans hv.symm)))

/-- A run of an effect is drawn with its channels, or not at all. -/
theorem runsEffect (sees : s.platform.Sees (s.adapter.sights texel)) (name : String)
    (inputs : List Nat) (output : Target) (uniforms : List Scalar) (clear : Option Color) :
    let c := Call.issue (.runProgram name inputs output uniforms clear)
    ∃ cs, (s.perform c).2.platform.commands = s.platform.commands ++ cs ∧
      s.RunsEffect name inputs output clear (s.perform c).1 cs := by
  intro c
  have h := s.leads_issue (.runProgram name inputs output uniforms clear)
  cases hf : s.adapter.frame with
  | none =>
    obtain ⟨-, -, gave, -⟩ := leads_unseen hf rfl h
    exact ⟨[], gave.commands, .unseen hf _⟩
  | some f =>
    obtain ⟨reply, -, -, -, cs, gave, shows⟩ := drew_runProgram hf h
    refine ⟨cs, gave, ?_⟩
    change s.RunsEffect name inputs output clear (s.perform (.issue _)).1 cs
    revert reply
    generalize (s.perform (.issue (.runProgram name inputs output uniforms clear))).1 = r
    intro reply
    rcases s.adapter.tables.drawings_runProgram name inputs output uniforms clear with
      ⟨complete, -, -, -, drawings⟩ | ⟨lacks, e, refused⟩
    · rw [drawings] at reply shows
      cases reply with
      | ok v =>
        refine .drawn complete (hf ▸ rfl) fun rec => ?_
        have shows := shows rec
        -- with a colour there is a fill in front of the draw, to the same view
        cases clear with
        | none =>
          obtain ⟨x, rest, hx, hrest, draws⟩ := List.forall₂_cons_left_iff.mp shows
          obtain rfl := List.forall₂_nil_left_iff.mp hrest
          obtain ⟨d, rfl, samples⟩ := samplesOthers_of_shows sees complete hx
          exact ⟨d, draws, samples⟩
        | some color =>
          obtain ⟨y, _, hy, hrest, draws⟩ := List.forall₂_cons_left_iff.mp shows
          obtain ⟨x, _, hx, hrest', rfl⟩ := List.forall₂_cons_left_iff.mp hrest
          obtain rfl := List.forall₂_nil_left_iff.mp hrest'
          obtain ⟨d, rfl, samples⟩ := samplesOthers_of_shows sees complete hx
          cases hy with
          | fill hv color =>
            obtain rfl := Option.some.inj (hv.symm.trans samples.target)
            exact ⟨d, draws, samples⟩
    · rw [refused] at reply shows
      cases reply with
      | error => exact .refused lacks _ fun rec => List.forall₂_nil_left_iff.mp (shows rec)

end Session

end Wgpu

/-! ## Both adapters -/

/-- **Effects sample the targets that their inputs name, and never what they are drawn to.** At any
time, an adapter on a driver and one on a device draw an effect if all is there that it names. Then
each of its channels is bound to the target of its slot or to a single transparent texel, and what
is drawn to is bound to none of them. Otherwise nothing is drawn. -/
theorem effects_sample_other_targets {samplers : Gl.Handle .program → List Nat}
    {interface : Interface} {size size' : SurfaceSize} {host : Gl.Host} {g : Gl.Session}
    {o : DeviceOptions} {window : WindowId} {p : Platform} {w : Wgpu.Session}
    (hg : Gl.Session.start interface size { host := host } = .ok g)
    (rule : Throughout (Gl.SamplesDeclared samplers) g.context.commands.toList)
    (hw : Wgpu.Session.start size' o window p = .ok w) :
    (Gl.Blank g.context.commands.toList g.adapter.empty ∧ ∀ before,
      (g.serve before).adapter.empty = g.adapter.empty ∧ ∀ name inputs output uniforms clear,
        let c := Call.issue (.runProgram name inputs output uniforms clear)
        ∃ cs, ((g.serve before).perform c).2.context.commands.toList =
            (g.serve before).context.commands.toList ++ cs ∧
          (g.serve before).RunsEffect samplers name inputs output clear
          ((g.serve before).perform c).1 cs) ∧
    ∃ texel, w.platform.Blank texel ∧ ∀ before,
      ⟨(w.serve before).adapter.empty, .texture texel⟩ ∈ (w.serve before).platform.sights ∧
      ∀ name inputs output uniforms clear,
        let c := Call.issue (.runProgram name inputs output uniforms clear)
        ∃ cs, ((w.serve before).perform c).2.platform.commands =
          (w.serve before).platform.commands ++ cs ∧
          (w.serve before).RunsEffect name inputs output clear
          ((w.serve before).perform c).1 cs := by
  -- on either adapter the invariants hold after any calls, and they are all that a run needs
  refine ⟨⟨Gl.Session.blank_start hg, fun before =>
    ⟨g.empty_serve before, fun name inputs output uniforms clear => ?_⟩⟩,
    ?_⟩
  · obtain ⟨lost, held⟩ := Gl.Session.exists_holds hg before
    obtain ⟨rests, -⟩ := Gl.Session.rests_serve hg rule before
    exact rests.runsEffect held (Gl.Session.attached_serve hg before)
      name inputs output uniforms clear
  · obtain ⟨texel, blank, sees⟩ := Wgpu.Session.sees_serve hw
    refine ⟨texel, blank, fun before => ⟨(sees before).made _ List.mem_cons_self, ?_⟩⟩
    exact Wgpu.Session.runsEffect (sees before)

/-- An effect and two targets, and a frame that begins. -/
def twoTargets (source : ProgramSource) : List Call :=
  [.issue (.compileProgram "copy"
    { EffectProgram.ofEffect .wgsl .empty .replace with source := source }),
   .issue (.configureTargets ⟨4, 4⟩ [⟨4, 4⟩, ⟨2, 2⟩]), .issue (.beginFrame ⟨⟨0, 0⟩, ⟨2, 2⟩⟩)]

/-- The first target is drawn to while both are channels of the effect. Both adapters draw, and the
channel of the target itself gets the empty texture. -/
theorem effects_sample_other_targets_twoTargets :
    ∃ g w, Gl.Session.start .gles3 ⟨4, 4⟩ { host := {} } = .ok g ∧
    Wgpu.Session.start ⟨4, 4⟩ {} default {} = .ok w ∧
    (∃ cs, (g.serve (twoTargets (.glsl "vertex" "fragment"))).RunsEffect
      Gl.Session.spriteSamplers "copy" [1, 0]
      (.offscreen 0) none (.ok ()) cs) ∧
    ∃ cs, (w.serve (twoTargets (.wgsl "both"))).RunsEffect "copy" [1, 0]
    (.offscreen 0) none (.ok ()) cs := by
  have gl : ((Gl.Session.start .gles3 ⟨4, 4⟩ { host := {} }).toOption.any fun g =>
      ((g.serve (twoTargets (.glsl "vertex" "fragment"))).perform
        (.issue (.runProgram "copy" [1, 0] (.offscreen 0) [4, 4, 0] none))).1.isOk) = true := by
    decide +kernel
  have wgpu : ((Wgpu.Session.start ⟨4, 4⟩ {} default {}).toOption.any fun w =>
      ((w.serve (twoTargets (.wgsl "both"))).perform
        (.issue (.runProgram "copy" [1, 0] (.offscreen 0) [4, 4, 0] none))).1.isOk) = true := by
    decide +kernel
  obtain ⟨g, hg, rule⟩ :=
    @Gl.Session.start_of_declared Gl.Session.spriteSamplers .gles3 ⟨4, 4⟩ { host := {} }
    (by decide +kernel)
  obtain ⟨g', hg', glOk⟩ := exists_ok_of_any gl
  obtain rfl := Except.ok.inj (hg'.symm.trans hg)
  obtain ⟨w, hw, wgpuOk⟩ := exists_ok_of_any wgpu
  obtain ⟨⟨-, onDriver⟩, texel, -, onDevice⟩ := effects_sample_other_targets hg rule hw
  obtain ⟨cs, -, drawn⟩ :=
    (onDriver (twoTargets (.glsl "vertex" "fragment"))).2 "copy" [1, 0] (.offscreen 0) [4, 4, 0]
    none
  obtain ⟨ds, -, drawn'⟩ :=
    (onDevice (twoTargets (.wgsl "both"))).2 "copy" [1, 0] (.offscreen 0) [4, 4, 0] none
  -- what is known so far holds whatever is answered; both runs are answered without an error
  have answered : ∀ {r : Except RenderError Unit}, r.isOk = true → r = .ok () := by
    intro r hr
    cases r with
    | ok => rfl
    | error => cases hr
  exact ⟨g', w, hg, hw, ⟨cs, answered glOk ▸ drawn⟩, ds, answered wgpuOk ▸ drawn'⟩

end LitTiles
