import LitTiles.Proofs.Backend.History
import LitTiles.Proofs.Backend.Ledger
import LitTiles.Proofs.Wgpu.Flawless
import LitTiles.Proofs.Wgpu.Footage

/-!
# Frames from beginning to end

All that concerns one frame in the history of a session is its life: its texture is acquired, its
passes are recorded, one for each call that draws and succeeds, and then it is either submitted and
presented by the end of the frame, or given back by whatever comes instead (`frames_linear`). A
frame for which no texture could be had has no life at all.

What a single call adds to the footage is said once, in `Session.Turn`. Everything else follows from
it and from the fact that numbers are never given out twice.
-/

namespace LitTiles

open Wgpu

namespace Wgpu

namespace Subject

/-- The kind of object a subject is. -/
def kind : Subject → ObjectKind
  | texture _ => .surfaceTexture
  | encoder _ => .encoder

/-- The number of a subject among those of its kind. -/
def number : Subject → Nat
  | texture t => t.number
  | encoder e => e.number

end Subject

namespace Frame

/-- What belongs to a frame. -/
def subjects (f : Frame) : List Subject := [.texture f.texture, .encoder f.encoder]

/-- The command is about the frame. -/
def concerns (f : Frame) (c : Command) : Bool := c.subject?.any (· ∈ f.subjects)

/-- How a frame begins. -/
def opening (f : Frame) : List Command :=
  [.acquire f.texture, .createSurfaceView f.view f.texture,
    .createEncoder f.encoder "tessera frame encoder"]

/-- How a frame is shown. -/
def submission (f : Frame) : List Command :=
  [.finish f.encoder, .submit f.encoder, .present f.texture]

/-- How a frame ends, by the call that ends it. If there is none it ends when the session is
closed. -/
def ending (f : Frame) : Option Call → List Command
  | some (.issue .endFrame) => f.submission
  | _ => [.discard f.texture]

/-- What belongs to the frame was made between two states of a platform. -/
def MadeBetween (f : Frame) (p p' : Platform) : Prop :=
  ∀ x ∈ f.subjects, p.made x.kind < x.number ∧ x.number ≤ p'.made x.kind

variable {f g : Frame} {c : Command} {x : Subject} {cs : List Command} {p p' : Platform}

/-- A command concerns a frame if its subject is the texture or the encoder of the frame. -/
theorem concerns_iff : f.concerns c = true ↔ ∃ x ∈ f.subjects, c.subject? = some x := by
  rw [concerns, Option.any_eq_true]
  constructor
  · rintro ⟨x, hc, hx⟩
    exact ⟨x, of_decide_eq_true hx, hc⟩
  · rintro ⟨x, hx, hc⟩
    exact ⟨x, hc, decide_eq_true hx⟩

/-- Frames that were made at different times have nothing in common. -/
theorem MadeBetween.disjoint (h : f.MadeBetween p p') (hx : x ∈ f.subjects)
    (old : x.number ≤ p.made x.kind) : False :=
  absurd (h x hx).1 (Nat.not_lt.mpr old)

/-- Where all commands are about the frame, nothing is filtered out. -/
theorem filter_eq_self_of_subjects (h : ∀ c ∈ cs, ∃ x ∈ f.subjects, c.subject? = some x) :
    cs.filter f.concerns = cs :=
  List.filter_eq_self.mpr fun c hc => concerns_iff.mpr (h c hc)

/-- Where none is, everything is. -/
theorem filter_eq_nil_of_subjects (h : ∀ c ∈ cs, ∀ x ∈ f.subjects, c.subject? ≠ some x) :
    cs.filter f.concerns = [] := by
  refine List.filter_eq_nil_iff.mpr fun c hc hf => ?_
  obtain ⟨x, hx, hs⟩ := concerns_iff.mp hf
  exact h c hc x hx hs

/-- All that concerns a frame is footage. -/
theorem filter_commands (f : Frame) (p : Platform) :
    p.commands.filter f.concerns = p.footage.filter f.concerns := by
  rw [Platform.footage, List.filter_filter]
  refine List.filter_congr fun c _ => ?_
  cases hc : c.subject? <;> simp [concerns, hc]

/-- What begins a frame is about its texture and its encoder. -/
theorem subjects_opening (f : Frame) : ∀ c ∈ f.opening, ∃ x ∈ f.subjects, c.subject? = some x := by
  simp [opening, subjects, Command.subject?]

/-- So is what submits and presents it. -/
theorem subjects_submission (f : Frame) : ∀ c ∈ f.submission, ∃ x ∈ f.subjects,
    c.subject? = some x := by
  simp [submission, subjects, Command.subject?]

/-- Whether a frame is presented or discarded, the commands that end it are about it. -/
theorem subjects_ending (f : Frame) (next : Option Call) :
    ∀ c ∈ f.ending next, ∃ x ∈ f.subjects, c.subject? = some x := by
  unfold ending
  split
  · exact f.subjects_submission
  · simp [subjects, Command.subject?]

/-- The pass of a call that draws is recorded with the encoder of the frame. -/
theorem subjects_shot {a : Adapter} {command : LitTiles.Command} (h : a.shot f command = some c) :
    ∃ x ∈ f.subjects, c.subject? = some x := by
  have pass : ∀ {label target load}, a.passTo f label target load = some c →
      c.subject? = some (.encoder f.encoder) := by
    intro label target load h
    obtain ⟨v, -, rfl⟩ := Option.map_eq_some_iff.mp h
    rfl
  refine ⟨.encoder f.encoder, by simp [subjects], ?_⟩
  cases command <;> first | exact pass h | cases h

end Frame

/-- What an adapter gives up is about its frame. -/
theorem Adapter.subjects_abandon {a : Adapter} {c : Command} (hc : c ∈ a.abandon) :
    ∃ f, a.frame = some f ∧ ∃ x ∈ f.subjects, c.subject? = some x := by
  obtain ⟨f, hf, rfl⟩ := Option.map_eq_some_iff.mp (Option.mem_toList.mp hc)
  exact ⟨f, hf, .texture f.texture, by simp [Frame.subjects], rfl⟩

/-! ## Beginnings -/

namespace Adapter

open AdapterM

variable {s s' : Session} {r : Except RenderError (Option Frame)}

/-- What comes of asking for a texture: a new frame that begins, or nothing. -/
def Asked (s : Session) (got : Option Frame) (s' : Session) : Prop :=
  s'.adapter = s.adapter ∧ match got with
    | some f => s.platform.Filmed f.opening s'.platform ∧ f.MadeBetween s.platform s'.platform
    | none => s.platform.Filmed [] s'.platform

/-- A texture that is taken comes with a view and an encoder: that is the opening of a new frame. -/
theorem asked_takeTexture {r : Except RenderError Acquired} (h : takeTexture.Leads s r s') :
    ∃ f, r = .ok (.frame f) ∧ Asked s (some f) s' := by
  obtain ⟨texture, t, ht, number, last, acquired, h⟩ := filmed_make_bind h
  obtain ⟨view, u, hu, -, -, viewed, h⟩ := filmed_make_bind h
  obtain ⟨encoder, v, hv, number', last', encoded, h⟩ := filmed_make_bind h
  obtain ⟨rfl, rfl⟩ := leads_pure h
  have before := (acquired.append viewed).made .encoder
  have after := (viewed.append encoded).made .surfaceTexture
  refine ⟨_, rfl, (hv.trans hu).trans ht, (acquired.append viewed).append encoded, fun x hx => ?_⟩
  rcases List.mem_pair.mp hx with rfl | rfl <;> simp only [Subject.kind, Subject.number] <;> omega

/-- Without a texture there is no frame, and nothing is filmed; the surface may have been
configured. -/
theorem asked_lackTexture {e : AcquireError} {r : Except RenderError Acquired}
    (h : (lackTexture e).Leads s r s') :
    (∀ f, r ≠ .ok (.frame f)) ∧ Asked s none s' := by
  obtain ⟨t, ht, failed, h⟩ := filmed_giveAll_bind h
  split at h
  · obtain ⟨u, hu, configured, h⟩ := filmed_giveAll_bind (leads_get_bind h)
    obtain ⟨rfl, rfl⟩ := leads_pure h
    exact ⟨fun f hf => (nomatch hf), hu.trans ht, failed.append configured⟩
  split at h
  · obtain ⟨rfl, rfl⟩ := leads_throw h
    exact ⟨fun f hf => (nomatch hf), ht, failed⟩
  rcases leads_bind h with ⟨e, -, hs⟩ | ⟨⟨⟩, u, hs, h⟩
  · obtain ⟨he, -⟩ := leads_say hs
    cases he
  · obtain ⟨rfl, rfl⟩ := leads_pure h
    exact ⟨fun f hf => (nomatch hf), (leads_say hs).2.1.trans ht,
      failed.append (offstage_say _ _ _ _ _ rfl hs).2⟩

/-- One attempt ends in one of these two ways. -/
theorem asked_acquireOnce {r : Except RenderError Acquired} (h : acquireOnce.Leads s r s') :
    (∃ f, r = .ok (.frame f) ∧ Asked s (some f) s') ∨ (∀ f, r ≠ .ok (.frame f)) ∧
    Asked s none s' := by
  -- that attempts are counted is no footage
  obtain ⟨t, rfl, ⟨-, taken⟩ | ⟨e, -, lacked⟩⟩ := leads_acquireOnce h
  · obtain ⟨f, hr, ha, filmed, made⟩ := asked_takeTexture taken
    exact .inl ⟨f, hr, ha, ⟨filmed.footage, filmed.made⟩, made⟩
  · obtain ⟨hr, ha, filmed⟩ := asked_lackTexture lacked
    exact .inr ⟨hr, ha, ⟨filmed.footage, filmed.made⟩⟩

/-- However often it is tried, there is one frame in the end or none. -/
theorem asked_acquire {n : Nat} (h : (acquire n).Leads s r s') :
    (∃ e, r = .error e ∧ Asked s none s') ∨ ∃ got, r = .ok got ∧ Asked s got s' := by
  induction n generalizing s with
  | zero =>
    obtain ⟨rfl, rfl⟩ := leads_pure h
    exact .inr ⟨none, rfl, rfl, s'.platform.filmed_nil⟩
  | succ n ih =>
    rcases leads_bind h with ⟨e, rfl, ho⟩ | ⟨acquired, t, ho, h⟩
    · rcases asked_acquireOnce ho with ⟨f, hf, -⟩ | ⟨-, asked⟩
      · cases hf
      · exact .inl ⟨e, rfl, asked⟩
    rcases asked_acquireOnce ho with ⟨f, hf, asked⟩ | ⟨hr, ha, filmed⟩
    · obtain rfl := Except.ok.inj hf
      obtain ⟨rfl, rfl⟩ := leads_pure h
      exact .inr ⟨some f, rfl, asked⟩
    cases acquired with
    | frame f => exact absurd rfl (hr f)
    | skip =>
      obtain ⟨rfl, rfl⟩ := leads_pure h
      exact .inr ⟨none, rfl, ha, filmed⟩
    | retry =>
      -- the attempt before has filmed nothing
      have later : ∀ {got}, Asked t got s' → Asked s got s' := by
        intro got asked
        obtain ⟨ha', rest⟩ := asked
        refine ⟨ha'.trans ha, ?_⟩
        cases got with
        | none => exact filmed.append rest
        | some f =>
          refine ⟨filmed.append rest.1, fun x hx => ?_⟩
          obtain ⟨after, before⟩ := rest.2 x hx
          exact ⟨Nat.lt_of_le_of_lt (filmed.made _) after, before⟩
      rcases ih h with ⟨e, hr, asked⟩ | ⟨got, hr, asked⟩
      · exact .inl ⟨e, hr, later asked⟩
      · exact .inr ⟨got, hr, later asked⟩

end Adapter

/-! ## Turns -/

namespace Session

open AdapterM

variable {s s' t : Session} {c : Call} {f : Frame}

/-- What was taken of a call. -/
def take (s : Session) : Call → Option (Adapter × LitTiles.Command)
  | .issue command => s.takeOf command (s.perform (.issue command)).1
  | _ => none

/-- What was taken of some calls, one after the other. -/
def takes (s : Session) : List Call → List (Adapter × LitTiles.Command)
  | [] => []
  | c :: cs => (s.take c).toList ++ takes (s.perform c).2 cs

/-- **What a call films**, and which frame is recorded afterwards. -/
inductive Turn (s : Session) : Call → Session → Prop
  /-- A frame begins. -/
  | opens {s' : Session} {f : Frame} (visible : Rect) (hf : s'.adapter.frame = some f)
      (filmed : s.platform.Filmed (s.adapter.abandon ++ f.opening) s'.platform)
      (made : f.MadeBetween s.platform s'.platform) : Turn s (.issue (.beginFrame visible)) s'
  /-- No texture can be had for a frame. -/
  | skips {s' : Session} (visible : Rect) (hf : s'.adapter.frame = none)
      (filmed : s.platform.Filmed s.adapter.abandon s'.platform) :
        Turn s (.issue (.beginFrame visible)) s'
  /-- A frame is shown, if there is one. -/
  | shows {s' : Session} (hf : s'.adapter.frame = none)
      (filmed : s.platform.Filmed ((s.adapter.frame.map (·.submission)).getD []) s'.platform) :
      Turn s (.issue .endFrame) s'
  /-- The recording goes on, if there is one. -/
  | goesOn {s' : Session} {c : Call} {shots : List Command} (hc : c.isCut = false)
      (hf : s'.adapter.frame = s.adapter.frame) (filmed : s.platform.Filmed shots s'.platform)
      (taken : ∀ f, s.adapter.frame = some f → shots.map some = (s.take c).toList.map fun take =>
        take.1.shot f take.2)
      (unseen : s.adapter.frame = none → shots = []) : Turn s c s'

/-- When a frame begins, what is left of the one before is given back first. Then either a new one
is opened, or the beginning failed and none is recorded. -/
theorem turn_beginFrame (s : Session) (visible : Rect) :
    s.Turn (.issue (.beginFrame visible)) (s.perform (.issue (.beginFrame visible))).2 := by
  have h := s.leads_issue (.beginFrame visible)
  obtain ⟨t, ht, abandoned, h⟩ := filmed_giveAll_bind (leads_get_bind h)
  -- every command given here is about the frame that is given up
  have given : s.adapter.abandon.filter (·.subject?.isSome) = s.adapter.abandon := by
    refine List.filter_eq_self.mpr fun c hc => ?_
    obtain ⟨f, -, x, -, hx⟩ := Adapter.subjects_abandon hc
    rw [hx]
    rfl
  rw [given] at abandoned
  replace h := leads_modify_bind h
  rcases leads_bind h with ⟨e, -, ho⟩ | ⟨got, u, ho, h⟩
  -- an acquisition that fails leaves no frame, one that succeeds may still skip
  · rcases Adapter.asked_acquire ho with ⟨e, -, ha, nothing⟩ | ⟨got, hg, -⟩
    · refine .skips visible (by rw [ha]) ?_
      have filmed := abandoned.append nothing
      rwa [List.append_nil] at filmed
    · cases hg
  rcases Adapter.asked_acquire ho with ⟨e, he, -⟩ | ⟨_, hg, ha, filmed⟩
  · cases he
  obtain rfl := Except.ok.inj hg
  obtain ⟨v, hv, written, h⟩ := filmed_giveAll_bind (leads_get_bind h)
  obtain ⟨-, h⟩ := leads_set h
  have platform := congrArg Session.platform h
  have adapter := congrArg Session.adapter h
  cases got with
  | none =>
    refine .skips visible (by rw [adapter]) ?_
    have all := (abandoned.append filmed).append written
    rw [platform]
    simpa [Command.subject?] using all
  -- the subjects of the new frame are made between the two platforms
  | some f =>
    obtain ⟨filmed, made⟩ := filmed
    refine .opens visible (by rw [adapter]) ?_ fun x hx => ?_
    · have all := (abandoned.append filmed).append written
      rw [platform]
      simpa [Command.subject?] using all
    · obtain ⟨after, before⟩ := made x hx
      rw [platform]
      exact ⟨Nat.lt_of_le_of_lt (abandoned.made _) after, Nat.le_trans before (written.made _)⟩

/-- The end of a frame submits and presents it. Without a frame it is empty. -/
theorem turn_endFrame (s : Session) : s.Turn (.issue .endFrame)
    (s.perform (.issue .endFrame)).2 := by
  have h := leads_get_bind (s.leads_issue .endFrame)
  cases hf : s.adapter.frame with
  | none =>
    rw [hf] at h
    obtain ⟨-, h⟩ := leads_pure h
    refine .shows (by rw [h, hf]) ?_
    rw [h, hf]
    exact s.platform.filmed_nil
  | some f =>
    rw [hf] at h
    obtain ⟨-, ha, filmed⟩ := filmed_giveAll (leads_modify_bind h)
    refine .shows (by rw [ha]) ?_
    rw [hf]
    exact filmed

/-- A call that neither begins nor ends a frame films what was taken of it. -/
theorem turn_goesOn {c : Call} (hc : c.isCut = false) (s : Session) : s.Turn c (s.perform c).2 := by
  -- a call that keeps out of the frame is filmed with nothing
  have offstage : ∀ {α : Type} {m : AdapterM α} {r : Except RenderError α},
      m.Offstage s.adapter.frame →
      m.Leads s r (s.perform c).2 → s.take c = none → s.Turn c (s.perform c).2 := by
    intro α m r hm h nothing
    obtain ⟨frame, filmed⟩ := hm _ _ _ rfl h
    exact .goesOn hc frame filmed (fun f _ => by rw [nothing]; rfl) fun _ => rfl
  cases c with
  | createBuffer capacity =>
    exact offstage (Adapter.offstage_createBuffer capacity) (s.leads_createBuffer capacity) rfl
  | freeBuffer id =>
    obtain ⟨r, h⟩ := s.leads_freeBuffer id
    exact offstage (Adapter.offstage_freeBuffer id) h rfl
  | issue command =>
    have h := s.leads_issue command
    cases hf : s.adapter.frame with
    | none =>
      -- without a frame the call is out of sight, be it a drawing or not
      have still : (s.perform (.issue command)).2.adapter.frame = s.adapter.frame ∧
          s.platform.Filmed [] (s.perform (.issue command)).2.platform := by
        cases hd : (Call.issue command).isDrawing with
        | false => exact Adapter.offstage_execute hc hd _ _ _ rfl h
        | true =>
          obtain ⟨-, ha, -, filmed⟩ := leads_unseen hf hd h
          exact ⟨by rw [ha], filmed⟩
      exact .goesOn hc still.1 still.2 (fun f some =>
        absurd (some.symm.trans hf) (Option.some_ne_none f)) fun _ => rfl
    | some f =>
      obtain ⟨frame, shots, filmed, taken⟩ := shoots_execute hf hc h
      refine .goesOn hc frame filmed (fun g hg => ?_) fun none => ?_
      · obtain rfl := Option.some.inj (hf.symm.trans hg)
        exact taken
      · rw [hf] at none
        cases none

/-- Every call is a turn. From here on only the four cases of `Turn` are looked at, and no call is
opened any more. -/
theorem turn_perform (s : Session) (c : Call) : s.Turn c (s.perform c).2 := by
  cases hc : c.isCut with
  | false => exact turn_goesOn hc s
  | true =>
    match c, hc with
    | .issue (.beginFrame visible), _ => exact turn_beginFrame s visible
    | .issue .endFrame, _ => exact turn_endFrame s

/-- All that a call films is about the frame before it or the one after it, and the latter is the
same or new. -/
theorem Turn.about (h : s.Turn c s') :
    (∃ cs, s.platform.Filmed cs s'.platform ∧ ∀ d ∈ cs, ∃ f,
      (s.adapter.frame = some f ∨ s'.adapter.frame = some f) ∧
      ∃ x ∈ f.subjects, d.subject? = some x) ∧
    ∀ f, s'.adapter.frame = some f → s.adapter.frame = some f ∨
    f.MadeBetween s.platform s'.platform := by
  -- what is said about the old frame concerns the old frame
  have given : ∀ d ∈ s.adapter.abandon, ∃ f,
      (s.adapter.frame = some f ∨ s'.adapter.frame = some f) ∧
      ∃ x ∈ f.subjects, d.subject? = some x := by
    intro d hd
    obtain ⟨f, hf, about⟩ := Adapter.subjects_abandon hd
    exact ⟨f, .inl hf, about⟩
  cases h with
  | @opens _ f visible hf filmed made =>
    refine ⟨⟨_, filmed, List.forall_mem_append.mpr ⟨given, fun d hd => ?_⟩⟩, fun g hg => ?_⟩
    · exact ⟨f, .inr hf, f.subjects_opening d hd⟩
    · obtain rfl := Option.some.inj (hf.symm.trans hg)
      exact .inr made
  | skips visible hf filmed =>
    exact ⟨⟨_, filmed, given⟩, fun g hg => absurd (hg.symm.trans hf) (Option.some_ne_none g)⟩
  | shows hf filmed =>
    refine ⟨⟨_, filmed, fun d hd => ?_⟩, fun g hg =>
      absurd (hg.symm.trans hf) (Option.some_ne_none g)⟩
    cases hs : s.adapter.frame with
    | none =>
      rw [hs] at hd
      cases hd
    | some f =>
      rw [hs] at hd
      exact ⟨f, .inl rfl, f.subjects_submission d hd⟩
  | @goesOn _ _ shots hc hf filmed taken unseen =>
    refine ⟨⟨_, filmed, fun d hd => ?_⟩, fun g hg => .inl (hf ▸ hg)⟩
    cases hs : s.adapter.frame with
    | none =>
      rw [unseen hs] at hd
      cases hd
    | some f =>
      -- a shot is one of the frame that was open
      have shot : some d ∈ (s.take c).toList.map fun take => take.1.shot f take.2 :=
        taken f hs ▸ List.mem_map_of_mem hd
      obtain ⟨take, -, ht⟩ := List.mem_map.mp shot
      exact ⟨f, .inl rfl, Frame.subjects_shot ht⟩

/-! ## Numbers -/

/-- All that was filmed, and what is recorded now, was made before. -/
structure Dated (s : Session) : Prop where
  /-- The footage. -/
  footage : ∀ d ∈ s.platform.footage, ∀ x, d.subject? = some x → x.number ≤ s.platform.made x.kind
  /-- The frame. -/
  frame : ∀ f, s.adapter.frame = some f → ∀ x ∈ f.subjects, x.number ≤ s.platform.made x.kind

/-- A turn makes no command about an object with a number that was not given out yet. -/
theorem Dated.turn (h : s.Dated) (turn : s.Turn c s') : s'.Dated := by
  obtain ⟨⟨cs, filmed, about⟩, frames⟩ := turn.about
  have later : ∀ {f}, s.adapter.frame = some f → ∀ x ∈ f.subjects,
      x.number ≤ s'.platform.made x.kind :=
    fun hf x hx => Nat.le_trans (h.frame _ hf x hx) (filmed.made _)
  have frame : ∀ f, s'.adapter.frame = some f → ∀ x ∈ f.subjects,
      x.number ≤ s'.platform.made x.kind := by
    intro f hf x hx
    rcases frames f hf with hf | made
    · exact later hf x hx
    · exact (made x hx).2
  refine ⟨fun d hd x hx => ?_, frame⟩
  rw [filmed.footage] at hd
  rcases List.mem_append.mp hd with hd | hd
  · exact Nat.le_trans (h.footage d hd x hx) (filmed.made _)
  · obtain ⟨f, hf, y, hy, hdy⟩ := about d hd
    obtain rfl := Option.some.inj (hdy.symm.trans hx)
    rcases hf with hf | hf
    · exact later hf _ hy
    · exact frame f hf _ hy

/-- Nor does any sequence of calls. -/
theorem Dated.serve (h : s.Dated) (calls : List Call) : (s.serve calls).Dated := by
  induction calls using List.reverseRecOn with
  | nil => exact h
  | append_singleton calls c ih =>
    rw [serve_append]
    exact ih.turn (turn_perform _ c)

/-! ## After a frame -/

/-- The frame was made, and what is recorded now has nothing in common with it. -/
structure Past (f : Frame) (s : Session) : Prop where
  /-- It was made. -/
  made : ∀ x ∈ f.subjects, x.number ≤ s.platform.made x.kind
  /-- It is not recorded. -/
  gone : ∀ g, s.adapter.frame = some g → ∀ x ∈ g.subjects, x ∉ f.subjects

/-- Nothing more concerns a frame that is past. -/
theorem Past.turn (h : Past f s) (turn : s.Turn c s') :
    Past f s' ∧ s'.platform.footage.filter f.concerns = s.platform.footage.filter f.concerns := by
  obtain ⟨⟨cs, filmed, about⟩, frames⟩ := turn.about
  have gone : ∀ g, s'.adapter.frame = some g → ∀ x ∈ g.subjects, x ∉ f.subjects := by
    intro g hg x hx hf
    rcases frames g hg with hg | made
    · exact h.gone g hg x hx hf
    · exact made.disjoint hx (h.made x hf)
  refine ⟨⟨fun x hx => Nat.le_trans (h.made x hx) (filmed.made _), gone⟩, ?_⟩
  have unconcerned : cs.filter f.concerns = [] := by
    refine Frame.filter_eq_nil_of_subjects fun d hd x hx hdx => ?_
    obtain ⟨g, hg, y, hy, hdy⟩ := about d hd
    obtain rfl := Option.some.inj (hdy.symm.trans hdx)
    rcases hg with hg | hg
    · exact h.gone g hg _ hy hx
    · exact gone g hg _ hy hx
  rw [filmed.footage, List.filter_append, unconcerned, List.append_nil]

/-- What is over stays over: no later call adds to the footage of a frame. By induction on the
calls. -/
theorem Past.serve (h : Past f s) (calls : List Call) :
    Past f (s.serve calls) ∧
      (s.serve calls).platform.footage.filter f.concerns =
      s.platform.footage.filter f.concerns := by
  induction calls using List.reverseRecOn with
  | nil => exact ⟨h, rfl⟩
  | append_singleton calls c ih =>
    obtain ⟨before, same⟩ := ih
    obtain ⟨past, same'⟩ := before.turn (turn_perform _ c)
    rw [serve_append]
    exact ⟨past, same'.trans same⟩

/-- When a session is closed its frame is given up, and nothing else is filmed. -/
theorem footage_close (s : Session) :
    s.close.footage = s.platform.footage ++ s.adapter.abandon := by
  have filmed := s.platform.filmed_addAll s.adapter.dispose
  have given : s.adapter.dispose.filter (·.subject?.isSome) = s.adapter.abandon := by
    unfold Adapter.dispose Adapter.abandon
    cases s.adapter.frame <;> simp [Command.subject?, List.filter_map, Function.comp_def]
  rw [given] at filmed
  exact filmed.footage

/-- Neither does closing the device. -/
theorem Past.close (h : Past f s) :
    s.close.footage.filter f.concerns = s.platform.footage.filter f.concerns := by
  have unconcerned : s.adapter.abandon.filter f.concerns = [] := by
    refine Frame.filter_eq_nil_of_subjects fun d hd x hx hdx => ?_
    obtain ⟨g, hg, y, hy, hdy⟩ := Adapter.subjects_abandon hd
    obtain rfl := Option.some.inj (hdy.symm.trans hdx)
    exact h.gone g hg _ hy hx
  rw [footage_close, List.filter_append, unconcerned, List.append_nil]

/-! ## During a frame -/

/-- Calls that neither begin nor end a frame film what was taken of them. -/
theorem records_serve (hf : s.adapter.frame = some f) {during : List Call}
    (hc : ∀ c ∈ during, c.isCut = false) :
    (s.serve during).adapter.frame = some f ∧ ∃ shots,
    s.platform.Filmed shots (s.serve during).platform ∧
      shots.map some = (s.takes during).map fun take => take.1.shot f take.2 := by
  induction during generalizing s with
  | nil => exact ⟨hf, [], s.platform.filmed_nil, rfl⟩
  | cons c during ih =>
    obtain ⟨first, rest⟩ := List.forall_mem_cons.mp hc
    cases s.turn_perform c with
    | @goesOn _ _ shot _ frame filmed taken =>
      obtain ⟨frame', shots, filmed', taken'⟩ := ih (frame.trans hf) rest
      refine ⟨frame', shot ++ shots, filmed.append filmed', ?_⟩
      rw [List.map_append, taken f hf, taken', takes, List.map_append]
    | _ => cases first

/-- The same calls film nothing where there is no frame, and only names are checked. -/
theorem skips_serve (hf : s.adapter.frame = none) {during : List Call}
    (hc : ∀ c ∈ during, c.isCut = false) :
    (s.serve during).adapter.frame = none ∧ s.platform.Filmed [] (s.serve during).platform := by
  induction during generalizing s with
  | nil => exact ⟨hf, s.platform.filmed_nil⟩
  | cons c during ih =>
    obtain ⟨first, rest⟩ := List.forall_mem_cons.mp hc
    cases s.turn_perform c with
    | goesOn _ frame filmed _ unseen =>
      obtain ⟨frame', filmed'⟩ := ih (frame.trans hf) rest
      exact ⟨frame', (unseen hf ▸ filmed).append filmed'⟩
    | _ => cases first

/-! ## The start -/

end Session

namespace Session

variable {s s' t : Session} {c : Call} {f : Frame} {size : SurfaceSize} {o : DeviceOptions}
  {window : WindowId} {host : DeviceHost}

/-- Nothing was filmed when a session starts. -/
theorem footage_start (hs : Session.start size o window { host := host } = .ok s) :
    s.platform.footage = [] := by
  have confined : (Adapter.connect size o).Confined Concern.offstage :=
    Adapter.confined_connect (by decide) (by decide) (by decide) size o
  exact (confined _ _ _ (leads_start hs)).filmed.footage

/-- At the start the footage is empty. -/
theorem dated_start (hs : Session.start size o window { host := host } = .ok s) : s.Dated := by
  obtain ⟨-, frame, -⟩ := of_start hs
  refine ⟨fun d hd => ?_, fun f hf => absurd (hf.symm.trans frame) (Option.some_ne_none f)⟩
  rw [footage_start hs] at hd
  cases hd

/-! ## Lives -/

/-- The frame begins with the last of some calls. -/
def Opened (s : Session) (calls : List Call) (f : Frame) : Prop :=
  ∃ before visible after, calls = before ++ .issue (.beginFrame visible) :: after ∧
    (s.serve (before ++ [.issue (.beginFrame visible)])).adapter.frame = some f

/-- A frame that was begun by some of the calls was begun by all of them. -/
theorem Opened.append {calls : List Call} (h : s.Opened calls f) (more : List Call) :
    s.Opened (calls ++ more) f := by
  obtain ⟨before, visible, after, rfl, hf⟩ := h
  exact ⟨before, visible, after ++ more, by simp, hf⟩

/-- What is filmed is always about a frame that was begun, and so is the frame that is recorded. -/
theorem opened_serve (hs : Session.start size o window { host := host } = .ok s)
    (calls : List Call) :
    (∀ f, (s.serve calls).adapter.frame = some f → s.Opened calls f) ∧
      ∀ d ∈ (s.serve calls).platform.footage, ∀ x, d.subject? = some x → ∃ f, s.Opened calls f ∧
      x ∈ f.subjects := by
  induction calls using List.reverseRecOn with
  | nil =>
    obtain ⟨-, frame, -⟩ := of_start hs
    refine ⟨fun f hf => absurd (hf.symm.trans frame) (Option.some_ne_none f), fun d hd => ?_⟩
    rw [serve_nil, footage_start hs] at hd
    cases hd
  | append_singleton calls c ih =>
    obtain ⟨frames, footage⟩ := ih
    have turn := turn_perform (s.serve calls) c
    obtain ⟨⟨cs, filmed, about⟩, -⟩ := turn.about
    -- a frame there now was opened by this call, or it was there before
    have frames' : ∀ f, (s.serve (calls ++ [c])).adapter.frame = some f →
        s.Opened (calls ++ [c]) f := by
      intro f hf
      have after := hf
      rw [serve_append] at after
      cases turn with
      | opens visible => exact ⟨calls, visible, [], rfl, hf⟩
      | goesOn _ same => exact (frames f (same.symm.trans after)).append _
      | skips _ none | shows none => cases none.symm.trans after
    refine ⟨frames', fun d hd x hx => ?_⟩
    rw [serve_append, serve_singleton, filmed.footage] at hd
    -- what was filmed before is known, what this call adds is about a frame of before or after
    rcases List.mem_append.mp hd with hd | hd
    · obtain ⟨f, opened, hxf⟩ := footage d hd x hx
      exact ⟨f, opened.append _, hxf⟩
    · obtain ⟨f, hf, y, hy, hdy⟩ := about d hd
      obtain rfl := Option.some.inj (hdy.symm.trans hx)
      rcases hf with hf | hf
      · exact ⟨f, (frames f hf).append _, hy⟩
      · refine ⟨f, frames' f ?_, hy⟩
        rw [serve_append]
        exact hf

/-- What comes after a session: the platform after a call, or, if there is none, after closing. -/
def afterwards (s : Session) : Option Call → Platform
  | some c => (s.perform c).2.platform
  | none => s.close

/-- The life of a frame. A session was `s` before the frame, is `t` when it was begun, and `during`
are the calls up to the one that ends it; `whole` is the whole history. -/
structure Lives (f : Frame) (s t : Session) (during : List Call) (next : Option Call)
    (whole : List Command) (shots : List Command) : Prop where
  /-- There is one pass for each call that draws and succeeds, in order. -/
  taken : shots.map some = (t.takes during).map fun take => take.1.shot f take.2
  /-- What the frame before has left over is given back, and then a texture is acquired. -/
  begins : t.platform.footage = s.platform.footage ++ s.adapter.abandon ++ f.opening
  /-- Its calls record these passes and nothing else. -/
  records : (t.serve during).platform.footage = t.platform.footage ++ shots
  /-- The call that ends it does so first of all. -/
  ends : (t.serve during).platform.footage ++
    f.ending next <+: ((t.serve during).afterwards next).footage
  /-- Nothing else in the whole history concerns it. -/
  whole : whole.filter f.concerns = f.opening ++ shots ++ f.ending next

/-- A frame that is skipped: nothing is filmed but that what the frame before has left over is given
back, and calls that draw succeed, if they use no unknown name. -/
structure Skips (s t : Session) (during : List Call) : Prop where
  /-- Nothing is recorded. -/
  records : (t.serve during).platform.footage = s.platform.footage ++ s.adapter.abandon
  /-- Nothing is left to be given back or shown. -/
  ends : (t.serve during).adapter.abandon = [] ∧
    (t.serve (during ++ [.issue .endFrame])).platform.footage = (t.serve during).platform.footage
  /-- What is answered. -/
  answers : Throughout (fun earlier c => ∀ command, c = .issue command → c.isDrawing = true →
    ((t.serve earlier).perform (.issue command)).1 =
    (t.serve earlier).adapter.checkNames command) during

/-- A frame for which no texture was had: until the next beginning or end nothing is filmed. -/
theorem skips_of_begun (turn : s.Turn c t) (hc : c.isCut = true) (hf : t.adapter.frame = none)
    (begun : c ≠ .issue .endFrame) {during : List Call} (cuts : ∀ c ∈ during, c.isCut = false) :
    Skips s t during := by
  -- the begin that failed gave the old frame up and nothing else
  have given : s.platform.Filmed s.adapter.abandon t.platform := by
    cases turn with
    | opens _ some => cases hf.symm.trans some
    | skips _ _ filmed => exact filmed
    | shows => exact absurd rfl begun
    | goesOn go => cases hc.symm.trans go
  obtain ⟨frame, filmed⟩ := skips_serve hf cuts
  -- nothing is left to give up, so the next cut adds nothing about this frame
  have left : (t.serve during).adapter.abandon = [] := by simp [Adapter.abandon, frame]
  refine ⟨(given.append filmed).footage.trans (by simp), ⟨left, ?_⟩,
    fun earlier c after he command hcmd draws => ?_⟩
  · rw [serve_append, serve_singleton]
    cases (t.serve during).turn_endFrame with
    | shows _ shown =>
      rw [frame] at shown
      exact shown.footage.trans (List.append_nil _)
    | goesOn go => cases go
  · obtain ⟨frame, -⟩ := skips_serve hf fun c hm =>
      cuts c (by rw [he]; exact List.mem_append_left _ hm)
    subst hcmd
    exact (leads_unseen frame draws (leads_issue _ command)).1

/-- Whatever begins or ends a frame ends the one before it, and what else it films does not concern
that one. -/
theorem past_of_cut (hf : s.adapter.frame = some f)
    (made : ∀ x ∈ f.subjects, x.number ≤ s.platform.made x.kind) (turn : s.Turn c t)
    (hc : c.isCut = true) :
    Past f t ∧ ∃ more, t.platform.footage = s.platform.footage ++ f.ending (some c) ++ more ∧
      more.filter f.concerns = [] := by
  -- giving up is one command about the texture of the frame
  have given : s.adapter.abandon = [.discard f.texture] := by simp [Adapter.abandon, hf]
  have later : ∀ x ∈ f.subjects, x.number ≤ t.platform.made x.kind := by
    obtain ⟨⟨cs, filmed, -⟩, -⟩ := turn.about
    exact fun x hx => Nat.le_trans (made x hx) (filmed.made _)
  have past : t.adapter.frame = none → Past f t :=
    fun hn => ⟨later, fun g hg => absurd (hg.symm.trans hn) (Option.some_ne_none g)⟩
  cases turn with
  | @opens _ g visible hg filmed between =>
    -- what the next frame is about was made later, so none of it is about this one
    have other : ∀ x ∈ g.subjects, x ∉ f.subjects :=
      fun x hx hx' => between.disjoint hx (made x hx')
    refine ⟨⟨later, fun g' hg' => ?_⟩, g.opening, ?_,
      Frame.filter_eq_nil_of_subjects fun d hd x hx hdx => ?_⟩
    · obtain rfl := Option.some.inj (hg.symm.trans hg')
      exact other
    · rw [filmed.footage, given, List.append_assoc]
      rfl
    · obtain ⟨y, hy, hdy⟩ := g.subjects_opening d hd
      obtain rfl := Option.some.inj (hdy.symm.trans hdx)
      exact other _ hy hx
  | skips visible hn filmed =>
    refine ⟨past hn, [], ?_, rfl⟩
    rw [filmed.footage, given, List.append_nil]
    rfl
  | shows hn filmed =>
    refine ⟨past hn, [], ?_, rfl⟩
    rw [filmed.footage, hf, List.append_nil]
    rfl
  | goesOn go => cases hc.symm.trans go

/-- A frame ends with the next call that begins or ends one, or with the session, and nothing
concerns it later. -/
theorem ends_of_frame (hf : s.adapter.frame = some f)
    (made : ∀ x ∈ f.subjects, x.number ≤ s.platform.made x.kind) {after : List Call}
    (ended : ∀ c ∈ after.head?, c.isCut = true) :
    s.platform.footage ++ f.ending after.head? <+: (s.afterwards after.head?).footage ∧
      (s.serve after).close.footage.filter f.concerns =
        s.platform.footage.filter f.concerns ++ f.ending after.head? := by
  cases after with
  | nil =>
    have closed : s.close.footage = s.platform.footage ++ f.ending none := by
      rw [footage_close, Adapter.abandon, hf]
      rfl
    refine ⟨closed ▸ List.prefix_rfl, ?_⟩
    rw [List.head?_nil, serve_nil, closed, List.filter_append,
      Frame.filter_eq_self_of_subjects (f.subjects_ending none)]
  | cons next rest =>
    obtain ⟨past, more, footage, others⟩ :=
      past_of_cut hf made (turn_perform s next) (ended next rfl)
    refine ⟨footage ▸ List.prefix_append _ _, ?_⟩
    obtain ⟨past', same⟩ := past.serve rest
    calc ((s.perform next).2.serve rest).close.footage.filter f.concerns
      _ = (s.perform next).2.platform.footage.filter f.concerns := past'.close.trans same
      _ = s.platform.footage.filter f.concerns ++ f.ending (some next) := by
        rw [footage, List.filter_append, List.filter_append, others, List.append_nil,
          Frame.filter_eq_self_of_subjects (f.subjects_ending _)]

/-- The life of a frame, from the call that began it to what comes at its end, put together from the
turn, the recording (`records_serve`) and the end (`ends_of_frame`). Once it has ended, the frame is
past, so that this is all there is of it. -/
theorem lives_of_begun (dated : s.Dated) (turn : s.Turn c t) (hc : c.isCut = true)
    (hf : t.adapter.frame = some f) {during after : List Call}
    (cuts : ∀ c ∈ during, c.isCut = false) (ended : ∀ c ∈ after.head?, c.isCut = true) :
    ∃ shots, Lives f s t during after.head? (t.serve (during ++ after)).close.commands shots := by
  obtain ⟨visible, filmed, between⟩ : ∃ visible : Rect,
      s.platform.Filmed (s.adapter.abandon ++ f.opening) t.platform ∧
      f.MadeBetween s.platform t.platform := by
    cases turn with
    | @opens _ g visible hg filmed between =>
      obtain rfl := Option.some.inj (hg.symm.trans hf)
      exact ⟨visible, filmed, between⟩
    | skips _ hn | shows hn => cases hn.symm.trans hf
    | goesOn go => cases hc.symm.trans go
  obtain ⟨frame, shots, filmed', taken⟩ := records_serve hf cuts
  have begins : t.platform.footage = s.platform.footage ++ s.adapter.abandon ++ f.opening := by
    rw [filmed.footage, List.append_assoc]
  have before : (s.platform.footage ++ s.adapter.abandon).filter f.concerns = [] := by
    refine Frame.filter_eq_nil_of_subjects fun d hd x hx hdx => between.disjoint hx ?_
    rcases List.mem_append.mp hd with hd | hd
    · exact dated.footage d hd x hdx
    · obtain ⟨g, hg, y, hy, hdy⟩ := Adapter.subjects_abandon hd
      obtain rfl := Option.some.inj (hdy.symm.trans hdx)
      exact dated.frame g hg _ hy
  have passes : ∀ d ∈ shots, ∃ x ∈ f.subjects, d.subject? = some x := by
    intro d hd
    have shot : some d ∈ (t.takes during).map fun take => take.1.shot f take.2 :=
      taken ▸ List.mem_map_of_mem hd
    obtain ⟨take, -, ht⟩ := List.mem_map.mp shot
    exact Frame.subjects_shot ht
  -- up to the call that ends the frame nothing else concerns it
  have recorded : (t.serve during).platform.footage.filter f.concerns = f.opening ++ shots := by
    rw [filmed'.footage, begins, List.filter_append, List.filter_append, before, List.nil_append,
      Frame.filter_eq_self_of_subjects f.subjects_opening, Frame.filter_eq_self_of_subjects passes]
  have made : ∀ x ∈ f.subjects, x.number ≤ (t.serve during).platform.made x.kind :=
    fun x hx => Nat.le_trans (between x hx).2 (filmed'.made _)
  obtain ⟨ends, concerned⟩ := ends_of_frame frame made ended
  refine ⟨shots, taken, begins, filmed'.footage, ends, ?_⟩
  rw [Frame.filter_commands, serve_append]
  exact concerned.trans (by rw [recorded])

/-- **The frames of a session are recorded, submitted and presented one after the other.** Whatever
is asked for, each texture that the beginning of a frame acquires is presented once, by the end of
this frame, after one submission of all its passes, or it is given back once; without a texture
nothing is recorded; and all that concerns textures and encoders does so for frames like these. -/
theorem frames_linear (hs : Session.start size o window { host := host } = .ok s)
    (calls : List Call) :
    let whole := (s.serve calls).close.commands
    (∀ before visible during after,
      calls = before ++ .issue (.beginFrame visible) :: (during ++ after) →
      (∀ c ∈ during, c.isCut = false) → (∀ c ∈ after.head?, c.isCut = true) →
        let t := s.serve (before ++ [.issue (.beginFrame visible)])
        (∀ f, t.adapter.frame = some f →
          ∃ shots, Lives f (s.serve before) t during after.head? whole shots) ∧
          (t.adapter.frame = none → Skips (s.serve before) t during)) ∧
      ∀ d ∈ whole, ∀ x, d.subject? = some x → ∃ f, s.Opened calls f ∧ x ∈ f.subjects := by
  intro whole
  refine ⟨fun before visible during after he cuts ended => ?_, fun d hd x hx => ?_⟩
  · intro t
    -- the begin is one turn from the state before it
    have turn : (s.serve before).Turn (.issue (.beginFrame visible)) t := by
      have turn := turn_perform (s.serve before) (.issue (.beginFrame visible))
      rwa [← serve_singleton, ← serve_append] at turn
    have split : s.serve calls = t.serve (during ++ after) := by
      rw [he, ← serve_append, List.append_assoc, List.singleton_append]
    refine ⟨fun f hf => ?_, fun hf => skips_of_begun turn rfl hf (by simp) cuts⟩
    have lives := lives_of_begun ((dated_start hs).serve before) turn rfl hf cuts ended
    rwa [← split] at lives
  -- whatever names a subject is footage of the calls or of the closing
  · obtain ⟨frames, footage⟩ := opened_serve hs calls
    have filmed : d ∈ (s.serve calls).close.footage := List.mem_filter.mpr ⟨hd, by rw [hx]; rfl⟩
    rw [footage_close] at filmed
    rcases List.mem_append.mp filmed with hd | hd
    · exact footage d hd x hx
    · obtain ⟨f, hf, y, hy, hdy⟩ := Adapter.subjects_abandon hd
      obtain rfl := Option.some.inj (hdy.symm.trans hx)
      exact ⟨f, frames f hf, hy⟩

/-- Every surface texture but the first is lost. -/
def losingHost : DeviceHost := { acquireError := fun n => if n = 0 then none else some .lost }

/-- A frame that is given up for another, for which there is no texture. -/
theorem frames_linear_losingHost :
    ∃ s f shots, Session.start ⟨8, 8⟩ {} default { host := losingHost } = .ok s ∧
      let begin := Call.issue (.beginFrame ⟨⟨0, 0⟩, ⟨4, 4⟩⟩)
      let clear := Call.issue (.clear .surface ⟨0, 0, 0, 1⟩)
      Lives f s (s.serve [begin]) [clear] (some begin)
        (s.serve [begin, clear, begin, clear]).close.commands shots ∧
        Skips (s.serve [begin, clear]) (s.serve [begin, clear, begin]) [clear] := by
  -- this host loses the surface at the second frame, so the first lives and the second is skipped
  have started : ((Session.start ⟨8, 8⟩ {} default { host := losingHost }).toOption.any fun s =>
      (s.serve [.issue (.beginFrame ⟨⟨0, 0⟩, ⟨4, 4⟩⟩)]).adapter.frame.isSome &&
        (s.serve [.issue (.beginFrame ⟨⟨0, 0⟩, ⟨4, 4⟩⟩), .issue (.clear .surface ⟨0, 0, 0, 1⟩),
          .issue (.beginFrame ⟨⟨0, 0⟩, ⟨4, 4⟩⟩)]).adapter.frame.isNone) = true := by
    decide +kernel
  obtain ⟨s, hs, frames⟩ := exists_ok_of_any started
  obtain ⟨some, none⟩ := Bool.and_eq_true_iff.mp frames
  obtain ⟨f, hf⟩ := Option.isSome_iff_exists.mp some
  obtain ⟨linear, -⟩ :=
    frames_linear hs [.issue (.beginFrame ⟨⟨0, 0⟩, ⟨4, 4⟩⟩), .issue (.clear .surface ⟨0, 0, 0, 1⟩),
    .issue (.beginFrame ⟨⟨0, 0⟩, ⟨4, 4⟩⟩), .issue (.clear .surface ⟨0, 0, 0, 1⟩)]
  obtain ⟨lives, -⟩ :=
    linear [] _ [.issue (.clear .surface ⟨0, 0, 0, 1⟩)] _ rfl (by decide) (by decide)
  obtain ⟨-, skips⟩ :=
    linear [.issue (.beginFrame ⟨⟨0, 0⟩, ⟨4, 4⟩⟩), .issue (.clear .surface ⟨0, 0, 0, 1⟩)] _
    [.issue (.clear .surface ⟨0, 0, 0, 1⟩)] [] rfl (by decide) (by decide)
  obtain ⟨shots, lived⟩ := lives f hf
  exact ⟨s, f, shots, hs, lived, skips (Option.isNone_iff_eq_none.mp none)⟩

end Session

end Wgpu

end LitTiles
