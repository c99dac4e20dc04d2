import LitTiles.Proofs.Window.Census
import LitTiles.Window.Loop

/-!
# Opening and closing windows

A loop is `Sound` if the windows that it has are those that are open. Whatever it does with windows
outside of the turns in which they are drawn keeps it sound and draws none (`WindowLoop.Moves`): it
opens windows, closes them, and meets what the application asks for. When it is settled, it goes on
with some window, or it has none and the window system is told (`WindowLoop.settle_spec`).
-/

namespace LitTiles

open Wgpu (Session)

/-- The window that was drawn. -/
def Milestone.framed? : Milestone → Option WindowId
  | .framed w => some w
  | _ => none

/-- The windows that were drawn. -/
def drawn (ms : List Milestone) : List WindowId := ms.filterMap Milestone.framed?

theorem drawn_append (ms ms' : List Milestone) : drawn (ms ++ ms') = drawn ms ++ drawn ms' :=
  List.filterMap_append

/-- A window with its adapter. -/
def OpenWindow.room (w : OpenWindow) : WindowId × Wgpu.Adapter := (w.id, w.adapter)

namespace WindowLoop

variable {α β : Type} {l l' l₁ : WindowLoop α} {ms ms' : List Milestone} {i : WindowId}
  {w : OpenWindow} {app : App α} {rest : List (WindowId × Wgpu.Adapter)}

/-- The open windows with their adapters. -/
def rooms (l : WindowLoop α) : List (WindowId × Wgpu.Adapter) := l.windows.map OpenWindow.room

/-- The numbers of the open windows. -/
def ids (l : WindowLoop α) : List WindowId := l.windows.map (·.id)

theorem isSome_window? : (l.window? i).isSome ↔ i ∈ l.ids := by
  rw [window?, List.find?_isSome, ids, List.mem_map]
  exact exists_congr fun w => and_congr_right fun _ => beq_iff_eq

/-- The windows that the loop has are those that are open. -/
def Sound (l : WindowLoop α) : Prop := Census l.rooms l.opened l.platform

/-- From one state of the loop to the other some milestones were passed. -/
def Passes (l : WindowLoop α) (ms : List Milestone) (l' : WindowLoop α) : Prop :=
  ∃ more, l'.platform.history.toList = l.platform.history.toList ++ more ∧ milestones more = ms

theorem passes_nil (h : l'.platform = l.platform) : l.Passes [] l' :=
  ⟨[], by rw [h, List.append_nil], rfl⟩

theorem Passes.trans (h : l.Passes ms l₁) (h' : l₁.Passes ms' l') : l.Passes (ms ++ ms') l' := by
  obtain ⟨more, grown, rfl⟩ := h
  obtain ⟨more', grown', rfl⟩ := h'
  exact ⟨more ++ more', by rw [grown', grown, List.append_assoc], milestones_append ..⟩

theorem passes_tell (c : WindowCommand) (l : WindowLoop α) :
    l.Passes (milestones [.window c]) (l.tell c) := ⟨[_], Array.toList_push .., rfl⟩

theorem passes_announce (t : AppTurn) (l : WindowLoop α) :
    l.Passes (milestones [.turn t]) (l.announce t) := ⟨[_], Array.toList_push .., rfl⟩

theorem passes_record (r : Record) (l : WindowLoop α) :
    l.Passes [] { l with platform := l.platform.add (.record r) } :=
  ⟨[_], Array.toList_push .., rfl⟩

/-- What is told to the window system may be about no window. -/
theorem Sound.tell (hl : l.Sound) {c : WindowCommand}
    (hc : (Happening.window c).milestone?.bind Milestone.window? = none) : (l.tell c).Sound :=
  Census.add hl (story_of_no_window hc) ⟨rfl, rfl⟩

/-! ## Windows -/

/-- A window of the loop is between windows with other numbers. -/
theorem Sound.split (hl : l.Sound) (hw : l.window? i = some w) : w.id = i ∧ ∃ before after,
    l.windows = before ++ w :: after ∧ ∀ v ∈ before ++ after, v.id ≠ i := by
  have hid : w.id = i := by simpa using List.find?_some hw
  obtain ⟨before, after, hs⟩ := List.append_of_mem (List.mem_of_find?_eq_some hw)
  refine ⟨hid, before, after, hs, fun v hv same => ?_⟩
  have distinct := hl.distinct
  rw [rooms, hs, List.map_map] at distinct
  have apart := (List.nodup_cons.mp ((List.perm_middle.map _).nodup_iff.mp distinct)).1
  exact apart (List.mem_map.mpr ⟨v, hv, same.trans hid.symm⟩)

section Split

variable {before after : List OpenWindow} (hs : l.windows = before ++ w :: after)
  (others : ∀ v ∈ before ++ after, v.id ≠ i) (hw : w.id = i)

include hs

theorem rooms_of_split : l.rooms.Perm (w.room :: (before ++ after).map OpenWindow.room) := by
  rw [rooms, hs]
  exact List.perm_middle.map _

include others hw

/-- A window takes the place of the one with its number. -/
theorem windows_update {w' : OpenWindow} (hw' : w'.id = i) :
    (l.update w').windows = before ++ w' :: after := by
  have same : ∀ vs : List OpenWindow, (∀ v ∈ vs, v.id ≠ i) →
      vs.map (fun v => if v.id = w'.id then w' else v) = vs := by
    intro vs hv
    refine (List.map_congr_left fun v hm => if_neg ?_).trans (List.map_id vs)
    rw [hw']
    exact hv v hm
  obtain ⟨left, right⟩ := List.forall_mem_append.mp others
  rw [update, hs]
  dsimp only
  rw [List.map_append, List.map_cons, same before left, same after right,
    if_pos (hw.trans hw'.symm)]

/-- The other windows are left. -/
theorem windows_filter : l.windows.filter (·.id != i) = before ++ after := by
  obtain ⟨left, right⟩ := List.forall_mem_append.mp others
  rw [hs, List.filter_append, List.filter_cons_of_neg (by simp [hw]),
    List.filter_eq_self.mpr fun v hv => bne_iff_ne.mpr (left v hv),
    List.filter_eq_self.mpr fun v hv => bne_iff_ne.mpr (right v hv)]

end Split

/-- To change anything about a window but its adapter changes no room. -/
theorem rooms_update (hl : l.Sound) (hw : l.window? i = some w) {w' : OpenWindow}
    (hr : w'.room = w.room) :
    (l.update w').rooms = l.rooms := by
  obtain ⟨hid, before, after, hs, others⟩ := hl.split hw
  have hid' : w'.id = i := (congrArg Prod.fst hr).trans hid
  rw [rooms, rooms, windows_update hs others hid hid', hs, List.map_append, List.map_cons,
    hr, List.map_append, List.map_cons]

/-! ## Turns and disposal -/

section Session

variable (c : Census (w.room :: rest) l.opened l.platform)

include c

/-- A turn on a window may trade its stock, and concerns no other window. -/
theorem census_play (t : Turn (Workspace α) β) :
    Census ((play t w l).2.1.room :: rest) l.opened (play t w l).2.2.platform ∧
      l.Passes [] (play t w l).2.2 := by
  let s : Session := ⟨w.adapter, w.id, l.platform⟩
  obtain ⟨more, trades⟩ := Session.trades_run (s := s) (c.keyed _ List.mem_cons_self)
    (t.run ⟨l.app, w.renderer, w.started, l.clock⟩)
  have census := Census.trade (s := s) c trades
  rw [trades.window] at census
  exact ⟨census, more, trades.trade.history, trades.trade.milestones⟩

/-- A window that is disposed of is gone. -/
theorem census_dispose : Census rest l.opened (dispose w l).platform ∧
    l.Passes [.closed w.id] (dispose w l) := by
  let s : Session := ⟨w.adapter, w.id, l.platform⟩
  obtain ⟨more, trades⟩ := Session.trades_run (s := s) (c.keyed _ List.mem_cons_self)
    (Renderer.dispose.run.run w.renderer)
  have ended := trades.trade.trans (Session.trade_close _)
  have emptied : l.Passes [] { l with platform := _ } := ⟨_, ended.history, ended.milestones⟩
  exact ⟨c.closed ended, emptied.trans (passes_tell (.closed w.id) _)⟩

end Session

/-! ## Opening a window -/

/-- A window was opened, and its session was made or not. -/
theorem passes_made {more : List Happening} {new : Multiset (Wgpu.Handle .buffer)}
    {p : Platform} (title : String) (size : SurfaceSize)
    (t : (l.tell (.opened i title size)).platform.Trade 0 more new p) (hp : l'.platform = p) :
    l.Passes [.opened i] l' := by
  subst hp
  exact (passes_tell (.opened i title size) l).trans ⟨more, t.history, t.milestones⟩

/-- **The renderer of a window is made with a stock of its own, or it is not made and leaves no
buffer.** Nothing becomes of any window meanwhile. -/
theorem trade_furnish (c : WindowConfig) (id : WindowId) (physical : SurfaceSize) (p : Platform) :
    match furnish c id physical p with
    | (.ok (a, _), p') => a.Keyed ∧ ∃ more, p.Trade 0 more a.held p'
    | (.error _, p') => ∃ more, p.Trade 0 more 0 p' := by
  have connected := Session.trade_connect c.interface physical c.renderer.device id p
  unfold furnish
  generalize Session.connect _ _ _ _ _ = s at connected ⊢
  cases s with
  | error failure => exact connected
  | ok s =>
    obtain ⟨-, keyed, more, trade⟩ := connected
    let blank := Renderer.blank c.interface physical c.renderer
    obtain ⟨more', prepared⟩ :
        ∃ more, s.Trades more ((Renderer.prepare []).play Session.backend blank s).2.2 :=
      Session.trades_run keyed ((Renderer.prepare []).run.run blank)
    dsimp only
    generalize Action.play Session.backend _ _ s = q at prepared ⊢
    obtain ⟨answer, renderer, s'⟩ := q
    have trade := trade.trans prepared.trade
    cases answer with
    -- the device is closed again, and its stock goes with it
    | error e => exact ⟨_, trade.trans s'.trade_close⟩
    | ok _ => exact ⟨prepared.keyed, _, trade⟩

/-- The window that is asked for can be drawn, and the window system opens it. -/
def Grants (l : WindowLoop α) (c : WindowConfig) : Prop :=
  c.interface = .wgpu ∧ l.host.openError l.attempts = none

/-- What becomes of the renderer of the window that is opened next. -/
def furnishing (l : WindowLoop α) (c : WindowConfig) :
    Except RenderError (Wgpu.Adapter × Renderer) :=
  (furnish c l.nextId (l.nextSize c) (l.tell (.opened l.nextId c.title c.size)).platform).1

/-- What comes of an attempt to open a window. -/
inductive Attempted (l : WindowLoop α) (c : WindowConfig) : Except LoopError OpenWindow →
    WindowLoop α → Prop
  /-- No window is opened. -/
  | refused {e : LoopError} {l' : WindowLoop α} (refused : ¬ l.Grants c) (sound : l'.Sound)
    (passes : l.Passes [] l') :
    Attempted l c (.error e) l'
  /-- A window is opened, gets no renderer and is closed again. -/
  | unfurnished {e : LoopError} {l' : WindowLoop α} (granted : l.Grants c)
    (failed : (l.furnishing c).isOk = false) (sound : l'.Sound)
    (passes : l.Passes [.opened l.nextId, .closed l.nextId] l') : Attempted l c (.error e) l'
  /-- A window is opened and gets a renderer, and the application is about to start on it. -/
  | made {w : OpenWindow} {l' : WindowLoop α} (granted : l.Grants c)
    (furnished : (l.furnishing c).isOk = true)
    (next : w.id = l.nextId)
    (passes : ∀ extent, l.Passes [.opened w.id, .started w.id] (l'.announce (.started w.id extent)))
    (census : ∀ extent, Census (w.room :: l.rooms) l'.opened
      (l'.announce (.started w.id extent)).platform) :
    Attempted l c (.ok w) l'

/-- What comes of an attempt to open a window: an error and the windows there were, or one more
window. -/
theorem tryOpen_spec (hl : l.Sound) (c : WindowConfig) {r : Except LoopError OpenWindow}
    (h : l.tryOpen c = (r, l')) : l'.windows = l.windows ∧ l'.quitting = l.quitting ∧
    l.Attempted c r l' := by
  unfold tryOpen at h
  split at h
  · rename_i foreign
    obtain ⟨rfl, rfl⟩ := Prod.mk.inj h
    exact ⟨rfl, rfl, .refused (fun granted => foreign granted.1) hl (passes_nil rfl)⟩
  rename_i drawable
  dsimp only at h
  split at h
  · rename_i reason refusal
    obtain ⟨rfl, rfl⟩ := Prod.mk.inj h
    refine ⟨rfl, rfl, .refused (fun granted => ?_)
      (Sound.tell (l := { l with attempts := _ }) hl rfl) ?_⟩
    · rw [granted.2] at refusal
      cases refusal
    · exact passes_tell (.notOpened c.title) _
  rename_i opens
  have granted : l.Grants c := ⟨not_not.mp drawable, opens⟩
  have furnished :=
    trade_furnish c l.nextId (l.nextSize c) (l.tell (.opened l.nextId c.title c.size)).platform
  -- from here on the window is open, so a failure closes it
  split at h
  · rename_i e p outcome
    replace outcome : furnish c l.nextId (l.nextSize c)
      (l.tell (.opened l.nextId c.title c.size)).platform = (.error e, p) := outcome
    rw [outcome] at furnished
    obtain ⟨more, trade⟩ := furnished
    obtain ⟨rfl, rfl⟩ := Prod.mk.inj h
    refine ⟨rfl, rfl, .unfurnished granted (by rw [furnishing, outcome]; rfl)
      (hl.failed c.title c.size trade) ?_⟩
    exact (passes_made (l := l) c.title c.size trade rfl).trans (passes_tell (.closed l.nextId) _)
  · rename_i adapter renderer p outcome
    replace outcome : furnish c l.nextId (l.nextSize c)
      (l.tell (.opened l.nextId c.title c.size)).platform = (.ok (adapter, renderer), p) := outcome
    rw [outcome] at furnished
    obtain ⟨keyed, more, trade⟩ := furnished
    obtain ⟨rfl, rfl⟩ := Prod.mk.inj h
    refine ⟨rfl, rfl, .made granted (by rw [furnishing, outcome]; rfl) rfl (fun extent => ?_)
      fun extent => hl.opened c.title c.size extent keyed trade⟩
    exact (passes_made (l := l) c.title c.size trade rfl).trans
      (passes_announce (.started l.nextId extent) _)

/-! ## Requests -/

/-- From one state of the loop to a sound one some milestones were passed; the end is not taken
back. -/
structure Goes (l : WindowLoop α) (ms : List Milestone) (l' : WindowLoop α) : Prop where
  /-- What was passed. -/
  passes : l.Passes ms l'
  /-- The end is not taken back. -/
  quitting : l.quitting = true → l'.quitting = true
  /-- The windows of the loop are those that are open. -/
  sound : l'.Sound

theorem Goes.trans (h : l.Goes ms l₁) (h' : l₁.Goes ms' l') : l.Goes (ms ++ ms') l' :=
  ⟨h.passes.trans h'.passes, fun hq => h'.quitting (h.quitting hq), h'.sound⟩

/-- A window joins the others once the application has started on it. -/
theorem goes_join (c : Control) (census : Census (w.room :: l.rooms) l.opened l.platform) :
    l.Goes []
    { (l.heed c).tell (.requestRedraw w.id) with windows := (l.heed c).windows ++ [w] } := by
  have joined : Census ((l.windows ++ [w]).map OpenWindow.room) l.opened
      (l.platform.add (.window (.requestRedraw w.id))) := by
    refine Census.add (census.perm ?_) (story_of_no_window rfl) ⟨rfl, rfl⟩
    rw [List.map_append]
    exact (List.perm_append_singleton w.room l.rooms).symm
  cases c with
  | proceed => exact ⟨passes_tell (.requestRedraw w.id) l, id, joined⟩
  | exit => exact ⟨passes_tell (.requestRedraw w.id) l, fun _ => rfl, joined⟩

/-- An attempt that failed is put into the log, and the loop is to end. -/
theorem goes_fail (e : LoopError) (sound : l'.Sound) (passes : l.Passes ms l') :
    l.Goes ms { l' with
      platform := l'.platform.add (.record ⟨.error, .windowLoop, e.message⟩)
      quitting := true } where
  passes := by
    have logged := passes.trans (passes_record ⟨.error, .windowLoop, e.message⟩ l')
    rwa [List.append_nil] at logged
  quitting _ := rfl
  sound := Census.add sound (story_of_no_window rfl) ⟨rfl, rfl⟩

/-- What it comes to that a request is met. -/
inductive Meets (app : App α) (l : WindowLoop α) : WindowRequest → List Milestone →
    WindowLoop α → Prop
  /-- A window is opened under the next number and gets a renderer. The application starts on it in
  a turn, and may decide there that the loop is to end. Then the window joins the others. -/
  | opened {c : WindowConfig} {l' : WindowLoop α} (w : OpenWindow) (start : WindowLoop α)
    (granted : l.Grants c)
    (furnished : (l.furnishing c).isOk = true) (next : w.id = l.nextId)
    (begun : l.Passes [.opened w.id, .started w.id] start) (alone : start.Passes [] l')
    (ids : l'.ids = l.ids ++ [w.id])
    (quitting : l'.quitting = (l.heed (play (app.onStart w.id) w start).1).quitting) :
    Meets app l (.openWindow c) [.opened w.id, .started w.id] l'
  /-- A window is opened, gets no renderer and is closed again. The loop is to end. -/
  | unfurnished {c : WindowConfig} {l' : WindowLoop α} (granted : l.Grants c)
    (failed : (l.furnishing c).isOk = false)
    (passes : l.Passes [.opened l.nextId, .closed l.nextId] l') (ids : l'.ids = l.ids)
    (quitting : l'.quitting = true) :
    Meets app l (.openWindow c) [.opened l.nextId, .closed l.nextId] l'
  /-- No window is opened. The loop is to end. -/
  | refused {c : WindowConfig} {l' : WindowLoop α} (refused : ¬ l.Grants c)
    (passes : l.Passes [] l')
    (ids : l'.ids = l.ids) (quitting : l'.quitting = true) : Meets app l (.openWindow c) [] l'
  /-- A window that is open is closed. -/
  | closed {i : WindowId} {l' : WindowLoop α} (isOpen : i ∈ l.ids)
    (passes : l.Passes [.closed i] l')
    (ids : l'.ids = l.ids.filter (· != i)) (quitting : l'.quitting = l.quitting) :
    Meets app l (.closeWindow i) [.closed i] l'
  /-- A window that is not open is not closed either. -/
  | absent {i : WindowId} (notOpen : i ∉ l.ids) : Meets app l (.closeWindow i) [] l
  /-- The loop is to end, and that is all. -/
  | quit : Meets app l .quit [] { l with quitting := true }

/-- Requests are met one after the other, each of them by the loop that the one before has left. -/
inductive MeetsAll (app : App α) : WindowLoop α → List WindowRequest → List Milestone →
    WindowLoop α → Prop
  /-- There are none. -/
  | nil (l : WindowLoop α) : MeetsAll app l [] [] l
  /-- The first one is met, and then the others. -/
  | cons {l l₁ l' : WindowLoop α} {r : WindowRequest} {rs : List WindowRequest}
    {ms ms' : List Milestone}
    (first : l.Meets app r ms l₁) (rest : MeetsAll app l₁ rs ms' l') :
    MeetsAll app l (r :: rs) (ms ++ ms') l'

/-- No request makes the application draw. -/
theorem Meets.undrawn {r : WindowRequest} (h : l.Meets app r ms l') : drawn ms = [] := by
  cases h <;> rfl

theorem MeetsAll.undrawn {rs : List WindowRequest} (h : MeetsAll app l rs ms l') :
    drawn ms = [] := by
  induction h with
  | nil => rfl
  | cons first _ ih => rw [drawn_append, first.undrawn, ih, List.append_nil]

/-- The end is not taken back by a request. -/
theorem Meets.quitting {r : WindowRequest} (h : l.Meets app r ms l') (hq : l.quitting = true) :
    l'.quitting = true := by
  cases h with
  | opened w start _ _ _ _ _ _ quitting =>
    rw [quitting]
    cases (play (app.onStart w.id) w start).1 <;> simp [heed, hq]
  | unfurnished _ _ _ _ quitting => exact quitting
  | refused _ _ _ quitting => exact quitting
  | closed _ _ _ quitting => exact quitting.trans hq
  | absent => exact hq
  | quit => rfl

/-- If one of the requests is to quit, then the loop is to end, whatever else is asked for before or
after. -/
theorem MeetsAll.quitting {rs : List WindowRequest} (h : MeetsAll app l rs ms l')
    (hq : l.quitting = true ∨ .quit ∈ rs) : l'.quitting = true := by
  induction h with
  | nil => exact hq.resolve_right List.not_mem_nil
  | cons first _ ih =>
    refine ih (hq.elim (fun hq => .inl (first.quitting hq)) fun hm => ?_)
    rcases List.mem_cons.mp hm with rfl | hm
    · cases first
      exact .inl rfl
    · exact .inr hm

theorem meets_openWindow (hl : l.Sound) (app : App α) (c : WindowConfig) :
    ∃ ms, l.Meets app (.openWindow c) ms (l.openWindow app c) ∧ l.Goes ms (l.openWindow app c) := by
  obtain ⟨⟨r, l₁⟩, h⟩ : ∃ q, q = l.tryOpen c := ⟨_, rfl⟩
  obtain ⟨windows, quitting, attempted⟩ := tryOpen_spec hl c h.symm
  have same : l₁.ids = l.ids := congrArg (List.map OpenWindow.id) windows
  rw [openWindow, ← h]
  cases attempted with
  | @refused e _ refused sound passes =>
    have failed := goes_fail e sound passes
    exact ⟨_, .refused refused failed.passes same rfl, failed⟩
  | @unfurnished e _ granted unmade sound passes =>
    have failed := goes_fail e sound passes
    exact ⟨_, .unfurnished granted unmade failed.passes same rfl, failed⟩
  | @made w _ granted furnished next passes census =>
    let start := l₁.announce (.started w.id w.renderer.size)
    obtain ⟨census, played⟩ := census_play (l := start) (census w.renderer.size) (app.onStart w.id)
    -- the turn leaves the list of windows and the end as they are
    let after := (play (app.onStart w.id) w start).2.2
    have rooms : after.rooms = l.rooms := congrArg (List.map OpenWindow.room) windows
    have listed : ∀ d : Control, (after.heed d).windows = l.windows := by
      intro d
      cases d <;> exact windows
    have heeded : ∀ d : Control, (after.heed d).quitting = (l.heed d).quitting := by
      intro d
      cases d with
      | proceed => exact quitting
      | exit => rfl
    rw [← rooms] at census
    have joined := goes_join (play (app.onStart w.id) w start).1 census
    have total := ((passes w.renderer.size).trans played).trans joined.passes
    refine ⟨_, .opened w start granted furnished next (passes w.renderer.size)
      (played.trans joined.passes) ?_ (heeded _),
      ⟨total, fun hq => joined.quitting (quitting.trans hq), joined.sound⟩⟩
    rw [ids, ids, ← listed (play (app.onStart w.id) w start).1]
    exact List.map_append

theorem meets_closeWindow (hl : l.Sound) (app : App α) (i : WindowId) :
    ∃ ms, l.Meets app (.closeWindow i) ms (l.closeWindow i) ∧ l.Goes ms (l.closeWindow i) := by
  cases hw : l.window? i with
  | none =>
    have absent : i ∉ l.ids := fun hm => by simpa [hw] using isSome_window?.mpr hm
    have same : l.closeWindow i = l := by rw [closeWindow, hw]
    rw [same]
    exact ⟨[], .absent absent, passes_nil rfl, id, hl⟩
  | some w =>
    obtain ⟨rfl, before, after, hs, others⟩ := hl.split hw
    let l₁ : WindowLoop α := { l with windows := l.windows.filter (·.id != w.id) }
    have left : l₁.windows = before ++ after := windows_filter hs others rfl
    obtain ⟨census, passes⟩ := census_dispose (l := l₁) (hl.perm (rooms_of_split hs))
    have closes : l.closeWindow w.id = dispose w l₁ := by rw [closeWindow, hw]
    have listed : (dispose w l₁).ids = l.ids.filter (· != w.id) := by
      rw [ids, ids, List.filter_map]
      rfl
    rw [closes]
    refine ⟨_, .closed (isSome_window?.mp (by rw [hw]; rfl)) passes listed rfl, passes, id, ?_⟩
    rw [Sound, rooms]
    exact left.symm ▸ census

/-- **Every request is met as it should be.** -/
theorem meets_meet (hl : l.Sound) (app : App α) (r : WindowRequest) :
    ∃ ms, l.Meets app r ms (l.meet app r) ∧ l.Goes ms (l.meet app r) := by
  cases r with
  | openWindow c => exact meets_openWindow hl app c
  | closeWindow i => exact meets_closeWindow hl app i
  | quit => exact ⟨[], .quit, passes_nil rfl, fun _ => rfl, hl⟩

/-- Requests are met one after the other. -/
theorem meetsAll_foldl (hl : l.Sound) (app : App α) (rs : List WindowRequest) :
    ∃ ms, MeetsAll app l rs ms (rs.foldl (meet app) l) ∧ l.Goes ms (rs.foldl (meet app) l) := by
  induction rs generalizing l with
  | nil => exact ⟨[], .nil l, passes_nil rfl, id, hl⟩
  | cons r rs ih =>
    obtain ⟨ms, meets, goes⟩ := meets_meet hl app r
    obtain ⟨ms', rest, goes'⟩ := ih goes.sound
    exact ⟨ms ++ ms', .cons meets rest, goes.trans goes'⟩

/-! ## The end -/

/-- Windows are disposed of one after the other. -/
theorem census_dispose_all {ws : List OpenWindow}
    (c : Census (ws.map OpenWindow.room) l.opened l.platform) :
    let l' := ws.foldl (fun l w => dispose w l) l
    Census [] l'.opened l'.platform ∧ l.Passes (ws.map fun w => .closed w.id) l' ∧
      l'.windows = l.windows ∧ l'.quitting = l.quitting := by
  induction ws generalizing l with
  | nil => exact ⟨c, passes_nil rfl, rfl, rfl⟩
  | cons w ws ih =>
    obtain ⟨census, passes⟩ := census_dispose c
    obtain ⟨ended, rest, windows, quitting⟩ := ih (l := dispose w l) census
    exact ⟨ended, passes.trans rest, windows, quitting⟩

/-- What it comes to that the loop is settled. -/
inductive Settles (l : WindowLoop α) : List Milestone → WindowLoop α → Prop
  /-- Some window is open and the end was not asked for: the loop goes on as it is. -/
  | goesOn (isOpen : l.ids ≠ []) (going : l.quitting = false) : Settles l [] l
  /-- Else all windows are closed in their order, and then the window system is told to exit. -/
  | ends {l' : WindowLoop α} (ending : l.ids = [] ∨ l.quitting = true)
    (passes : l.Passes (l.ids.map .closed ++ [.exit]) l') (ids : l'.ids = [])
    (quitting : l'.quitting = l.quitting) (exited : l'.exited = true) :
    Settles l (l.ids.map .closed ++ [.exit]) l'

theorem Settles.undrawn (h : l.Settles ms l') : drawn ms = [] := by
  cases h with
  | goesOn => rfl
  | ends =>
    rw [drawn_append, drawn, List.filterMap_map]
    exact List.append_eq_nil_iff.mpr ⟨List.filterMap_eq_nil_iff.mpr fun _ _ => rfl, rfl⟩

/-- After an event the loop goes on with some window, or it has none and has ended. -/
theorem Settles.cases (h : l.Settles ms l') : l'.ids ≠ [] ∧ l'.quitting = false ∨
    l'.ids = [] ∧ .exit ∈ ms := by
  cases h with
  | goesOn isOpen going => exact .inl ⟨isOpen, going⟩
  | ends _ _ ids => exact .inr ⟨ids, List.mem_append_right _ List.mem_cons_self⟩

/-- Once the end was asked for, the loop is left without windows. -/
theorem Settles.ended (h : l.Settles ms l') (hq : l.quitting = true) :
    l'.ids = [] ∧ .exit ∈ ms := by
  cases h with
  | goesOn _ going => cases hq.symm.trans going
  | ends _ _ ids => exact ⟨ids, List.mem_append_right _ List.mem_cons_self⟩

/-- All windows are closed in their order. -/
theorem closeAll_spec (hl : l.Sound) :
    l.closeAll.ids = [] ∧ l.Goes (l.ids.map .closed) l.closeAll ∧
    l.closeAll.quitting = l.quitting := by
  obtain ⟨ended, passes, windows, quitting⟩ := census_dispose_all (l := { l with windows := [] }) hl
  have none_left : l.closeAll.windows = [] := windows
  refine ⟨by rw [ids, none_left]; rfl, ⟨?_, fun hq => quitting.trans hq, ?_⟩, quitting⟩
  · rw [ids, List.map_map]
    exact passes
  · rw [Sound, rooms, none_left]
    exact ended

/-- **The loop is settled as it should be.** -/
theorem settles_settle (hl : l.Sound) : ∃ ms, l.Settles ms l.settle ∧ l.Goes ms l.settle := by
  unfold settle
  split
  · rename_i ending
    obtain ⟨none_left, goes, quitting⟩ := closeAll_spec hl
    have passes := goes.passes.trans (passes_tell .exit l.closeAll)
    refine ⟨_, .ends ?_ passes none_left quitting rfl, passes, goes.quitting,
      Sound.tell goes.sound rfl⟩
    rcases Bool.or_eq_true_iff.mp ending with quits | empty
    · exact .inr quits
    · exact .inl (by rw [ids, List.isEmpty_iff.mp empty]; rfl)
  · rename_i going
    obtain ⟨quitting, windows⟩ := Bool.or_eq_false_iff.mp (Bool.eq_false_iff.mpr going)
    refine ⟨[], .goesOn (fun none_left => ?_) quitting, passes_nil rfl, id, hl⟩
    simp [List.map_eq_nil_iff.mp none_left] at windows

end WindowLoop

end LitTiles
