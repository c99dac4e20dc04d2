import LitTiles.Proofs.Window.Requests

/-!
# What events come to

A program with windows handles one event after the other. An event comes to a course of three parts
(`WindowLoop.Course`):

* the application is told, and what is asked for is gathered (`WindowLoop.Asks`): the first window
  is to be opened, the user closes a window, or the application draws a window in a turn of its own
  (`FrameTurn`) and makes requests. A decision to exit counts as a last request to quit. Nothing
  becomes of any window before the turn is over;
* the requests are met in order (`WindowLoop.MeetsAll`);
* the loop is settled (`WindowLoop.Settles`): it goes on with some window, or it closes all windows
  and tells the window system to exit.

An event is `Lawful` if it has such a course, and at most one window is drawn by it: one that has to
be drawn, that is open, and that the application may still draw, since the end was not asked for
before and the application does not ask for it when it is told about the event. Once the end was
asked for, it stays so.

Every event is handled so, whatever the application decides and whether windows can be opened and
get renderers or not. The windows of the loop are those that are open, which is the invariant
(`WindowLoop.Sound`) of all steps. It says as well that every window that is gone was closed after
its renderer had dropped its buffers.
-/

namespace LitTiles

namespace WindowLoop

variable {α : Type} {l l₁ l' : WindowLoop α} {ms ms' : List Milestone} {i : WindowId}
  {w : OpenWindow} {app : App α} {e : HostEvent}

/-- Which windows are open is seen from the rooms. -/
theorem ids_of_rooms (h : l'.rooms = l.rooms) : l'.ids = l.ids := by
  have same := congrArg (List.map Prod.fst) h
  rwa [rooms, rooms, List.map_map, List.map_map] at same

/-! ## What leaves the windows alone -/

/-- Nothing becomes of any window from one state of the loop to the other. -/
structure Stays (l l' : WindowLoop α) : Prop extends l.Goes [] l' where
  /-- The same windows are open. -/
  ids : l'.ids = l.ids

theorem Sound.stays_refl (hl : l.Sound) : l.Stays l := ⟨⟨passes_nil rfl, id, hl⟩, rfl⟩

/-- What leaves the windows alone twice leaves them alone. -/
theorem Stays.trans (h : l.Stays l₁) (h' : l₁.Stays l') : l.Stays l' :=
  ⟨h.toGoes.trans h'.toGoes, h'.ids.trans h.ids⟩

/-- A window may be replaced by itself with another size or renderer, as long as its room is the
same. -/
theorem Sound.stays_update (hl : l.Sound) (hw : l.window? i = some w) {w' : OpenWindow}
    (hr : w'.room = w.room) : l.Stays (l.update w') := by
  have same := rooms_update hl hw hr
  exact ⟨⟨passes_nil rfl, id, by rw [Sound, same]; exact hl⟩, ids_of_rooms same⟩

/-- A command to the window system that is no milestone. -/
theorem Sound.stays_tell (hl : l.Sound) {c : WindowCommand}
    (hc : (Happening.window c).milestone? = none) :
    l.Stays (l.tell c) := by
  have untold : milestones [.window c] = [] := List.filterMap_cons_none hc
  exact ⟨⟨untold ▸ passes_tell c l, id, hl.tell (by rw [hc]; rfl)⟩, rfl⟩

/-- A change of the physical size is only noted with the window. -/
theorem stays_stretch (hl : l.Sound) (i : WindowId) (size : SurfaceSize) :
    l.Stays (l.stretch i size) := by
  unfold stretch
  split
  · exact hl.stays_refl
  · rename_i w hw
    exact hl.stays_update hw rfl

/-- The application is not concerned by it until it is told. -/
theorem stretch_app (i : WindowId) (size : SurfaceSize) (l : WindowLoop α) :
    (l.stretch i size).app = l.app := by
  unfold stretch
  split <;> rfl

theorem stretch_quitting (i : WindowId) (size : SurfaceSize) (l : WindowLoop α) :
    (l.stretch i size).quitting = l.quitting := by
  unfold stretch
  split <;> rfl

theorem follow_app (i : WindowId) (l : WindowLoop α) : (l.follow i).app = l.app := by
  unfold follow
  split <;> rfl

theorem follow_quitting (i : WindowId) (l : WindowLoop α) : (l.follow i).quitting = l.quitting := by
  unfold follow
  split <;> rfl

/-- The renderer of a window follows its size, and the window is asked to be redrawn. -/
theorem stays_follow (hl : l.Sound) (i : WindowId) : l.Stays (l.follow i) := by
  unfold follow
  split
  · exact hl.stays_refl
  · rename_i w hw
    have updated : l.Stays (l.update { w with renderer := w.renderer.setSize w.physical }) :=
      hl.stays_update hw rfl
    exact updated.trans (updated.sound.stays_tell rfl)

/-- Windows are asked for one after the other to be drawn. -/
theorem stays_remind (hl : l.Sound) (ws : List OpenWindow) :
    l.Stays (ws.foldl (fun l w => l.tell (.requestRedraw w.id)) l) := by
  induction ws generalizing l with
  | nil => exact hl.stays_refl
  | cons w ws ih =>
    have first : l.Stays (l.tell (.requestRedraw w.id)) := hl.stays_tell rfl
    exact first.trans (ih first.sound)

/-- Telling the application may decide that the loop is to end. It opens and closes nothing. -/
theorem stays_notify (hl : l.Sound) (app : App α) (i : WindowId) (e : WindowEvent) :
    l.Stays (l.notify app i e) := by
  have announced := passes_announce (.notified i e) l
  have sound : (l.announce (.notified i e)).Sound :=
    Census.add hl (story_of_no_window rfl) ⟨rfl, rfl⟩
  unfold notify
  dsimp only
  cases (app.onEvent i e _).1 with
  | proceed => exact ⟨⟨announced, id, sound⟩, rfl⟩
  | exit => exact ⟨⟨announced, fun _ => rfl, sound⟩, rfl⟩

/-- The application was told about something that happened to a window, and nothing becomes of any
window by that. -/
structure Told (app : App α) (l : WindowLoop α) (i : WindowId) (e : WindowEvent)
    (l' : WindowLoop α) : Prop
    extends l.Stays l' where
  /-- The application has edited its state. -/
  state : l'.app = (app.onEvent i e l.app).2
  /-- The end was asked for before, or because of what the application decides. -/
  decided : l'.quitting = (l.heed (app.onEvent i e l.app).1).quitting

/-- What the application is told, with what it makes of its state and whether it lets the loop go
on. -/
theorem told_notify (hl : l.Sound) (app : App α) (i : WindowId) (e : WindowEvent) :
    l.Told app i e (l.notify app i e) := by
  have stays := stays_notify hl app i e
  unfold notify at stays ⊢
  dsimp only at stays ⊢
  change l.Stays (heed (app.onEvent i e l.app).1 _) at stays
  change l.Told app i e (heed (app.onEvent i e l.app).1 _)
  cases hd : (app.onEvent i e l.app).1 with
  | proceed => exact ⟨hd ▸ stays, rfl, by rw [hd]; rfl⟩
  | exit => exact ⟨hd ▸ stays, rfl, by rw [hd]; rfl⟩

/-- The loop goes on after an event only if it did before, and the application does not mind. -/
theorem Told.going {e : WindowEvent} (h : l.Told app i e l') (hq : l'.quitting = false) :
    l.quitting = false ∧ (app.onEvent i e l.app).1 = .proceed := by
  have decided := h.decided.symm.trans hq
  cases hd : (app.onEvent i e l.app).1 with
  | proceed => exact ⟨by rwa [hd] at decided, rfl⟩
  | exit => cases (congrArg (fun d => (l.heed d).quitting) hd).symm.trans decided

end WindowLoop

/-! ## Frames -/

/-- A turn in which the application draws a window. -/
structure FrameTurn (α : Type) where
  /-- What the application is told. -/
  info : FrameInfo
  /-- The window. -/
  window : OpenWindow
  /-- The loop when the turn begins. -/
  start : WindowLoop α

namespace FrameTurn

variable {α : Type}

/-- What the application decides, and what it asks for. -/
def answer (app : App α) (t : FrameTurn α) : Control × List WindowRequest :=
  (WindowLoop.play (app.onFrame t.info) t.window t.start).1

/-- What has to be met after the turn: what was asked for in the order in which it was, and in the
end that the loop is to end, if the application decided so. -/
def requests (app : App α) (t : FrameTurn α) : List WindowRequest :=
  (t.answer app).2 ++ if (t.answer app).1 = .exit then [.quit] else []

/-- The loop when the turn is over and nothing was met yet. -/
def finish (app : App α) (t : FrameTurn α) : WindowLoop α :=
  let (_, w, l) := WindowLoop.play (app.onFrame t.info) t.window t.start
  l.update w

/-- The turn is about an open window, and nothing becomes of any window until it is over. -/
structure On (app : App α) (t : FrameTurn α) (l : WindowLoop α) (i : WindowId) : Prop where
  /-- The application is told about the window. -/
  info : t.info.window = i
  /-- It draws the window. -/
  window : t.window.id = i
  /-- Nothing but the turn itself has become of windows since the event. -/
  started : l.Passes [.framed i] t.start
  /-- The same windows are open as before the event. -/
  ids : t.start.ids = l.ids
  /-- The window is one of them. -/
  isOpen : i ∈ t.start.ids
  /-- The application was told before that the window has to be drawn. -/
  state : t.start.app = (app.onEvent i .redrawRequested l.app).2
  /-- The end was not asked for. -/
  going : t.start.quitting = false
  /-- During the turn no window is opened, drawn or closed. -/
  alone : t.start.Passes [] (t.finish app)
  /-- After the turn the same windows are open. -/
  still : (t.finish app).ids = t.start.ids
  /-- After the turn the end is not asked for yet. -/
  goingOn : (t.finish app).quitting = false

end FrameTurn

namespace WindowLoop

variable {α : Type} {l l₀ l₁ l' : WindowLoop α} {ms ms' : List Milestone} {i : WindowId}
  {w : OpenWindow} {app : App α} {e : HostEvent}

/-- An open window is drawn in a turn, after which the requests are met. -/
theorem redraw_spec (told : l.Told app i .redrawRequested l₁) (going : l₁.quitting = false)
    (hw : l₁.window? i = some w) :
    ∃ t : FrameTurn α, t.On app l i ∧ l.Goes [.framed i] (t.finish app) ∧
      l₁.redraw app i = (t.requests app).foldl (meet app) (t.finish app) := by
  obtain ⟨hid, before, after, hs, others⟩ := told.sound.split hw
  let info : FrameInfo := ⟨i, w.physical, secondsOfMillis (l₁.clock - w.drawn)⟩
  let start := l₁.announce (.framed i w.physical w.renderer.size info.elapsed)
  let t : FrameTurn α := ⟨info, { w with drawn := start.clock }, start⟩
  have census : Census (w.room :: (before ++ after).map OpenWindow.room) l₁.opened l₁.platform :=
    told.sound.perm (rooms_of_split hs)
  have framed : Census (w.room :: (before ++ after).map OpenWindow.room)
      start.opened start.platform := by
    subst hid
    exact census.framed ..
  -- the turn trades the stock of this window, whose entry in the census comes first
  obtain ⟨played, quiet⟩ := census_play (w := t.window) framed (app.onFrame info)
  have windows : (t.finish app).windows = before ++ _ :: after := windows_update hs others hid hid
  have here : i ∈ l₁.ids := isSome_window?.mp (by rw [hw]; rfl)
  have started : l.Passes [.framed i] t.start := told.passes.trans (passes_announce ..)
  have still : (t.finish app).ids = t.start.ids := by
    rw [ids, windows, show t.start.ids = _ from congrArg (List.map OpenWindow.id) hs,
      List.map_append, List.map_append]
    rfl
  refine ⟨t, ⟨rfl, hid, started, told.ids, here, told.state, going, quiet, still, going⟩,
    ⟨started.trans quiet, fun hq => ?_, played.perm (rooms_of_split windows).symm⟩, ?_⟩
  · cases hq.symm.trans (told.going going).1
  · rw [redraw, hw]
    rfl

/-! ## Events -/

/-- The event is one after which the loop either goes on or ends: the one that opens the first
window, or something that happened to a window. -/
def Settling (l : WindowLoop α) : HostEvent → Prop
  | .resumed => l.pending.isSome
  | .happened _ _ _ => True
  | .idle | .passed _ | .stretched _ _ => False

/-- What an event asks for: some milestones are passed until it is known, and the requests are to be
met by a loop. -/
inductive Asks (app : App α) (l : WindowLoop α) :
    HostEvent → List Milestone → WindowLoop α → List WindowRequest → Prop
  /-- The program is resumed for the first time. Its first window is to be opened. -/
  | first {c : WindowConfig} (pending : l.pending = some c) :
    Asks app l .resumed [] { l with pending := none } [.openWindow c]
  /-- The user closes a window, if it is open. -/
  | close {i : WindowId} {size : Option SurfaceSize} {l₀ : WindowLoop α}
    (told : l.Told app i .closeRequested l₀) :
    Asks app l (.happened i .closeRequested size) [] l₀ [.closeWindow i]
  /-- The application draws a window that is open, and asks for what it asks for in its turn. -/
  | draw {i : WindowId} {size : Option SurfaceSize} (t : FrameTurn α) (on : t.On app l i)
    (going : l.quitting = false)
    (willing : (app.onEvent i .redrawRequested l.app).1 = .proceed) :
    Asks app l (.happened i .redrawRequested size) [.framed i] (t.finish app) (t.requests app)
  /-- A window is not drawn that is not open, and none is drawn once the end was asked for. -/
  | skip {i : WindowId} {size : Option SurfaceSize} {l₀ : WindowLoop α}
    (told : l.Told app i .redrawRequested l₀)
    (idle : i ∉ l.ids ∨ l₀.quitting = true) :
      Asks app l (.happened i .redrawRequested size) [] l₀ []
  /-- Nothing else asks for anything. -/
  | other {i : WindowId} {e : WindowEvent} {size : Option SurfaceSize} {l₀ : WindowLoop α}
    (he : e ≠ .closeRequested ∧ e ≠ .redrawRequested) (told : l.Told app i e l₀) :
    Asks app l (.happened i e size) [] l₀ []

/-- What an event comes to: it asks for something, what it asks for is met in order, and the loop is
settled. If the end was asked for on the way, be it by a decision of the application to exit, the
loop is left without windows and the window system is told to exit. -/
def Course (app : App α) (l : WindowLoop α) (e : HostEvent) (ms : List Milestone)
    (l' : WindowLoop α) : Prop :=
  ∃ told l₀ asked met l₁ ended, l.Asks app e told l₀ asked ∧ MeetsAll app l₀ asked met l₁ ∧
    l₁.Settles ended l' ∧ ms = told ++ (met ++ ended) ∧
      (l₀.quitting = true ∨ .quit ∈ asked → l'.ids = [] ∧ .exit ∈ ms)

/-- An event is handled as it should be, and the milestones are passed by it. -/
structure Lawful (app : App α) (l : WindowLoop α) (e : HostEvent) (ms : List Milestone) : Prop where
  /-- What is passed. -/
  passes : l.Passes ms (l.step app e)
  /-- At most one window is drawn. -/
  once : (drawn ms).length ≤ 1
  /-- A window is drawn only if it has to be, is open, and the end was not asked for, not even
  because of this event. -/
  inTurn : ∀ i ∈ drawn ms, (∃ size, e = .happened i .redrawRequested size) ∧ i ∈ l.ids ∧
    l.quitting = false ∧ (app.onEvent i .redrawRequested l.app).1 = .proceed
  /-- If no window is drawn, then the application has no turn to draw: how it draws is of no
  consequence. -/
  noTurn : drawn ms = [] → ∀ draw, l.step { app with onFrame := draw } e = l.step app e
  /-- The end is not taken back. -/
  quitting : l.quitting = true → (l.step app e).quitting = true
  /-- The loop goes on with some window, or it has none and the window system is told. -/
  settled : l.Settling e → (l.step app e).ids ≠ [] ∧ (l.step app e).quitting = false ∨
    (l.step app e).ids = [] ∧ .exit ∈ ms
  /-- How it came to that. -/
  course : l.Settling e → l.Course app e ms (l.step app e)
  /-- Nothing becomes of windows by any other event. -/
  still : ¬ l.Settling e → ms = [] ∧ (l.step app e).ids = l.ids

/-- The event is handled as it should be, and the windows of the loop are those that are open. -/
def Handles (app : App α) (l : WindowLoop α) (e : HostEvent) : Prop :=
  (∃ ms, l.Lawful app e ms) ∧ (l.step app e).Sound

/-- An event after which the loop is not settled leaves windows alone. -/
theorem Stays.handles (h : l.Stays l') (hs : ∀ draw, l.step { app with onFrame := draw } e = l')
    (he : ¬ l.Settling e) : l.Handles app e := by
  have step : l.step app e = l' := hs app.onFrame
  rw [Handles, step]
  refine ⟨⟨[], ?_⟩, h.sound⟩
  constructor
  case passes => exact step ▸ h.passes
  case once => exact Nat.zero_le _
  case inTurn => exact List.forall_mem_nil _
  case noTurn => exact fun _ draw => (hs draw).trans step.symm
  case quitting => exact step ▸ h.quitting
  case settled => exact fun settling => absurd settling he
  case course => exact fun settling => absurd settling he
  case still => exact fun _ => ⟨rfl, step ▸ h.ids⟩

/-- Before anything is met at most one window is drawn. -/
theorem Asks.once {told : List Milestone} {asked : List WindowRequest}
    (h : l.Asks app e told l₀ asked) : (drawn told).length ≤ 1 := by
  cases h with
  | draw => exact Nat.le_refl 1
  | _ => exact Nat.zero_le 1

/-- A window is drawn only where it may be. -/
theorem Asks.inTurn {told : List Milestone} {asked : List WindowRequest}
    (h : l.Asks app e told l₀ asked) :
    ∀ i ∈ drawn told, (∃ size, e = .happened i .redrawRequested size) ∧ i ∈ l.ids ∧
      l.quitting = false ∧ (app.onEvent i .redrawRequested l.app).1 = .proceed := by
  intro j hj
  cases h with
  | draw t on going willing =>
    obtain rfl := List.mem_singleton.mp hj
    exact ⟨⟨_, rfl⟩, on.ids ▸ on.isOpen, going, willing⟩
  | first => cases hj
  | close => cases hj
  | skip => cases hj
  | other => cases hj

/-- Only events that open the first window or happen to one ask for anything. -/
theorem Asks.settling {told : List Milestone} {asked : List WindowRequest}
    (h : l.Asks app e told l₀ asked) : l.Settling e := by
  cases h with
  | first pending => exact Option.isSome_iff_exists.mpr ⟨_, pending⟩
  | _ => trivial

/-- **An event is lawful whose requests are met and that settles the loop then.** -/
theorem Asks.handles {told : List Milestone} {asked : List WindowRequest}
    (h : l.Asks app e told l₀ asked) (goes : l.Goes told l₀)
    (step : l.step app e = (asked.foldl (meet app) l₀).settle)
    (noTurn : drawn told = [] → ∀ draw, l.step { app with onFrame := draw } e = l.step app e) :
    l.Handles app e := by
  obtain ⟨met, meets, met_goes⟩ := meetsAll_foldl goes.sound app asked
  obtain ⟨ended, settles, ended_goes⟩ := settles_settle met_goes.sound
  rw [← step] at settles ended_goes
  -- no request and no settling draws, so the turns are those of the callback
  have total := goes.trans (met_goes.trans ended_goes)
  have only : drawn (told ++ (met ++ ended)) = drawn told := by
    rw [drawn_append, drawn_append, meets.undrawn, settles.undrawn,
      List.append_nil, List.append_nil]
  refine ⟨⟨told ++ (met ++ ended), ?_⟩, total.sound⟩
  constructor
  case passes => exact total.passes
  case once => exact only ▸ h.once
  case inTurn => exact only ▸ h.inTurn
  case noTurn => exact only ▸ noTurn
  case quitting => exact total.quitting
  case settled => exact fun _ =>
    settles.cases.imp_right (And.imp_right fun exits => by simp [exits])
  case course =>
    refine fun _ => ⟨told, l₀, asked, met, _, ended, h, meets, settles, rfl, fun asks => ?_⟩
    exact (settles.ended (meets.quitting asks)).imp_right fun exits => by simp [exits]
  case still => exact fun hs => absurd h.settling hs

/-- What happens to a window is handled as it should be, once the window has the size that came with
it. -/
theorem handles_happened (grown : l.Stays l₀) (same : l₀.app = l.app)
    (going : l₀.quitting = l.quitting) {e : WindowEvent} {size : Option SurfaceSize}
    (hs : ∀ draw, l.step { app with onFrame := draw } (.happened i e size) =
      l₀.step { app with onFrame := draw }
      (.happened i e none)) : l.Handles app (.happened i e size) := by
  -- the application is told first, whatever the event is
  have told : l.Told app i e (l₀.notify app i e) := by
    have told := told_notify grown.sound app i e
    have decided : ∀ d : Control, (l₀.heed d).quitting = (l.heed d).quitting := by
      intro d
      cases d with
      | proceed => exact going
      | exit => rfl
    exact ⟨grown.trans told.toStays, same ▸ told.state, by rw [told.decided, decided, same]⟩
  -- so all that depends on how it draws is what happens after that
  have stays := told.toGoes
  cases e with
  | closeRequested =>
    exact (Asks.close told).handles stays (hs app.onFrame) fun _ draw => (hs draw).trans (hs _).symm
  | resized | rescaled =>
    have follows := stays_follow told.sound i
    have told' : l.Told app i _ ((l₀.notify app i _).follow i) :=
      ⟨told.toStays.trans follows, (follow_app ..).trans told.state,
        (follow_quitting ..).trans told.decided⟩
    exact (Asks.other (by decide) told').handles told'.toGoes (hs app.onFrame) fun _ draw =>
      (hs draw).trans (hs _).symm
  | focused | keyboard =>
    exact (Asks.other (by simp) told).handles stays (hs app.onFrame) fun _ draw =>
      (hs draw).trans (hs _).symm
  | redrawRequested =>
    let l₁ := l₀.notify app i .redrawRequested
    have step : ∀ draw, l.step { app with onFrame := draw } (.happened i .redrawRequested size) =
      (if l₁.quitting then l₁ else l₁.redraw { app with onFrame := draw } i).settle := hs
    cases hq : l₁.quitting with
    | true =>
      have skips : ∀ draw, l.step { app with onFrame := draw }
          (.happened i .redrawRequested size) = l₁.settle :=
        fun draw => by rw [step, if_pos hq]
      exact (Asks.skip told (.inr hq)).handles stays (skips app.onFrame) fun _ draw =>
        (skips draw).trans (skips _).symm
    | false =>
      have goesOn : ∀ draw, l.step { app with onFrame := draw }
          (.happened i .redrawRequested size) =
          (l₁.redraw { app with onFrame := draw } i).settle :=
        fun draw => by rw [step, if_neg (by simp [hq])]
      cases hw : l₁.window? i with
      | none =>
        have absent : i ∉ l.ids := fun hm => by
          have found := isSome_window?.mpr (told.ids ▸ hm)
          rw [hw] at found
          cases found
        have skips : ∀ draw, l.step { app with onFrame := draw }
            (.happened i .redrawRequested size) = l₁.settle :=
          fun draw => by rw [goesOn, redraw, hw]
        exact (Asks.skip told (.inl absent)).handles stays (skips app.onFrame) fun _ draw =>
          (skips draw).trans (skips _).symm
      | some w =>
        -- so the end was not asked for before, and what the application just decided does not ask
        -- for it
        obtain ⟨before, willing⟩ := told.going hq
        obtain ⟨t, on, turn, redraws⟩ := redraw_spec told hq hw
        have step := (goesOn app.onFrame).trans (congrArg settle redraws)
        exact (Asks.draw t on before willing).handles turn step fun none_drawn =>
          by cases none_drawn

/-- Every event is handled as it should be. -/
theorem Sound.handles (hl : l.Sound) (app : App α) (e : HostEvent) : l.Handles app e := by
  cases e with
  | resumed =>
    cases hp : l.pending with
    | none => exact hl.stays_refl.handles (fun _ => by rw [step, hp]) (by simp [Settling, hp])
    | some c =>
      -- the request waiting for the resume is taken once
      have taken : l.Stays { l with pending := none } := ⟨⟨passes_nil rfl, id, hl⟩, rfl⟩
      have step : ∀ draw, l.step { app with onFrame := draw } .resumed =
          (openWindow app c { l with pending := none }).settle := fun _ => by rw [step, hp]; rfl
      exact (Asks.first hp).handles taken.toGoes (step app.onFrame) fun _ draw =>
        (step draw).trans (step _).symm
  | idle =>
    have waiting : l.Stays (l.tell .waitForEvents) := hl.stays_tell rfl
    exact (waiting.trans (stays_remind waiting.sound l.windows)).handles (fun _ => rfl) id
  | passed ms =>
    have later : l.Stays { l with clock := l.clock + ms } := ⟨⟨passes_nil rfl, id, hl⟩, rfl⟩
    exact later.handles (fun _ => rfl) id
  | stretched i size => exact (stays_stretch hl i size).handles (fun _ => rfl) id
  | happened i e size =>
    cases size with
    -- a size that comes with the event is taken over before the callback sees it
    | none => exact handles_happened hl.stays_refl rfl rfl fun _ => rfl
    | some size =>
      exact handles_happened (stays_stretch hl i size) (stretch_app i size l)
        (stretch_quitting i size l) fun _ => rfl

/-! ## All events -/

/-- However a program goes, the windows of its loop are those that are open. -/
theorem sound_events (app : App α) (a : α) (c : WindowConfig) (host : WindowHost)
    (devices : DeviceHost) (events : List HostEvent) :
    (events.foldl (step app) (begin a c host devices)).Sound := by
  suffices run : ∀ l : WindowLoop α, l.Sound → (events.foldl (step app) l).Sound
      from run _ (Census.start devices)
  induction events with
  | nil => exact fun l hl => hl
  | cons e events ih => exact fun l hl => ih _ (hl.handles app e).2

/-- **A program with windows handles every event as it should.** After any events the next one is
`Lawful`. The windows that its loop has are alive, and all others are gone. When the loop is left,
all windows are gone, and each buffer that was made with a renderer was dropped once; those of a
window that is gone were dropped before the window was closed. -/
theorem callbacks_lawful (app : App α) (a : α) (c : WindowConfig) (host : WindowHost)
    (devices : DeviceHost) (events : List HostEvent) :
    let l := events.foldl (step app) (begin a c host devices)
    let h := l.platform.history.toList
    let h' := l.closeAll.platform.history.toList
    (∀ e, ∃ ms, l.Lawful app e ms) ∧ (∀ i, if i ∈ l.ids then ∃ held, Alive i held h else Gone i h) ∧
      (∀ i, Gone i h') ∧ (buffersMade h').Nodup ∧ (buffersDropped h').Perm (buffersMade h') := by
  intro l h h'
  have sound : l.Sound := sound_events app a c host devices events
  obtain ⟨none_left, closes, -⟩ := closeAll_spec sound
  -- closing all leaves an empty census, so every window is gone and every buffer dropped
  have ended : Census [] l.closeAll.opened l.closeAll.platform := by
    have closed : Census (l.closeAll.windows.map OpenWindow.room) _ _ := closes.sound
    rwa [List.map_eq_nil_iff.mp none_left] at closed
  have listed : l.rooms.map Prod.fst = l.ids := List.map_map ..
  refine ⟨fun e => (sound.handles app e).1, fun i => ?_, fun i => ended.gone i List.not_mem_nil,
    ended.books.once, ?_⟩
  · split
    · rename_i hi
      rw [← listed] at hi
      obtain ⟨r, hr, rfl⟩ := List.mem_map.mp hi
      exact ⟨_, sound.alive r hr⟩
    · rename_i hi
      exact sound.gone i (listed ▸ hi)
  · exact Multiset.coe_eq_coe.mp ((add_zero _).symm.trans ended.books.balance.symm)

-- The application closes the window that it draws, and asks for another one, which the user closes.
example :
    let app : App Unit :=
      { onStart := fun _ => pure .proceed
        onEvent := fun _ _ a => (.proceed, a)
        onFrame := fun info => pure (.proceed, [.closeWindow info.window, .openWindow {}]) }
    let events : List HostEvent :=
      [.resumed, .happened ⟨1⟩ .redrawRequested none, .happened ⟨2⟩ .closeRequested none]
    milestones (events.foldl (step app) (begin () {} {} {})).platform.history.toList =
      [.opened ⟨1⟩, .started ⟨1⟩, .framed ⟨1⟩, .closed ⟨1⟩, .opened ⟨2⟩, .started ⟨2⟩,
        .closed ⟨2⟩, .exit] := by
  decide +kernel

-- The first window gets a device and the second one does not, so both are closed and the loop ends.
example :
    let app : App Unit :=
      { onStart := fun _ => pure .proceed
        onEvent := fun _ _ a => (.proceed, a)
        onFrame := fun _ => pure (.proceed, [.openWindow {}]) }
    let devices : DeviceHost := { deviceError := fun n => if n = 1 then some "lost" else none }
    let events : List HostEvent := [.resumed, .happened ⟨1⟩ .redrawRequested none]
    milestones (events.foldl (step app) (begin () {} {} devices)).platform.history.toList =
      [.opened ⟨1⟩, .started ⟨1⟩, .framed ⟨1⟩, .opened ⟨2⟩, .closed ⟨2⟩, .closed ⟨1⟩, .exit] := by
  decide +kernel

end WindowLoop

end LitTiles
