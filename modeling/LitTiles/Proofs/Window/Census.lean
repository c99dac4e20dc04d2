import LitTiles.Proofs.Wgpu.Stock
import Mathlib.Algebra.BigOperators.Group.List.Basic

/-!
# The windows of a history

What becomes of a window can be told from the history of its platform: it is opened, its renderer is
made, the application draws it a number of times, and it is closed. A window whose renderer cannot
be made is closed at once.

A window is `Alive` if it was opened and not closed yet. It is `Gone` if it was never opened, or is
closed: then all buffers that were made with its renderer were dropped before. A `Census` of open
windows says that these are alive, that all others are gone, and that no buffers are held but
theirs. Whatever happens to a window keeps a census: opening (`Census.failed`, `Census.opened`),
turns (`Census.trade`, `Census.framed`) and closing (`Census.closed`).
-/

namespace LitTiles

open Wgpu

/-! ## Milestones -/

/-- What becomes of a window, and the end. -/
inductive Milestone where
  /-- A window is opened. -/
  | opened (window : WindowId)
  /-- Its renderer was made, and the application is told. -/
  | started (window : WindowId)
  /-- The application draws it. -/
  | framed (window : WindowId)
  /-- It is closed. -/
  | closed (window : WindowId)
  /-- The window system is told that the loop is to end. -/
  | exit
  deriving DecidableEq

/-- The window that a milestone is about. -/
def Milestone.window? : Milestone → Option WindowId
  | opened w | started w | framed w | closed w => some w
  | exit => none

/-- The milestone that a happening is, if it is one. -/
def Happening.milestone? : Happening → Option Milestone
  | .window (.opened w _ _) => some (.opened w)
  | .turn (.started w _) => some (.started w)
  | .turn (.framed w _ _ _) => some (.framed w)
  | .window (.closed w) => some (.closed w)
  | .window .exit => some .exit
  | _ => none

/-- The milestones of a history. -/
def milestones (h : List Happening) : List Milestone := h.filterMap Happening.milestone?

/-- What became of a window. -/
def story (i : WindowId) (h : List Happening) : List Milestone :=
  (milestones h).filter (·.window? = some i)

variable {h more more' : List Happening} {i j : WindowId} {e : Happening}

@[simp] theorem milestones_append (h h' : List Happening) :
    milestones (h ++ h') = milestones h ++ milestones h' :=
  List.filterMap_append

@[simp] theorem story_append (i : WindowId) (h h' : List Happening) :
    story i (h ++ h') = story i h ++ story i h' := by
  rw [story, milestones_append, List.filter_append, story, story]

theorem story_of_milestones (hm : milestones more = []) (i : WindowId) : story i more = [] := by
  rw [story, hm]; rfl

/-- What is about no window is part of no story. -/
theorem story_of_no_window (he : e.milestone?.bind Milestone.window? = none) (i : WindowId) :
    story i [e] = [] := by
  rw [story, milestones]
  cases hm : e.milestone? with
  | none => rw [List.filterMap_cons_none hm]; rfl
  | some m =>
    have nowhere : m.window? = none := by simpa [hm] using he
    rw [List.filterMap_cons_some hm, List.filter_cons_of_neg (by simp [nowhere])]
    rfl

/-- A milestone of a window is part of its story, and of no other one. -/
theorem story_of_window {m : Milestone} (he : e.milestone? = some m) (hw : m.window? = some i) :
    story i [e] = [m] ∧ ∀ j, j ≠ i → story j [e] = [] := by
  have only : milestones [e] = [m] := List.filterMap_cons_some he
  refine ⟨?_, fun j hj => ?_⟩
  · rw [story, only, List.filter_cons_of_pos (by simpa using hw)]
    rfl
  · rw [story, only, List.filter_cons_of_neg (by simpa [hw] using hj.symm)]
    rfl

/-- What happens while a script is run is no milestone. -/
theorem Happening.IsInner.milestone (he : e.IsInner) : e.milestone? = none := by
  cases e with
  | device c => rfl
  | record r => rfl
  | window c => cases c <;> first | rfl | cases he
  | turn t => cases he

theorem Platform.Trade.milestones {p p' : Platform} {old new : Multiset (Handle .buffer)}
    (t : p.Trade old more new p') : milestones more = [] :=
  List.filterMap_eq_nil_iff.mpr fun e he => (t.inner e he).milestone

/-! ## Lives -/

/-- A window was opened, its renderer was made, and since then the application drew it a number of
times. -/
structure Life (i : WindowId) (making living h : List Happening) : Prop where
  /-- How the window was opened. -/
  history : ∃ before title size extent, story i before = [] ∧
    h = before ++ .window (.opened i title size) :: making ++ .turn (.started i extent) :: living
  /-- Nothing became of any window while the renderer was made. -/
  alone : milestones making = []
  /-- The renderer has buffers. -/
  furnished : buffersMade making ≠ []
  /-- What became of the window since. -/
  frames : ∃ n, story i living = .replicate n (.framed i)

/-- A window is open; each buffer that was made with its renderer was dropped, or is held. -/
def Alive (i : WindowId) (held : Multiset (Handle .buffer)) (h : List Happening) : Prop :=
  ∃ making living, Life i making living h ∧ ∀ b ∈ buffersMade making,
    b ∈ buffersDropped (making ++ living) ∨ b ∈ held

/-- A window is not open. -/
inductive Gone (i : WindowId) (h : List Happening) : Prop
  /-- It was never opened. -/
  | never (story : story i h = [])
  /-- It was opened, got no renderer and was closed. -/
  | failed (story : story i h = [.opened i, .closed i])
  /-- It was closed after a life, once all buffers that were made with its renderer were dropped. -/
  | lived (making living before after : List Happening) (life : Life i making living before)
      (history : h = before ++ .window (.closed i) :: after) (quiet : story i after = [])
      (dropped : ∀ b ∈ buffersMade making, b ∈ buffersDropped (making ++ living))

theorem Life.later {making living : List Happening} (life : Life i making living h)
    (hm : ∃ n, story i more = .replicate n (.framed i)) : Life i making (living ++ more)
    (h ++ more) where
  history := by
    obtain ⟨before, title, size, extent, first, rfl⟩ := life.history
    exact ⟨before, title, size, extent, first, by rw [List.append_assoc _ _ more, List.cons_append]⟩
  alone := life.alone
  furnished := life.furnished
  frames := by
    obtain ⟨n, hn⟩ := life.frames
    obtain ⟨n', hn'⟩ := hm
    exact ⟨n + n', by rw [story_append, hn, hn', List.replicate_append_replicate]⟩

theorem Alive.later {old new : Multiset (Handle .buffer)} (alive : Alive i old h)
    (hm : ∃ n, story i more = .replicate n (.framed i))
    (kept : ∀ b ∈ old, b ∈ buffersDropped more ∨ b ∈ new) :
    Alive i new (h ++ more) := by
  obtain ⟨making, living, life, buffers⟩ := alive
  refine ⟨making, living ++ more, life.later hm, fun b hb => ?_⟩
  rw [← List.append_assoc, buffersDropped_append, List.mem_append]
  rcases buffers b hb with dropped | held
  · exact .inl (.inl dropped)
  · rcases kept b held with dropped | held
    · exact .inl (.inr dropped)
    · exact .inr held

/-- A window that is closed without buffers is gone. -/
theorem Alive.closed (alive : Alive i 0 h) : Gone i (h ++ [.window (.closed i)]) := by
  obtain ⟨making, living, life, buffers⟩ := alive
  exact .lived making living h [] life rfl rfl fun b hb =>
    (buffers b hb).resolve_right (Multiset.notMem_zero b)

/-- A window that is open has a story. -/
theorem Alive.opened_mem {held : Multiset (Handle .buffer)} (alive : Alive i held h) :
    .opened i ∈ story i h := by
  obtain ⟨making, living, life, -⟩ := alive
  obtain ⟨before, title, size, extent, -, rfl⟩ := life.history
  simp [story, milestones, Happening.milestone?, Milestone.window?]

theorem Gone.later (gone : Gone i h) (hm : story i more = []) : Gone i (h ++ more) := by
  cases gone with
  | never story => exact .never (by rw [story_append, story, hm]; rfl)
  | failed story => exact .failed (by rw [story_append, story, hm]; rfl)
  | lived making living before after life history quiet dropped =>
    refine .lived making living before (after ++ more) life ?_
      (by rw [story_append, quiet, hm]; rfl) dropped
    rw [history, List.append_assoc, List.cons_append]

/-! ## The census -/

/-- Some windows are open, with their adapters: those are alive, all others are gone, and no buffers
are held but theirs. -/
structure Census (rooms : List (WindowId × Adapter)) (count : Nat) (p : Platform) : Prop where
  /-- No window is listed twice. -/
  distinct : (rooms.map (·.1)).Nodup
  /-- Windows are numbered in the order in which they were opened. -/
  numbered : ∀ i, story i p.history.toList ≠ [] → i.val ≤ count
  /-- Adapters tell their instance buffers apart. -/
  keyed : ∀ r ∈ rooms, r.2.Keyed
  /-- The books balance. -/
  books : p.Books (rooms.map (·.2.held)).sum
  /-- The windows of the list are alive. -/
  alive : ∀ r ∈ rooms, Alive r.1 r.2.held p.history.toList
  /-- The others are gone. -/
  gone : ∀ i, i ∉ rooms.map (·.1) → Gone i p.history.toList

namespace Census

variable {rooms rooms' rest : List (WindowId × Adapter)} {count : Nat}
  {p p' : Platform} {a : Adapter}

/-- The order of the list is of no consequence. -/
theorem perm (c : Census rooms count p) (hr : rooms.Perm rooms') : Census rooms' count p where
  distinct := (hr.map _).nodup_iff.mp c.distinct
  numbered := c.numbered
  keyed r hm := c.keyed r (hr.mem_iff.mpr hm)
  books := (hr.map fun r => r.2.held).sum_eq ▸ c.books
  alive r hm := c.alive r (hr.mem_iff.mpr hm)
  gone i hi := c.gone i fun hm => hi ((hr.map _).mem_iff.mp hm)

theorem start (host : DeviceHost) : Census [] 0 { host := host } where
  distinct := List.nodup_nil
  numbered _ hi := absurd rfl hi
  keyed _ hm := nomatch hm
  books := ⟨fun _ hb => (List.not_mem_nil hb).elim, List.nodup_nil, rfl⟩
  alive _ hm := nomatch hm
  gone _ _ := .never rfl

/-- What is about no window and no buffer changes nothing. -/
theorem add (c : Census rooms count p) (hw : ∀ i, story i [e] = [])
    (hb : e.made? = none ∧ e.dropped? = none) :
    Census rooms count (p.add e) := by
  have history : (p.add e).history.toList = p.history.toList ++ [e] := Array.toList_push ..
  refine ⟨c.distinct, fun i hi => ?_, c.keyed, Platform.Books.add c.books hb, fun r hm =>
    ?_, fun i hi => ?_⟩
  · rw [history, story_append, hw i, List.append_nil] at hi
    exact c.numbered i hi
  · rw [history]
    exact (c.alive r hm).later ⟨0, hw r.1⟩ fun b hb => .inr hb
  · rw [history]
    exact (c.gone i hi).later (hw i)

end Census

/-- A census of all windows but one, which is not on the list. -/
structure CensusBut (i : WindowId) (rest : List (WindowId × Adapter)) (count : Nat)
    (p : Platform) : Prop where
  /-- No window is listed twice, and the one is not listed. -/
  distinct : (i :: rest.map (·.1)).Nodup
  /-- Windows are numbered in the order in which they were opened. -/
  numbered : i.val ≤ count ∧ ∀ j, story j p.history.toList ≠ [] → j.val ≤ count
  /-- Adapters tell their instance buffers apart. -/
  keyed : ∀ r ∈ rest, r.2.Keyed
  /-- The windows of the list are alive. -/
  alive : ∀ r ∈ rest, Alive r.1 r.2.held p.history.toList
  /-- The others are gone. -/
  gone : ∀ j, j ≠ i → j ∉ rest.map (·.1) → Gone j p.history.toList

namespace CensusBut

variable {rest : List (WindowId × Adapter)} {count : Nat} {p p' : Platform} {a : Adapter}

/-- What becomes of one window is of no consequence for the others. -/
theorem later (c : CensusBut i rest count p)
    (history : p'.history.toList = p.history.toList ++ more)
    (elsewhere : ∀ j, j ≠ i → story j more = []) : CensusBut i rest count p' := by
  refine ⟨c.distinct, ⟨c.numbered.1, fun j hj => ?_⟩, c.keyed, fun r hm => ?_, fun j hi hj => ?_⟩
  · by_cases hi : j = i
    · exact hi ▸ c.numbered.1
    · rw [history, story_append, elsewhere j hi, List.append_nil] at hj
      exact c.numbered.2 j hj
  · have other : r.1 ≠ i :=
      fun same => (List.nodup_cons.mp c.distinct).1 (same ▸ List.mem_map_of_mem hm)
    rw [history]
    exact (c.alive r hm).later ⟨0, elsewhere r.1 other⟩ fun b hb => .inr hb
  · rw [history]
    exact (c.gone j hi hj).later (elsewhere j hi)

/-- The census of all windows, if the one is alive. -/
theorem enter (c : CensusBut i rest count p) (keyed : a.Keyed)
    (alive : Alive i a.held p.history.toList)
    (books : p.Books (a.held + (rest.map (·.2.held)).sum)) : Census ((i, a) :: rest) count p where
  distinct := c.distinct
  numbered := c.numbered.2
  keyed := List.forall_mem_cons.mpr ⟨keyed, c.keyed⟩
  books := books
  alive := List.forall_mem_cons.mpr ⟨alive, c.alive⟩
  gone j hj := c.gone j (fun same => hj (same ▸ List.mem_cons_self)) fun hm =>
    hj (List.mem_cons_of_mem _ hm)

/-- The census of all windows, if the one is gone. -/
theorem leave (c : CensusBut i rest count p) (gone : Gone i p.history.toList)
    (books : p.Books (rest.map (·.2.held)).sum) : Census rest count p where
  distinct := (List.nodup_cons.mp c.distinct).2
  numbered := c.numbered.2
  keyed := c.keyed
  books := books
  alive := c.alive
  gone j hj := if hi : j = i then hi ▸ gone else c.gone j hi hj

end CensusBut

namespace Census

variable {rooms rest : List (WindowId × Adapter)} {count : Nat} {p p' : Platform} {a : Adapter}
  {new : Multiset (Handle .buffer)}

theorem but (c : Census ((i, a) :: rest) count p) : CensusBut i rest count p where
  distinct := c.distinct
  numbered :=
    ⟨c.numbered i (List.ne_nil_of_mem (c.alive (i, a) List.mem_cons_self).opened_mem), c.numbered⟩
  keyed := (List.forall_mem_cons.mp c.keyed).2
  alive := (List.forall_mem_cons.mp c.alive).2
  gone j hi hj := c.gone j fun hm => (List.mem_cons.mp hm).elim hi hj

/-- No window has the next number. -/
theorem but_next (c : Census rooms count p) : CensusBut ⟨count + 1⟩ rooms (count + 1) p where
  distinct := by
    refine List.nodup_cons.mpr ⟨fun hm => ?_, c.distinct⟩
    obtain ⟨r, hr, same⟩ := List.mem_map.mp hm
    have numbered := c.numbered r.1 (List.ne_nil_of_mem (c.alive r hr).opened_mem)
    rw [same] at numbered
    exact Nat.not_succ_le_self _ numbered
  numbered := ⟨Nat.le_refl _, fun j hj => Nat.le_succ_of_le (c.numbered j hj)⟩
  keyed := c.keyed
  alive := c.alive
  gone j _ hj := c.gone j hj

theorem story_next (c : Census rooms count p) : story ⟨count + 1⟩ p.history.toList = [] := by
  by_contra hs
  exact Nat.not_succ_le_self _ (c.numbered _ hs)

/-- A turn may trade the stock of a window. -/
theorem trade {s s' : Session} (c : Census ((s.window, s.adapter) :: rest) count s.platform)
    (t : s.Trades more s') :
    Census ((s'.window, s'.adapter) :: rest) count s'.platform := by
  have quiet := story_of_milestones t.trade.milestones
  rw [t.window]
  refine (c.but.later t.trade.history fun j _ => quiet j).enter t.keyed ?_ (c.books.trade t.trade)
  rw [t.trade.history]
  refine (c.alive _ List.mem_cons_self).later ⟨0, quiet _⟩ fun b hb => ?_
  have total : b ∈ s.adapter.held + (↑(buffersMade more) : Multiset _) :=
    Multiset.mem_add.mpr (.inl hb)
  rw [t.trade.balance] at total
  exact Multiset.mem_add.mp total

/-- The application may draw a window that is open. -/
theorem framed (c : Census ((i, a) :: rest) count p) (physical size : SurfaceSize)
    (elapsed : Scalar) :
    Census ((i, a) :: rest) count (p.add (.turn (.framed i physical size elapsed))) := by
  have history : (p.add (.turn (.framed i physical size elapsed))).history.toList =
      p.history.toList ++ [_] :=
    Array.toList_push ..
  obtain ⟨here, elsewhere⟩ := story_of_window (e := .turn (.framed i physical size elapsed)) rfl rfl
  refine (c.but.later history elsewhere).enter (c.keyed _ List.mem_cons_self) ?_
    (Platform.Books.add c.books ⟨rfl, rfl⟩)
  rw [history]
  exact (c.alive _ List.mem_cons_self).later ⟨1, here⟩ fun b hb => .inr hb

/-- A window is closed after its session. -/
theorem closed (c : Census ((i, a) :: rest) count p) (t : p.Trade a.held more 0 p') :
    Census rest count (p'.add (.window (.closed i))) := by
  have history : (p'.add (.window (.closed i))).history.toList = p'.history.toList ++ [_] :=
    Array.toList_push ..
  have quiet := story_of_milestones t.milestones
  have books := c.books.trade t
  rw [zero_add] at books
  have empty : Alive i 0 p'.history.toList := by
    rw [t.history]
    refine (c.alive _ List.mem_cons_self).later ⟨0, quiet i⟩ fun b hb => ?_
    have total : b ∈ a.held + (↑(buffersMade more) : Multiset _) := Multiset.mem_add.mpr (.inl hb)
    rw [t.balance] at total
    exact Multiset.mem_add.mp total
  obtain ⟨-, elsewhere⟩ := story_of_window (e := .window (.closed i)) rfl rfl
  refine ((c.but.later t.history fun j _ => quiet j).later history elsewhere).leave ?_
    (books.add ⟨rfl, rfl⟩)
  rw [history]
  exact empty.closed

/-- The next window is opened, and its session is made or not. -/
theorem but_next_opened (c : Census rooms count p) (title : String) (size : SurfaceSize)
    (t : (p.add (.window (.opened ⟨count + 1⟩ title size))).Trade 0 more new p') :
    CensusBut ⟨count + 1⟩ rooms (count + 1) p' ∧ p'.Books (new + (rooms.map (·.2.held)).sum) ∧
      p'.history.toList = p.history.toList ++ .window (.opened ⟨count + 1⟩ title size) :: more := by
  let e := Happening.window (.opened ⟨count + 1⟩ title size)
  have history : (p.add e).history.toList = p.history.toList ++ [e] := Array.toList_push ..
  have quiet := story_of_milestones t.milestones
  obtain ⟨-, elsewhere⟩ := story_of_window (e := e) rfl rfl
  have books : (p.add e).Books (0 + (rooms.map (·.2.held)).sum) := by
    rw [zero_add]
    exact Platform.Books.add c.books ⟨rfl, rfl⟩
  refine ⟨(c.but_next.later history elsewhere).later t.history fun j _ =>
    quiet j, books.trade t, ?_⟩
  rw [t.history, history, List.append_assoc, List.singleton_append]

/-- A window that gets no renderer is closed. -/
theorem failed (c : Census rooms count p) (title : String) (size : SurfaceSize)
    (t : (p.add (.window (.opened ⟨count + 1⟩ title size))).Trade 0 more 0 p') :
    Census rooms (count + 1) (p'.add (.window (.closed ⟨count + 1⟩))) := by
  have history : (p'.add (.window (.closed ⟨count + 1⟩))).history.toList =
      p'.history.toList ++ [_] :=
    Array.toList_push ..
  obtain ⟨others, books, before⟩ := c.but_next_opened title size t
  obtain ⟨here, elsewhere⟩ := story_of_window (e := .window (.closed ⟨count + 1⟩)) rfl rfl
  rw [zero_add] at books
  obtain ⟨first, -⟩ := story_of_window (e := .window (.opened ⟨count + 1⟩ title size)) rfl rfl
  refine (others.later history elsewhere).leave (.failed ?_) (books.add ⟨rfl, rfl⟩)
  rw [history, before, ← List.singleton_append, story_append, story_append, story_append,
    c.story_next, first, here, story_of_milestones t.milestones]
  rfl

/-- A window that gets a renderer is open. -/
theorem opened (c : Census rooms count p) (title : String) (size extent : SurfaceSize)
    (keyed : a.Keyed)
    (t : (p.add (.window (.opened ⟨count + 1⟩ title size))).Trade 0 more a.held p') :
    Census ((⟨count + 1⟩, a) :: rooms) (count + 1)
    (p'.add (.turn (.started ⟨count + 1⟩ extent))) := by
  have history : (p'.add (.turn (.started ⟨count + 1⟩ extent))).history.toList =
      p'.history.toList ++ [_] :=
    Array.toList_push ..
  obtain ⟨others, books, before⟩ := c.but_next_opened title size t
  obtain ⟨-, elsewhere⟩ := story_of_window (e := .turn (.started ⟨count + 1⟩ extent)) rfl rfl
  -- what the opening made and did not drop is what the adapter now holds
  have balance : (↑(buffersMade more) : Multiset (Handle .buffer)) =
      ↑(buffersDropped more) + a.held :=
    (zero_add _).symm.trans t.balance
  -- an adapter holds its corner buffer at least, so the opening made one
  have furnished : buffersMade more ≠ [] := by
    intro none_made
    have corners :
        a.corners.buffer ∈ (↑(buffersDropped more) : Multiset (Handle .buffer)) + a.held :=
      Multiset.mem_add.mpr (.inr a.corners_mem_held)
    rw [← balance, none_made] at corners
    exact Multiset.notMem_zero _ corners
  refine (others.later history elsewhere).enter keyed
    ⟨more, [], ⟨?_, t.milestones, furnished, 0, rfl⟩, fun b hb => ?_⟩
    (books.add ⟨rfl, rfl⟩)
  · exact ⟨_, title, size, extent, c.story_next, by rw [history, before]⟩
  · have total : b ∈ (↑(buffersDropped more) : Multiset (Handle .buffer)) + a.held := balance ▸ hb
    rw [List.append_nil]
    exact Multiset.mem_add.mp total

end Census

end LitTiles
