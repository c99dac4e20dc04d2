import Mathlib.Data.List.Count
import LitTiles.Proofs.Backend.Ledger
import LitTiles.Proofs.Gl.Flawless
import LitTiles.Proofs.Wgpu.Conduct
import LitTiles.Proofs.Wgpu.Flawless

/-!
# The numbers of instance buffers

Adapters number their instance buffers one after the other, and after 2³² buffers the numbers start
over (`NumbersOn`). Buffers may be kept for any time while others come and go, so a number may come
round that is still in use: this is so for a live buffer exactly if it was made 2³² buffers ago
(`liveAfter_eq_some_iff_madeRoundAgo`). Until then all that is handed out is new
(`fresh_of_numbersOn`).

A backend has a `Rack` if it keeps its buffers in a table under such numbers. On every run its table
then holds the live buffers, and a new buffer takes the place of another one only when its number
has come round (`Rack.ComesRound`). Adapters on a GL context and on a device have one
(`Gl.Session.rack`, `Wgpu.Session.rack`).
-/

namespace LitTiles

/-! ## Counting on -/

/-- The call hands out a buffer. -/
def Exchange.lends : Exchange → Bool
  | ⟨.createBuffer _, .ok _⟩ => true
  | _ => false

/-- A buffer has the number of buffers that were handed out before, from zero again after 2³². -/
def NumbersOn (before : List Exchange) : Exchange → Prop
  | ⟨.createBuffer _, .ok b⟩ => b = ⟨.ofNat (before.countP Exchange.lends)⟩
  | _ => True

/-- A buffer of a number was handed out 2³² buffers ago, and not given back since. -/
def MadeRoundAgo (h : List Exchange) (b : BufferId) (capacity : Nat) : Prop :=
  ∃ before after, h = before ++ ⟨.createBuffer capacity, .ok b⟩ :: after ∧
    (∀ e ∈ after, e.givesBack b = false) ∧ after.countP Exchange.lends + 1 = 2 ^ 32

/-- Numbers come round after multiples of 2³². -/
theorem ofNat_eq_ofNat_add_iff {m k : Nat} :
    UInt32.ofNat m = UInt32.ofNat (m + k) ↔ 2 ^ 32 ∣ k := by
  rw [← UInt32.toNat_inj, UInt32.toNat_ofNat', UInt32.toNat_ofNat']
  omega

/-- Each number below a count is counted at some place. -/
theorem exists_of_lt_countP {α : Type} {p : α → Bool} {l : List α} {k : Nat} (h : k < l.countP p) :
    ∃ l₁ x l₂, l = l₁ ++ x :: l₂ ∧ p x = true ∧ l₁.countP p = k := by
  have inside : l.findIdxNth p k < l.length := List.findIdxNth_lt_length_of_lt_countP h
  refine ⟨l.take (l.findIdxNth p k), l[l.findIdxNth p k], l.drop (l.findIdxNth p k + 1), ?_,
    List.pos_findIdxNth_getElem, ?_⟩
  · rw [← List.drop_eq_getElem_cons inside, List.take_append_drop]
  · rw [← List.countPBefore_eq_countP_take, List.countPBefore_findIdxNth_of_lt_countP h]

section NumbersOn

variable {before after earlier later h : List Exchange} {e : Exchange} {b : BufferId}
  {capacity n : Nat}

theorem NumbersOn.handsOut_iff (hn : NumbersOn before e) :
    e.handsOut b = true ↔ e.lends = true ∧ b = ⟨.ofNat (before.countP Exchange.lends)⟩ := by
  match e, hn with
  | ⟨.createBuffer _, .ok b'⟩, hn =>
    obtain rfl : b' = ⟨.ofNat (before.countP Exchange.lends)⟩ := hn
    simp [Exchange.handsOut, Exchange.lends, eq_comm]
  | ⟨.createBuffer _, .error _⟩, _ => simp [Exchange.handsOut, Exchange.lends]
  | ⟨.freeBuffer _, _⟩, _ => simp [Exchange.handsOut, Exchange.lends]
  | ⟨.issue _, _⟩, _ => simp [Exchange.handsOut, Exchange.lends]

/-- The number of a buffer is handed out again after each 2³² buffers. -/
theorem handsOut_again_iff
    (hn : Throughout NumbersOn
      (before ++ ⟨.createBuffer capacity, .ok b⟩ :: (earlier ++ e :: later))) :
    e.handsOut b = true ↔ e.lends = true ∧ 2 ^ 32 ∣ earlier.countP Exchange.lends + 1 := by
  have first : b = ⟨.ofNat (before.countP Exchange.lends)⟩ :=
    hn before ⟨.createBuffer capacity, .ok b⟩ _ rfl
  have numbered := hn (before ++ ⟨.createBuffer capacity, .ok b⟩ :: earlier) e later (by simp)
  have count : (before ++ ⟨.createBuffer capacity, .ok b⟩ :: earlier).countP Exchange.lends =
      before.countP Exchange.lends + (earlier.countP Exchange.lends + 1) := by
    rw [List.countP_append, List.countP_cons_of_pos rfl]
  rw [numbered.handsOut_iff, count, first, BufferId.mk.injEq, ofNat_eq_ofNat_add_iff]

/-- **The number of a live buffer is handed out exactly if this buffer was made 2³² buffers
ago.** -/
theorem liveAfter_eq_some_iff_madeRoundAgo
    (hn : Throughout NumbersOn (h ++ [⟨.createBuffer n, .ok b⟩])) :
    liveAfter h b = some capacity ↔ MadeRoundAgo h b capacity := by
  rw [liveAfter_eq_some_iff]
  refine exists_congr fun before => exists_congr fun after => and_congr_right ?_
  rintro rfl
  constructor
  · intro untouched
    refine ⟨fun e he => (untouched e he).2, ?_⟩
    have whole : Throughout NumbersOn (before ++ ⟨.createBuffer capacity, .ok b⟩ ::
        (after ++ [⟨.createBuffer n, .ok b⟩])) := by
      simpa using hn
    have round := ((handsOut_again_iff whole).mp (decide_eq_true rfl)).2
    -- had more buffers been made, the number would have come round in between
    by_contra more
    have longer : 2 ^ 32 - 1 < after.countP Exchange.lends := by omega
    obtain ⟨earlier, e, later, rfl, lent, count⟩ := exists_of_lt_countP longer
    have again := (handsOut_again_iff hn.of_append).mpr ⟨lent, by omega⟩
    rw [(untouched e (by simp)).1] at again
    cases again
  · rintro ⟨kept, count⟩ e he
    refine ⟨Bool.eq_false_iff.mpr fun again => ?_, kept e he⟩
    obtain ⟨earlier, later, rfl⟩ := List.append_of_mem he
    obtain ⟨lent, round⟩ := (handsOut_again_iff hn.of_append).mp again
    rw [List.countP_append, List.countP_cons_of_pos lent] at count
    omega

/-- **The first 2³² buffers are new ones.** -/
theorem fresh_of_numbersOn (hn : Throughout NumbersOn h) (few : h.countP Exchange.lends ≤ 2 ^ 32) :
    Fresh h := by
  rintro before e after rfl
  match e, hn, few with
  | ⟨.createBuffer n, .ok b⟩, hn, few =>
    refine Option.eq_none_iff_forall_ne_some.mpr fun capacity live => ?_
    have whole : Throughout NumbersOn (before ++ [⟨.createBuffer n, .ok b⟩] ++ after) := by
      simpa using hn
    obtain ⟨earlier, later, rfl, -, count⟩ :=
      (liveAfter_eq_some_iff_madeRoundAgo whole.of_append).mp live
    simp only [List.countP_append, List.countP_cons, Exchange.lends, if_true] at few
    omega
  | ⟨.createBuffer _, .error _⟩, _, _ => trivial
  | ⟨.freeBuffer _, _⟩, _, _ => trivial
  | ⟨.issue _, _⟩, _, _ => trivial

end NumbersOn

/-! ## Racks -/

/-- Instance buffers under their numbers, and the number of the next one. -/
structure Numbers (κ : Type) where
  /-- The buffers. -/
  entries : List (BufferId × κ)
  /-- The next number. -/
  next : UInt32

/-- What a backend keeps of instance buffers. -/
structure Rack {ρ : Type} (b : Backend ρ) (κ : Type) where
  /-- What is kept. -/
  numbers : ρ → Numbers κ
  /-- How many instances a buffer holds. -/
  capacity : κ → Nat
  /-- A new buffer has the next number, and takes the place of the one that has it. -/
  made : ∀ n s id, (b.perform (.createBuffer n) s).1 = .ok id → id = ⟨(numbers s).next⟩ ∧
    ∃ k, capacity k = n ∧
    numbers (b.perform (.createBuffer n) s).2 =
      ⟨(id, k) :: (numbers s).entries.filter (·.1 != id), (numbers s).next + 1⟩
  /-- A buffer that is refused takes no number. -/
  refused : ∀ n s e, (b.perform (.createBuffer n) s).1 = .error e →
    numbers (b.perform (.createBuffer n) s).2 = numbers s
  /-- A buffer that is given back is forgotten. -/
  freed : ∀ id s, numbers (b.perform (.freeBuffer id) s).2 =
    { numbers s with entries := (numbers s).entries.filter (·.1 != id) }
  /-- Commands change nothing. -/
  issued : ∀ c s, numbers (b.perform (.issue c) s).2 = numbers s
  /-- Nor do notices. -/
  noticed : ∀ n s, numbers (b.notice n s) = numbers s

namespace Rack

variable {ρ κ α : Type} {b : Backend ρ} {rack : Rack b κ} {s s' : ρ} {h : List Exchange}

/-- A rack is as a history tells: it holds the live buffers, and the numbers count on. -/
structure Tells (rack : Rack b κ) (s : ρ) (h : List Exchange) : Prop where
  /-- The next number. -/
  next : (rack.numbers s).next = .ofNat (h.countP Exchange.lends)
  /-- The buffers. -/
  table : ∀ id, ((rack.numbers s).entries.lookup id).map rack.capacity = liveAfter h id
  /-- The numbers so far. -/
  numbered : Throughout NumbersOn h

theorem tells_of_empty (he : rack.numbers s = ⟨[], 0⟩) : rack.Tells s [] where
  next := by
    rw [he]
    rfl
  table id := by
    rw [he]
    rfl
  numbered := throughout_nil

/-- What has to do with no buffer changes nothing. -/
theorem Tells.aside (t : rack.Tells s h) (same : rack.numbers s' = rack.numbers s) {e : Exchange}
    (lends : e.lends = false) (settles : ∀ live, e.settle live = live) (numbers : NumbersOn h e) :
    rack.Tells s' (h ++ [e]) where
  next := by
    rw [same, List.countP_append, List.countP_singleton, lends]
    exact t.next
  table id := by
    rw [same, liveAfter_concat, settles]
    exact t.table id
  numbered := throughout_concat.mpr ⟨t.numbered, numbers⟩

/-- A buffer that is handed out counts, and is found in the table. -/
theorem Tells.made (t : rack.Tells s h) {n : Nat} {id : BufferId}
    (hr : (b.perform (.createBuffer n) s).1 = .ok id) :
    rack.Tells (b.perform (.createBuffer n) s).2 (h ++ [⟨.createBuffer n, .ok id⟩]) := by
  obtain ⟨number, k, rfl, numbers⟩ := rack.made n s id hr
  refine ⟨?_, fun id' => ?_, throughout_concat.mpr ⟨t.numbered, ?_⟩⟩
  · rw [numbers, List.countP_append, List.countP_singleton, t.next]
    exact (UInt32.ofNat_add _ 1).symm
  · rw [numbers, liveAfter_concat, lookup_replace]
    change _ = Function.update (liveAfter h) id (some (rack.capacity k)) id'
    by_cases same : id' = id
    · subst same
      rw [if_pos rfl, Function.update_self]
      rfl
    · rw [if_neg same, Function.update_of_ne same]
      exact t.table id'
  · exact number.trans (congrArg _ t.next)

/-- A buffer that is given back is not found any more. -/
theorem Tells.freed (t : rack.Tells s h) (id : BufferId) :
    rack.Tells (b.perform (.freeBuffer id) s).2
    (h ++ [⟨.freeBuffer id, (b.perform (.freeBuffer id) s).1⟩]) := by
  have numbers := rack.freed id s
  refine ⟨?_, fun id' => ?_, throughout_concat.mpr ⟨t.numbered, trivial⟩⟩
  · rw [numbers, List.countP_append]
    exact t.next
  · rw [numbers, liveAfter_concat, lookup_filter_ne]
    change _ = Function.update (liveAfter h) id none id'
    by_cases same : id' = id
    · subst same
      rw [if_pos rfl, Function.update_self]
      rfl
    · rw [if_neg same, Function.update_of_ne same]
      exact t.table id'

theorem Tells.perform (t : rack.Tells s h) (c : Call) :
    rack.Tells (b.perform c s).2 (h ++ [⟨c, (b.perform c s).1⟩]) := by
  cases c with
  | createBuffer n =>
    cases hr : (b.perform (.createBuffer n) s).1 with
    | error e => exact t.aside (rack.refused n s e hr) rfl (fun _ => rfl) trivial
    | ok id => exact t.made hr
  | freeBuffer id => exact t.freed id
  | issue command => exact t.aside (rack.issued command s) rfl (fun _ => rfl) trivial

/-- **At the end of a run a rack is as the history of the run tells.** -/
theorem Tells.run (t : rack.Tells s h) (m : Script α) :
    rack.Tells (m.run b s).2 (h ++ m.heard b s) := by
  induction m generalizing s h with
  | done a =>
    rw [Script.heard, List.append_nil]
    exact t
  | call c k ih =>
    rw [Script.heard, List.append_cons]
    exact ih _ (t.perform c)
  | note n k ih =>
    have same := rack.noticed n s
    exact ih (s := b.notice n s) ⟨same ▸ t.next, same ▸ t.table, t.numbered⟩

/-- What a rack makes of numbers that start over: new buffers take the places of live ones only when
their numbers have come round. -/
structure ComesRound (rack : Rack b κ) (s : ρ) (m : Script α) : Prop where
  /-- The table holds the live buffers. -/
  table : ∀ id, ((rack.numbers (m.run b s).2).entries.lookup id).map rack.capacity =
    liveAfter (m.heard b s) id
  /-- The number of a live buffer is handed out exactly if this buffer was made 2³² buffers ago. -/
  again : ∀ n id, (b.perform (.createBuffer n) (m.run b s).2).1 = .ok id →
    ∀ capacity, liveAfter (m.heard b s) id = some capacity ↔ MadeRoundAgo (m.heard b s) id capacity
  /-- Otherwise a new buffer is added, and all that are in the table stay there. -/
  added : ∀ n id, (b.perform (.createBuffer n) (m.run b s).2).1 = .ok id →
    (∀ capacity, ¬ MadeRoundAgo (m.heard b s) id capacity) → ∃ k, rack.capacity k = n ∧
      (rack.numbers (b.perform (.createBuffer n) (m.run b s).2).2).entries =
        (id, k) :: (rack.numbers (m.run b s).2).entries
  /-- So the first 2³² buffers are new ones. -/
  fresh : (m.heard b s).countP Exchange.lends ≤ 2 ^ 32 → Fresh (m.heard b s)

/-- **An empty rack takes in buffers under numbers that come round.** -/
theorem comesRound_of_empty (he : rack.numbers s = ⟨[], 0⟩) (m : Script α) :
    rack.ComesRound s m := by
  have t : rack.Tells (m.run b s).2 (m.heard b s) := (tells_of_empty he).run m
  have again : ∀ n id, (b.perform (.createBuffer n) (m.run b s).2).1 = .ok id →
      ∀ capacity, liveAfter (m.heard b s) id = some capacity ↔
      MadeRoundAgo (m.heard b s) id capacity :=
    fun n id hr capacity => liveAfter_eq_some_iff_madeRoundAgo (t.made hr).numbered
  refine ⟨t.table, again, fun n id hr due => ?_, fresh_of_numbersOn t.numbered⟩
  have unused : (rack.numbers (m.run b s).2).entries.lookup id = none := by
    refine Option.map_eq_none_iff.mp ((t.table id).trans ?_)
    exact Option.eq_none_iff_forall_ne_some.mpr fun capacity live =>
      due capacity ((again n id hr capacity).mp live)
  obtain ⟨-, k, hk, numbers⟩ := rack.made n _ id hr
  refine ⟨k, hk, ?_⟩
  rw [numbers, filter_eq_self_of_lookup unused]

end Rack

/-! ## Long runs -/

/-- One buffer after the other is made and given back. -/
def borrow : Nat → Script Unit
  | 0 => .done ()
  | n + 1 => .call (.createBuffer 1) fun
    | .ok id => .call (.freeBuffer id) fun _ => borrow n
    | .error _ => .done ()

/-- A buffer is kept while others come and go, and then there is one more. -/
def keepAndBorrow (n : Nat) : Script Unit :=
  .call (.createBuffer 1) fun _ => borrow n >>= fun _ => .call (.createBuffer 1) fun _ => .done ()

/-- From some states on buffers are never refused. -/
structure Grants {ρ : Type} (b : Backend ρ) (law : ρ → Prop) : Prop where
  /-- A buffer is made. -/
  made : ∀ n s, law s → (∃ id, (b.perform (.createBuffer n) s).1 = .ok id) ∧
    law (b.perform (.createBuffer n) s).2
  /-- The next one will be as well. -/
  freed : ∀ id s, law s → law (b.perform (.freeBuffer id) s).2

section Grants

variable {ρ κ : Type} {b : Backend ρ} {law : ρ → Prop} {rack : Rack b κ} {s : ρ}

/-- Who borrows gives back what was borrowed, and nothing else. -/
theorem Rack.heard_borrow (rack : Rack b κ) (grants : Grants b law) (hs : law s) (n : Nat) :
    ((borrow n).heard b s).countP Exchange.lends = n ∧ law ((borrow n).run b s).2 ∧
      ∀ e ∈ (borrow n).heard b s, ∀ id, e.givesBack id = true →
      ∃ j < n, id = ⟨(rack.numbers s).next + .ofNat j⟩ := by
  induction n generalizing s with
  | zero => exact ⟨rfl, hs, List.forall_mem_nil _⟩
  | succ n ih =>
    obtain ⟨⟨id, hr⟩, hs₁⟩ := grants.made 1 s hs
    obtain ⟨number, k, -, numbers⟩ := rack.made 1 s id hr
    obtain ⟨count, hs', back⟩ := ih (grants.freed id _ hs₁)
    have next :
        (rack.numbers (b.perform (.freeBuffer id) (b.perform (.createBuffer 1) s).2).2).next =
        (rack.numbers s).next + 1 := by
      rw [rack.freed, numbers]
    rw [borrow, Script.heard, Script.run, hr]
    -- each round is a buffer made and given back; the numbers go up by one
    refine ⟨?_, hs', fun e he id' returned => ?_⟩
    · change List.countP Exchange.lends (_ :: _ :: _) = _
      rw [List.countP_cons_of_pos rfl, List.countP_cons_of_neg Bool.false_ne_true, count]
    rcases List.mem_cons.mp he with rfl | he
    · cases returned
    rcases List.mem_cons.mp he with rfl | he
    · obtain rfl : id = id' := of_decide_eq_true returned
      exact ⟨0, Nat.succ_pos n, number.trans (congrArg _ (UInt32.add_zero _).symm)⟩
    · obtain ⟨j, hj, rfl⟩ := back e he id' returned
      refine ⟨j + 1, Nat.succ_lt_succ hj, ?_⟩
      rw [next, UInt32.ofNat_add, UInt32.add_assoc, UInt32.add_comm 1]
      rfl

/-- **A buffer that is kept for long enough loses its place to one of the same number.** -/
theorem Rack.not_fresh_keepAndBorrow (empty : rack.numbers s = ⟨[], 0⟩) (grants : Grants b law)
    (hs : law s) {n : Nat} (hn : n + 1 = 2 ^ 32) : ¬ Fresh ((keepAndBorrow n).heard b s) := by
  intro fresh
  have counted := ((tells_of_empty empty).run (keepAndBorrow n)).numbered
  obtain ⟨⟨kept, hkept⟩, hs₁⟩ := grants.made 1 s hs
  obtain ⟨number, k, -, numbers⟩ := rack.made 1 s kept hkept
  obtain ⟨count, hs₂, back⟩ := rack.heard_borrow grants hs₁ n
  obtain ⟨⟨last, hlast⟩, -⟩ := grants.made 1 _ hs₂
  let others := (borrow n).heard b (b.perform (.createBuffer 1) s).2
  have history : (keepAndBorrow n).heard b s =
      [] ++ ⟨.createBuffer 1, .ok kept⟩ :: (others ++ ⟨.createBuffer 1, .ok last⟩ :: []) := by
    rw [keepAndBorrow, Script.heard, Script.heard_bind, Script.heard, Script.heard, hkept, hlast]
    rfl
  rw [List.nil_append, history] at counted
  rw [history] at fresh
  have round : others.countP Exchange.lends + 1 = 2 ^ 32 := by rw [count, hn]
  -- the last buffer has the number of the first one, which is zero
  have again : (Exchange.mk (.createBuffer 1) (.ok last)).handsOut kept = true :=
    (handsOut_again_iff counted).mpr ⟨rfl, 1, round.trans (Nat.mul_one _).symm⟩
  obtain rfl : last = kept := of_decide_eq_true again
  have zero : last = ⟨0⟩ := by rw [number, empty]
  have one : (rack.numbers (b.perform (.createBuffer 1) s).2).next = 1 := by
    rw [numbers, empty]
    rfl
  have live : liveAfter (⟨.createBuffer 1, .ok last⟩ :: others) last = some 1 := by
    refine (liveAfter_eq_some_iff_madeRoundAgo counted).mpr ⟨[], others, rfl, fun e he => ?_, round⟩
    refine Bool.eq_false_iff.mpr fun returned => ?_
    obtain ⟨j, hj, same⟩ := back e he last returned
    rw [one, zero, BufferId.mk.injEq, ← UInt32.toNat_inj, UInt32.toNat_add, UInt32.toNat_zero,
      UInt32.toNat_one, UInt32.toNat_ofNat'] at same
    omega
  have new : liveAfter (⟨.createBuffer 1, .ok last⟩ :: others) last = none :=
    fresh (⟨.createBuffer 1, .ok last⟩ :: others) ⟨.createBuffer 1, .ok last⟩ [] rfl
  rw [live] at new
  cases new

end Grants

/-! ## Adapters -/

namespace Gl

/-- The instance buffers of an adapter. -/
def Adapter.numbers (a : Adapter) : Numbers InstanceBuffer := ⟨a.buffers, a.nextBuffer⟩

namespace Session

/-- The instance buffers of an adapter on a context. -/
def rack : Rack backend InstanceBuffer where
  numbers s := s.adapter.numbers
  capacity := InstanceBuffer.capacity
  made n s id hr := by
    obtain ⟨-, y, -, ⟨e, -, he, -⟩ | ⟨buffer, -, ho, ha, -⟩⟩ :=
      Adapter.leads_createBuffer (s.leads_createBuffer n)
    · exact nomatch he.symm.trans hr
    · obtain rfl := Except.ok.inj (ho.symm.trans hr)
      exact ⟨rfl, ⟨buffer, n⟩, rfl, congrArg Adapter.numbers ha⟩
  refused n s e hr := by
    obtain ⟨-, y, -, ⟨e, -, -, hs⟩ | ⟨buffer, -, ho, -⟩⟩ :=
      Adapter.leads_createBuffer (s.leads_createBuffer n)
    · exact congrArg (Adapter.numbers ·.adapter) hs
    · exact nomatch ho.symm.trans hr
  freed id s := by
    obtain ⟨r, h⟩ := s.leads_freeBuffer id
    rcases Adapter.leads_freeBuffer h with ⟨unknown, ha, -⟩ | ⟨b, -, ha, -⟩
    · refine (congrArg Adapter.numbers ha).trans ?_
      rw [Adapter.numbers, filter_eq_self_of_lookup unknown]
    · exact congrArg Adapter.numbers ha
  issued c s := Adapter.keep_execute Adapter.numbers (fun _ _ => rfl) (fun _ _ _ _ _ => rfl)
    (fun _ _ _ => rfl) (fun _ _ => rfl) (s.leads_issue c)
  noticed n s := by cases n <;> rfl

/-- A rack is empty at the start. -/
theorem numbers_start {interface : Interface} {size : SurfaceSize} {host : Host} {s : Session}
    (h : Session.start interface size { host := host } = .ok s) : rack.numbers s = ⟨[], 0⟩ := by
  obtain ⟨-, -, next, buffers⟩ := holds_start h
  exact congrArg₂ Numbers.mk buffers next

/-- A host that refuses nothing makes all buffers. -/
theorem grants : Grants backend fun s => s.context.host.Flawless where
  made n s flawless := by
    obtain ⟨made, y, hm, outcome⟩ := Adapter.leads_createBuffer (s.leads_createBuffer n)
    obtain ⟨⟨buffer, rfl⟩, hy⟩ := ContextM.succeeds_create _ _ _ flawless hm
    rcases outcome with ⟨e, he, -⟩ | ⟨buffer', -, ho, -, gave⟩
    · cases he
    · exact ⟨⟨_, ho⟩, (gave.host.trans hy) ▸ flawless⟩
  freed id s flawless := by
    obtain ⟨r, h⟩ := s.leads_freeBuffer id
    exact (obeys_freeBuffer h).host ▸ flawless

end Session

end Gl

namespace Wgpu

/-- The instance buffers of an adapter. -/
def Adapter.numbers (a : Adapter) : Numbers InstanceBuffer := ⟨a.buffers, a.nextBuffer⟩

namespace Session

open AdapterM

variable {s s' : Session}

/-- A buffer is there under the next number. -/
theorem adapter_createBuffer {n : Nat} {r : Except RenderError BufferId}
    (h : (Adapter.createBuffer n).Leads s r s') :
    r = .ok ⟨s.adapter.nextBuffer⟩ ∧ ∃ buffer, s'.adapter = { s.adapter with
      nextBuffer := s.adapter.nextBuffer + 1
      buffers := (⟨s.adapter.nextBuffer⟩, ⟨buffer, n⟩) ::
        s.adapter.buffers.filter (·.1 != ⟨s.adapter.nextBuffer⟩) } := by
  obtain ⟨buffer, t, ht, -, h⟩ := leads_make_bind h
  obtain ⟨u, hu, -, h⟩ := leads_giveAll_bind (leads_set_bind (leads_get_bind h))
  obtain ⟨rfl, rfl⟩ := leads_pure h
  rw [hu, ht]
  exact ⟨rfl, buffer, rfl⟩

/-- The instance buffers of an adapter on a device. -/
def rack : Rack backend InstanceBuffer where
  numbers s := s.adapter.numbers
  capacity := InstanceBuffer.capacity
  made n s id hr := by
    obtain ⟨ho, buffer, ha⟩ := adapter_createBuffer (s.leads_createBuffer n)
    obtain rfl := Except.ok.inj (ho.symm.trans hr)
    exact ⟨rfl, ⟨buffer, n⟩, rfl, congrArg Adapter.numbers ha⟩
  refused n s e hr := nomatch (adapter_createBuffer (s.leads_createBuffer n)).1.symm.trans hr
  freed id s := by
    obtain ⟨r, h⟩ := s.leads_freeBuffer id
    replace h := leads_get_bind h
    cases hb : s.adapter.buffers.lookup id with
    | none =>
      rw [hb] at h
      obtain ⟨-, ha, -⟩ := leads_say h
      refine (congrArg Adapter.numbers ha).trans ?_
      rw [Adapter.numbers, filter_eq_self_of_lookup hb]
    | some b =>
      rw [hb] at h
      obtain ⟨-, ha, -⟩ := leads_giveAll (leads_set_bind h)
      exact congrArg Adapter.numbers ha
  issued c s := by
    have confined : (Adapter.execute c).Confined Concern.all Adapter.numbers s.adapter.numbers :=
      Adapter.confined_execute (fun _ _ => rfl) (fun _ _ _ _ _ => rfl) (fun _ _ => rfl)
        (fun _ _ => rfl) (fun _ _ => rfl) (fun _ _ => rfl) (fun _ _ => rfl) fun _ _ => rfl
    exact (confined _ _ _ rfl (s.leads_issue c)).1
  noticed n s := by cases n <;> rfl

/-- A rack is empty at the start. -/
theorem numbers_start {size : SurfaceSize} {o : DeviceOptions} {window : WindowId}
    {p : Platform} {s : Session} (h : Session.start size o window p = .ok s) :
    rack.numbers s = ⟨[], 0⟩ := by
  obtain ⟨-, -, tables⟩ := of_start h
  exact congrArg₂ Numbers.mk (List.map_eq_nil_iff.mp (congrArg Tables.buffers tables))
    (congrArg Tables.next tables)

/-- Devices make all buffers. -/
theorem grants : Grants backend fun _ => True where
  made n s _ := ⟨⟨_, (adapter_createBuffer (s.leads_createBuffer n)).1⟩, trivial⟩
  freed _ _ _ := trivial

end Session

end Wgpu

/-- **On both adapters the number of a live buffer is handed out exactly when it has come round**,
and until then no buffer takes the place of another one. -/
theorem buffer_numbers_come_round {α : Type} {interface : Interface}
    {glSize size : SurfaceSize} {host : Gl.Host} {g : Gl.Session} {o : DeviceOptions}
    {window : WindowId} {p : Platform} {w : Wgpu.Session}
    (hg : Gl.Session.start interface glSize { host := host } = .ok g)
    (hw : Wgpu.Session.start size o window p = .ok w) (m : Script α) :
    Gl.Session.rack.ComesRound g m ∧ Wgpu.Session.rack.ComesRound w m :=
  ⟨Rack.comesRound_of_empty (Gl.Session.numbers_start hg) m,
    Rack.comesRound_of_empty (Wgpu.Session.numbers_start hw) m⟩

/-- Both adapters can be started. -/
theorem exists_starts :
    ∃ g w, Gl.Session.start .gles3 ⟨4, 4⟩ { host := {} } = .ok g ∧
    Wgpu.Session.start ⟨4, 4⟩ {} default {} = .ok w := by
  have gl : ((Gl.Session.start .gles3 ⟨4, 4⟩ { host := {} }).toOption.any fun _ => true) =
    true := by decide +kernel
  have wgpu : ((Wgpu.Session.start ⟨4, 4⟩ {} default {}).toOption.any fun _ => true) = true := by
    decide +kernel
  obtain ⟨g, hg, -⟩ := exists_ok_of_any gl
  obtain ⟨w, hw, -⟩ := exists_ok_of_any wgpu
  exact ⟨g, w, hg, hw⟩

/-- Two buffers, the first of which is given back. -/
def twoBuffers : Script Unit :=
  .call (.createBuffer 2) fun _ => .call (.createBuffer 3) fun _ =>
    .call (.freeBuffer ⟨0⟩) fun _ => .done ()

/-- Far from 2³² buffers the numbers are all different ones, as the exact criterion tells. -/
theorem buffer_numbers_come_round_twoBuffers :
    ∃ g w, Gl.Session.start .gles3 ⟨4, 4⟩ { host := {} } = .ok g ∧
    Wgpu.Session.start ⟨4, 4⟩ {} default {} = .ok w ∧
      Gl.Session.rack.ComesRound g twoBuffers ∧ Wgpu.Session.rack.ComesRound w twoBuffers ∧
      Fresh (twoBuffers.heard Gl.Session.backend g) ∧
      Fresh (twoBuffers.heard Wgpu.Session.backend w) := by
  obtain ⟨g, w, hg, hw⟩ := exists_starts
  obtain ⟨onContext, onDevice⟩ := buffer_numbers_come_round hg hw twoBuffers
  refine ⟨g, w, hg, hw, onContext, onDevice, onContext.fresh ?_, onDevice.fresh ?_⟩
  · exact List.countP_le_length.trans (by change 3 ≤ _; decide)
  · exact List.countP_le_length.trans (by change 3 ≤ _; decide)

/-- A buffer that is kept while 2³² − 1 others come and go has its number handed out again. -/
theorem kept_buffer_number_handed_out_again :
    ∃ g w, Gl.Session.start .gles3 ⟨4, 4⟩ { host := {} } = .ok g ∧
    Wgpu.Session.start ⟨4, 4⟩ {} default {} = .ok w ∧
      ¬ Fresh ((keepAndBorrow (2 ^ 32 - 1)).heard Gl.Session.backend g) ∧
      ¬ Fresh ((keepAndBorrow (2 ^ 32 - 1)).heard Wgpu.Session.backend w) := by
  obtain ⟨g, w, hg, hw⟩ := exists_starts
  obtain ⟨-, later, -⟩ := Gl.Session.holds_start hg
  have flawless : g.context.host.Flawless :=
    later.host ▸ ⟨fun _ _ => rfl, fun _ => rfl, fun _ => rfl, fun _ => rfl⟩
  refine ⟨g, w, hg, hw, ?_, ?_⟩
  · exact Rack.not_fresh_keepAndBorrow (Gl.Session.numbers_start hg) Gl.Session.grants flawless rfl
  · exact Rack.not_fresh_keepAndBorrow (Wgpu.Session.numbers_start hw)
      Wgpu.Session.grants trivial rfl

end LitTiles
