import LitTiles.Proofs.Backend.History
import Mathlib.Data.List.Induction
import Mathlib.Data.List.TakeWhile
import Mathlib.Logic.Function.Basic

/-!
# What a history tells of instance buffers

Three things can be read off a history, call by call.

* `liveAfter`: which buffers were handed out and not given back since, and for how many instances
  each was made.
* `contentsAfter`: what each buffer holds, and which layer of a scene it was written for last. For
  this the history has to tell for which layer a call was made, so it is a list of `Entry`s.
* `lastWrite`: the last write that succeeded for a layer.

A write that is refused leaves a buffer as it was. `Throughout` says that a law holds at every place
of a history, given what came before.
-/

namespace LitTiles

/-! ## Laws -/

/-- A law holds at every place of a history. -/
def Throughout {ε : Type} (law : List ε → ε → Prop) (h : List ε) : Prop :=
  ∀ before e after, h = before ++ e :: after → law before e

section Throughout

variable {ε : Type} {law law' : List ε → ε → Prop} {h h' : List ε} {e : ε}

theorem throughout_nil : Throughout law [] := by
  intro before e after he
  simp at he

/-- A law holds throughout a longer history if it did before and holds of the last entry, judged by
what was before it. -/
theorem throughout_concat : Throughout law (h ++ [e]) ↔ Throughout law h ∧ law h e := by
  constructor
  · intro ht
    refine ⟨fun before e' after he => ?_, ht h e [] rfl⟩
    exact ht before e' (after ++ [e]) (by simp [he])
  · rintro ⟨ht, hl⟩ before e' after he
    rcases List.eq_nil_or_concat after with rfl | ⟨after, e'', rfl⟩
    · obtain ⟨rfl, hs⟩ := List.append_inj' he rfl
      obtain rfl := (List.cons.inj hs).1
      exact hl
    · rw [List.concat_eq_append, ← List.cons_append, ← List.append_assoc] at he
      exact ht before e' after (List.append_inj' he rfl).1

/-- What holds throughout a history holds throughout its beginnings. -/
theorem Throughout.of_append (ht : Throughout law (h ++ h')) : Throughout law h :=
  fun before e after he => ht before e (after ++ h') (by simp [he])

/-- It is enough to look at each place by its number. -/
theorem throughout_iff_get : Throughout law h ↔ ∀ i : Fin h.length, law (h.take i) (h.get i) := by
  constructor
  · intro ht i
    refine ht (h.take i) (h.get i) (h.drop (i + 1)) ?_
    rw [List.get_eq_getElem, ← List.drop_eq_getElem_cons i.isLt, List.take_append_drop]
  · rintro hi before e after rfl
    have := hi ⟨before.length, by simp⟩
    simpa using this

instance [∀ before e, Decidable (law before e)] : Decidable (Throughout law h) :=
  decidable_of_iff _ throughout_iff_get.symm

end Throughout

/-! ## Live buffers -/

/-- The live buffers after a call. -/
def Exchange.settle (live : BufferId → Option Nat) : Exchange → BufferId → Option Nat
  | ⟨.createBuffer capacity, .ok b⟩ => Function.update live b (some capacity)
  | ⟨.freeBuffer b, _⟩ => Function.update live b none
  | _ => live

/-- The live buffers after a history, with the number of instances each was made for. -/
def liveAfter (h : List Exchange) : BufferId → Option Nat := h.foldl Exchange.settle fun _ => none

/-- One exchange more, settled on the buffers that were live before it. -/
@[simp] theorem liveAfter_concat (h : List Exchange) (e : Exchange) :
    liveAfter (h ++ [e]) = e.settle (liveAfter h) := by
  simp [liveAfter]

/-- A buffer that is handed out is not one that is live. -/
def HandsOutNew (before : List Exchange) : Exchange → Prop
  | ⟨.createBuffer _, .ok b⟩ => liveAfter before b = none
  | _ => True

instance (before : List Exchange) : (e : Exchange) → Decidable (HandsOutNew before e)
  | ⟨.createBuffer _, .ok b⟩ => inferInstanceAs (Decidable (liveAfter before b = none))
  | ⟨.createBuffer _, .error _⟩ => isTrue trivial
  | ⟨.freeBuffer _, _⟩ => isTrue trivial
  | ⟨.issue _, _⟩ => isTrue trivial

/-- Buffers that are written to, drawn from or given back are live, and a write fits. -/
def UsesLive (before : List Exchange) : Exchange → Prop
  | ⟨.freeBuffer b, _⟩ => (liveAfter before b).isSome
  | ⟨.issue (.writeInstances b instances), _⟩ =>
    ∃ capacity, liveAfter before b = some capacity ∧ instances.length ≤ capacity
  | ⟨.issue (.drawSprites _ _ b _), _⟩ => (liveAfter before b).isSome
  | _ => True

/-- The backend hands out new buffers only. -/
def Fresh (h : List Exchange) : Prop := Throughout HandsOutNew h

instance (h : List Exchange) : Decidable (Fresh h) :=
  inferInstanceAs (Decidable (Throughout HandsOutNew h))

/-- A backend that refuses nothing, and numbers its buffers from zero. -/
def numbering : Backend Nat where
  perform
    | .createBuffer _, n => (.ok ⟨.ofNat n⟩, n + 1)
    | .freeBuffer _, n => ((), n)
    | .issue _, n => (.ok (), n)
  notice _ n := n

/-- Calls that have nothing to do with instance buffers. -/
def Call.IsIdle : Call → Prop
  | .issue (.writeInstances _ _) | .issue (.drawSprites _ _ _ _) => False
  | .issue _ => True
  | _ => False

/-- Calls that have to do with neither instance buffers nor the offscreen targets as such. -/
def Call.IsPlain : Call → Prop
  | .issue (.configureTargets _ _) => False
  | c => c.IsIdle

theorem Call.IsPlain.isIdle {c : Call} (hc : c.IsPlain) : c.IsIdle := by
  cases c with
  | createBuffer capacity => exact hc
  | freeBuffer b => exact hc
  | issue c =>
    cases c with
    | configureTargets surface targets => exact hc.elim
    | _ => exact hc

/-- The call makes the offscreen targets anew. -/
def Call.Configures : Call → Prop
  | .issue (.configureTargets _ _) => True
  | _ => False

theorem Call.IsPlain.not_configures {c : Call} (hc : c.IsPlain) : ¬ c.Configures := by
  cases c with
  | issue c =>
    cases c with
    | configureTargets surface targets => exact hc.elim
    | _ => exact id
  | _ => exact id

/-! ## Leases -/

namespace Exchange

/-- The call hands out a buffer. -/
def handsOut (b : BufferId) : Exchange → Bool
  | ⟨.createBuffer _, .ok b'⟩ => decide (b' = b)
  | _ => false

/-- The call gives a buffer back. -/
def givesBack (b : BufferId) : Exchange → Bool
  | ⟨.freeBuffer b', _⟩ => decide (b' = b)
  | _ => false

/-- A buffer that is not handed out is live after a call if it was live before and is not given
back. -/
theorem settle_apply {b : BufferId} {e : Exchange} (hb : e.handsOut b = false)
    (live : BufferId → Option Nat) : e.settle live b = if e.givesBack b then none else live b := by
  obtain ⟨c, a⟩ := e
  cases c with
  | createBuffer capacity =>
    cases a with
    | error e => rfl
    | ok b' =>
      have hne : b ≠ b' := fun he => of_decide_eq_false hb he.symm
      exact Function.update_of_ne hne _ _
  | freeBuffer b' =>
    by_cases hbb : b' = b
    · subst hbb
      simp [settle, givesBack]
    · have hne : b ≠ b' := fun he => hbb he.symm
      simp [settle, givesBack, hbb, Function.update_of_ne hne]
  | issue c => rfl

/-- A buffer is handed out by a request that was granted, and by nothing else. -/
theorem eq_of_handsOut {b : BufferId} {e : Exchange} (hb : e.handsOut b = true) :
    ∃ capacity, e = ⟨.createBuffer capacity, .ok b⟩ := by
  obtain ⟨c, a⟩ := e
  cases c with
  | freeBuffer b' => cases hb
  | issue c => cases hb
  | createBuffer capacity =>
    cases a with
    | error e => cases hb
    | ok b' =>
      obtain rfl := of_decide_eq_true hb
      exact ⟨capacity, rfl⟩

/-- What is handed out anew was not live. -/
theorem eq_none_of_handsOut {b : BufferId} {e : Exchange} {before : List Exchange}
    (hf : HandsOutNew before e) (hb : e.handsOut b = true) : liveAfter before b = none := by
  obtain ⟨capacity, rfl⟩ := eq_of_handsOut hb
  exact hf

/-- What is given back has to be live. -/
theorem isSome_of_givesBack {b : BufferId} {e : Exchange} {before : List Exchange}
    (hu : UsesLive before e) (hg : e.givesBack b = true) : (liveAfter before b).isSome := by
  obtain ⟨c, a⟩ := e
  cases c with
  | createBuffer capacity => cases a <;> cases hg
  | issue c => cases hg
  | freeBuffer b' =>
    obtain rfl := of_decide_eq_true hg
    exact hu

end Exchange

/-- The buffer is not handed out while it is live. All that is said of one buffer in what follows
needs this of no other one. -/
def FreshFor (b : BufferId) (h : List Exchange) : Prop :=
  Throughout (fun before e => e.handsOut b = true → liveAfter before b = none) h

instance (b : BufferId) (h : List Exchange) : Decidable (FreshFor b h) :=
  inferInstanceAs (Decidable (Throughout _ h))

/-- If a backend hands out new buffers only, it hands out none of them while it is live. -/
theorem Fresh.freshFor {h : List Exchange} (hf : Fresh h) (b : BufferId) : FreshFor b h :=
  fun before e after he hb => Exchange.eq_none_of_handsOut (hf before e after he) hb

/-- A buffer is live if it was handed out, and since then it was neither handed out again nor given
back. -/
theorem liveAfter_eq_some_iff {h : List Exchange} {b : BufferId} {capacity : Nat} :
    liveAfter h b = some capacity ↔
      ∃ before after, h = before ++ ⟨.createBuffer capacity, .ok b⟩ :: after ∧
        ∀ e ∈ after, e.handsOut b = false ∧ e.givesBack b = false := by
  constructor
  · intro hl
    induction h using List.reverseRecOn with
    | nil => cases hl
    | append_singleton h e ih =>
      rw [liveAfter_concat] at hl
      -- the last exchange hands the buffer out, takes it back, or leaves it
      by_cases hb : e.handsOut b = true
      · obtain ⟨c, he⟩ := Exchange.eq_of_handsOut hb
        subst he
        have hc : c = capacity := by simpa [Exchange.settle] using hl
        exact ⟨h, [], by rw [hc], fun e he => absurd he List.not_mem_nil⟩
      · have hb := Bool.not_eq_true _ ▸ hb
        rw [Exchange.settle_apply hb] at hl
        by_cases hg : e.givesBack b = true
        · rw [if_pos hg] at hl
          cases hl
        · rw [if_neg hg] at hl
          obtain ⟨before, after, rfl, hafter⟩ := ih hl
          refine ⟨before, after ++ [e], by simp, fun e' he' => ?_⟩
          rcases List.mem_append.mp he' with he' | he'
          · exact hafter e' he'
          · obtain rfl := List.mem_singleton.mp he'
            exact ⟨hb, Bool.not_eq_true _ ▸ hg⟩
  · rintro ⟨before, after, rfl, hafter⟩
    induction after using List.reverseRecOn with
    | nil =>
      rw [liveAfter_concat]
      exact Function.update_self ..
    | append_singleton after e ih =>
      obtain ⟨hb, hg⟩ := hafter e (List.mem_append_right after List.mem_cons_self)
      have ih := ih fun e' he' => hafter e' (List.mem_append_left _ he')
      rw [← List.cons_append, ← List.append_assoc, liveAfter_concat, Exchange.settle_apply hb, hg]
      exact ih

/-- Before a buffer is handed out again, if it ever is, it is given back exactly once. -/
def GivenBackOnce (b : BufferId) (after : List Exchange) : Prop :=
  (after.takeWhile fun e => !e.handsOut b).countP (·.givesBack b) = 1

/-- While a buffer is not handed out again it is live until it is given back, and then it is not
given back any more. -/
theorem lease {b : BufferId} {before after : List Exchange}
    (hb : (liveAfter before b).isSome) (hn : ∀ e ∈ after, e.handsOut b = false)
    (hu : Throughout UsesLive (before ++ after)) :
    ((liveAfter (before ++ after) b).isSome ∧ after.countP (·.givesBack b) = 0) ∨
    (liveAfter (before ++ after) b = none ∧ after.countP (·.givesBack b) = 1) := by
  induction after using List.reverseRecOn with
  | nil =>
    rw [List.append_nil]
    exact .inl ⟨hb, rfl⟩
  | append_singleton after e ih =>
    rw [← List.append_assoc, throughout_concat] at hu
    have hne := hn e (List.mem_append_right after List.mem_cons_self)
    have ih := ih (fun e' he' => hn e' (List.mem_append_left _ he')) hu.1
    rw [← List.append_assoc, liveAfter_concat, Exchange.settle_apply hne, List.countP_append,
      List.countP_singleton]
    cases hg : e.givesBack b with
    | false => simpa using ih
    | true =>
      -- it is given back now, so it was live until now
      have hlive := Exchange.isSome_of_givesBack hu.2 hg
      rcases ih with ⟨-, hc⟩ | ⟨hnone, -⟩
      · right
        simp [hc]
      · rw [hnone] at hlive
        cases hlive

/-- If all uses are lawful and no buffer is left in the end, every buffer that was handed out was
given back exactly once. -/
theorem givenBackOnce {h before after : List Exchange} {capacity : Nat} {b : BufferId}
    (hf : Fresh h) (hu : Throughout UsesLive h) (hend : ∀ b, liveAfter h b = none)
    (he : h = before ++ ⟨.createBuffer capacity, .ok b⟩ :: after) : GivenBackOnce b after := by
  let lent := after.takeWhile fun e => !e.handsOut b
  let rest := after.dropWhile fun e => !e.handsOut b
  have split : h = (before ++ [⟨.createBuffer capacity, .ok b⟩] ++ lent) ++ rest := by
    rw [List.append_assoc, List.takeWhile_append_dropWhile, he, List.append_assoc]
    rfl
  have hstart : (liveAfter (before ++ [⟨.createBuffer capacity, .ok b⟩]) b).isSome := by
    rw [liveAfter_concat]
    simp [Exchange.settle]
  have hn : ∀ e ∈ lent, e.handsOut b = false := fun e hm => by
    simpa using List.mem_takeWhile_imp hm
  have hlease := lease hstart hn (split ▸ hu).of_append
  -- at the end of the lease the buffer is not live: it is about to be handed out, or it is the end
  have hover : liveAfter (before ++ [⟨.createBuffer capacity, .ok b⟩] ++ lent) b = none := by
    cases hr : rest with
    | nil =>
      rw [hr, List.append_nil] at split
      rw [← split]
      exact hend b
    | cons e es =>
      have hout : e.handsOut b = true := by
        have hhead := List.head?_dropWhile_not (fun e : Exchange => !e.handsOut b) after
        have hrest : after.dropWhile (fun e => !e.handsOut b) = e :: es := hr
        rw [hrest] at hhead
        simpa using hhead
      exact Exchange.eq_none_of_handsOut (hf _ e es (hr ▸ split)) hout
  rcases hlease with ⟨hlive, -⟩ | ⟨-, hc⟩
  · rw [hover] at hlive
    cases hlive
  · exact hc

/-! ## Contents -/

/-- A call with its answer, and the layer it was made for if it was made for one. -/
structure Entry where
  /-- The layer of a scene that was brought in line with its mirror. -/
  source : Option Layer
  /-- The call and its answer. -/
  exchange : Exchange

/-- The entries of calls that were made for one layer, or for none. -/
def entries (source : Option Layer) (h : List Exchange) : List Entry := h.map (Entry.mk source)

@[simp] theorem entries_nil (source : Option Layer) : entries source [] = [] := rfl

@[simp] theorem entries_append (source : Option Layer) (h h' : List Exchange) :
    entries source (h ++ h') = entries source h ++ entries source h' := List.map_append

/-- The calls with their answers, without the layers. -/
def exchanges (h : List Entry) : List Exchange := h.map (·.exchange)

@[simp] theorem exchanges_append (h h' : List Entry) :
    exchanges (h ++ h') = exchanges h ++ exchanges h' := List.map_append

@[simp] theorem exchanges_singleton (e : Entry) : exchanges [e] = [e.exchange] := rfl

@[simp] theorem exchanges_entries (source : Option Layer) (h : List Exchange) :
    exchanges (entries source h) = h := by
  simp [exchanges, entries, Function.comp_def]

/-- What a buffer holds. -/
structure Contents where
  /-- The instances at the start of the buffer that were written to it. -/
  data : List SpriteInstance := []
  /-- The layer of the last write. -/
  source : Option Layer := none

namespace Contents

/-- The contents after a write. -/
def overwrite (c : Contents) (instances : List SpriteInstance) (source : Option Layer) : Contents :=
  ⟨instances ++ c.data.drop instances.length, source⟩

/-- The buffer starts with the instances of some sprites, in order. -/
def Shows (c : Contents) (sprites : List Sprite) : Prop :=
  c.data.take sprites.length = sprites.map .ofSprite

/-- After a write a buffer starts with the sprites that were written, whatever is left of older ones
behind them. -/
theorem shows_overwrite (c : Contents) (sprites : List Sprite) (source : Option Layer) :
    (c.overwrite (sprites.map .ofSprite) source).Shows sprites := by
  have h : sprites.length = (sprites.map SpriteInstance.ofSprite).length := by simp
  rw [Shows, overwrite, h, List.take_left]

end Contents

/-- The contents of buffers after a call. -/
def Entry.settle (held : BufferId → Contents) : Entry → BufferId → Contents
  | ⟨_, ⟨.createBuffer _, .ok b⟩⟩ => Function.update held b {}
  | ⟨source, ⟨.issue (.writeInstances b instances), .ok _⟩⟩ =>
    Function.update held b ((held b).overwrite instances source)
  | _ => held

/-- The contents of buffers after a history. -/
def contentsAfter (h : List Entry) : BufferId → Contents := h.foldl Entry.settle fun _ => {}

/-- One entry more, settled on the contents before it. -/
@[simp] theorem contentsAfter_concat (h : List Entry) (e : Entry) :
    contentsAfter (h ++ [e]) = e.settle (contentsAfter h) := by
  simp [contentsAfter]

/-- Draw calls tell of a buffer what it holds: they are those of the sprites of the layer that was
last written to it, as far as they fit, and the buffer starts with just these. -/
def Matches (before : List Entry) (b : BufferId) (calls : List DrawCall) : Prop :=
  ∃ capacity source, liveAfter (exchanges before) b = some capacity ∧
    (contentsAfter before b).source = some source ∧
    (contentsAfter before b).Shows (source.sprites.take capacity) ∧
    calls = DrawCall.ofSprites (source.sprites.take capacity)

/-- What is drawn from a buffer that was never handed out while it was live is what it holds. -/
def DrawsContents (before : List Entry) : Entry → Prop
  | ⟨_, ⟨.issue (.drawSprites _ _ b calls), _⟩⟩ =>
    FreshFor b (exchanges before) → Matches before b calls
  | _ => True

/-! ## Writes -/

/-- Whether an entry is a write for a layer that succeeded. -/
def Entry.writesFor (id : LayerId) (e : Entry) : Bool :=
  match e with
  | ⟨some source, ⟨.issue (.writeInstances _ _), .ok _⟩⟩ => source.id == id
  | _ => false

/-- The last write for a layer that succeeded. -/
def lastWrite (h : List Entry) (id : LayerId) : Option Entry := h.reverse.find? (·.writesFor id)

/-- The last write for a layer is this entry, if it is one; otherwise it is the one before. -/
theorem lastWrite_concat (h : List Entry) (e : Entry) (id : LayerId) :
    lastWrite (h ++ [e]) id = if e.writesFor id then some e else lastWrite h id := by
  simp only [lastWrite, List.reverse_append, List.reverse_singleton, List.singleton_append,
    List.find?_cons]
  cases e.writesFor id <;> rfl

/-- What was called before a write does not matter any more. -/
theorem lastWrite_append_of_mem {h es : List Entry} {id : LayerId}
    (hw : ∃ e ∈ es, e.writesFor id = true) :
    lastWrite (h ++ es) id = lastWrite es id := by
  obtain ⟨e, he, hwrites⟩ := hw
  have found : (es.reverse.find? (·.writesFor id)).isSome :=
    List.find?_isSome.mpr ⟨e, List.mem_reverse.mpr he, hwrites⟩
  rw [lastWrite, List.reverse_append, List.find?_append, Option.or_of_isSome found, lastWrite]

end LitTiles
