import LitTiles.Proofs.Batch.Runs
import Mathlib.Algebra.GroupWithZero.Nat
import Mathlib.Data.List.Chain

/-!
# Draw calls as a code

The draw calls of sprites are the run-length code of their textures. `Encodes` says what makes a
list of calls such a code, and there is no code but one (`Encodes.eq_runsFrom`). It is also the
shortest way to draw the sprites in order (`length_runsFrom_le`), and the one that a single pass
from the first sprite on arrives at (`foldl_extend`).

A list of textures is looked at run by run (`maximalRuns_induction`): a run goes into the first
call, and what is behind it into the others (`runsFrom_run`).
-/

namespace LitTiles

namespace DrawCall

variable {p q n : Nat} {t : String} {ts : List String} {c : DrawCall} {calls : List DrawCall}

/-! ## Runs of textures -/

/-- All that a list starts with of one texture. -/
theorem exists_run_append (t : String) (ts : List String) :
    ∃ n rest, ts = List.replicate n t ++ rest ∧ rest.head? ≠ some t := by
  induction ts with
  | nil => exact ⟨0, [], rfl, nofun⟩
  | cons s ts ih =>
    by_cases hs : s = t
    · subst hs
      obtain ⟨n, rest, rfl, hrest⟩ := ih
      exact ⟨n + 1, rest, rfl, hrest⟩
    · exact ⟨0, s :: ts, rfl, fun h => hs (Option.some.inj h)⟩

/-- What holds of all lists of textures: of a run with another texture behind it, or with none, if
it does of what is behind. -/
@[elab_as_elim]
theorem maximalRuns_induction {motive : List String → Prop} (ts : List String) (nil : motive [])
    (run : ∀ t n rest, rest.head? ≠ some t → motive rest →
      motive (List.replicate (n + 1) t ++ rest)) :
    motive ts := by
  -- what is behind a run is shorter
  induction hl : ts.length using Nat.strong_induction_on generalizing ts with
  | _ l ih =>
    subst hl
    cases ts with
    | nil => exact nil
    | cons t ts =>
      obtain ⟨n, rest, rfl, hrest⟩ := exists_run_append t ts
      refine run t n rest hrest (ih rest.length ?_ rest rfl)
      simp only [List.length_cons, List.length_append]
      omega

theorem head?_runsFrom (p : Nat) (ts : List String) :
    (runsFrom p ts).head?.map (·.texture) = ts.head? := by
  cases ts with
  | nil => rfl
  | cons t ts =>
    simp only [runsFrom]
    cases runsFrom (p + 1) ts with
    | nil => rfl
    | cons run rest =>
      simp only [prepend]
      split <;> rfl

/-- A texture in front of runs of another one starts a run. -/
theorem prepend_of_head?_ne (h : calls.head?.map (·.texture) ≠ some t) :
    prepend t p calls = Run.call ⟨t, p, 1⟩ :: calls := by
  cases calls with
  | nil => rfl
  | cons run rest =>
    have ht : run.texture ≠ t := fun ht => h (congrArg some ht)
    exact if_neg ht

/-- **The calls of a run** with another texture behind it, or with none. -/
theorem runsFrom_run (h : ts.head? ≠ some t) (p n : Nat) :
    runsFrom p (List.replicate (n + 1) t ++ ts) =
      Run.call ⟨t, p, n + 1⟩ :: runsFrom (p + (n + 1)) ts := by
  induction n generalizing p with
  | zero =>
    have other : (runsFrom (p + 1) ts).head?.map (·.texture) ≠ some t := by rwa [head?_runsFrom]
    exact prepend_of_head?_ne other
  | succ n ih =>
    have place : p + 1 + (n + 1) = p + (n + 1 + 1) := by omega
    rw [List.replicate_succ, List.cons_append, runsFrom, ih, prepend, texture_call, if_pos rfl,
      count_call_add_one t (p + 1) p, place]
    rfl

/-! ## The code -/

/-- The calls are the run-length code of some textures, from a place on. -/
structure Encodes (start : Nat) (calls : List DrawCall) (textures : List String) : Prop where
  /-- Each call stands for as many copies of its texture as it counts. -/
  expands : expand calls = textures
  /-- No call is empty. -/
  count_pos : ∀ c ∈ calls, 0 < c.count.toNat
  /-- Each call starts where those before it end. -/
  offset : ∀ before c after, calls = before ++ c :: after →
    c.offset.toNat = start + (before.map (·.count.toNat)).sum
  /-- The textures of neighbours are different. -/
  changes : calls.IsChain fun c c' => c.texture ≠ c'.texture

theorem encodes_nil (p : Nat) : Encodes p [] [] where
  expands := rfl
  count_pos := by simp
  offset := by simp
  changes := .nil

theorem expand_cons (c : DrawCall) (calls : List DrawCall) :
    expand (c :: calls) = List.replicate c.count.toNat c.texture ++ expand calls := rfl

/-- The first call has the first texture. -/
theorem Encodes.head?_eq (h : Encodes p calls ts) : calls.head?.map (·.texture) = ts.head? := by
  obtain ⟨rfl, hpos, -, -⟩ := h
  cases calls with
  | nil => rfl
  | cons c calls =>
    obtain ⟨n, hn⟩ := Nat.exists_eq_add_one_of_ne_zero (hpos c List.mem_cons_self).ne'
    rw [expand_cons, hn]
    rfl

/-- A code is a run, and the code of what is behind it. -/
theorem encodes_cons : Encodes p (c :: calls) ts ↔
    ∃ n rest, ts = List.replicate (n + 1) c.texture ++ rest ∧ c.offset.toNat = p ∧
    c.count.toNat = n + 1 ∧
      rest.head? ≠ some c.texture ∧ Encodes (p + (n + 1)) calls rest := by
  constructor
  · rintro ⟨rfl, hpos, hoffset, hchanges⟩
    -- the first call stands for one sprite or more, and what is behind it encodes the rest
    obtain ⟨n, hn⟩ := Nat.exists_eq_add_one_of_ne_zero (hpos c List.mem_cons_self).ne'
    have rest : Encodes (p + (n + 1)) calls (expand calls) := by
      refine ⟨rfl, fun c' hc' => hpos c' (List.mem_cons_of_mem c hc'), ?_, hchanges.tail⟩
      rintro before c' after rfl
      have h := hoffset (c :: before) c' after rfl
      rw [List.map_cons, List.sum_cons, hn, ← Nat.add_assoc] at h
      exact h
    refine ⟨n, expand calls, by rw [expand_cons, hn], hoffset [] c calls rfl, hn, ?_, rest⟩
    rw [← rest.head?_eq]
    -- the rest cannot start with the same texture, or two calls in a row would share it
    intro hhead
    obtain ⟨c', hc', ht⟩ := Option.map_eq_some_iff.mp hhead
    exact hchanges.rel_head? hc' ht.symm
  · rintro ⟨n, rest, rfl, hoffset, hn, hhead, hrest⟩
    refine ⟨by rw [expand_cons, hn, hrest.expands], ?_, ?_, ?_⟩
    · rintro c' hc'
      rcases List.mem_cons.mp hc' with rfl | hc'
      · omega
      · exact hrest.count_pos c' hc'
    -- offsets count from the start of the list, so those of the rest are ahead by the first run
    · intro before c' after he
      cases before with
      | nil =>
        obtain ⟨rfl, -⟩ := List.cons.inj he
        exact hoffset
      | cons c₀ before =>
        obtain ⟨rfl, hcalls⟩ := List.cons.inj he
        rw [hrest.offset before c' after hcalls, List.map_cons, List.sum_cons, hn, Nat.add_assoc]
    · refine List.isChain_cons.mpr ⟨fun c' hc' ht => hhead ?_, hrest.changes⟩
      rw [← hrest.head?_eq, Option.mem_def.mp hc', ht]
      rfl

/-- Counts and places below 2 ^ 32 are stored as they are. -/
theorem toNat_ofNat_of_lt {m : Nat} (h : m < UInt32.size) : (UInt32.ofNat m).toNat = m :=
  Nat.mod_eq_of_lt h

/-- **The draw calls are a code** of the textures. -/
theorem encodes_runsFrom (h : p + ts.length < UInt32.size) : Encodes p (runsFrom p ts) ts := by
  induction ts using maximalRuns_induction generalizing p with
  | nil => exact encodes_nil p
  | run t n rest hrest ih =>
    rw [List.length_append, List.length_replicate] at h
    rw [runsFrom_run hrest]
    have place : p < UInt32.size := by omega
    have count : n + 1 < UInt32.size := by omega
    exact encodes_cons.mpr
      ⟨n, rest, rfl, toNat_ofNat_of_lt place, toNat_ofNat_of_lt count, hrest, ih (by omega)⟩

/-- **There is no other code.** -/
theorem Encodes.eq_runsFrom (he : Encodes p calls ts) (h : p + ts.length < UInt32.size) :
    calls = runsFrom p ts := by
  induction calls generalizing p ts with
  | nil =>
    obtain ⟨rfl, -, -, -⟩ := he
    rfl
  | cons c calls ih =>
    obtain ⟨n, rest, rfl, hoffset, hn, hrest, hcalls⟩ := encodes_cons.mp he
    rw [List.length_append, List.length_replicate] at h
    have first : c = Run.call ⟨c.texture, p, n + 1⟩ := by
      obtain ⟨t, offset, count⟩ := c
      simp only at hoffset hn
      rw [Run.call, ← hoffset, ← hn, UInt32.ofNat_toNat, UInt32.ofNat_toNat]
    rw [runsFrom_run hrest, ← ih hcalls (by omega), ← first]

/-! ## The shortest code -/

/-- The number of calls depends on nothing but the textures. -/
theorem length_runsFrom_eq (p q : Nat) (ts : List String) :
    (runsFrom p ts).length = (runsFrom q ts).length := by
  induction ts using maximalRuns_induction generalizing p q with
  | nil => rfl
  | run t n rest hrest ih =>
    rw [runsFrom_run hrest, runsFrom_run hrest, List.length_cons, List.length_cons]
    exact congrArg (· + 1) (ih _ _)

/-- One texture more, or many of it, takes one call more at most. -/
theorem length_runsFrom_replicate_append_le (n p q : Nat) (t : String) (ts : List String) :
    (runsFrom p (List.replicate n t ++ ts)).length ≤ (runsFrom q ts).length + 1 := by
  -- what the list starts with of the same texture goes into the same call
  obtain ⟨m, rest, rfl, hrest⟩ := exists_run_append t ts
  have run : ∀ p k, (runsFrom p (List.replicate k t ++ rest)).length =
      (runsFrom p rest).length + if k = 0 then 0 else 1 := by
    intro p k
    cases k with
    | zero => rfl
    | succ k =>
      rw [runsFrom_run hrest, List.length_cons, length_runsFrom_eq _ p, if_neg k.succ_ne_zero]
  rw [← List.append_assoc, List.replicate_append_replicate, run, run, length_runsFrom_eq q p]
  split <;> split <;> omega

/-- **No parts of one texture each are fewer** than the calls. -/
theorem length_runsFrom_le (p : Nat) {parts : List (List String)}
    (h : ∀ part ∈ parts, ∃ t, ∀ s ∈ part, s = t) :
    (runsFrom p parts.flatten).length ≤ parts.length := by
  induction parts with
  | nil => exact Nat.le_refl 0
  | cons part parts ih =>
    obtain ⟨hpart, hparts⟩ := List.forall_mem_cons.mp h
    obtain ⟨t, ht⟩ := hpart
    rw [List.flatten_cons, List.eq_replicate_of_mem ht, List.length_cons]
    exact (length_runsFrom_replicate_append_le _ p p t _).trans (Nat.add_le_add_right (ih hparts) 1)

/-! ## A single pass -/

/-- One more texture, at a place: the last call goes on, or a new one starts. -/
def extend (calls : List DrawCall) (x : String × Nat) : List DrawCall :=
  match calls.getLast? with
  | some run =>
    if run.texture = x.1 then calls.dropLast ++ [{ run with count := run.count + 1 }]
    else calls ++ [⟨x.1, UInt32.ofNat x.2, 1⟩]
  | none => [⟨x.1, UInt32.ofNat x.2, 1⟩]

theorem extend_same (calls : List DrawCall) (t : String) (p q n : Nat) :
    extend (calls ++ [Run.call ⟨t, p, n⟩]) (t, q) = calls ++ [Run.call ⟨t, p, n + 1⟩] := by
  simp only [extend, List.getLast?_concat, texture_call, if_true, List.dropLast_concat]
  rw [count_call_add_one t p p]
  rfl

theorem extend_other (h : calls.getLast?.map (·.texture) ≠ some t) (p : Nat) :
    extend calls (t, p) = calls ++ [Run.call ⟨t, p, 1⟩] := by
  unfold extend
  cases hc : calls.getLast? with
  | none =>
    rw [List.getLast?_eq_none_iff.mp hc]
    rfl
  | some run =>
    have ht : run.texture ≠ t := fun ht => h (by rw [hc, Option.map_some, ht])
    exact if_neg ht

/-- The open call takes in what there is of its texture. -/
theorem foldl_extend_replicate (calls : List DrawCall) (t : String) (p q n m : Nat) :
    ((List.replicate n t).zipIdx q).foldl extend (calls ++ [Run.call ⟨t, p, m⟩]) =
      calls ++ [Run.call ⟨t, p, m + n⟩] := by
  induction n generalizing q m with
  | zero => rfl
  | succ n ih =>
    rw [List.replicate_succ, List.zipIdx_cons, List.foldl_cons, extend_same, ih]
    have count : m + 1 + n = m + (n + 1) := by omega
    rw [count]

/-- A pass over the textures arrives at the same calls: the last of them is open until another
texture comes. -/
theorem foldl_extend (h : ts = [] ∨ calls.getLast?.map (·.texture) ≠ ts.head?) (p : Nat) :
    (ts.zipIdx p).foldl extend calls = calls ++ runsFrom p ts := by
  induction ts using maximalRuns_induction generalizing calls p with
  | nil => exact (List.append_nil calls).symm
  | run t n rest hrest ih =>
    have other : calls.getLast?.map (·.texture) ≠ some t := h.resolve_left nofun
    have next : rest = [] ∨ (calls ++ [Run.call ⟨t, p, n + 1⟩]).getLast?.map
        (·.texture) ≠ rest.head? := by
      rw [List.getLast?_concat]
      exact .inr hrest.symm
    rw [runsFrom_run hrest, List.zipIdx_append, List.foldl_append, List.replicate_succ,
      List.zipIdx_cons, List.foldl_cons, extend_other other, foldl_extend_replicate,
      Nat.add_comm 1 n, ih next,
      List.length_cons, List.length_replicate, List.append_assoc]
    rfl

/-! ## Sprites -/

/-- **Draw calls are the run-length code of the textures.** As long as the sprites can be counted in
32 bits, it is the only code there is, and it has no more calls than there are parts of one texture
each, however the sprites are cut. A pass that keeps the last call open arrives at it. -/
theorem runLength_ofSprites {sprites : List Sprite} (hn : sprites.length < UInt32.size) :
    Encodes 0 (ofSprites sprites) (sprites.map (·.texture)) ∧
    (∀ calls, Encodes 0 calls (sprites.map (·.texture)) → calls = ofSprites sprites) ∧
    (∀ parts : List (List String), parts.flatten = sprites.map (·.texture) →
      (∀ part ∈ parts, ∃ t, ∀ s ∈ part, s = t) → (ofSprites sprites).length ≤ parts.length) ∧
    ((sprites.map (·.texture)).zipIdx).foldl extend [] = ofSprites sprites := by
  have small : 0 + (sprites.map (·.texture)).length < UInt32.size := by
    rwa [Nat.zero_add, List.length_map]
  refine ⟨encodes_runsFrom small, fun calls hc => hc.eq_runsFrom small, ?_, ?_⟩
  · intro parts hcover hparts
    rw [ofSprites, ← hcover]
    exact length_runsFrom_le 0 hparts
  · cases hts : sprites.map (·.texture) with
    | nil => rw [ofSprites, hts]; rfl
    | cons t ts => rw [ofSprites, hts]; exact foldl_extend (.inr (by simp)) 0

/-- Six sprites with two textures, in three runs. -/
theorem runLength_ofSprites_mixed :
    let sprites : List Sprite := ["a", "a", "b", "b", "b", "a"].map fun t =>
      { texture := t, position := ⟨0, 0⟩, size := ⟨1, 1⟩ }
    sprites.length < UInt32.size ∧ ofSprites sprites = [⟨"a", 0, 2⟩, ⟨"b", 2, 3⟩, ⟨"a", 5, 1⟩] ∧
      Encodes 0 (ofSprites sprites) (sprites.map (·.texture)) := by
  intro sprites
  have small : sprites.length < UInt32.size := by decide
  exact ⟨small, by decide, (runLength_ofSprites small).1⟩

end DrawCall

end LitTiles
