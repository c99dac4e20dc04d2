import LitTiles.Batch.DrawCall

/-!
# Draw calls as runs

A draw call counts in 32 bits. `Run` is the same with natural numbers, and `Tiles` says that runs
lie next to each other and stand for a list of textures. Draw calls are always such runs, cut down
to 32 bits (`exists_tiles`). So no draw call reaches past the sprites (`inside_ofSprites`), and
every sprite is drawn, with its own texture, exactly if all runs start and end where 32 bits can
tell (`exists_runs`). This is so if the number of sprites itself fits into 32 bits
(`paints_ofSprites`).
-/

namespace LitTiles

/-- A run of neighbours with one texture, wherever it lies. -/
structure Run where
  /-- The texture. -/
  texture : String
  /-- The first place of the run. -/
  start : Nat
  /-- The number of places. -/
  length : Nat

/-- The run in 32 bits. -/
def Run.call (r : Run) : DrawCall := ⟨r.texture, UInt32.ofNat r.start, UInt32.ofNat r.length⟩

@[simp] theorem texture_call (r : Run) : r.call.texture = r.texture := rfl

theorem count_call_add_one (t : String) (p q n : Nat) :
    (Run.call ⟨t, p, n⟩).count + 1 = (Run.call ⟨t, q, n + 1⟩).count := by
  simp [Run.call]

/-- Runs that lie next to each other from a place on, and the textures they stand for. -/
inductive Tiles : Nat → List String → List Run → Prop
  /-- Nothing is left. -/
  | nil (p : Nat) : Tiles p [] []
  /-- One run, and the others after it. -/
  | cons {p n : Nat} {t : String} {ts : List String} {rs : List Run}
    (h : Tiles (p + (n + 1)) ts rs) :
    Tiles p (List.replicate (n + 1) t ++ ts) (⟨t, p, n + 1⟩ :: rs)

namespace Tiles

variable {p : Nat} {t : String} {ts : List String} {rs : List Run}

/-- A texture of its own is a run of its own. -/
theorem single (t : String) (h : Tiles (p + 1) ts rs) : Tiles p (t :: ts) (⟨t, p, 1⟩ :: rs) :=
  cons (n := 0) h

/-- Every run lies where its texture is. -/
theorem mem (h : Tiles p ts rs) {r : Run} (hr : r ∈ rs) :
    p ≤ r.start ∧ r.start + r.length ≤ p + ts.length ∧
      ∀ i, r.start ≤ p + i → p + i < r.start + r.length → ts[i]? = some r.texture := by
  induction h with
  | nil p => cases hr
  | @cons p n t ts rs h ih =>
    rcases List.mem_cons.mp hr with rfl | hr
    · refine ⟨Nat.le_refl p, ?_, fun i _ hi => ?_⟩
      · simp
      · have hi : i < n + 1 := by
          simp only at hi
          omega
        rw [List.getElem?_append_left (by simpa using hi), List.getElem?_replicate, if_pos hi]
    · obtain ⟨hs, he, ht⟩ := ih hr
      refine ⟨by omega, ?_, fun i hi hi' => ?_⟩
      · simp only [List.length_append, List.length_replicate]
        omega
      · have hn : n + 1 ≤ i := by omega
        rw [List.getElem?_append_right (by simpa using hn), List.length_replicate]
        exact ht (i - (n + 1)) (by omega) (by omega)

/-- No run is empty. -/
theorem length_pos (h : Tiles p ts rs) {r : Run} (hr : r ∈ rs) : 0 < r.length := by
  induction h with
  | nil p => cases hr
  | @cons p n t ts rs h ih =>
    rcases List.mem_cons.mp hr with rfl | hr
    · exact Nat.succ_pos n
    · exact ih hr

/-- Of two runs one lies before the other. -/
theorem apart (h : Tiles p ts rs) {r r' : Run} (hr : r ∈ rs) (hr' : r' ∈ rs) :
    r = r' ∨ r.start + r.length ≤ r'.start ∨ r'.start + r'.length ≤ r.start := by
  induction h with
  | nil p => cases hr
  | @cons p n t ts rs h ih =>
    rcases List.mem_cons.mp hr with rfl | hr <;> rcases List.mem_cons.mp hr' with rfl | hr'
    · exact .inl rfl
    · exact .inr (.inl (h.mem hr').1)
    · exact .inr (.inr (h.mem hr).1)
    · exact ih hr hr'

/-- Every place belongs to a run. -/
theorem exists_mem (h : Tiles p ts rs) {i : Nat} (hi : i < ts.length) :
    ∃ r ∈ rs, r.start ≤ p + i ∧ p + i < r.start + r.length := by
  induction h generalizing i with
  | nil p => cases hi
  | @cons p n t ts rs h ih =>
    by_cases hn : i < n + 1
    · exact ⟨_, List.mem_cons_self, Nat.le_add_right p i, Nat.add_lt_add_left hn p⟩
    · have hlen : i - (n + 1) < ts.length := by
        rw [List.length_append, List.length_replicate] at hi
        omega
      obtain ⟨r, hr, hs, he⟩ := ih hlen
      exact ⟨r, List.mem_cons_of_mem _ hr, by omega, by omega⟩

end Tiles

namespace DrawCall

/-- Draw calls are runs that lie next to each other, in 32 bits. -/
theorem exists_tiles (p : Nat) (ts : List String) :
    ∃ rs, Tiles p ts rs ∧ runsFrom p ts = rs.map Run.call := by
  induction ts generalizing p with
  | nil => exact ⟨[], .nil p, rfl⟩
  | cons t ts ih =>
    obtain ⟨rs, h, he⟩ := ih (p + 1)
    cases h with
    | nil => exact ⟨[⟨t, p, 1⟩], .single t (.nil _), by rw [runsFrom, he]; rfl⟩
    | @cons _ n t' ts rs h =>
      by_cases ht : t' = t
      · subst ht
        refine ⟨⟨t', p, n + 1 + 1⟩ :: rs, ?_, ?_⟩
        · have hp : p + 1 + (n + 1) = p + (n + 1 + 1) := by omega
          exact .cons (hp ▸ h)
        · rw [runsFrom, he, List.map_cons, prepend, texture_call, if_pos rfl,
            count_call_add_one t' (p + 1) p]
          rfl
      · refine ⟨⟨t, p, 1⟩ :: ⟨t', p + 1, n + 1⟩ :: rs, .single t (.cons h), ?_⟩
        rw [runsFrom, he, List.map_cons, prepend, texture_call, if_neg ht]
        rfl

/-- An instance is one of those that a draw call draws. -/
def Covers (c : DrawCall) (i : Nat) : Prop :=
  c.offset.toNat ≤ i ∧ i < c.offset.toNat + c.count.toNat

/-- Draw calls draw all of the sprites and nothing else, each sprite with its own texture. -/
structure Paints (calls : List DrawCall) (sprites : List Sprite) : Prop where
  /-- No call reaches past the sprites. -/
  inside : ∀ c ∈ calls, c.offset.toNat + c.count.toNat ≤ sprites.length
  /-- A sprite is drawn with its own texture. -/
  texture : ∀ c ∈ calls, ∀ i, c.Covers i → ∀ s, sprites[i]? = some s → s.texture = c.texture
  /-- Every sprite is drawn. -/
  covered : ∀ i < sprites.length, ∃ c ∈ calls, c.Covers i

theorem toNat_ofNat_le (n : Nat) : (UInt32.ofNat n).toNat ≤ n := Nat.mod_le n _

variable {sprites : List Sprite} {c : DrawCall}

/-- No draw call of any sprites reaches past them. -/
theorem inside_ofSprites (hc : c ∈ ofSprites sprites) :
    c.offset.toNat + c.count.toNat ≤ sprites.length := by
  obtain ⟨rs, h, he⟩ := exists_tiles 0 (sprites.map (·.texture))
  rw [ofSprites, he] at hc
  obtain ⟨r, hr, rfl⟩ := List.mem_map.mp hc
  obtain ⟨-, hle, -⟩ := h.mem hr
  rw [List.length_map, Nat.zero_add] at hle
  exact Nat.le_trans (Nat.add_le_add (toNat_ofNat_le _) (toNat_ofNat_le _)) hle

/-- Runs draw all of the sprites, each with its own texture, exactly if nothing is lost of them in
32 bits. -/
theorem paints_iff_of_tiles {rs : List Run} (h : Tiles 0 (sprites.map (·.texture)) rs) :
    Paints (rs.map Run.call) sprites ↔
      ∀ r ∈ rs, r.start < UInt32.size ∧ r.length < UInt32.size := by
  have reaches : ∀ r ∈ rs, r.start + r.length ≤ sprites.length := by
    intro r hr
    obtain ⟨-, hle, -⟩ := h.mem hr
    rwa [List.length_map, Nat.zero_add] at hle
  constructor
  · intro hp r hr
    -- the run that draws the last sprite is the last one, and is what it was
    have hlen := h.length_pos hr
    obtain ⟨c, hc, -, hlast⟩ := hp.covered (sprites.length - 1) (by have := reaches r hr; omega)
    obtain ⟨last, hl, rfl⟩ := List.mem_map.mp hc
    have hend := reaches last hl
    have hs : last.start % UInt32.size ≤ last.start := Nat.mod_le _ _
    have hn : last.length % UInt32.size ≤ last.length := Nat.mod_le _ _
    have hlast : sprites.length - 1 < last.start % UInt32.size + last.length % UInt32.size := hlast
    have start : last.start % UInt32.size = last.start := by omega
    have length : last.length % UInt32.size = last.length := by omega
    have fits : last.start < UInt32.size ∧ last.length < UInt32.size := by
      rw [← start, ← length]
      exact ⟨Nat.mod_lt _ (by decide), Nat.mod_lt _ (by decide)⟩
    -- all others lie before it
    obtain rfl | hbefore | hafter := h.apart hr hl
    · exact fits
    · omega
    · have := reaches r hr
      omega
  intro fits
  have exact : ∀ r ∈ rs, ∀ i, r.call.Covers i ↔ r.start ≤ i ∧ i < r.start + r.length := by
    intro r hr i
    have hs : (UInt32.ofNat r.start).toNat = r.start := Nat.mod_eq_of_lt (fits r hr).1
    have hl : (UInt32.ofNat r.length).toNat = r.length := Nat.mod_eq_of_lt (fits r hr).2
    rw [Covers, Run.call, hs, hl]
  refine ⟨fun c hc => ?_, fun c hc i hi s hs => ?_, fun i hi => ?_⟩
  · obtain ⟨r, hr, rfl⟩ := List.mem_map.mp hc
    exact Nat.le_trans (Nat.add_le_add (toNat_ofNat_le _) (toNat_ofNat_le _)) (reaches r hr)
  · obtain ⟨r, hr, rfl⟩ := List.mem_map.mp hc
    obtain ⟨hi₁, hi₂⟩ := (exact r hr i).mp hi
    obtain ⟨-, -, ht⟩ := h.mem hr
    have ht := ht i (by omega) (by omega)
    rw [List.getElem?_map, hs] at ht
    exact Option.some.inj ht
  · obtain ⟨r, hr, hs, hl⟩ := h.exists_mem (i := i) (by rwa [List.length_map])
    rw [Nat.zero_add] at hs hl
    exact ⟨r.call, List.mem_map_of_mem hr, (exact r hr i).mpr ⟨hs, hl⟩⟩

/-- The draw calls of sprites are runs in 32 bits. They draw all of the sprites, each with its own
texture, exactly if every run fits. -/
theorem exists_runs (sprites : List Sprite) :
    ∃ rs, Tiles 0 (sprites.map (·.texture)) rs ∧ ofSprites sprites = rs.map Run.call ∧
      (Paints (ofSprites sprites) sprites ↔
        ∀ r ∈ rs, r.start < UInt32.size ∧ r.length < UInt32.size) := by
  obtain ⟨rs, h, he⟩ := exists_tiles 0 (sprites.map (·.texture))
  refine ⟨rs, h, he, ?_⟩
  rw [ofSprites, he]
  exact paints_iff_of_tiles h

/-- As long as sprites can be counted in 32 bits, their draw calls draw them all, each with its own
texture. -/
theorem paints_ofSprites (hn : sprites.length < UInt32.size) :
    Paints (ofSprites sprites) sprites := by
  obtain ⟨rs, h, -, hp⟩ := exists_runs sprites
  refine hp.mpr fun r hr => ?_
  obtain ⟨-, hle, -⟩ := h.mem hr
  rw [List.length_map] at hle
  omega

/-- Neighbours with one texture are one run. -/
theorem runsFrom_replicate (p n : Nat) (t : String) :
    runsFrom p (List.replicate (n + 1) t) = [Run.call ⟨t, p, n + 1⟩] := by
  induction n generalizing p with
  | zero => rfl
  | succ n ih =>
    rw [List.replicate_succ, runsFrom, ih, prepend, texture_call, if_pos rfl,
      count_call_add_one t (p + 1) p]
    rfl

/-- A run that is as long as 32 bits can count, and longer by one, is not drawn: its number of
instances is zero. -/
theorem not_paints_replicate (s : Sprite) :
    ¬ Paints (ofSprites (List.replicate UInt32.size s)) (List.replicate UInt32.size s) := by
  intro hp
  have calls : ofSprites (List.replicate UInt32.size s) =
      [Run.call ⟨s.texture, 0, UInt32.size⟩] := by
    rw [ofSprites, List.map_replicate]
    exact runsFrom_replicate 0 (UInt32.size - 1) s.texture
  have count : (UInt32.ofNat UInt32.size).toNat = 0 := Nat.mod_self _
  obtain ⟨c, hc, -, hi⟩ := hp.covered 0 (by rw [List.length_replicate]; decide)
  rw [calls, List.mem_singleton] at hc
  subst hc
  rw [Run.call, count] at hi
  exact Nat.lt_irrefl 0 hi

end DrawCall

end LitTiles
