import LitTiles.Program.WgslBlock
import Mathlib.Algebra.Order.BigOperators.Group.List
import Mathlib.Tactic.Linarith

/-!
# Layouts of WGSL structures

The rules by which WGSL lays out a structure, in bytes: a member starts at the first multiple of its
alignment that is behind the member before, and the size of the structure is a multiple of the
largest alignment. A block layout counts in floats; its members start where these rules say
(`memberOffsets_eq`), and the block has room for the structure (`structureSize_le`).

Spreading a packed block out writes its members one after the other. As they lie apart no member is
spoiled by a later one (`BlockLayout.slice_repack`), and what is outside all members is zero
(`BlockLayout.getElem?_repack_of_outside`).
-/

namespace LitTiles

/-! ## Rounding up -/

/-- There is no smaller multiple. -/
theorem roundUp_le {n a m : Nat} (ha : 0 < a) (hd : a ∣ m) (hn : n ≤ m) : roundUp n a ≤ m := by
  obtain ⟨q, rfl⟩ := hd
  obtain ⟨r, hr⟩ := dvd_roundUp n a
  have below := roundUp_lt n ha
  rw [hr] at below ⊢
  apply Nat.mul_le_mul_left
  apply Nat.lt_succ_iff.mp
  apply lt_of_mul_lt_mul_left (a := a) _ a.zero_le
  rw [Nat.mul_succ]
  omega

/-- To count in larger units does not change where a multiple is. -/
theorem roundUp_mul {n a k : Nat} (hk : 0 < k) (ha : 0 < a) : roundUp (k * n)
    (k * a) = k * roundUp n a := by
  apply Nat.le_antisymm
  · apply roundUp_le (Nat.mul_pos hk ha)
    · exact Nat.mul_dvd_mul_left k (dvd_roundUp n a)
    · exact Nat.mul_le_mul_left k (le_roundUp n ha)
  · obtain ⟨q, hq⟩ := dvd_roundUp (k * n) (k * a)
    have above := le_roundUp (k * n) (Nat.mul_pos hk ha)
    rw [hq, Nat.mul_assoc] at above ⊢
    apply Nat.mul_le_mul_left
    exact roundUp_le ha (Nat.dvd_mul_right a q) (Nat.le_of_mul_le_mul_left above hk)

/-! ## The rules of WGSL -/

namespace ValueType

/-- The alignment of a type, in bytes. -/
def byteAlignment : ValueType → Nat
  | float => 4
  | vec2 => 8
  | vec3 => 16
  | vec4 => 16

/-- The size of a type, in bytes. -/
def byteSize : ValueType → Nat
  | float => 4
  | vec2 => 8
  | vec3 => 12
  | vec4 => 16

theorem byteAlignment_eq (t : ValueType) : t.byteAlignment = 4 * t.blockAlignment := by
  cases t <;> rfl

theorem byteSize_eq (t : ValueType) : t.byteSize = 4 * t.components := by cases t <;> rfl

theorem blockAlignment_pos (t : ValueType) : 0 < t.blockAlignment := by cases t <;> decide

theorem byteAlignment_dvd (t : ValueType) : t.byteAlignment ∣ 16 := by cases t <;> decide

end ValueType

/-- Where the members of a structure start, from a byte on. -/
def memberOffsets (cursor : Nat) : List ValueType → List Nat
  | [] => []
  | t :: ts =>
    let start := roundUp cursor t.byteAlignment
    start :: memberOffsets (start + t.byteSize) ts

/-- The first byte behind all members. -/
def memberEnd (cursor : Nat) : List ValueType → Nat
  | [] => cursor
  | t :: ts => memberEnd (roundUp cursor t.byteAlignment + t.byteSize) ts

/-- The alignment of a structure: the largest one of a member. -/
def structureAlignment (ts : List ValueType) : Nat := (ts.map (·.byteAlignment)).foldr max 1

/-- The size of a structure. -/
def structureSize (ts : List ValueType) : Nat := roundUp (memberEnd 0 ts) (structureAlignment ts)

/-- The alignment of a structure is one of 4, 8 and 16, as those of its members are. -/
theorem structureAlignment_dvd (ts : List ValueType) : structureAlignment ts ∣ 16 := by
  induction ts with
  | nil => decide
  | cons t ts ih =>
    change max t.byteAlignment (structureAlignment ts) ∣ 16
    rcases le_total t.byteAlignment (structureAlignment ts) with h | h
    · rwa [max_eq_right h]
    · rw [max_eq_left h]
      exact t.byteAlignment_dvd

/-! ## Floats and bytes -/

/-- Dropping floats drops four bytes for each. -/
theorem floatBytes_drop (xs : List Scalar) (n : Nat) :
    floatBytes (xs.drop n) = (floatBytes xs).drop (4 * n) := by
  induction xs generalizing n with
  | nil => simp
  | cons x xs ih =>
    cases n with
    | zero => simp
    | succ n =>
      rw [List.drop_succ_cons, ih, floatBytes_cons, Nat.mul_succ, Nat.add_comm, ← List.drop_drop]
      rfl

/-- Taking floats takes four bytes for each. -/
theorem floatBytes_take (xs : List Scalar) (n : Nat) :
    floatBytes (xs.take n) = (floatBytes xs).take (4 * n) := by
  induction xs generalizing n with
  | nil => simp
  | cons x xs ih =>
    cases n with
    | zero => simp
    | succ n =>
      have whole : x.bytes.take (4 * n + 4) = x.bytes := by
        apply List.take_of_length_le
        rw [Scalar.length_bytes]
        omega
      rw [List.take_succ_cons, floatBytes_cons, ih, floatBytes_cons, List.take_append,
        Nat.mul_succ, whole, Scalar.length_bytes, Nat.add_sub_cancel]

namespace BlockLayout

variable {us : List Uniform} {c : Nat} {m : BlockMember} {ms : List BlockMember}
  {block packed : List Scalar} {i : Nat}

/-! ## Where members are placed -/

/-- The rules of WGSL, in bytes, place the members where the block layout, in floats, has them. By
induction on the members, for every place to begin with. -/
theorem memberOffsets_eq (us : List Uniform) (c : Nat) :
    memberOffsets (4 * c) (us.map (·.type)) = (place c us).1.map (4 * ·.start) := by
  induction us generalizing c with
  | nil => rfl
  | cons u us ih =>
    simp only [List.map_cons, memberOffsets, place, u.type.byteAlignment_eq, u.type.byteSize_eq,
      roundUp_mul four_pos u.type.blockAlignment_pos, ← Nat.mul_add, ih]

/-- And both end at the same place. -/
theorem memberEnd_eq (us : List Uniform) (c : Nat) :
    memberEnd (4 * c) (us.map (·.type)) = 4 * (place c us).2 := by
  induction us generalizing c with
  | nil => rfl
  | cons u us ih =>
    simp only [List.map_cons, memberEnd, place, u.type.byteAlignment_eq, u.type.byteSize_eq,
      roundUp_mul four_pos u.type.blockAlignment_pos, ← Nat.mul_add, ih]

/-- The members belong to the uniforms, in order. -/
theorem map_place (us : List Uniform) (c : Nat) :
    (place c us).1.map (fun m => (m.source, m.length)) = us.map fun u =>
    (u.offset, u.type.components) := by
  induction us generalizing c with
  | nil => rfl
  | cons u us ih => exact congrArg _ (ih _)

/-- Each member ends before the next one starts. -/
def Apart (ms : List BlockMember) : Prop := ms.Pairwise fun m m' => m.start + m.length ≤ m'.start

/-- Placing members never goes back. -/
theorem le_place (us : List Uniform) (c : Nat) : c ≤ (place c us).2 := by
  induction us generalizing c with
  | nil => exact Nat.le_refl c
  | cons u us ih =>
    have start := le_roundUp c u.type.blockAlignment_pos
    have rest := ih (roundUp c u.type.blockAlignment + u.type.components)
    simp only [place]
    omega

/-- Members lie behind the place they are counted from, and before the end. -/
theorem bounds_of_mem_place (hm : m ∈ (place c us).1) :
    c ≤ m.start ∧ m.start + m.length ≤ (place c us).2 := by
  induction us generalizing c with
  | nil => cases hm
  | cons u us ih =>
    have start := le_roundUp c u.type.blockAlignment_pos
    simp only [place, List.mem_cons] at hm ⊢
    rcases hm with rfl | hm
    · exact ⟨start, le_place us _⟩
    · obtain ⟨hlow, hhigh⟩ := ih hm
      exact ⟨by omega, hhigh⟩

/-- The members that are placed lie apart, in the order of their uniforms. -/
theorem apart_place (us : List Uniform) (c : Nat) : Apart (place c us).1 := by
  induction us generalizing c with
  | nil => exact List.Pairwise.nil
  | cons u us ih =>
    apply List.Pairwise.cons
    · intro m hm
      exact (bounds_of_mem_place hm).1
    · exact ih _

/-- The block has at least the size of the structure, since it is rounded up to 16 bytes, which
every alignment divides. -/
theorem structureSize_le (us : List Uniform) :
    structureSize (us.map (·.type)) ≤ (ofUniforms us).byteLength := by
  have whole : (ofUniforms us).byteLength = 4 * roundUp (max (place 0 us).2 1) 4 := Nat.mul_comm ..
  have stop : memberEnd 0 (us.map (·.type)) = 4 * (place 0 us).2 := memberEnd_eq us 0
  rw [structureSize, whole, stop, ← roundUp_mul four_pos four_pos]
  have divides := structureAlignment_dvd (us.map (·.type))
  apply roundUp_le (Nat.pos_of_dvd_of_pos divides (by decide))
  · exact divides.trans (dvd_roundUp _ _)
  · have := le_roundUp (4 * max (place 0 us).2 1) (a := 4 * 4) (by decide)
    omega

/-! ## Spreading a block out -/

/-- What is in a block after some floats of it were overwritten. -/
theorem getElem?_overwrite {xs : List Scalar} {offset : Nat}
    (h : offset + xs.length ≤ block.length) (i : Nat) :
    (overwrite block offset xs)[i]? =
      if offset ≤ i ∧ i < offset + xs.length then xs[i - offset]? else block[i]? := by
  have before : (block.take offset).length = offset := by
    rw [List.length_take]
    omega
  rw [overwrite, List.append_assoc]
  by_cases hlow : i < offset
  · rw [List.getElem?_append_left (by omega), List.getElem?_take_of_lt hlow, if_neg (by omega)]
  · rw [List.getElem?_append_right (by omega), before]
    by_cases hhigh : i < offset + xs.length
    · rw [List.getElem?_append_left (by omega), if_pos (by omega)]
    · rw [List.getElem?_append_right (by omega), List.getElem?_drop, if_neg (by omega)]
      congr 1
      omega

/-- Writes members of a packed block into a block, one after the other. -/
def spread (packed block : List Scalar) (ms : List BlockMember) : List Scalar :=
  ms.foldl (fun block m => overwrite block m.start (fitted m.length (packed.drop m.source))) block

theorem repack_eq (l : BlockLayout) (packed : List Scalar) :
    l.repack packed = spread packed (List.replicate l.length 0) l.members := rfl

/-- A place belongs to a member. -/
def Covers (m : BlockMember) (i : Nat) : Prop := m.start ≤ i ∧ i < m.start + m.length

/-- Spreading writes within the block and keeps its length. -/
theorem length_spread (h : ∀ m ∈ ms, m.start + m.length ≤ block.length) :
    (spread packed block ms).length = block.length := by
  induction ms generalizing block with
  | nil => rfl
  | cons m ms ih =>
    obtain ⟨hm, hms⟩ := List.forall_mem_cons.mp h
    have step : (overwrite block m.start (fitted m.length (packed.drop m.source))).length =
        block.length := by
      apply length_overwrite
      rwa [length_fitted]
    rw [← step] at hms
    exact (ih hms).trans step

/-- What no member covers stays. -/
theorem getElem?_spread_of_outside (h : ∀ m ∈ ms, m.start + m.length ≤ block.length)
    (ho : ∀ m ∈ ms, ¬ Covers m i) : (spread packed block ms)[i]? = block[i]? := by
  induction ms generalizing block with
  | nil => rfl
  | cons m ms ih =>
    obtain ⟨hm, hms⟩ := List.forall_mem_cons.mp h
    obtain ⟨hout, houts⟩ := List.forall_mem_cons.mp ho
    rw [← length_fitted m.length (packed.drop m.source)] at hm
    rw [← length_overwrite hm] at hms
    apply (ih hms houts).trans
    rw [getElem?_overwrite hm, if_neg (by rwa [length_fitted])]

/-- What a member covers comes from its source. -/
theorem getElem?_spread_of_covers (h : ∀ m ∈ ms, m.start + m.length ≤ block.length) (hs : Apart ms)
    (hm : m ∈ ms) (hc : Covers m i) :
    (spread packed block ms)[i]? = (fitted m.length (packed.drop m.source))[i - m.start]? := by
  induction ms generalizing block with
  | nil => cases hm
  | cons m' ms ih =>
    obtain ⟨hm', hms⟩ := List.forall_mem_cons.mp h
    obtain ⟨hfirst, hs'⟩ := List.pairwise_cons.mp hs
    rw [← length_fitted m'.length (packed.drop m'.source)] at hm'
    rw [← length_overwrite hm'] at hms
    rcases List.mem_cons.mp hm with rfl | hm
    · -- later members start behind this one
      have outside : ∀ m' ∈ ms, ¬ Covers m' i := by
        intro m' hin hc'
        have behind := hfirst m' hin
        have := hc.2
        have := hc'.1
        omega
      apply (getElem?_spread_of_outside hms outside).trans
      rw [getElem?_overwrite hm', if_pos (by rwa [length_fitted])]
    · exact ih hms hs' hm

/-- The members of a layout end within its block. -/
theorem bounds_of_mem_ofUniforms (hm : m ∈ (ofUniforms us).members) :
    m.start + m.length ≤ (List.replicate (ofUniforms us).length (0 : Scalar)).length := by
  have inside := (bounds_of_mem_place hm).2
  have room := le_roundUp (max (place 0 us).2 1) four_pos
  rw [List.length_replicate]
  change _ ≤ roundUp (max (place 0 us).2 1) 4
  omega

/-- A repacked block is as long as the layout says, whatever was packed. -/
theorem length_repack (us : List Uniform) (packed : List Scalar) :
    ((ofUniforms us).repack packed).length = (ofUniforms us).length := by
  rw [repack_eq, length_spread fun m hm => bounds_of_mem_ofUniforms hm, List.length_replicate]

/-- Outside all members a block is zero. -/
theorem getElem?_repack_of_outside (hi : i < (ofUniforms us).length)
    (ho : ∀ m ∈ (ofUniforms us).members, ¬ Covers m i) :
    ((ofUniforms us).repack packed)[i]? = some 0 := by
  rw [repack_eq, getElem?_spread_of_outside (fun m hm => bounds_of_mem_ofUniforms hm) ho,
    List.getElem?_replicate, if_pos hi]

/-- A member has its floats in one piece. -/
theorem slice_repack (packed : List Scalar) (hm : m ∈ (ofUniforms us).members) :
    (((ofUniforms us).repack packed).drop m.start).take m.length =
      fitted m.length (packed.drop m.source) := by
  have inside := bounds_of_mem_ofUniforms hm
  rw [List.length_replicate] at inside
  apply List.ext_getElem?
  intro j
  by_cases hj : j < m.length
  · have covered : Covers m (m.start + j) := ⟨Nat.le_add_right _ _, by omega⟩
    rw [List.getElem?_take_of_lt hj, List.getElem?_drop, repack_eq,
      getElem?_spread_of_covers (fun m hm => bounds_of_mem_ofUniforms hm)
      (apart_place us 0) hm covered,
      Nat.add_sub_cancel_left]
  · rw [List.getElem?_eq_none, List.getElem?_eq_none]
    · rw [length_fitted]
      omega
    · rw [List.length_take]
      omega

end BlockLayout

end LitTiles
