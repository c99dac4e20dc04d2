import LitTiles.Proofs.Effect.Emission

/-!
# Components by their places

Where a component is named can be said without the pass that remaps them (`Swizzle.NamesComponent`).
Remapping gives the characters at these places their letters and keeps all others in their places
(`Swizzle.remap_eq_mapIdx`). It is done with once its letters are none of components themselves
(`Swizzle.remap_remap`).
-/

namespace LitTiles

namespace Swizzle

variable {c : Char} {k : Nat} {m : Swizzle} {r s t w : List Char}

/-- A component is named at a place of a text: the place lies in a run of the characters of names
right behind a point, and the run consists of one to four of the letters of components. -/
def NamesComponent (s : List Char) (k : Nat) : Prop :=
  ∃ before name after, s = before ++ '.' :: (name ++ after) ∧ IsWord name ∧ Breaks after ∧
    (1 ≤ name.length ∧ name.length ≤ 4 ∧ ∀ c ∈ name, c ∈ ['r', 'g', 'b', 'a']) ∧
    before.length < k ∧ k ≤ before.length + name.length

theorem isSwizzle_iff :
    isSwizzle w = true ↔ 1 ≤ w.length ∧ w.length ≤ 4 ∧ ∀ c ∈ w, c ∈ ['r', 'g', 'b', 'a'] := by
  simp [isSwizzle, isComponent, and_assoc, or_assoc]

theorem not_namesComponent_zero : ¬ NamesComponent s 0 := by
  rintro ⟨before, name, after, -, -, -, -, hk, -⟩
  exact Nat.not_lt_zero _ hk

theorem not_namesComponent_nil : ¬ NamesComponent [] k := by
  rintro ⟨before, name, after, hs, -⟩
  simp at hs

/-- A longer text in front makes no difference. -/
theorem NamesComponent.cons (h : NamesComponent r k) (c : Char) :
    NamesComponent (c :: r) (k + 1) := by
  obtain ⟨before, name, after, rfl, hword, hafter, hname, hlt, hle⟩ := h
  refine ⟨c :: before, name, after, rfl, hword, hafter, hname, ?_, ?_⟩ <;> simp <;> omega

theorem namesComponent_cons (hc : c ≠ '.') : NamesComponent (c :: r)
    (k + 1) ↔ NamesComponent r k := by
  constructor
  · rintro ⟨before, name, after, hs, hword, hafter, hname, hlt, hle⟩
    cases before with
    | nil => exact absurd (List.cons.inj hs).1 hc
    | cons d before =>
      refine ⟨before, name, after, (List.cons.inj hs).2, hword, hafter, hname, ?_, ?_⟩ <;> simp
        at hlt hle <;> omega
  · intro h
    exact h.cons c

/-- Behind a point, components are named in the word that follows. -/
theorem namesComponent_point : NamesComponent ('.' :: r) (k + 1) ↔
    isSwizzle (r.takeWhile isWordChar) = true ∧ k < (r.takeWhile isWordChar).length ∨
    NamesComponent r k := by
  constructor
  · rintro ⟨before, name, after, hs, hword, hafter, hname, hlt, hle⟩
    -- the name begins right behind this point, or behind a later one
    cases before with
    | nil =>
      obtain ⟨-, rfl⟩ := List.cons.inj hs
      rw [hword.takeWhile_append hafter]
      refine .inl ⟨isSwizzle_iff.mpr hname, ?_⟩
      simp at hle
      omega
    | cons d before =>
      refine .inr ⟨before, name, after, (List.cons.inj hs).2, hword, hafter, hname, ?_, ?_⟩ <;>
        simp at hlt hle <;> omega
  · rintro (⟨hname, hk⟩ | h)
    · refine ⟨[], r.takeWhile isWordChar, r.dropWhile isWordChar, ?_, isWord_takeWhile r,
        breaks_dropWhile r,
        isSwizzle_iff.mp hname, ?_, ?_⟩
      · rw [List.takeWhile_append_dropWhile, List.nil_append]
      · simp
      · simp
        omega
    · exact h.cons '.'

instance decidableNamesComponent : (s : List Char) → (k : Nat) → Decidable (NamesComponent s k)
  | _, 0 => isFalse not_namesComponent_zero
  | [], _ + 1 => isFalse not_namesComponent_nil
  | c :: r, k + 1 =>
    have := decidableNamesComponent r k
    if hc : c = '.' then
      decidable_of_iff (isSwizzle (r.takeWhile isWordChar) = true ∧
        k < (r.takeWhile isWordChar).length ∨
        NamesComponent r k) (hc ▸ namesComponent_point.symm)
    else decidable_of_iff (NamesComponent r k) (namesComponent_cons hc).symm

theorem namesComponent_word (hw : IsWord w) : NamesComponent (w ++ s) (w.length + k) ↔
    NamesComponent s k := by
  induction w with
  | nil => simp
  | cons c w ih =>
    obtain ⟨hc, hw⟩ := List.forall_mem_cons.mp hw
    have point : c ≠ '.' := by
      rintro rfl
      cases hc
    rw [List.cons_append, List.length_cons, Nat.add_right_comm, namesComponent_cons point, ih hw]

/-- Behind a point, a run of components names one at each of its places. -/
theorem namesComponent_run (hw : IsWord w) (ht : Breaks t) (h : isSwizzle w = true)
    (hk : k < w.length) :
    NamesComponent ('.' :: (w ++ t)) (k + 1) := by
  rw [namesComponent_point, hw.takeWhile_append ht]
  exact .inl ⟨h, hk⟩

theorem namesComponent_behind_run (hw : IsWord w) (ht : Breaks t) :
    NamesComponent ('.' :: (w ++ t)) (w.length + k + 1) ↔ NamesComponent t k := by
  rw [namesComponent_point, hw.takeWhile_append ht, namesComponent_word hw]
  apply or_iff_right
  rintro ⟨-, hk⟩
  omega

/-- What stands at a place of a remapped text. -/
theorem getElem?_remap (m : Swizzle) (s : List Char) (k : Nat) :
    (m.remap s)[k]? = s[k]?.map fun c => if NamesComponent s k then m.apply c else c := by
  induction s using remap_induction generalizing k with
  | nil => simp [remap_nil]
  | run w t word breaks hrun ih =>
    rw [remap_run word breaks hrun]
    cases k with
    | zero => simp [not_namesComponent_zero]
    | succ k =>
      rw [List.getElem?_cons_succ, List.getElem?_cons_succ]
      -- the letter is within the run behind the point, or it is behind that
      rcases Nat.lt_or_ge k w.length with hk | hk
      · simp only [namesComponent_run word breaks hrun hk, if_true]
        rw [List.getElem?_append_left (by simpa using hk), List.getElem?_append_left hk,
          List.getElem?_map]
      · obtain ⟨j, rfl⟩ := Nat.exists_eq_add_of_le hk
        simp only [namesComponent_behind_run word breaks]
        rw [List.getElem?_append_right (by simp), List.length_map, List.getElem?_append_right hk,
          Nat.add_sub_cancel_left]
        exact ih j
  | cons c r h ih =>
    rw [remap_copy h]
    cases k with
    | zero => simp [not_namesComponent_zero]
    | succ k =>
      -- the point of a copied character names nothing
      have same : NamesComponent (c :: r) (k + 1) ↔ NamesComponent r k := by
        by_cases hc : c = '.'
        · subst hc
          rw [namesComponent_point]
          exact or_iff_right fun hname => h ⟨rfl, hname.1⟩
        · exact namesComponent_cons hc
      simp only [List.getElem?_cons_succ, same]
      exact ih k

/-- **Remapping by places.** -/
theorem remap_eq_mapIdx (m : Swizzle) (s : List Char) :
    m.remap s = s.mapIdx fun k c => if NamesComponent s k then m.apply c else c := by
  apply List.ext_getElem?
  intro k
  rw [getElem?_remap, List.getElem?_mapIdx]

/-! ## Letters that stay -/

theorem apply_empty (c : Char) : empty.apply c = c := by
  simp [apply, letter?, empty]

theorem apply_identity (c : Char) : identity.apply c = c := by
  unfold apply letter?
  split_ifs
  all_goals simp [identity, *]

/-- Where all components keep their letters, the text stays. -/
theorem remap_eq_self (h : ∀ c, m.apply c = c) (s : List Char) : m.remap s = s := by
  apply List.ext_getElem?
  intro k
  rw [getElem?_remap]
  simp [h]

/-- What becomes of components is none of them in WGSL. -/
theorem isSwizzle_rename_xyzw (w : List Char) : isSwizzle (xyzw.rename w) = false := by
  rw [rename]
  split
  · rename_i h
    cases w with
    | nil => cases h
    | cons c w =>
      have component : isComponent c = true := by
        simp only [isSwizzle, Bool.and_eq_true, List.all_cons] at h
        exact h.2.1
      have other : isComponent (xyzw.apply c) = false := by
        simp only [isComponent, Bool.or_eq_true, beq_iff_eq] at component
        rcases component with ((rfl | rfl) | rfl) | rfl
        all_goals decide
      simp [isSwizzle, other]
  · rename_i h
    simpa using h

/-- **Remapping settles** if renaming a member does. -/
theorem remap_remap (hm : m.NamesLetters) (h : ∀ w, m.rename (m.rename w) = m.rename w)
    (s : List Char) :
    m.remap (m.remap s) = m.remap s := by
  induction s using remap_induction with
  | nil => rw [remap_nil, remap_nil]
  | run w t word breaks hrun ih =>
    have renamed : m.rename w = w.map m.apply := if_pos hrun
    have same := h w
    rw [renamed] at same
    have word' := isWord_rename hm word
    rw [renamed] at word'
    have breaks' := (copiesWords_remap m).breaks breaks
    rw [remap_run word breaks hrun, remap_point, word'.takeWhile_append breaks',
      word'.dropWhile_append breaks', same, ih]
  | cons c r hc ih =>
    rw [remap_copy hc, remap_copy, ih]
    rwa [(copiesWords_remap m).takeWhile]

theorem rename_rename_language (d : Dialect) (w : List Char) :
    d.language.swizzle.rename (d.language.swizzle.rename w) = d.language.swizzle.rename w := by
  cases d with
  | glslEs100 | glslEs300 => exact rename_identity _
  | wgsl => exact rename_xyzw_eq_self_iff.mpr (isSwizzle_rename_xyzw w)

/-- In every dialect, remapping a second time changes nothing. -/
theorem remap_remap_language (d : Dialect) (s : List Char) :
    d.language.swizzle.remap (d.language.swizzle.remap s) = d.language.swizzle.remap s :=
  remap_remap (namesLetters_language d) (rename_rename_language d) s

/-- **Components are remapped place by place.** No character is lost or added; those that name
components become their letters, and all others stay. Without letters, and with the components' own,
a text stays as it is; with those of coordinates, once is enough. -/
theorem remapText_placewise (m : Swizzle) (s : String) :
    (m.remapText s).length = s.length ∧
    (∀ k, (m.remapText s).toList[k]? =
      s.toList[k]?.map fun c => if NamesComponent s.toList k then m.apply c else c) ∧
    empty.remapText s = s ∧ identity.remapText s = s ∧
    xyzw.remapText (xyzw.remapText s) = xyzw.remapText s := by
  refine ⟨?_, ?_, ?_, ?_, ?_⟩
  · rw [← String.length_toList, ← String.length_toList, remapText,
      String.toList_ofList, remap_eq_mapIdx, List.length_mapIdx]
  · intro k
    rw [remapText, String.toList_ofList, getElem?_remap]
  · rw [remapText, remap_eq_self apply_empty, String.ofList_toList]
  · rw [remapText, remap_eq_self apply_identity, String.ofList_toList]
  · rw [remapText, remapText, String.toList_ofList]
    exact congrArg String.ofList (remap_remap_language .wgsl s.toList)

end Swizzle

end LitTiles
