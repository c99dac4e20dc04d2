import Mathlib.Data.List.Nodup

/-!
# Tables

A table is a list of keys with values, and `List.lookup` finds the value of a key. To put an entry
in is to put it in front and to take the earlier one of its key out, so a table stays `Keyed`: no
key is there twice. What is found after an entry was put in is `lookup_replace`, and what there is
in a keyed table is one entry and the others (`Keyed.perm`).
-/

namespace LitTiles

variable {κ ν : Type} {l : List (κ × ν)} {k : κ}

/-! ## Looking something up -/

section Lookup

variable [BEq κ]

/-- A name is known if it is in the table. -/
theorem isNone_lookup (l : List (κ × ν)) (k : κ) :
    (l.lookup k).isNone = !(l.map Prod.fst).contains k := by
  induction l with
  | nil => rfl
  | cons e l ih =>
    obtain ⟨k', v⟩ := e
    rw [List.lookup_cons, List.map_cons, List.contains_cons]
    cases k == k' with
    | true => rfl
    | false => rw [Bool.false_or, ← ih]

theorem contains_of_lookup {v : ν} (h : l.lookup k = some v) :
    (l.map Prod.fst).contains k = true := by
  have := isNone_lookup l k
  rw [h] at this
  simpa using this.symm

theorem not_contains_of_lookup (h : l.lookup k = none) : (l.map Prod.fst).contains k = false := by
  have := isNone_lookup l k
  rw [h] at this
  simpa using this.symm

variable [LawfulBEq κ]

theorem mem_of_lookup {v : ν} (h : l.lookup k = some v) : (k, v) ∈ l := by
  obtain ⟨before, after, rfl, -⟩ := List.lookup_eq_some_iff.mp h
  simp

/-- Nothing is taken out for an unknown key. -/
theorem filter_eq_self_of_lookup (h : l.lookup k = none) : l.filter (·.1 != k) = l := by
  refine List.filter_eq_self.mpr fun e he => ?_
  rw [bne_comm]
  exact List.lookup_eq_none_iff.mp h e he

end Lookup

/-! ## Putting something in -/

section Replace

variable [DecidableEq κ]

theorem lookup_cons_ite (k k' : κ) (v : ν) (l : List (κ × ν)) :
    ((k, v) :: l).lookup k' = if k' = k then some v else l.lookup k' := by
  by_cases h : k' = k
  · rw [if_pos h, h, List.lookup_cons_self]
  · rw [if_neg h, List.lookup_cons, beq_eq_false_iff_ne.mpr h]

theorem lookup_filter_ne (k k' : κ) (l : List (κ × ν)) :
    (l.filter (·.1 != k)).lookup k' = if k' = k then none else l.lookup k' := by
  induction l with
  | nil => simp
  | cons e l ih =>
    obtain ⟨k'', v⟩ := e
    by_cases hk : k'' = k
    · -- the entry is taken out, and it is found under no other key
      subst hk
      rw [List.filter_cons_of_neg (by simp), ih, lookup_cons_ite]
      split <;> rfl
    · rw [List.filter_cons_of_pos (by simpa using hk), lookup_cons_ite, lookup_cons_ite, ih]
      by_cases h : k' = k''
      · subst h
        simp [hk]
      · simp [h]

/-- Replacing an entry of a table is replacing what is found under its key. -/
theorem lookup_replace (l : List (κ × ν)) (k k' : κ) (v : ν) :
    ((k, v) :: l.filter (·.1 != k)).lookup k' = if k' = k then some v else l.lookup k' := by
  rw [lookup_cons_ite, lookup_filter_ne]
  split <;> rfl

end Replace

/-! ## The keys of a table -/

/-- The keys of a table after the entry of a key was taken out. -/
theorem map_fst_erase [BEq κ] (l : List (κ × ν)) (k : κ) :
    (l.filter (·.1 != k)).map Prod.fst = (l.map Prod.fst).filter (· != k) := by
  rw [List.filter_map]
  rfl

/-- The keys of a table after an entry was put in. -/
theorem map_fst_insert [BEq κ] (l : List (κ × ν)) (k : κ) (v : ν) :
    ((k, v) :: l.filter (·.1 != k)).map Prod.fst = k :: (l.map Prod.fst).filter (· != k) := by
  rw [List.map_cons, map_fst_erase]

/-- No key is taken out for an unknown one. -/
theorem filter_of_lookup [BEq κ] [LawfulBEq κ] (h : l.lookup k = none) :
    (l.map Prod.fst).filter (· != k) = l.map Prod.fst := by
  rw [← map_fst_erase, filter_eq_self_of_lookup h]

/-- A table holds no key twice. -/
def Keyed (l : List (κ × ν)) : Prop := (l.map Prod.fst).Nodup

theorem Keyed.filter (h : Keyed l) (p : κ × ν → Bool) : Keyed (l.filter p) :=
  List.Nodup.sublist (List.filter_sublist.map _) h

variable [BEq κ] [LawfulBEq κ]

theorem Keyed.insert (h : Keyed l) (k : κ) (v : ν) : Keyed ((k, v) :: l.filter (·.1 != k)) :=
  List.nodup_cons.mpr ⟨by simp, h.filter _⟩

/-- The entry of a key is set aside. -/
theorem Keyed.perm (h : Keyed l) (k : κ) :
    l.Perm (((l.lookup k).map (k, ·)).toList ++ l.filter (·.1 != k)) := by
  cases hk : l.lookup k with
  | none =>
    rw [filter_eq_self_of_lookup hk]
    exact .refl _
  | some v =>
    obtain ⟨before, after, rfl, -⟩ := List.lookup_eq_some_iff.mp hk
    have front : ((k, v) :: (before ++ after)).Perm (before ++ (k, v) :: after) :=
      List.perm_middle.symm
    have only : Keyed ((k, v) :: (before ++ after)) := (front.map _).nodup_iff.mpr h
    have others : (before ++ after).filter (·.1 != k) = before ++ after := by
      refine List.filter_eq_self.mpr fun e he => bne_iff_ne.mpr fun hek => ?_
      have again : e.1 ∈ (before ++ after).map Prod.fst := List.mem_map_of_mem he
      exact (List.nodup_cons.mp only).1 (hek ▸ again)
    rw [List.filter_append] at others
    rw [List.filter_append, List.filter_cons_of_neg (by simp), others]
    exact front.symm

/-- What is in a keyed table is what is found in it. -/
theorem Keyed.mem_iff (h : Keyed l) {v : ν} : (k, v) ∈ l ↔ l.lookup k = some v := by
  refine ⟨fun hm => ?_, mem_of_lookup⟩
  have hm := (h.perm k).mem_iff.mp hm
  simpa using hm

theorem Keyed.map_perm {α : Type} (h : Keyed l) (k : κ) (f : ν → α) :
    (l.map fun e => f e.2).Perm
      (((l.lookup k).map f).toList ++ (l.filter (·.1 != k)).map fun e => f e.2) := by
  have := (h.perm k).map fun e => f e.2
  rw [List.map_append] at this
  cases hk : l.lookup k <;> simpa [hk] using this

end LitTiles
