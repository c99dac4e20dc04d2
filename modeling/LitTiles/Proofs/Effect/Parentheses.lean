import LitTiles.Proofs.Effect.Words
import Mathlib.Data.List.Infix

/-!
# Parentheses

A call ends at the parenthesis that matches its own (`splitAtClosing_eq_some_iff`). Whether there is
one, and whether all parentheses of a text match, depends on nothing but the parentheses of the text
(`parentheses`), which is what the text passes leave alone.
-/

namespace LitTiles

variable {c : Char} {depth : Nat} {r s t u x : List Char}

/-- A text that closes a number of parentheses more than it opens, the last of them with its last
parenthesis at the earliest. -/
structure Closes (depth : Nat) (s : List Char) : Prop where
  /-- So many more are closed than opened. -/
  count : s.count ')' = s.count '(' + depth
  /-- No start of the text closes more of them. -/
  bounded : ∀ p, p <+: s → p.count ')' ≤ p.count '(' + depth

/-- A text in which all parentheses match. -/
def Balanced (s : List Char) : Prop := Closes 0 s

/-- A text that leaves no parenthesis open. -/
def LeavesNoneOpen (s : List Char) : Prop := ∀ t, t <:+ s → t.count '(' ≤ t.count ')'

theorem closes_nil : Closes depth [] ↔ depth = 0 := by
  constructor
  · intro h
    simpa using h.count.symm
  · rintro rfl
    exact ⟨rfl, fun p hp => by simp [List.prefix_nil.mp hp]⟩

theorem not_closes_zero_cons : ¬ Closes 0 (')' :: s) := by
  intro h
  have := h.bounded [')'] (List.prefix_append [')'] s)
  simp at this

/-- A text closes at its end if its rest does, at the depth behind its first character. -/
theorem closes_cons (h : ¬ (c = ')' ∧ depth = 0)) : Closes depth (c :: s) ↔
    Closes (openAfter depth c) s := by
  -- the counts of the whole text and of each of its starts move by the same amount
  have moved : ∀ p : List Char, ((c :: p).count ')' = (c :: p).count '(' + depth ↔
      p.count ')' = p.count '(' + openAfter depth c) ∧
        ((c :: p).count ')' ≤ (c :: p).count '(' + depth ↔
      p.count ')' ≤ p.count '(' + openAfter depth c) := by
    intro p
    unfold openAfter
    split_ifs with hopen hclose
    · subst hopen
      simp
      omega
    · subst hclose
      simp at h ⊢
      omega
    · simp [hopen, hclose]
  constructor
  · intro hs
    refine ⟨(moved s).1.mp hs.count, ?_⟩
    intro p hp
    exact (moved p).2.mp (hs.bounded _ ((List.prefix_cons_inj c).mpr hp))
  · intro hs
    refine ⟨(moved s).1.mpr hs.count, ?_⟩
    intro p hp
    rcases List.prefix_cons_iff.mp hp with rfl | ⟨q, rfl, hq⟩
    · simp
    · exact (moved q).2.mpr (hs.bounded q hq)

/-- **Where a text is split.** -/
theorem splitAtClosing_eq_some_iff :
    splitAtClosing depth s = some (x, r) ↔ s = x ++ ')' :: r ∧ Closes depth x := by
  constructor
  · intro h
    refine ⟨splitAtClosing_eq h, ?_⟩
    -- along the text, with the depth at each character
    induction s generalizing depth x with
    | nil => cases h
    | cons c s ih =>
      unfold splitAtClosing at h
      split at h
      · rename_i hc
        obtain ⟨rfl, -⟩ := Prod.mk.inj (Option.some.inj h)
        exact closes_nil.mpr hc.2
      · rename_i hc
        obtain ⟨q, hq, heq⟩ := Option.map_eq_some_iff.mp h
        obtain ⟨rfl, rfl⟩ := Prod.mk.inj heq
        exact (closes_cons hc).mpr (ih hq)
  · rintro ⟨rfl, h⟩
    induction x generalizing depth with
    | nil =>
      obtain rfl := closes_nil.mp h
      rfl
    | cons c x ih =>
      have hc : ¬ (c = ')' ∧ depth = 0) := by
        rintro ⟨rfl, rfl⟩
        exact not_closes_zero_cons h
      rw [List.cons_append, splitAtClosing, if_neg hc, ih ((closes_cons hc).mp h)]
      rfl

/-! ## The parentheses alone -/

/-- The parentheses of a text. -/
def parentheses (s : List Char) : List Char := s.filter fun c => c == '(' || c == ')'

/-- The parentheses of two texts in a row are those of the first and those of the second. -/
@[simp] theorem parentheses_append (s t : List Char) :
    parentheses (s ++ t) = parentheses s ++ parentheses t :=
  List.filter_append ..

theorem parentheses_cons (c : Char) (s : List Char) :
    parentheses (c :: s) = if c = '(' ∨ c = ')' then c :: parentheses s else parentheses s := by
  simp [parentheses, List.filter_cons]

@[simp] theorem parentheses_open (s : List Char) : parentheses ('(' :: s) = '(' :: parentheses s :=
  rfl

@[simp] theorem parentheses_close (s : List Char) : parentheses (')' :: s) = ')' :: parentheses s :=
  rfl

/-- A text without parentheses. -/
theorem parentheses_eq_nil (hopen : '(' ∉ s) (hclose : ')' ∉ s) : parentheses s = [] := by
  apply List.filter_eq_nil_iff.mpr
  intro c hc
  rw [Bool.or_eq_true, beq_iff_eq, beq_iff_eq]
  rintro (rfl | rfl) <;> contradiction

theorem count_parentheses (hc : c = '(' ∨ c = ')') (s : List Char) :
    (parentheses s).count c = s.count c :=
  List.count_filter (by rcases hc with rfl | rfl <;> rfl)

/-- Texts of the same parentheses have as many of either kind. -/
theorem count_eq_of_parentheses_eq (h : parentheses s = parentheses t) :
    s.count '(' = t.count '(' ∧ s.count ')' = t.count ')' := by
  constructor
  · rw [← count_parentheses (.inl rfl) s, h, count_parentheses (.inl rfl)]
  · rw [← count_parentheses (.inr rfl) s, h, count_parentheses (.inr rfl)]

/-- Whether parentheses match is read off the parentheses alone. -/
theorem Closes.of_parentheses_eq (hs : Closes depth s) (h : parentheses s = parentheses t) :
    Closes depth t := by
  obtain ⟨opened, closed⟩ := count_eq_of_parentheses_eq h
  constructor
  · rw [← opened, ← closed]
    exact hs.count
  · rintro p ⟨q, rfl⟩
    rw [parentheses_append] at h
    obtain ⟨p', q', rfl, hp, -⟩ := List.filter_eq_append_iff.mp h
    obtain ⟨opened, closed⟩ := count_eq_of_parentheses_eq (s := p') (t := p) hp
    rw [← opened, ← closed]
    exact hs.bounded p' (List.prefix_append p' q')

/-- Whether there is a closing parenthesis is told by the parentheses alone. By induction on the
text, at every depth. -/
theorem isSome_splitAtClosing_parentheses (depth : Nat) (s : List Char) :
    (splitAtClosing depth (parentheses s)).isSome = (splitAtClosing depth s).isSome := by
  induction s generalizing depth with
  | nil => rfl
  | cons c s ih =>
    rw [parentheses_cons]
    split
    · unfold splitAtClosing
      split
      · rfl
      · simpa using ih _
    · rename_i hc
      rw [not_or] at hc
      rw [ih, splitAtClosing, if_neg (fun h => hc.2 h.1), openAfter, if_neg hc.1, if_neg hc.2]
      simp

/-- Whether a text is split is read off its parentheses alone, too. -/
theorem isSome_splitAtClosing_eq (h : parentheses s = parentheses t) :
    (splitAtClosing depth s).isSome = (splitAtClosing depth t).isSome := by
  rw [← isSome_splitAtClosing_parentheses, h, isSome_splitAtClosing_parentheses]

/-- Blanks are no parentheses. -/
theorem parentheses_trim (s : List Char) : parentheses (trim s) = parentheses s := by
  obtain ⟨before, after, hs, hbefore, hafter⟩ := exists_trim s
  have none : ∀ w : List Char, (∀ c ∈ w, isBlank c = true) → parentheses w = [] := by
    intro w hw
    apply parentheses_eq_nil <;> intro h <;> exact absurd (hw _ h) (by decide)
  conv => rhs; rw [hs, parentheses_append, parentheses_append, none before hbefore,
    none after hafter, List.nil_append, List.append_nil]

/-! ## Open parentheses -/

/-- A suffix leaves none open either, as its suffixes are suffixes of the text. -/
theorem LeavesNoneOpen.of_suffix (h : LeavesNoneOpen s) (ht : t <:+ s) : LeavesNoneOpen t :=
  fun u hu => h u (hu.trans ht)

theorem leavesNoneOpen_of_not_mem (h : '(' ∉ s) : LeavesNoneOpen s := by
  intro t ht
  rw [List.count_eq_zero_of_not_mem fun hm => h (ht.subset hm)]
  exact Nat.zero_le _

/-- Where all parentheses match, none is left open. -/
theorem Balanced.leavesNoneOpen (h : Balanced s) : LeavesNoneOpen s := by
  rintro t ⟨p, rfl⟩
  have total := h.count
  have start := h.bounded p (List.prefix_append p t)
  simp only [List.count_append] at total
  omega

end LitTiles
