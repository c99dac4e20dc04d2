import LitTiles.Program.Dialect
import LitTiles.Proofs.Effect.Calls

/-!
# References to uniforms

An expression refers to a uniform by a member access: the word `uniforms`, a point and a name
(`accessesFrom`). A name with an opening parenthesis behind it is that of a function and no member.

Binding texture calls keeps all accesses (`accessesFrom_bindTexturesFrom`), since the calls of all
languages set their arguments off from the text around. Remapping keeps them but for the names of
one to four component letters (`accessesFrom_remap`), which it takes for components.
-/

namespace LitTiles

variable {b : Bool} {c d : Char} {r s t w x : List Char}

/-! ## Accesses -/

/-- The name of the uniform block in effects. -/
def blockName : List Char := ['u', 'n', 'i', 'f', 'o', 'r', 'm', 's']

/-- The member that is named at the start of a text, if it is not the name of a function. -/
def member? (s : List Char) : Option (List Char) :=
  let name := s.takeWhile isWordChar
  if name = [] ∨ (s.dropWhile isWordChar).head? = some '(' then none else some name

/-- The member of the uniform block that is accessed at the start of a text. -/
def access? (s : List Char) : Option (List Char) :=
  if s.takeWhile isWordChar = blockName then
    match s.dropWhile isWordChar with
    | '.' :: t => member? t
    | _ => none
  else none

/-- The members of the uniform block that a text accesses, in order. The first character may start a
word or may not. -/
def accessesFrom (mayStart : Bool) : List Char → List (List Char)
  | [] => []
  | c :: r => (if mayStart then (access? (c :: r)).toList else []) ++ accessesFrom (!isWordChar c) r

theorem access?_of_breaks (h : Breaks s) : access? s = none := by
  have other : s.takeWhile isWordChar ≠ blockName := by
    rw [h]
    decide
  exact if_neg other

/-- A character that means something neither in a word nor in an access. -/
structure IsSeparator (d : Char) : Prop where
  /-- It ends a word. -/
  word : isWordChar d = false
  /-- It does not lead to a member. -/
  point : d ≠ '.'
  /-- It does not make a name that of a function. -/
  opening : d ≠ '('

instance (d : Char) : Decidable (IsSeparator d) :=
  decidable_of_iff (isWordChar d = false ∧ d ≠ '.' ∧ d ≠ '(')
    ⟨fun ⟨word, point, opening⟩ => ⟨word, point, opening⟩, fun h => ⟨h.word, h.point, h.opening⟩⟩

theorem isSeparator_of_isBlank (h : isBlank d = true) : IsSeparator d := by
  obtain ⟨word, point, opening⟩ := isBlank_spec h
  exact ⟨word, point, opening⟩

/-- What is before a separator does not see what is behind it. -/
theorem member?_append (hd : IsSeparator d) (x s : List Char) :
    member? (x ++ d :: s) = member? x := by
  have breaks : Breaks (d :: s) := breaks_cons hd.word
  have applied : (x.dropWhile isWordChar ++ d :: s).head? = some '(' ↔
      (x.dropWhile isWordChar).head? = some '(' := by
    cases x.dropWhile isWordChar with
    | nil => simp [hd.opening]
    | cons c r => simp
  simp only [member?, breaks.takeWhile_append, breaks.dropWhile_append, applied]

theorem access?_append (hd : IsSeparator d) (x s : List Char) :
    access? (x ++ d :: s) = access? x := by
  have breaks : Breaks (d :: s) := breaks_cons hd.word
  simp only [access?, breaks.takeWhile_append, breaks.dropWhile_append]
  split
  · cases x.dropWhile isWordChar with
    | nil =>
      rw [List.nil_append]
      split
      · rename_i t ht
        exact absurd (List.cons.inj ht).1 hd.point
      · rfl
    | cons c r =>
      by_cases hc : c = '.'
      · subst hc
        exact member?_append hd r s
      · simp [hc]
  · rfl

/-- The accesses of a text are those before a separator and those behind it. -/
theorem accessesFrom_append (hd : IsSeparator d) (b : Bool) (x s : List Char) :
    accessesFrom b (x ++ d :: s) = accessesFrom b x ++ accessesFrom true s := by
  induction x generalizing b with
  | nil =>
    have none : access? (d :: s) = none := access?_of_breaks (breaks_cons hd.word)
    simp [accessesFrom, none, hd.word]
  | cons c x ih =>
    have same := access?_append hd (c :: x) s
    rw [List.cons_append] at same
    rw [List.cons_append, accessesFrom, accessesFrom, same, ih, List.append_assoc]

/-- Without a point there is no access. -/
theorem accessesFrom_of_not_mem (h : '.' ∉ s) (b : Bool) : accessesFrom b s = [] := by
  induction s generalizing b with
  | nil => rfl
  | cons c r ih =>
    have none : access? (c :: r) = none := by
      unfold access?
      split
      · split
        · rename_i t ht
          have : '.' ∈ (c :: r).dropWhile isWordChar := by simp [ht]
          exact absurd ((List.dropWhile_suffix isWordChar).subset this) h
        · rfl
      · rfl
    rw [accessesFrom, none, ih fun hr => h (List.mem_cons_of_mem c hr)]
    simp

theorem accessesFrom_cons_of_not_word (hc : isWordChar c = false) (b : Bool) (r : List Char) :
    accessesFrom b (c :: r) = accessesFrom true r := by
  rw [accessesFrom, access?_of_breaks (breaks_cons hc), hc]
  simp

theorem accessesFrom_blanks (h : ∀ c ∈ w, isBlank c = true) (s : List Char) :
    accessesFrom true (w ++ s) = accessesFrom true s := by
  induction w with
  | nil => rfl
  | cons c w ih =>
    obtain ⟨hc, hw⟩ := List.forall_mem_cons.mp h
    rw [List.cons_append, accessesFrom_cons_of_not_word (isBlank_spec hc).1, ih hw]

/-- Blanks at the ends of a text make no difference. -/
theorem accessesFrom_trim (s : List Char) : accessesFrom true (trim s) = accessesFrom true s := by
  obtain ⟨before, after, hs, hbefore, hafter⟩ := exists_trim s
  have back : accessesFrom true (trim s ++ after) = accessesFrom true (trim s) := by
    cases after with
    | nil => rw [List.append_nil]
    | cons c after =>
      obtain ⟨hc, hafter⟩ := List.forall_mem_cons.mp hafter
      have point : '.' ∉ after := fun h => (isBlank_spec (hafter _ h)).2.1 rfl
      rw [accessesFrom_append (isSeparator_of_isBlank hc),
        accessesFrom_of_not_mem point, List.append_nil]
  conv => rhs; rw [hs, List.append_assoc, accessesFrom_blanks hbefore, back]

/-- Inside a word no access starts. -/
theorem accessesFrom_false_word (hw : IsWord w) (s : List Char) :
    accessesFrom false (w ++ s) = accessesFrom false s := by
  induction w with
  | nil => rfl
  | cons c w ih =>
    obtain ⟨hc, hw⟩ := List.forall_mem_cons.mp hw
    rw [List.cons_append, accessesFrom, hc]
    exact ih hw

/-- None starts with a word other than the name of the block. -/
theorem accessesFrom_word (hw : IsWord w) (hne : w ≠ []) (hother : w ≠ blockName)
    (hs : Breaks s) (b : Bool) :
    accessesFrom b (w ++ s) = accessesFrom false s := by
  have none : access? (w ++ s) = none := by
    rw [access?, hw.takeWhile_append hs, if_neg hother]
  cases w with
  | nil => exact absurd rfl hne
  | cons c w =>
    obtain ⟨hc, hw⟩ := List.forall_mem_cons.mp hw
    rw [List.cons_append] at none ⊢
    rw [accessesFrom, none, hc]
    simpa using accessesFrom_false_word hw s

/-! ## Calls -/

/-- The name of a function is no member. -/
theorem member?_function (hw : IsWord w) (s : List Char) : member? (w ++ '(' :: s) = none := by
  have breaks : Breaks ('(' :: s) := breaks_cons rfl
  simp only [member?, hw.dropWhile_append breaks, List.head?_cons, or_true, if_true]

theorem accessesFrom_function (hw : IsWord w) (hne : w ≠ []) (hother : w ≠ blockName)
    (s : List Char) :
    accessesFrom true (w ++ '(' :: s) = accessesFrom true s := by
  rw [accessesFrom_word hw hne hother (breaks_cons rfl), accessesFrom_cons_of_not_word rfl]

/-- A call accesses what its arguments do. -/
theorem accessesFrom_call {k : TextureCall} (h : TextureCall.atStart? s = some k) :
    accessesFrom true s = accessesFrom true k.args ++ accessesFrom true k.rest ∧
    member? s = none := by
  obtain ⟨w, hw, rfl, -, hargs⟩ := TextureCall.atStart?_eq_some_iff.mp h
  have word := TextureCall.isWord_function
  have point : '.' ∉ w.lead ++ (w.channel ++ w.gap) := hw.not_mem_head rfl rfl
  rw [w.text_append, w.head_eq, List.append_assoc, List.cons_append]
  constructor
  · rw [accessesFrom_function word (by decide) (by decide), accessesFrom_append (by decide),
      accessesFrom_append (by decide), accessesFrom_of_not_mem point, hargs, accessesFrom_trim,
      List.nil_append]
  · exact member?_function word _

/-- The calls of a language access what their arguments do. -/
structure Transparent (format : SampleFormat) : Prop where
  /-- A call starts with the name of a function. -/
  member : ∀ n x s, member? (format n x ++ s) = none
  /-- There is nothing else that it accesses. -/
  accesses : ∀ n x s, accessesFrom true (format n x ++ s) = accessesFrom true x ++
    accessesFrom true s

variable {format : SampleFormat}

/-- Binding calls keeps the member that is named at the start of a text. -/
theorem member?_bindTexturesFrom (hf : Transparent format) (s : List Char) :
    member? (bindTexturesFrom format true s) = member? s := by
  cases hk : TextureCall.atStart? s with
  | some k =>
    rw [bindTexturesFrom_call hk, hf.member]
    exact (accessesFrom_call hk).2.symm
  | none =>
    have copies := copiesWords_bindTexturesFrom format
    have head : (bindTexturesFrom format false (s.dropWhile isWordChar)).head? =
        (s.dropWhile isWordChar).head? := by
      cases s.dropWhile isWordChar with
      | nil => rw [bindTexturesFrom_nil]
      | cons c r =>
        rw [bindTexturesFrom_cons (by simp)]
        rfl
    rw [bindTexturesFrom_eq_false fun _ => hk]
    simp only [member?, copies.takeWhile, copies.dropWhile, head]

theorem access?_bindTexturesFrom (hf : Transparent format) (s : List Char) :
    access? (bindTexturesFrom format false s) = access? s := by
  have copies := copiesWords_bindTexturesFrom format
  simp only [access?, copies.takeWhile, copies.dropWhile]
  split
  · cases s.dropWhile isWordChar with
    | nil => rw [bindTexturesFrom_nil]
    | cons c r =>
      rw [bindTexturesFrom_cons (by simp)]
      by_cases hc : c = '.'
      · subst hc
        exact member?_bindTexturesFrom hf r
      · simp [hc]
  · rfl

/-- **Binding texture calls keeps all accesses.** -/
theorem accessesFrom_bindTexturesFrom (hf : Transparent format) (b : Bool) (s : List Char) :
    accessesFrom b (bindTexturesFrom format b s) = accessesFrom b s := by
  induction b, s using bindTexturesFrom_induction with
  | nil b => rw [bindTexturesFrom_nil]
  | call s k hk ihargs ihrest =>
    rw [bindTexturesFrom_call hk, hf.accesses, ihargs, ihrest]
    exact (accessesFrom_call hk).1.symm
  | cons b c r start ih =>
    have same := access?_bindTexturesFrom hf (c :: r)
    rw [← bindTexturesFrom_eq_false start, bindTexturesFrom_cons start] at same
    rw [bindTexturesFrom_cons start, accessesFrom, accessesFrom, same, ih]

/-- A call of a name, some text without accesses, the arguments, and more text without any. -/
theorem Transparent.of_shape (lead : Nat → List Char) (u : List Char) (hw : IsWord w) (hne : w ≠ [])
    (hother : w ≠ blockName) (hlead : ∀ n, '.' ∉ lead n)
    (hu : ∀ x, accessesFrom true (x ++ u) = accessesFrom true x)
    (shape : ∀ n x, format n x = w ++ '(' :: (lead n ++ ' ' :: (x ++ u ++ [')']))) :
    Transparent format where
  member := by
    intro n x s
    rw [shape, List.append_assoc]
    exact member?_function hw _
  accesses := by
    intro n x s
    have grouped : format n x ++ s = w ++ '(' :: (lead n ++ ' ' :: (x ++ u ++ ')' :: s)) := by
      rw [shape]
      simp only [List.append_assoc, List.cons_append, List.nil_append]
    rw [grouped, accessesFrom_function hw hne hother, accessesFrom_append (by decide),
      accessesFrom_of_not_mem (hlead n), List.nil_append, accessesFrom_append (by decide), hu]

/-! ## Components -/

namespace Swizzle

variable {m : Swizzle}

/-- The letters of a language can stand in names. -/
def NamesLetters (m : Swizzle) : Prop := ∀ c, isWordChar c = true → isWordChar (m.apply c) = true

theorem isWord_rename (hm : m.NamesLetters) (hw : IsWord w) : IsWord (m.rename w) := by
  unfold rename
  split
  · intro c hc
    obtain ⟨a, ha, rfl⟩ := List.mem_map.mp hc
    exact hm a (hw a ha)
  · exact hw

theorem rename_eq_nil : m.rename w = [] ↔ w = [] := by
  unfold rename
  split
  · exact List.map_eq_nil_iff
  · rfl

/-- Remapping keeps what is behind a name. -/
theorem head?_remap (m : Swizzle) (s : List Char) : (m.remap s).head? = s.head? := by
  cases s with
  | nil => rw [remap_nil]
  | cons c r =>
    by_cases hp : c = '.'
    · subst hp
      rw [remap_point]
      rfl
    · rw [remap_cons hp]
      rfl

theorem member?_remap (hm : m.NamesLetters) (r : List Char) :
    member? (m.rename (r.takeWhile isWordChar) ++ m.remap (r.dropWhile isWordChar)) =
      (member? r).map m.rename := by
  have word := isWord_rename hm (isWord_takeWhile r)
  have breaks := (copiesWords_remap m).breaks (breaks_dropWhile r)
  simp only [member?, word.takeWhile_append breaks, word.dropWhile_append breaks,
    head?_remap, rename_eq_nil]
  split
  · rfl
  · rfl

theorem access?_remap (hm : m.NamesLetters) (s : List Char) :
    access? (m.remap s) = (access? s).map m.rename := by
  have copies := copiesWords_remap m
  simp only [access?, copies.takeWhile, copies.dropWhile]
  split
  · cases s.dropWhile isWordChar with
    | nil =>
      rw [remap_nil]
      rfl
    | cons c r =>
      by_cases hp : c = '.'
      · subst hp
        rw [remap_point]
        exact member?_remap hm r
      · rw [remap_cons hp]
        simp [hp]
  · rfl

/-- Components are too short for the name of the block. -/
theorem ne_blockName_of_isSwizzle (h : isSwizzle w = true) : w ≠ [] ∧ w ≠ blockName := by
  simp only [isSwizzle, Bool.and_eq_true, decide_eq_true_eq] at h
  constructor
  · rintro rfl
    exact absurd h.1.1 (by decide)
  · rintro rfl
    exact absurd h.1.2 (by decide)

/-- **Remapping keeps all accesses, but for the names that it takes for components.** -/
theorem accessesFrom_remap (hm : m.NamesLetters) (b : Bool) (s : List Char) :
    accessesFrom b (m.remap s) = (accessesFrom b s).map m.rename := by
  induction s using remap_induction generalizing b with
  | nil =>
    rw [remap_nil]
    rfl
  | run w t word breaks hrun ih =>
    -- neither the components nor what they become are an access
    obtain ⟨hne, hother⟩ := ne_blockName_of_isSwizzle hrun
    have renamed : m.rename w = w.map m.apply := if_pos hrun
    have short : m.rename w ≠ blockName := by
      intro heq
      have length := congrArg List.length heq
      rw [renamed, List.length_map] at length
      simp only [isSwizzle, Bool.and_eq_true, decide_eq_true_eq] at hrun
      exact absurd (length ▸ hrun.1.2) (by decide)
    have left := accessesFrom_word (isWord_rename hm word) (mt rename_eq_nil.mp hne) short
      ((copiesWords_remap m).breaks breaks) true
    have right := accessesFrom_word word hne hother breaks true
    rw [renamed] at left
    rw [remap_run word breaks hrun, accessesFrom_cons_of_not_word rfl,
      accessesFrom_cons_of_not_word rfl, left, right, ih]
  | cons c r h ih =>
    have same := access?_remap hm (c :: r)
    rw [remap_copy h] at same
    rw [remap_copy h, accessesFrom, accessesFrom, same, ih, List.map_append]
    cases b with
    | false => rfl
    | true => cases access? (c :: r) <;> rfl

end Swizzle

end LitTiles
