import LitTiles.Effect.Body
import Mathlib.Data.List.TakeWhile
import Mathlib.Tactic.Conv
import Mathlib.Tactic.SplitIfs

/-!
# Words under the text passes

Both passes over an expression read words: runs of the characters that names are made of. Binding
texture calls starts nowhere but at the first character of a word, and remapping changes a word only
behind a point (`Swizzle.remap_point`); what is left of a word is copied by both (`CopiesWords`).
What the passes do with a text is shown by inductions of their own (`bindTexturesFrom_induction`,
`Swizzle.remap_induction`).
-/

namespace LitTiles

variable {c d : Char} {r s t w : List Char}

/-- A run of the characters that names are made of. -/
def IsWord (w : List Char) : Prop := ∀ c ∈ w, isWordChar c = true

instance (w : List Char) : Decidable (IsWord w) :=
  decidable_of_iff (w.all isWordChar = true) List.all_eq_true

/-- A text that does not go on with a word. -/
def Breaks (s : List Char) : Prop := s.takeWhile isWordChar = []

/-- A text breaks if its first character is none of a word. -/
theorem breaks_cons (h : isWordChar c = false) : Breaks (c :: r) := by simp [Breaks, h]

/-- The converse, for a text that has a first character. -/
theorem isWordChar_of_breaks (h : Breaks (c :: r)) : isWordChar c = false := by
  cases hc : isWordChar c with
  | false => rfl
  | true =>
    rw [Breaks, List.takeWhile_cons_of_pos hc] at h
    cases h

/-- What is taken off while it is a word is one. -/
theorem isWord_takeWhile (s : List Char) : IsWord (s.takeWhile isWordChar) := by
  intro c hc
  exact List.mem_takeWhile_imp hc

/-- Behind it the text breaks. By induction on the text. -/
theorem breaks_dropWhile (s : List Char) : Breaks (s.dropWhile isWordChar) := by
  induction s with
  | nil => rfl
  | cons c r ih =>
    cases hc : isWordChar c with
    | true => rwa [List.dropWhile_cons_of_pos hc]
    | false =>
      rw [List.dropWhile_cons_of_neg (by simp [hc])]
      exact breaks_cons hc

/-- A word in front of a break can be read off again; this is how a text is known to be split
uniquely. -/
theorem IsWord.takeWhile_append (hw : IsWord w) (hs : Breaks s) :
    (w ++ s).takeWhile isWordChar = w := by
  rw [List.takeWhile_append_of_pos hw, hs, List.append_nil]

/-- What is left when it was read off is the rest. -/
theorem IsWord.dropWhile_append (hw : IsWord w) (hs : Breaks s) :
    (w ++ s).dropWhile isWordChar = s := by
  rw [List.dropWhile_append_of_pos hw]
  cases s with
  | nil => rfl
  | cons c r => exact List.dropWhile_cons_of_neg (by simp [isWordChar_of_breaks hs])

/-- Two texts that break do so one behind the other, also if the first is empty. -/
theorem Breaks.append (hr : Breaks r) (hs : Breaks s) : Breaks (r ++ s) := by
  cases r with
  | nil => exact hs
  | cons c r => exact breaks_cons (isWordChar_of_breaks hr)

/-- A break at the end does not prolong the first word. -/
theorem Breaks.takeWhile_append (hs : Breaks s) (x : List Char) :
    (x ++ s).takeWhile isWordChar = x.takeWhile isWordChar := by
  conv => lhs; rw [← List.takeWhile_append_dropWhile (p := isWordChar) (l := x), List.append_assoc]
  exact (isWord_takeWhile x).takeWhile_append ((breaks_dropWhile x).append hs)

/-- Nor does it lose anything of what follows the first word. -/
theorem Breaks.dropWhile_append (hs : Breaks s) (x : List Char) :
    (x ++ s).dropWhile isWordChar = x.dropWhile isWordChar ++ s := by
  conv => lhs; rw [← List.takeWhile_append_dropWhile (p := isWordChar) (l := x), List.append_assoc]
  exact (isWord_takeWhile x).dropWhile_append ((breaks_dropWhile x).append hs)

/-- A pass that copies what is left of a word. -/
structure CopiesWords (pass : List Char → List Char) : Prop where
  /-- The characters of a word are copied. -/
  word : ∀ {w}, IsWord w → ∀ s, pass (w ++ s) = w ++ pass s
  /-- No word is made longer. -/
  breaks : ∀ {s}, Breaks s → Breaks (pass s)

variable {pass : List Char → List Char}

/-- A pass that copies words leaves the first word of a text. -/
theorem CopiesWords.takeWhile (h : CopiesWords pass) (s : List Char) :
    (pass s).takeWhile isWordChar = s.takeWhile isWordChar := by
  have word := isWord_takeWhile s
  conv => lhs; rw [← List.takeWhile_append_dropWhile (p := isWordChar) (l := s), h.word word]
  exact word.takeWhile_append (h.breaks (breaks_dropWhile s))

/-- What it makes of the rest does not depend on the word before. -/
theorem CopiesWords.dropWhile (h : CopiesWords pass) (s : List Char) :
    (pass s).dropWhile isWordChar = pass (s.dropWhile isWordChar) := by
  have word := isWord_takeWhile s
  conv => lhs; rw [← List.takeWhile_append_dropWhile (p := isWordChar) (l := s), h.word word]
  exact word.dropWhile_append (h.breaks (breaks_dropWhile s))

/-! ## Blanks -/

/-- The letters from `A` to `Z` and from `a` to `z`, the digits and `_`. -/
theorem isWordChar_iff (c : Char) : isWordChar c = true ↔
    (65 ≤ c.val ∧ c.val ≤ 90 ∨ 97 ≤ c.val ∧ c.val ≤ 122 ∨ 48 ≤ c.val ∧ c.val ≤ 57) ∨ c = '_' := by
  have ranges : isWordChar c = (decide (65 ≤ c.val ∧ c.val ≤ 90) || (97 ≤ c.val && c.val ≤ 122) ||
      (48 ≤ c.val && c.val ≤ 57) || c == '_') := rfl
  simp only [ranges, Bool.or_eq_true, Bool.and_eq_true, decide_eq_true_eq, beq_iff_eq, or_assoc]

/-- Blanks are none of the characters that mean something. -/
theorem isBlank_spec (h : isBlank c = true) : isWordChar c = false ∧ c ≠ '.' ∧ c ≠ '(' := by
  have number : c.toNat = c.val.toNat := rfl
  simp only [isBlank, Bool.or_eq_true, Bool.and_eq_true, beq_iff_eq, decide_eq_true_eq, number] at h
  refine ⟨?_, ?_, ?_⟩
  · rw [Bool.eq_false_iff]
    intro hw
    simp only [isWordChar_iff, UInt32.le_iff_toNat_le] at hw
    rcases hw with (hw | hw | hw) | rfl
    · simp at hw
      omega
    · simp at hw
      omega
    · simp at hw
      omega
    · simp at h
  · rintro rfl
    simp at h
  · rintro rfl
    simp at h

/-- Trimming takes off the blanks at the front, and they can be put back. -/
theorem takeWhile_append_trimStart (s : List Char) : s.takeWhile isBlank ++ trimStart s = s :=
  List.takeWhile_append_dropWhile

/-- What is trimmed away is blank. -/
theorem exists_trim (s : List Char) :
    ∃ before after, s = before ++ trim s ++ after ∧ (∀ c ∈ before, isBlank c = true) ∧
      ∀ c ∈ after, isBlank c = true := by
  refine ⟨s.takeWhile isBlank, ((trimStart s).reverse.takeWhile isBlank).reverse, ?_, ?_, ?_⟩
  · rw [List.append_assoc, trim, trimEnd, ← List.reverse_append, List.takeWhile_append_dropWhile,
      List.reverse_reverse, takeWhile_append_trimStart]
  · intro c hc
    exact List.mem_takeWhile_imp hc
  · intro c hc
    exact List.mem_takeWhile_imp (List.mem_reverse.mp hc)

/-! ## Texture calls -/

/-- A split at the closing parenthesis loses nothing but this parenthesis, at whatever depth it was
reached. -/
theorem splitAtClosing_eq {depth : Nat} {p : List Char × List Char}
    (h : splitAtClosing depth s = some p) :
    s = p.1 ++ ')' :: p.2 := by
  induction s generalizing depth p with
  | nil => cases h
  | cons c r ih =>
    unfold splitAtClosing at h
    split at h
    · rename_i hc
      obtain rfl := Option.some.inj h
      rw [hc.1]
      rfl
    · obtain ⟨q, hq, rfl⟩ := Option.map_eq_some_iff.mp h
      rw [ih hq]
      rfl

theorem TextureCall.opening_eq :
    opening = ['t', 'e', 'x', 't', 'u', 'r', 'e', '('] := by decide +kernel

/-! ## Binding -/

variable {format : SampleFormat} {b : Bool}

theorem bindTexturesFrom_nil (format : SampleFormat) (b : Bool) :
    bindTexturesFrom format b [] = [] := by
  rw [bindTexturesFrom]

/-- Where no call starts, a character is copied. -/
theorem bindTexturesFrom_cons (h : b = true → TextureCall.atStart? (c :: r) = none) :
    bindTexturesFrom format b (c :: r) = c :: bindTexturesFrom format (!isWordChar c) r := by
  rw [bindTexturesFrom]
  split
  · rename_i k hk
    split at hk
    · rename_i hb
      rw [h hb] at hk
      cases hk
    · cases hk
  · rfl

/-- Where one starts, it is written in the other language. -/
theorem bindTexturesFrom_call {k : TextureCall} (h : TextureCall.atStart? s = some k) :
    bindTexturesFrom format true s =
      format k.channel (bindTexturesFrom format true k.args) ++
      bindTexturesFrom format true k.rest := by
  cases s with
  | nil => cases h
  | cons c r =>
    rw [bindTexturesFrom]
    split
    · rename_i k' hk
      rw [if_pos rfl, h] at hk
      obtain rfl := Option.some.inj hk
      rfl
    · rename_i hk
      rw [if_pos rfl, h] at hk
      cases hk

/-- What holds of all texts as they are bound: of a call, if it does of its arguments and of the
text behind it, and of a character that is copied, if it does of the text behind. -/
@[elab_as_elim]
theorem bindTexturesFrom_induction {motive : Bool → List Char → Prop} (b : Bool) (s : List Char)
    (nil : ∀ b, motive b [])
    (call : ∀ s k, TextureCall.atStart? s = some k → motive true k.args →
      motive true k.rest → motive true s)
    (cons : ∀ b c r, (b = true → TextureCall.atStart? (c :: r) = none) → motive (!isWordChar c) r →
      motive b (c :: r)) :
    motive b s := by
  induction b, s using bindTexturesFrom.induct with
  | case1 b => exact nil b
  | case2 b c r k hk _ ihargs ihrest =>
    split at hk
    · rename_i hb
      subst hb
      exact call (c :: r) k hk ihargs ihrest
    · cases hk
  | case3 b c r hk ih =>
    refine cons b c r ?_ ih
    rintro rfl
    exact hk

/-- Where no call starts, it does not matter whether one might. -/
theorem bindTexturesFrom_eq_false (h : b = true → TextureCall.atStart? s = none) :
    bindTexturesFrom format b s = bindTexturesFrom format false s := by
  cases s with
  | nil => rw [bindTexturesFrom_nil, bindTexturesFrom_nil]
  | cons c r => rw [bindTexturesFrom_cons h, bindTexturesFrom_cons (by simp)]

/-- Binding copies words, since a call is only recognized by an opening with its parenthesis, and
that is not within a word. -/
theorem copiesWords_bindTexturesFrom (format : SampleFormat) :
    CopiesWords (bindTexturesFrom format false) where
  word := by
    intro w hw s
    induction w with
    | nil => rfl
    | cons c w ih =>
      obtain ⟨hc, hw⟩ := List.forall_mem_cons.mp hw
      rw [List.cons_append, bindTexturesFrom_cons (by simp), hc]
      exact congrArg (c :: ·) (ih hw)
  breaks := by
    intro s hs
    cases s with
    | nil => rwa [bindTexturesFrom_nil]
    | cons c r =>
      rw [bindTexturesFrom_cons (by simp)]
      exact breaks_cons (isWordChar_of_breaks hs)

/-! ## Remapping -/

namespace Swizzle

variable {m : Swizzle}

/-- What becomes of the name of a member. -/
def rename (m : Swizzle) (member : List Char) : List Char :=
  if isSwizzle member then member.map m.apply else member

theorem remap_nil (m : Swizzle) : m.remap [] = [] := by rw [remap]

/-- Where no run of components follows, a character is copied. -/
theorem remap_copy (h : ¬ (c = '.' ∧ isSwizzle (r.takeWhile isWordChar) = true)) :
    m.remap (c :: r) = c :: m.remap r := by
  rw [remap]
  exact if_neg h

/-- Whatever is no point is copied. -/
theorem remap_cons (hc : c ≠ '.') : m.remap (c :: r) = c :: m.remap r := remap_copy fun h => hc h.1

/-- A word that is not behind a point is copied, character by character. -/
theorem remap_word (hw : IsWord w) (s : List Char) : m.remap (w ++ s) = w ++ m.remap s := by
  induction w with
  | nil => rfl
  | cons c w ih =>
    obtain ⟨hc, hw⟩ := List.forall_mem_cons.mp hw
    have point : c ≠ '.' := by
      rintro rfl
      cases hc
    rw [List.cons_append, remap_cons point, ih hw]
    rfl

/-- Behind a point there is a member. -/
theorem remap_point (r : List Char) :
    m.remap ('.' :: r) = '.' ::
    (m.rename (r.takeWhile isWordChar) ++ m.remap (r.dropWhile isWordChar)) := by
  rw [remap, rename]
  by_cases h : isSwizzle (r.takeWhile isWordChar) = true
  · rw [if_pos h]
    exact if_pos ⟨rfl, h⟩
  · rw [if_neg h, ← remap_word (isWord_takeWhile r), List.takeWhile_append_dropWhile]
    exact if_neg fun hc => h hc.2

/-- A word behind a point that is a swizzle is changed letter by letter, up to the break behind it.
A swizzle that is only part of a longer word is not. -/
theorem remap_run (hw : IsWord w) (hs : Breaks s) (h : isSwizzle w = true) :
    m.remap ('.' :: (w ++ s)) = '.' :: (w.map m.apply ++ m.remap s) := by
  rw [remap_point, hw.takeWhile_append hs, hw.dropWhile_append hs, rename, if_pos h]

/-- What holds of all texts as they are remapped: of a run of components behind a point, if it does
of the text behind it, and of a character that is copied, if it does of the text behind. -/
@[elab_as_elim]
theorem remap_induction {motive : List Char → Prop} (s : List Char) (nil : motive [])
    (run : ∀ w t, IsWord w → Breaks t → isSwizzle w = true → motive t → motive ('.' :: (w ++ t)))
    (cons : ∀ c r, ¬ (c = '.' ∧ isSwizzle (r.takeWhile isWordChar) = true) → motive r →
      motive (c :: r)) :
    motive s := by
  induction s using remap.induct with
  | case1 => exact nil
  | case2 c r member h ih =>
    obtain ⟨rfl, hmember⟩ := h
    have whole := run member _ (isWord_takeWhile r) (breaks_dropWhile r) hmember ih
    rwa [List.takeWhile_append_dropWhile] at whole
  | case3 c r member h ih => exact cons c r h ih

/-- Remapping copies words. -/
theorem copiesWords_remap (m : Swizzle) : CopiesWords m.remap where
  word := remap_word
  breaks := by
    intro s hs
    cases s with
    | nil => rwa [remap_nil]
    | cons c r =>
      by_cases hp : c = '.'
      · subst hp
        rw [remap_point]
        exact breaks_cons rfl
      · rw [remap_cons hp]
        exact breaks_cons (isWordChar_of_breaks hs)

end Swizzle

end LitTiles
