import LitTiles.Proofs.Effect.Parentheses

/-!
# Texture calls in a text

A call that can be bound is described as it is written (`WrittenCall`), apart from how it is read;
the two are the same (`TextureCall.atStart?_eq_some_iff`). A text is `Settled` if none stands in it,
at any depth of parentheses (`settled_iff_forall_not_standsIn`).
-/

namespace LitTiles

variable {b : Bool} {c d : Char} {r s t u x : List Char}

/-- A call of `texture` as it is written. -/
structure WrittenCall where
  /-- What is written in front of the channel. -/
  lead : List Char
  /-- The channel. -/
  channel : List Char
  /-- What is written between the channel and the comma. -/
  gap : List Char
  /-- What is written between the comma and the closing parenthesis. -/
  args : List Char

namespace WrittenCall

/-- The call up to its comma. -/
def head (w : WrittenCall) : List Char := TextureCall.opening ++ (w.lead ++ (w.channel ++ w.gap))

/-- The whole call. -/
def text (w : WrittenCall) : List Char := w.head ++ ',' :: (w.args ++ [')'])

/-- The number that is written for the channel. -/
def number (w : WrittenCall) : Nat := Nat.ofDigitChars 10 w.channel 0

/-- The call can be bound: a decimal number of a channel stands between blanks in front of the
comma, and the closing parenthesis is the one that matches the first. -/
structure Bindable (w : WrittenCall) : Prop where
  /-- There are only blanks in front of the channel. -/
  lead : ∀ c ∈ w.lead, isBlank c = true
  /-- There is a channel. -/
  written : w.channel ≠ []
  /-- It is written with digits. -/
  digits : ∀ c ∈ w.channel, c.isDigit = true
  /-- Its number is one of a channel. -/
  number_lt : w.number < maxChannels
  /-- There are only blanks behind the channel. -/
  gap : ∀ c ∈ w.gap, isBlank c = true
  /-- All parentheses of the arguments match. -/
  args : Balanced w.args

/-- The call stands in a text, where a word can start. -/
def StandsIn (w : WrittenCall) (s : List Char) : Prop :=
  ∃ before after, s = before ++ w.text ++ after ∧ ∀ c ∈ before.getLast?, isWordChar c = false

theorem text_append (w : WrittenCall) (s : List Char) :
    w.text ++ s = w.head ++ ',' :: (w.args ++ ')' :: s) := by
  simp only [text, List.append_assoc, List.cons_append, List.nil_append]

end WrittenCall

/-- The name of the function that is called. -/
def TextureCall.function : List Char := ['t', 'e', 'x', 't', 'u', 'r', 'e']

theorem TextureCall.isWord_function : IsWord function := by decide

/-! ## Reading and writing -/

theorem isBlank_of_isDigit (h : c.isDigit = true) : isBlank c = false := by
  rw [Bool.eq_false_iff]
  intro hb
  obtain ⟨word, -, -⟩ := isBlank_spec hb
  simp [isWordChar, Char.isAlphanum, h] at word

theorem isDigit_of_isBlank (h : isBlank c = true) : c.isDigit = false := by
  rw [Bool.eq_false_iff]
  intro hd
  rw [isBlank_of_isDigit hd] at h
  cases h

/-- What is in front of a comma is told apart from it. -/
theorem span_append_cons {p : Char → Bool} (hx : ∀ c ∈ x, p c = true) (hd : p d = false)
    (s : List Char) :
    (x ++ d :: s).takeWhile p = x ∧ (x ++ d :: s).dropWhile p = d :: s := by
  have neg : ¬ p d = true := by simp [hd]
  rw [List.takeWhile_append_of_pos hx, List.dropWhile_append_of_pos hx,
    List.takeWhile_cons_of_neg neg, List.dropWhile_cons_of_neg neg, List.append_nil]
  exact ⟨rfl, rfl⟩

namespace WrittenCall

variable {w : WrittenCall}

theorem head_eq (w : WrittenCall) :
    w.head = TextureCall.function ++ '(' :: (w.lead ++ (w.channel ++ w.gap)) := by
  rw [head, TextureCall.opening_eq]
  rfl

/-- In front of its comma, a call has blanks and digits only. -/
theorem Bindable.blank_or_digit (hw : w.Bindable) :
    ∀ c ∈ w.lead ++ (w.channel ++ w.gap), isBlank c = true ∨ c.isDigit = true := by
  simp only [List.mem_append]
  rintro c (hc | hc | hc)
  · exact .inl (hw.lead c hc)
  · exact .inr (hw.digits c hc)
  · exact .inl (hw.gap c hc)

theorem Bindable.not_mem_head (hw : w.Bindable) (hblank : isBlank c = false)
    (hdigit : c.isDigit = false) :
    c ∉ w.lead ++ (w.channel ++ w.gap) := by
  intro hmem
  rcases hw.blank_or_digit c hmem with h | h
  · rw [hblank] at h
    cases h
  · rw [hdigit] at h
    cases h

theorem starts_with_opening (w : WrittenCall) (s : List Char) :
    TextureCall.opening <+: w.text ++ s := by
  rw [w.text_append, head, List.append_assoc]
  exact List.prefix_append ..

/-- What is left of a call and the text behind it when its opening and the blanks there have been
passed. -/
theorem Bindable.trimStart_drop (hw : w.Bindable) (s : List Char) :
    trimStart ((w.text ++ s).drop TextureCall.opening.length) =
      w.channel ++ (w.gap ++ ',' :: (w.args ++ ')' :: s)) := by
  have behind : w.text ++ s =
      TextureCall.opening ++ (w.lead ++ (w.channel ++ (w.gap ++ ',' :: (w.args ++ ')' :: s)))) := by
    simp only [text_append, head, List.append_assoc]
  rw [behind, List.drop_left]
  obtain ⟨d, digits, hdigits⟩ := List.exists_cons_of_ne_nil hw.written
  have blank : isBlank d = false := isBlank_of_isDigit (hw.digits d (by simp [hdigits]))
  rw [hdigits]
  exact (span_append_cons hw.lead blank _).2

/-- The channel is told apart from what is behind it. -/
theorem Bindable.span_channel (hw : w.Bindable) (s : List Char) :
    (w.channel ++ (w.gap ++ ',' :: (w.args ++ ')' :: s))).takeWhile Char.isDigit = w.channel ∧
    (w.channel ++ (w.gap ++ ',' :: (w.args ++ ')' :: s))).dropWhile Char.isDigit =
      w.gap ++ ',' :: (w.args ++ ')' :: s) := by
  cases hgap : w.gap with
  | nil => exact span_append_cons hw.digits rfl _
  | cons d gap =>
    exact span_append_cons hw.digits (isDigit_of_isBlank (hw.gap d (by simp [hgap]))) _

/-- A call that can be bound is read where it is written. -/
theorem Bindable.atStart?_text (hw : w.Bindable) (s : List Char) :
    TextureCall.atStart? (w.text ++ s) = some ⟨w.number, trim w.args, s⟩ := by
  -- what is left behind the opening after each step of the reader
  have lead := hw.trimStart_drop s
  have channel := hw.span_channel s
  have gap : trimStart (w.gap ++ ',' :: (w.args ++ ')' :: s)) = ',' :: (w.args ++ ')' :: s) :=
    (span_append_cons hw.gap rfl _).2
  have small : ¬ maxChannels ≤ decimalValue w.channel := Nat.not_le.mpr hw.number_lt
  have written : w.channel.isEmpty = false := by simp [hw.written]
  have split : splitAtClosing 0 (w.args ++ ')' :: s) = some (w.args, s) :=
    splitAtClosing_eq_some_iff.mpr ⟨rfl, hw.args⟩
  rw [TextureCall.atStart?, if_pos (List.isPrefixOf_iff_prefix.mpr (w.starts_with_opening s)),
    TextureCall.afterOpening?]
  simp only [lead, channel, gap, written, Bool.false_eq_true, if_false, if_neg small,
    split, Option.map_some]
  rfl

end WrittenCall

namespace TextureCall

variable {k : TextureCall}

/-- What is read behind an opening is the rest of a call that can be bound. -/
theorem exists_bindable_of_afterOpening? (h : afterOpening? u = some k) :
    ∃ w : WrittenCall, w.Bindable ∧ opening ++ u = w.text ++ k.rest ∧ k.channel = w.number ∧
    k.args = trim w.args := by
  unfold afterOpening? at h
  simp only at h
  split_ifs at h with hnone hbound
  split at h
  · rename_i v hv
    obtain ⟨p, hp, rfl⟩ := Option.map_eq_some_iff.mp h
    obtain ⟨rfl, closes⟩ := splitAtClosing_eq_some_iff.mp hp
    -- the parts that were read off one after the other, as fields of a call
    let digits := (trimStart u).takeWhile Char.isDigit
    let behind := (trimStart u).dropWhile Char.isDigit
    have shape : u = u.takeWhile isBlank ++
        (digits ++ (behind.takeWhile isBlank ++ ',' :: (p.1 ++ ')' :: p.2))) := by
      rw [← hv, takeWhile_append_trimStart, List.takeWhile_append_dropWhile,
        takeWhile_append_trimStart]
    refine ⟨⟨u.takeWhile isBlank, digits, behind.takeWhile isBlank, p.1⟩, ?_, ?_, rfl, rfl⟩
    · exact {
        lead := fun c hc => List.mem_takeWhile_imp hc
        written := fun empty => hnone (List.isEmpty_iff.mpr empty)
        digits := fun c hc => List.mem_takeWhile_imp hc
        number_lt := Nat.not_le.mp hbound
        gap := fun c hc => List.mem_takeWhile_imp hc
        args := closes }
    · conv => lhs; rw [shape]
      simp only [WrittenCall.text_append, WrittenCall.head, List.append_assoc]
  · cases h

/-- **What is read as a call** is a call that can be bound. -/
theorem atStart?_eq_some_iff : atStart? s = some k ↔
    ∃ w : WrittenCall, w.Bindable ∧ s = w.text ++ k.rest ∧ k.channel = w.number ∧
    k.args = trim w.args := by
  constructor
  · intro h
    unfold atStart? at h
    split_ifs at h with hopening
    obtain ⟨u, rfl⟩ := List.isPrefixOf_iff_prefix.mp hopening
    rw [List.drop_left] at h
    exact exists_bindable_of_afterOpening? h
  · rintro ⟨w, hw, rfl, hchannel, hargs⟩
    rw [hw.atStart?_text, ← hchannel, ← hargs]

/-- Whether there is a call at the start of a text. -/
theorem isSome_atStart?_iff : (atStart? s).isSome = true ↔
    ∃ w : WrittenCall, w.Bindable ∧ ∃ after, s = w.text ++ after := by
  rw [Option.isSome_iff_exists]
  constructor
  · rintro ⟨k, hk⟩
    obtain ⟨w, hw, hs, -, -⟩ := atStart?_eq_some_iff.mp hk
    exact ⟨w, hw, k.rest, hs⟩
  · rintro ⟨w, hw, after, hs⟩
    exact ⟨⟨w.number, trim w.args, after⟩, atStart?_eq_some_iff.mpr ⟨w, hw, hs, rfl, rfl⟩⟩

end TextureCall

/-! ## Places -/

/-- Whether a word can start behind a text, from whether one can in front of it. -/
def mayStartBehind (mayStart : Bool) (s : List Char) : Bool :=
  s.foldl (fun _ c => !isWordChar c) mayStart

theorem mayStartBehind_append (b : Bool) (s t : List Char) :
    mayStartBehind b (s ++ t) = mayStartBehind (mayStartBehind b s) t :=
  List.foldl_append ..

theorem mayStartBehind_concat (b : Bool) (s : List Char) (c : Char) :
    mayStartBehind b (s ++ [c]) = !isWordChar c := by
  rw [mayStartBehind_append]
  rfl

/-- A word can start at the start of a text and behind any other character than those of words. -/
theorem mayStartBehind_true_iff : mayStartBehind true s = true ↔ ∀ c ∈ s.getLast?,
    isWordChar c = false := by
  cases s using List.reverseRecOn with
  | nil => simp [mayStartBehind]
  | append_singleton s c => simp [mayStartBehind_concat]

theorem mayStartBehind_blank (h : ∀ c ∈ s, isBlank c = true) : mayStartBehind true s = true := by
  apply mayStartBehind_true_iff.mpr
  intro c hc
  exact (isBlank_spec (h c (List.mem_of_getLast? hc))).1

/-- Behind a call a word can start. -/
theorem mayStartBehind_text (b : Bool) (s : List Char) (w : WrittenCall) :
    mayStartBehind b (s ++ w.text) = true := by
  rw [WrittenCall.text, ← List.cons_append, ← List.append_assoc, ← List.append_assoc,
    mayStartBehind_concat]
  rfl

/-- What follows has a property wherever a word can start in a text, of which the first character
may start one or may not. -/
def AtStarts (P : List Char → Prop) (mayStart : Bool) : List Char → Prop
  | [] => True
  | c :: r => (mayStart = true → P (c :: r)) ∧ AtStarts P (!isWordChar c) r

instance decidableAtStarts (P : List Char → Prop) [DecidablePred P] :
    (b : Bool) → (s : List Char) → Decidable (AtStarts P b s)
  | _, [] => isTrue trivial
  | b, c :: r =>
    have := decidableAtStarts P (!isWordChar c) r
    inferInstanceAs (Decidable ((b = true → P (c :: r)) ∧ AtStarts P (!isWordChar c) r))

theorem atStarts_iff {P : List Char → Prop} (hnil : P []) : AtStarts P b s ↔
    ∀ before after, s = before ++ after → mayStartBehind b before = true → P after := by
  induction s generalizing b with
  | nil =>
    refine iff_of_true trivial ?_
    intro before after h _
    obtain ⟨-, rfl⟩ := List.append_eq_nil_iff.mp h.symm
    exact hnil
  | cons c r ih =>
    rw [AtStarts, ih]
    -- an empty beginning is the start of the text, and a longer one is the start of a beginning of
    -- the rest
    constructor
    · rintro ⟨first, rest⟩ before after h hb
      cases before with
      | nil =>
        rw [List.nil_append] at h
        rw [← h]
        exact first hb
      | cons d before =>
        obtain ⟨rfl, htail⟩ := List.cons.inj h
        exact rest before after htail hb
    · intro h
      refine ⟨fun hb => h [] _ rfl hb, ?_⟩
      rintro before after rfl hb
      exact h (c :: before) after rfl hb

/-- What holds of all calls of a text that can be bound, by the places where they may start. -/
theorem forall_standsIn_iff {Q : WrittenCall → Prop} :
    (∀ w : WrittenCall, w.Bindable → w.StandsIn s → Q w) ↔
      AtStarts (fun t => ∀ w : WrittenCall, w.Bindable → ∀ after, t = w.text ++ after →
        Q w) true s := by
  have nil : ∀ w : WrittenCall, w.Bindable → ∀ after, [] = w.text ++ after → Q w := by
    intro w _ after h
    rw [w.text_append] at h
    simp at h
  rw [atStarts_iff nil]
  constructor
  · rintro h before _ hs hbefore w hw after rfl
    rw [← List.append_assoc] at hs
    exact h w hw ⟨before, after, hs, mayStartBehind_true_iff.mp hbefore⟩
  · rintro h w hw ⟨before, after, hs, hbefore⟩
    rw [List.append_assoc] at hs
    exact h before _ hs (mayStartBehind_true_iff.mpr hbefore) w hw after rfl

/-- No call that can be bound stands in a text, of which the first character may start a word or may
not. -/
def Settled : Bool → List Char → Prop := AtStarts fun t => TextureCall.atStart? t = none

/-- **Settled texts** are those in which no call that can be bound stands. -/
theorem settled_iff_forall_not_standsIn :
    Settled true s ↔ ∀ w : WrittenCall, w.Bindable → ¬ w.StandsIn s := by
  have none_iff : ∀ t : List Char, TextureCall.atStart? t = none ↔
      ∀ w : WrittenCall, w.Bindable → ∀ after, t = w.text ++ after → False := by
    intro t
    rw [← Option.not_isSome_iff_eq_none, TextureCall.isSome_atStart?_iff]
    constructor
    · rintro h w hw after rfl
      exact h ⟨w, hw, after, rfl⟩
    · rintro h ⟨w, hw, after, ht⟩
      exact h w hw after ht
  rw [Settled, funext fun t => propext (none_iff t), ← forall_standsIn_iff]

/-- Binding leaves a settled text alone. -/
theorem Settled.bindTexturesFrom_eq (format : SampleFormat) (h : Settled b s) :
    bindTexturesFrom format b s = s := by
  induction s generalizing b with
  | nil => exact bindTexturesFrom_nil format b
  | cons c r ih => rw [bindTexturesFrom_cons h.1, ih h.2]

end LitTiles
