import LitTiles.Proofs.Effect.Slices

/-!
# Binding keeps the text

Calls can be bound to themselves (`plainCall`): then nothing but blanks is left out of a text, and
what is left stands in it once and in order (`bindTextures_plainCall`). A channel is written anew
for this, so it has to be written with a single digit in the first place (`SingleDigits`).
-/

namespace LitTiles

variable {e s t x y : List Char}

/-- A text without its blanks. -/
def visible (s : List Char) : List Char := s.filter fun c => !isBlank c

/-- Of a text all is left but some blanks. -/
structure Retains (s t : List Char) : Prop where
  /-- What can be seen is the same. -/
  visible_eq : visible t = visible s
  /-- What is left stands in the text, once and in order. -/
  sublist : t.Sublist s

namespace Retains

theorem refl (s : List Char) : Retains s s := ⟨rfl, .refl s⟩

theorem append (hs : Retains s t) (hx : Retains x y) : Retains (s ++ x) (t ++ y) where
  visible_eq := by
    unfold visible
    rw [List.filter_append, List.filter_append]
    exact congrArg₂ (· ++ ·) hs.visible_eq hx.visible_eq
  sublist := hs.sublist.append hx.sublist

theorem cons (c : Char) (h : Retains s t) : Retains (c :: s) (c :: t) := (refl [c]).append h

theorem trans (hs : Retains s t) (ht : Retains t x) : Retains s x where
  visible_eq := ht.visible_eq.trans hs.visible_eq
  sublist := ht.sublist.trans hs.sublist

theorem of_blank (h : ∀ c ∈ s, isBlank c = true) : Retains s [] where
  visible_eq := by
    symm
    apply List.filter_eq_nil_iff.mpr
    intro c hc
    simp [h c hc]
  sublist := s.nil_sublist

theorem of_trim (s : List Char) : Retains s (trim s) := by
  obtain ⟨before, after, hs, hbefore, hafter⟩ := exists_trim s
  have kept := ((of_blank hbefore).append (refl (trim s))).append (of_blank hafter)
  rwa [List.nil_append, List.append_nil, ← hs] at kept

end Retains

/-! ## Single digits -/

/-- Every call of a text that can be bound has a channel of a single digit. -/
def SingleDigits (e : List Char) : Prop :=
  ∀ w : WrittenCall, w.Bindable → w.StandsIn e → w.channel.length = 1

/-- The digits of the channel of a call at the start of a text. -/
def channelDigits (s : List Char) : List Char :=
  (trimStart (s.drop TextureCall.opening.length)).takeWhile Char.isDigit

theorem channelDigits_text_append {w : WrittenCall} (hw : w.Bindable) (s : List Char) :
    channelDigits (w.text ++ s) = w.channel := by
  rw [channelDigits, hw.trimStart_drop, (hw.span_channel s).1]

theorem singleDigits_iff : SingleDigits e ↔
    AtStarts (fun t => (TextureCall.atStart? t).isSome = true →
      (channelDigits t).length = 1) true e := by
  have channel : ∀ t, ((TextureCall.atStart? t).isSome = true → (channelDigits t).length = 1) ↔
      ∀ w : WrittenCall, w.Bindable → ∀ after, t = w.text ++ after → w.channel.length = 1 := by
    intro t
    rw [TextureCall.isSome_atStart?_iff]
    constructor
    · rintro h w hw after rfl
      rw [← channelDigits_text_append hw after]
      exact h ⟨w, hw, after, rfl⟩
    · rintro h ⟨w, hw, after, rfl⟩
      rw [channelDigits_text_append hw]
      exact h w hw after rfl
  rw [SingleDigits, forall_standsIn_iff, funext fun t => propext (channel t)]

instance decidableSingleDigits (e : List Char) : Decidable (SingleDigits e) :=
  decidable_of_iff _ singleDigits_iff.symm

/-- A single digit is what is written for its number. -/
theorem toDigits_number {w : WrittenCall} (hw : w.Bindable) (h : w.channel.length = 1) :
    Nat.toDigits 10 w.number = w.channel := by
  obtain ⟨c, hc⟩ := List.length_eq_one_iff.mp h
  have digit := hw.digits c (by rw [hc]; exact List.mem_singleton_self c)
  have number : w.number = c.toNat - '0'.toNat := by
    rw [WrittenCall.number, hc, Nat.ofDigitChars_cons, Nat.ofDigitChars_nil,
      Nat.mul_zero, Nat.zero_add]
  obtain ⟨low, high⟩ := Char.isDigit_iff_toNat.mp digit
  have small : c.toNat - '0'.toNat < 10 :=
    Nat.lt_of_le_of_lt (Nat.sub_le_sub_right high _) (by decide)
  rw [number, hc, Nat.toDigits_of_lt_base small, List.singleton_inj]
  apply Char.toNat_inj.mp
  rw [Nat.toNat_digitChar_of_lt_ten small, Nat.add_comm]
  exact Nat.sub_add_cancel low

/-! ## Calls bound to themselves -/

/-- A call written as it is read, without blanks around its channel. -/
def plainCall : SampleFormat := fun n args =>
  TextureCall.opening ++ (Nat.toDigits 10 n ++ ',' :: (args ++ [')']))

theorem retains_plainCall {w : WrittenCall} (hw : w.Bindable) (h : w.channel.length = 1)
    (hx : Retains w.args x) :
    Retains w.text (plainCall w.number x) := by
  have channel : Retains (w.lead ++ (w.channel ++ w.gap)) w.channel := by
    have kept :=
      (Retains.of_blank hw.lead).append ((Retains.refl w.channel).append (.of_blank hw.gap))
    rwa [List.nil_append, List.append_nil] at kept
  have args : Retains (',' :: (w.args ++ [')'])) (',' :: (x ++ [')'])) :=
    (hx.append (.refl _)).cons ','
  rw [plainCall, toDigits_number hw h, WrittenCall.text, WrittenCall.head, List.append_assoc]
  exact (Retains.refl TextureCall.opening).append (channel.append args)

/-- **What is left of a part of a text** when its calls are bound to themselves. -/
theorem retains_bindTexturesFrom (he : SingleDigits e) (b : Bool) (y : List Char) :
    ∀ x z, e = x ++ (y ++ z) → mayStartBehind true x = b →
    Retains y (bindTexturesFrom plainCall b y) := by
  -- the induction is on the part, and the text around it stays the same
  induction b, y using bindTexturesFrom_induction with
  | nil b =>
    intros
    rw [bindTexturesFrom_nil]
    exact .refl []
  | call s k hk ihargs ihrest =>
    intro x z h hb
    obtain ⟨w, hw, rfl, hchannel, hargs⟩ := TextureCall.atStart?_eq_some_iff.mp hk
    obtain ⟨before, after, htrim, hbefore, -⟩ := exists_trim w.args
    have single : w.channel.length = 1 :=
      he w hw ⟨x, k.rest ++ z, by simp only [h, List.append_assoc], mayStartBehind_true_iff.mp hb⟩
    have args : Retains w.args (bindTexturesFrom plainCall true k.args) := by
      rw [hargs] at ihargs ⊢
      refine (Retains.of_trim w.args).trans ?_
      refine ihargs (x ++ (w.head ++ [',']) ++ before) (after ++ ')' :: (k.rest ++ z)) ?_ ?_
      · rw [h, w.text_append]
        conv => lhs; rw [htrim]
        simp only [List.append_assoc, List.cons_append, List.nil_append]
      · rw [mayStartBehind_append, ← List.append_assoc, mayStartBehind_concat]
        exact mayStartBehind_blank hbefore
    have rest : Retains k.rest (bindTexturesFrom plainCall true k.rest) :=
      ihrest (x ++ w.text) z (by simp only [h, List.append_assoc]) (mayStartBehind_text true x w)
    rw [bindTexturesFrom_call hk, hchannel]
    exact (retains_plainCall hw single args).append rest
  | cons b c r start ih =>
    intro x z h hb
    rw [bindTexturesFrom_cons start]
    exact (ih (x ++ [c]) z (by simp [h]) (mayStartBehind_concat true x c)).cons c

/-- **Binding loses nothing.** By bytes the same is bound, and no slice is missing for it. Where all
channels are single digits and calls are bound to themselves, only blanks are left out, and the rest
is written once and in order. -/
theorem bindTextures_plainCall (e : String) :
    (∀ format, bindAt format e.toList 0 = some (bindTextures format e).toList) ∧
    (SingleDigits e.toList → Retains e.toList (bindTextures plainCall e).toList) := by
  simp only [bindTextures, String.toList_ofList]
  refine ⟨fun format => bindAt_zero format e.toList, ?_⟩
  intro h
  exact retains_bindTexturesFrom h true e.toList [] [] (by simp) rfl

/-- A text with a call in a call, two that cannot be bound and one without an end. -/
theorem bindTextures_plainCall_nested :
    SingleDigits
    "é texture( 3 , texture(1,ü ) ) + texture(i, v) + texture(8, ñ) + texture(0, (".toList ∧
      visible (bindTextures plainCall
        "é texture( 3 , texture(1,ü ) ) + texture(i, v) + texture(8, ñ) + texture(0, (").toList =
      "étexture(3,texture(1,ü))+texture(i,v)+texture(8,ñ)+texture(0,(".toList := by
  have single : SingleDigits
      "é texture( 3 , texture(1,ü ) ) + texture(i, v) + texture(8, ñ) + texture(0, (".toList := by
    decide +kernel
  refine ⟨single, ((bindTextures_plainCall _).2 single).visible_eq.trans ?_⟩
  decide +kernel

end LitTiles
