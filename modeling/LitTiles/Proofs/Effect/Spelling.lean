import LitTiles.Proofs.Effect.Binding
import LitTiles.Proofs.Effect.Components

/-!
# The two passes together

Binding calls and remapping components can be done in either order (`remap_bindTexturesFrom`):
remapping gives a call the remapped arguments and makes none where there was none
(`atStart?_remap`), and the calls of a language are no components. As each pass is done with after
once, so are the two (`Dialect.spell_settles`).
-/

namespace LitTiles

variable {b : Bool} {c d : Char} {n : Nat} {r s t u w x y : List Char} {m : Swizzle}
  {p : SampleShape}

theorem trimEnd_concat (s : List Char) (c : Char) :
    trimEnd (s ++ [c]) = if isBlank c then trimEnd s else s ++ [c] := by
  rw [trimEnd, List.reverse_append, List.reverse_singleton, List.singleton_append,
    List.dropWhile_cons]
  split
  · rfl
  · simp

/-! ## Remapping parts of a text -/

namespace Swizzle

theorem remap_of_not_mem (h : '.' ∉ w) (s : List Char) : m.remap (w ++ s) = w ++ m.remap s := by
  induction w with
  | nil => rfl
  | cons c w ih =>
    obtain ⟨hc, hw⟩ := not_or.mp (mt List.mem_cons.mpr h)
    rw [List.cons_append, remap_cons (Ne.symm hc), ih hw]
    rfl

/-- A run of components ends in front of all characters that are in no names. -/
theorem remap_append (hd : isWordChar d = false) (x s : List Char) :
    m.remap (x ++ d :: s) = m.remap x ++ m.remap (d :: s) := by
  have breaks : Breaks (d :: s) := breaks_cons hd
  induction x using remap_induction with
  | nil => rw [remap_nil, List.nil_append, List.nil_append]
  | run w t hw ht hrun ih =>
    rw [List.cons_append, List.append_assoc, remap_run hw (ht.append breaks) hrun,
      remap_run hw ht hrun, ih, List.cons_append, List.append_assoc]
  | cons c r h ih =>
    rw [List.cons_append, remap_copy h, remap_copy, ih, List.cons_append]
    rwa [breaks.takeWhile_append]

/-- A text without points was there before. -/
theorem exists_of_remap_eq_append (hw : '.' ∉ w) (h : m.remap s = w ++ y) :
    ∃ r, s = w ++ r ∧ m.remap r = y := by
  induction w generalizing s with
  | nil => exact ⟨s, rfl, h⟩
  | cons c w ih =>
    obtain ⟨hc, htail⟩ := not_or.mp (mt List.mem_cons.mpr hw)
    cases s with
    | nil =>
      rw [remap_nil] at h
      cases h
    | cons e s =>
      by_cases point : e = '.'
      · subst point
        rw [remap_point] at h
        exact absurd (List.cons.inj h).1 hc
      · rw [remap_cons point] at h
        obtain ⟨rfl, hs⟩ := List.cons.inj h
        obtain ⟨r, rfl, hr⟩ := ih htail hs
        exact ⟨r, rfl, hr⟩

/-- What does not tell components from their letters does not see remapping. -/
theorem map_remap {α : Type} (f : Char → α) (hf : ∀ c, isComponent c = true → f (m.apply c) = f c)
    (s : List Char) : (m.remap s).map f = s.map f := by
  induction s using remap_induction with
  | nil => rw [remap_nil]
  | run w t hw ht hrun ih =>
    have letters : (w.map m.apply).map f = w.map f := by
      rw [List.map_map]
      apply List.map_congr_left
      intro c hc
      simp only [isSwizzle, Bool.and_eq_true, List.all_eq_true] at hrun
      exact hf c (hrun.2 c hc)
    rw [remap_run hw ht hrun, List.map_cons, List.map_append, letters, ih,
      List.map_cons, List.map_append]
  | cons c r h ih => rw [remap_copy h, List.map_cons, List.map_cons, ih]

theorem isWordChar_of_isComponent (h : isComponent c = true) : isWordChar c = true := by
  simp only [isComponent, Bool.or_eq_true, beq_iff_eq] at h
  rcases h with ((rfl | rfl) | rfl) | rfl
  all_goals rfl

/-- **Remapping keeps the parentheses** of a text. -/
theorem parentheses_remap (hm : m.NamesLetters) (s : List Char) :
    parentheses (m.remap s) = parentheses s := by
  let f : Char → Option Char := fun c => if c == '(' || c == ')' then some c else none
  have shown : ∀ s, parentheses s = (s.map f).filterMap id := by
    intro s
    rw [List.filterMap_map, parentheses, ← List.filterMap_eq_filter]
    rfl
  have plain : ∀ c, isWordChar c = true → f c = none := by
    intro c hc
    apply if_neg
    simp only [Bool.or_eq_true, beq_iff_eq]
    rintro (rfl | rfl) <;> cases hc
  rw [shown, shown, map_remap]
  intro c hc
  have word := isWordChar_of_isComponent hc
  rw [plain c word, plain _ (hm c word)]

theorem isBlank_apply (hm : m.NamesLetters) (h : isComponent c = true) :
    isBlank (m.apply c) = isBlank c := by
  have none : ∀ c, isWordChar c = true → isBlank c = false := by
    intro c hc
    rw [Bool.eq_false_iff]
    intro hb
    rw [(isBlank_spec hb).1] at hc
    cases hc
  have word := isWordChar_of_isComponent h
  rw [none c word, none _ (hm c word)]

theorem trimStart_remap (s : List Char) : trimStart (m.remap s) = m.remap (trimStart s) := by
  induction s with
  | nil => rw [trimStart, remap_nil, List.dropWhile_nil, trimStart, List.dropWhile_nil, remap_nil]
  | cons c r ih =>
    cases hc : isBlank c with
    | true =>
      rw [remap_cons (isBlank_spec hc).2.1, trimStart, List.dropWhile_cons_of_pos hc, trimStart,
        List.dropWhile_cons_of_pos hc]
      exact ih
    | false =>
      have stays : ∀ t : List Char, t.head? = some c → trimStart t = t := by
        intro t ht
        cases t with
        | nil => cases ht
        | cons e t =>
          obtain rfl := Option.some.inj ht
          exact List.dropWhile_cons_of_neg (by simp [hc])
      rw [stays (c :: r) rfl, stays _ (head?_remap m (c :: r))]

theorem trimEnd_remap (hm : m.NamesLetters) (s : List Char) :
    trimEnd (m.remap s) = m.remap (trimEnd s) := by
  induction s using List.reverseRecOn with
  | nil => rw [remap_nil, trimEnd]; exact (remap_nil m).symm
  | append_singleton s c ih =>
    cases hc : isBlank c with
    | true =>
      have last : m.remap (s ++ [c]) = m.remap s ++ [c] := by
        rw [remap_append (isBlank_spec hc).1, remap_cons (isBlank_spec hc).2.1, remap_nil]
      rw [last, trimEnd_concat, trimEnd_concat, if_pos hc, if_pos hc, ih]
    | false =>
      have blanks := map_remap (m := m) isBlank (fun c hc => isBlank_apply hm hc) (s ++ [c])
      rw [List.map_append, List.map_singleton, hc] at blanks
      obtain ⟨u, v, huv, -, hv⟩ := List.map_eq_append_iff.mp blanks
      obtain ⟨e, rfl, he⟩ := List.map_eq_singleton_iff.mp hv
      rw [huv, trimEnd_concat, trimEnd_concat, he, hc, if_neg Bool.false_ne_true,
        if_neg Bool.false_ne_true, huv]

theorem trim_remap (hm : m.NamesLetters) (s : List Char) : trim (m.remap s) = m.remap (trim s) := by
  rw [trim, trimStart_remap, trimEnd_remap hm, trim]

/-! ## Remapping calls -/

/-- **A remapped call** is a call with remapped arguments, and nothing else becomes one. -/
theorem atStart?_remap (hm : m.NamesLetters) (s : List Char) : TextureCall.atStart? (m.remap s) =
    (TextureCall.atStart? s).map fun k => ⟨k.channel, m.remap k.args, m.remap k.rest⟩ := by
  -- a head and its comma have no point, so that remapping cannot make or break one
  have absent : ∀ k : WrittenCall, k.Bindable → '.' ∉ k.head ++ [','] := by
    intro k hk
    have behind : '.' ∉ k.lead ++ (k.channel ++ k.gap) := hk.not_mem_head rfl rfl
    rw [k.head_eq, List.append_assoc, List.mem_append, not_or, List.cons_append,
      List.mem_cons, not_or, List.mem_append, not_or]
    exact ⟨by decide, by decide, behind, by decide⟩
  cases h : TextureCall.atStart? s with
  -- a head in the remapped text would have been there before
  | none =>
    refine TextureCall.atStart?_eq_none_of_heads h ?_
    intro k hk u hu
    rw [← List.singleton_append, ← List.append_assoc] at hu
    obtain ⟨v, rfl, rfl⟩ := exists_of_remap_eq_append (absent k hk) hu
    refine ⟨v, ?_, (parentheses_remap hm v).symm⟩
    rw [List.append_assoc, List.singleton_append]
  | some k =>
    obtain ⟨w, hw, rfl, hchannel, hargs⟩ := TextureCall.atStart?_eq_some_iff.mp h
    refine TextureCall.atStart?_eq_some_iff.mpr ⟨{ w with args := m.remap w.args }, ?_,
      ?_, hchannel, ?_⟩
    · exact { hw with args := hw.args.of_parentheses_eq (parentheses_remap hm w.args).symm }
    · have close : m.remap (w.args ++ ')' :: k.rest) = m.remap w.args ++ ')' :: m.remap k.rest := by
        rw [remap_append rfl, remap_cons (by decide)]
      rw [WrittenCall.text_append, WrittenCall.text_append, ← List.singleton_append,
        ← List.append_assoc, remap_of_not_mem (absent w hw), close, List.append_assoc,
        List.singleton_append]
      rfl
    · change m.remap k.args = trim (m.remap w.args)
      rw [hargs, trim_remap hm]

/-- In the calls of a language only the arguments are remapped. -/
theorem remap_format (hp : p.Regular) (n : Nat) (x s : List Char) :
    m.remap (p.format n x ++ s) = p.format n (m.remap x) ++ m.remap s := by
  have last : m.remap (x ++ (p.tail ++ ')' :: s)) = m.remap x ++ (p.tail ++ ')' :: m.remap s) := by
    have close : m.remap (p.tail ++ ')' :: s) = p.tail ++ ')' :: m.remap s := by
      rw [remap_append rfl, hp.tail_remap, remap_cons (by decide)]
    rw [← close]
    rcases hp.tail_head with htail | ⟨d, l, htail, hd⟩
    · rw [htail]
      exact remap_append rfl x s
    · rw [htail]
      exact remap_append hd.word x _
  rw [SampleShape.format_append, SampleShape.format_append, remap_word hp.word.1,
    remap_cons (by decide), remap_of_not_mem (hp.lead_plain n).2.2, remap_cons (by decide), last]

end Swizzle

/-! ## The order of the passes -/

/-- A call starts with its name. -/
theorem TextureCall.takeWhile_of_atStart? {k : TextureCall} (h : atStart? s = some k) :
    s.takeWhile isWordChar = function := by
  obtain ⟨w, -, rfl, -, -⟩ := atStart?_eq_some_iff.mp h
  rw [WrittenCall.text_append, w.head_eq, List.append_assoc]
  exact isWord_function.takeWhile_append (breaks_cons rfl)

theorem TextureCall.atStart?_eq_none_of_takeWhile (h : s.takeWhile isWordChar ≠ function) :
    atStart? s = none :=
  Option.eq_none_iff_forall_ne_some.mpr fun _ hk => h (takeWhile_of_atStart? hk)

/-- Components are too short for the name of the function, and so are their letters. -/
theorem Swizzle.ne_function (h : isSwizzle w = true) :
    w ≠ TextureCall.function ∧ m.rename w ≠ TextureCall.function := by
  have short : w.length ≠ TextureCall.function.length := by
    obtain ⟨-, short, -⟩ := isSwizzle_iff.mp h
    intro same
    rw [same] at short
    exact absurd short (by decide)
  constructor
  · intro same
    exact short (congrArg List.length same)
  · intro same
    have length := congrArg List.length same
    rw [rename, if_pos h, List.length_map] at length
    exact short length

/-- Binding makes no name a run of components, and leaves none that is one. -/
theorem isSwizzle_takeWhile_bindTexturesFrom (hp : p.Regular) (s : List Char) :
    Swizzle.isSwizzle ((bindTexturesFrom p.format true s).takeWhile isWordChar) =
      Swizzle.isSwizzle (s.takeWhile isWordChar) := by
  cases hk : TextureCall.atStart? s with
  | none =>
    rw [bindTexturesFrom_eq_false fun _ => hk, (copiesWords_bindTexturesFrom p.format).takeWhile]
  | some k =>
    have long : Swizzle.isSwizzle p.name = false := by
      rw [Bool.eq_false_iff]
      intro h
      exact absurd (Swizzle.isSwizzle_iff.mp h).2.1 (Nat.not_le.mpr hp.word.2)
    rw [bindTexturesFrom_call hk, SampleShape.format_append,
      hp.word.1.takeWhile_append (breaks_cons rfl), long, TextureCall.takeWhile_of_atStart? hk]
    rfl

theorem bindTexturesFrom_point (format : SampleFormat) (b : Bool) (r : List Char) :
    bindTexturesFrom format b ('.' :: r) = '.' :: bindTexturesFrom format true r := by
  apply bindTexturesFrom_cons
  intro _
  apply TextureCall.atStart?_eq_none_of_takeWhile
  rw [List.takeWhile_cons_of_neg (by decide)]
  decide

/-- A word other than the name of the function is copied. -/
theorem bindTexturesFrom_word (format : SampleFormat) (hw : IsWord w) (hs : Breaks s)
    (hother : w ≠ TextureCall.function) :
    bindTexturesFrom format true (w ++ s) = w ++ bindTexturesFrom format false s := by
  have start : TextureCall.atStart? (w ++ s) = none := by
    apply TextureCall.atStart?_eq_none_of_takeWhile
    rwa [hw.takeWhile_append hs]
  rw [bindTexturesFrom_eq_false fun _ => start, (copiesWords_bindTexturesFrom format).word hw]

/-- Components behind a point, under both passes. -/
theorem remap_bindTexturesFrom_run (hm : m.NamesLetters) (hw : IsWord w) (hs : Breaks s)
    (hrun : Swizzle.isSwizzle w = true)
    (ih : m.remap (bindTexturesFrom p.format true (w ++ s)) = bindTexturesFrom p.format true
      (m.remap (w ++ s))) :
    m.remap ('.' :: bindTexturesFrom p.format true (w ++ s)) =
      bindTexturesFrom p.format b (m.remap ('.' :: (w ++ s))) := by
  obtain ⟨hname, hletters⟩ := Swizzle.ne_function (m := m) hrun
  have remapped : Breaks (m.remap s) := (Swizzle.copiesWords_remap m).breaks hs
  have bound : Breaks (bindTexturesFrom p.format false s) :=
    (copiesWords_bindTexturesFrom p.format).breaks hs
  -- the passes agree behind the run, since they do so from its start and copy it there
  rw [bindTexturesFrom_word p.format hw hs hname, Swizzle.remap_word hw, Swizzle.remap_word hw,
    bindTexturesFrom_word p.format hw remapped hname] at ih
  have behind := List.append_cancel_left ih
  rw [bindTexturesFrom_word p.format hw hs hname, Swizzle.remap_point, hw.takeWhile_append bound,
    hw.dropWhile_append bound, behind, Swizzle.remap_point, hw.takeWhile_append hs,
    hw.dropWhile_append hs,
    bindTexturesFrom_point, bindTexturesFrom_word p.format (Swizzle.isWord_rename hm hw)
    remapped hletters]

/-- **The passes can be done in either order.** -/
theorem remap_bindTexturesFrom (hm : m.NamesLetters) (hp : p.Regular) (b : Bool) (s : List Char) :
    m.remap (bindTexturesFrom p.format b s) = bindTexturesFrom p.format b (m.remap s) := by
  induction b, s using bindTexturesFrom_induction with
  | nil b => rw [bindTexturesFrom_nil, Swizzle.remap_nil, bindTexturesFrom_nil]
  | call s k hk ihargs ihrest =>
    have call := Swizzle.atStart?_remap hm s
    rw [hk] at call
    rw [bindTexturesFrom_call hk, bindTexturesFrom_call call,
      Swizzle.remap_format hp, ihargs, ihrest]
  | cons b c r start ih =>
    -- at a point the two passes meet: what is behind it may be remapped, and no call starts in it
    by_cases point : c = '.'
    · subst point
      have opened : (!isWordChar '.') = true := rfl
      rw [opened] at ih
      rw [bindTexturesFrom_point]
      cases hrun : Swizzle.isSwizzle (r.takeWhile isWordChar) with
      | false =>
        have unbound := (isSwizzle_takeWhile_bindTexturesFrom hp r).trans hrun
        rw [Swizzle.remap_copy (by simp [unbound]), Swizzle.remap_copy (by simp [hrun]),
          bindTexturesFrom_point, ih]
      | true =>
        rw [← List.takeWhile_append_dropWhile (p := isWordChar) (l := r)] at ih ⊢
        exact remap_bindTexturesFrom_run hm (isWord_takeWhile r) (breaks_dropWhile r) hrun ih
    · have start' : b = true → TextureCall.atStart? (c :: m.remap r) = none := by
        intro hb
        rw [← Swizzle.remap_cons point, Swizzle.atStart?_remap hm, start hb]
        rfl
      rw [bindTexturesFrom_cons start, Swizzle.remap_cons point, Swizzle.remap_cons point,
        bindTexturesFrom_cons start', ih]

namespace Dialect

theorem spell_toList (d : Dialect) (e : String) :
    (d.language.spell e).toList = d.language.swizzle.remap
    (bindTexturesFrom d.sampleShape.format true e.toList) := by
  rw [Language.spell, sampling_language]
  simp only [Swizzle.remapText, bindTextures, String.toList_ofList]

/-- **The text passes commute and settle.** In each dialect it is the same to bind the texture calls
before the components are remapped and after; and to rewrite an expression once more changes
nothing. -/
theorem spell_settles (d : Dialect) (e : String) :
    ∃ format, d.language.sampling = .numbered format ∧
      d.language.spell e = bindTextures format (d.language.swizzle.remapText e) ∧
      d.language.spell (d.language.spell e) = d.language.spell e := by
  have commute :=
    remap_bindTexturesFrom (Swizzle.namesLetters_language d) d.regular_sampleShape true
  have settled := settled_bindTexturesFrom d.regular_sampleShape true e.toList
  refine ⟨d.sampleShape.format, d.sampling_language, ?_, ?_⟩
  · apply String.toList_inj.mp
    rw [spell_toList, commute]
    simp only [Swizzle.remapText, bindTextures, String.toList_ofList]
  · apply String.toList_inj.mp
    rw [spell_toList, spell_toList, ← commute, settled.bindTexturesFrom_eq,
      Swizzle.remap_remap_language]

/-- A call with components inside and behind. -/
example : wgsl.language.spell "texture( 0 , uv.rg ).rgb" =
    "textureSampleLevel(channel0, channelSampler, uv.xy, 0.0).xyz" := by decide +kernel

end Dialect

end LitTiles
