import LitTiles.Program.Dialect
import LitTiles.Proofs.Effect.Calls
import LitTiles.Proofs.Effect.References

/-!
# Binding is complete

What is left of a text when its calls are bound is `Settled` (`settled_bindTexturesFrom`), so that
binding it once more changes nothing. The calls of all languages have one shape (`SampleShape`), and
so they neither are calls that can be bound nor help one come about: they keep the parentheses of
the text, and a call that could not be bound is still none when the text behind it has been written
anew (`atStart?_bindTexturesFrom`).
-/

namespace LitTiles

variable {b : Bool} {c d : Char} {n : Nat} {r s t u w x y : List Char}

/-! ## Calls are open up to their end -/

namespace WrittenCall

variable {k : WrittenCall}

theorem Bindable.parentheses_channel (hk : k.Bindable) :
    parentheses (k.lead ++ (k.channel ++ k.gap)) = [] :=
  parentheses_eq_nil (hk.not_mem_head rfl rfl) (hk.not_mem_head rfl rfl)

/-- The parentheses of a call are its own two around those of its arguments. -/
theorem Bindable.parentheses_text_append (hk : k.Bindable) (s : List Char) :
    parentheses (k.text ++ s) = '(' :: (parentheses k.args ++ ')' :: parentheses s) := by
  have name : parentheses TextureCall.function = [] := by decide
  have comma : ∀ v, parentheses (',' :: v) = parentheses v := fun v => rfl
  rw [text_append, head_eq, parentheses_append, parentheses_append, name, parentheses_open,
    hk.parentheses_channel, comma, parentheses_append, parentheses_close]
  rfl

/-- Up to its end, a call has opened more parentheses than it has closed. -/
theorem Bindable.count_lt (hk : k.Bindable) (hx : x <+: k.text) (hne : x ≠ k.text)
    (hopening : TextureCall.opening <+: x) : x.count ')' < x.count '(' := by
  obtain ⟨y, rfl⟩ := hopening
  let body := k.lead ++ (k.channel ++ k.gap) ++ ',' :: k.args
  have whole : k.text = (TextureCall.opening ++ body) ++ [')'] := by
    simp only [body, text, head, List.append_assoc, List.cons_append]
  have inside : y <+: body := by
    rw [whole, List.prefix_concat_iff, ← whole] at hx
    rcases hx with hx | hx
    · exact absurd hx hne
    · exact (List.prefix_append_right_inj _).mp hx
  have balanced : Balanced body := by
    apply hk.args.of_parentheses_eq
    rw [parentheses_append, hk.parentheses_channel]
    rfl
  have closed := balanced.bounded y inside
  rw [TextureCall.opening_eq]
  simp
  omega

end WrittenCall

/-! ## Where no call starts -/

namespace TextureCall

theorem opening_prefix (hd : IsSeparator d) (h : opening <+: x ++ d :: s) : opening <+: x := by
  have absent : d ∉ opening := by
    rw [opening_eq]
    intro hmem
    have word := hd.word
    have paren := hd.opening
    simp only [List.mem_cons, List.not_mem_nil, or_false] at hmem
    rcases hmem with rfl | rfl | rfl | rfl | rfl | rfl | rfl | rfl
    all_goals first | exact absurd word (by decide) | exact paren rfl
  rcases List.prefix_or_prefix_of_prefix h (List.prefix_append x (d :: s)) with hx | ⟨y, hy⟩
  · exact hx
  · rw [← hy, List.prefix_append_right_inj] at h
    cases y with
    | nil =>
      rw [List.append_nil] at hy
      rw [hy]
    | cons e y =>
      obtain ⟨rfl, -⟩ := List.cons_prefix_cons.mp h
      exact absurd (by simp [← hy]) absent

/-- No call starts in a text that leaves no parenthesis open and goes on behind a separator. -/
theorem atStart?_append (hd : IsSeparator d) (hx : LeavesNoneOpen x) (h : atStart? x = none)
    (s : List Char) :
    atStart? (x ++ d :: s) = none := by
  rw [← Option.not_isSome_iff_eq_none]
  intro some
  obtain ⟨k, hk, after, heq⟩ := isSome_atStart?_iff.mp some
  have hopening : opening <+: x := by
    apply opening_prefix hd (s := s)
    rw [heq, k.text_append, WrittenCall.head, List.append_assoc]
    exact List.prefix_append _ _
  have whole : ∀ rest, x ≠ k.text ++ rest := by
    intro rest hrest
    have := isSome_atStart?_iff.mpr ⟨k, hk, rest, hrest⟩
    rw [h] at this
    cases this
  rcases List.append_eq_append_iff.mp heq with ⟨rest, hrest, -⟩ | ⟨rest, hrest, -⟩
  · have unclosed :=
      hk.count_lt ⟨rest, hrest.symm⟩ (fun same => whole [] (by rw [same, List.append_nil])) hopening
    exact absurd (hx x List.suffix_rfl) (Nat.not_le.mpr unclosed)
  · exact whole rest hrest

theorem atStart?_eq_none_of_not_mem (h : '(' ∉ s) : atStart? s = none := by
  apply if_neg
  intro hopening
  apply h
  apply (List.isPrefixOf_iff_prefix.mp hopening).subset
  rw [opening_eq]
  simp

/-- A function with another first argument than a number is no call that can be bound. -/
theorem atStart?_function (hw : IsWord w) (hblank : isBlank c = false)
    (hdigit : c.isDigit = false) :
    atStart? (w ++ '(' :: c :: s) = none := by
  rw [← Option.not_isSome_iff_eq_none]
  intro some
  obtain ⟨k, hk, after, heq⟩ := isSome_atStart?_iff.mp some
  have same := congrArg (List.dropWhile isWordChar) heq
  -- behind `texture(` a call would go on with a blank or a digit, and `c` is neither
  rw [k.text_append, k.head_eq, List.append_assoc, List.cons_append,
    hw.dropWhile_append (breaks_cons rfl),
    isWord_function.dropWhile_append (breaks_cons rfl)] at same
  obtain ⟨-, same⟩ := List.cons.inj same
  cases hlead : k.lead with
  | cons e lead =>
    rw [hlead] at same
    obtain rfl := (List.cons.inj same).1
    rw [hk.lead c (by simp [hlead])] at hblank
    cases hblank
  | nil =>
    obtain ⟨e, channel, hchannel⟩ := List.exists_cons_of_ne_nil hk.written
    rw [hlead, hchannel] at same
    obtain rfl := (List.cons.inj same).1
    rw [hk.digits c (by simp [hchannel])] at hdigit
    cases hdigit

/-- A text whose calls are headed as those of another one, with the same parentheses behind, has no
call where the other has none. -/
theorem atStart?_eq_none_of_heads (h : atStart? s = none)
    (heads : ∀ k : WrittenCall, k.Bindable → ∀ u, t = k.head ++ ',' :: u →
      ∃ v, s = k.head ++ ',' :: v ∧ parentheses v = parentheses u) : atStart? t = none := by
  rw [← Option.not_isSome_iff_eq_none]
  intro some
  obtain ⟨k, hk, after, heq⟩ := isSome_atStart?_iff.mp some
  obtain ⟨v, rfl, hv⟩ := heads k hk _ (heq.trans (k.text_append after))
  have split : (splitAtClosing 0 (k.args ++ ')' :: after)).isSome = true := by
    rw [splitAtClosing_eq_some_iff.mpr ⟨rfl, hk.args⟩]
    rfl
  rw [← isSome_splitAtClosing_eq hv, Option.isSome_iff_exists] at split
  obtain ⟨⟨args, rest⟩, hsplit⟩ := split
  obtain ⟨rfl, closes⟩ := splitAtClosing_eq_some_iff.mp hsplit
  have call : (atStart? (k.head ++ ',' :: (args ++ ')' :: rest))).isSome = true := by
    refine isSome_atStart?_iff.mpr ⟨{ k with args := args }, { hk with args := closes }, rest, ?_⟩
    rw [WrittenCall.text_append]
    rfl
  rw [h] at call
  cases call

end TextureCall

/-! ## Settled texts -/

theorem settled_of_not_mem (h : '(' ∉ s) (b : Bool) : Settled b s := by
  induction s generalizing b with
  | nil => trivial
  | cons c r ih =>
    exact ⟨fun _ => TextureCall.atStart?_eq_none_of_not_mem h,
      ih (fun hr => h (List.mem_cons_of_mem c hr)) _⟩

/-- Texts that are settled with a separator between them are so together. -/
theorem Settled.append (hx : Settled b x) (hd : IsSeparator d) (hopen : LeavesNoneOpen x)
    (hs : Settled true s) :
    Settled b (x ++ d :: s) := by
  induction x generalizing b with
  | nil =>
    refine ⟨fun _ => TextureCall.atStart?_append hd hopen rfl s, ?_⟩
    rwa [hd.word]
  | cons c x ih =>
    refine ⟨fun hb => TextureCall.atStart?_append hd hopen (hx.1 hb) s, ?_⟩
    exact ih hx.2 (hopen.of_suffix (List.suffix_cons c x))

/-- Inside of a word no call starts. -/
theorem Settled.word (hw : IsWord w) (hs : Settled false s) : Settled false (w ++ s) := by
  induction w with
  | nil => exact hs
  | cons c w ih =>
    obtain ⟨hc, hw⟩ := List.forall_mem_cons.mp hw
    refine ⟨nofun, ?_⟩
    rw [hc]
    exact ih hw

/-! ## Sampling calls -/

/-- The calls that channels are sampled with in a language. -/
structure SampleShape where
  /-- The function. -/
  name : List Char
  /-- What is written for a channel, with a comma. -/
  lead : Nat → List Char
  /-- What is written behind the arguments. -/
  tail : List Char

namespace SampleShape

/-- A call. -/
def format (p : SampleShape) : SampleFormat := fun n x =>
  p.name ++ '(' :: (p.lead n ++ ' ' :: (x ++ (p.tail ++ [')'])))

/-- The calls mix with no text around or inside of them. -/
structure Regular (p : SampleShape) : Prop where
  /-- The function is longer than a run of components. -/
  word : IsWord p.name ∧ 4 < p.name.length
  /-- It starts with this letter, which is none of a channel. -/
  head : ∃ w, p.name = 't' :: w
  /-- Its first argument is no number. -/
  lead_head : ∀ n, ∃ c l, p.lead n = c :: l ∧ isBlank c = false ∧ c.isDigit = false
  /-- The first one has neither parentheses nor points. -/
  lead_plain : ∀ n, '(' ∉ p.lead n ∧ ')' ∉ p.lead n ∧ '.' ∉ p.lead n
  /-- The last one has no parentheses. -/
  tail_plain : '(' ∉ p.tail ∧ ')' ∉ p.tail
  /-- If there is a last one, it starts with a separator. -/
  tail_head : p.tail = [] ∨ ∃ d l, p.tail = d :: l ∧ IsSeparator d
  /-- The last one has no components. -/
  tail_remap : ∀ m : Swizzle, m.remap p.tail = p.tail

variable {p : SampleShape}

theorem format_append (p : SampleShape) (n : Nat) (x s : List Char) :
    p.format n x ++ s = p.name ++ '(' :: (p.lead n ++ ' ' :: (x ++ (p.tail ++ ')' :: s))) := by
  simp only [format, List.append_assoc, List.cons_append, List.nil_append]

theorem Regular.parentheses_tail (hp : p.Regular) : parentheses p.tail = [] :=
  parentheses_eq_nil hp.tail_plain.1 hp.tail_plain.2

/-- A call has the parentheses of its arguments, and two of its own. -/
theorem Regular.parentheses_format (hp : p.Regular) (n : Nat) (x : List Char) :
    parentheses (p.format n x) = '(' :: (parentheses x ++ [')']) := by
  have name : parentheses p.name = [] := by
    apply parentheses_eq_nil <;> intro h <;> cases hp.word.1 _ h
  have lead : parentheses (p.lead n) = [] :=
    parentheses_eq_nil (hp.lead_plain n).1 (hp.lead_plain n).2.1
  have blank : ∀ v, parentheses (' ' :: v) = parentheses v := fun v => rfl
  rw [format, parentheses_append, name, parentheses_open, parentheses_append, lead, blank,
    parentheses_append, parentheses_append, hp.parentheses_tail]
  rfl

/-- **A call is settled** if its arguments are. -/
theorem Regular.settled_format (hp : p.Regular) (n : Nat) (hx : Settled true x)
    (hbalanced : Balanced x) (hs : Settled true s) : Settled true (p.format n x ++ s) := by
  have separators : IsSeparator ' ' ∧ IsSeparator ')' := by decide
  -- the arguments of the language's own are settled with those of the call
  have args : Settled true (x ++ p.tail) ∧ LeavesNoneOpen (x ++ p.tail) := by
    constructor
    · rcases hp.tail_head with htail | ⟨d, l, htail, hd⟩
      · rwa [htail, List.append_nil]
      · rw [htail]
        apply hx.append hd hbalanced.leavesNoneOpen
        exact settled_of_not_mem (fun h => hp.tail_plain.1 (by simp [htail, h])) true
    · apply Balanced.leavesNoneOpen
      apply hbalanced.of_parentheses_eq
      rw [parentheses_append, hp.parentheses_tail, List.append_nil]
  have inside : Settled true (p.lead n ++ ' ' :: ((x ++ p.tail) ++ ')' :: s)) := by
    have plain := (hp.lead_plain n).1
    exact (settled_of_not_mem plain true).append separators.1 (leavesNoneOpen_of_not_mem plain)
      (args.1.append separators.2 args.2 hs)
  obtain ⟨w, hw⟩ := hp.head
  have word := hp.word.1
  obtain ⟨c, l, hlead, hblank, hdigit⟩ := hp.lead_head n
  have start := TextureCall.atStart?_function (s := l ++ ' ' :: ((x ++ p.tail) ++ ')' :: s))
    word hblank hdigit
  rw [← List.cons_append, ← hlead] at start
  rw [format_append, ← List.append_assoc x]
  rw [hw] at start word ⊢
  refine ⟨fun _ => start, ?_⟩
  exact Settled.word (fun c hc => word c (List.mem_cons_of_mem _ hc)) ⟨nofun, inside⟩

end SampleShape

/-! ## Bound texts -/

section

variable {p : SampleShape}

/-- **Binding keeps the parentheses** of a text. -/
theorem parentheses_bindTexturesFrom (hp : p.Regular) (b : Bool) (s : List Char) :
    parentheses (bindTexturesFrom p.format b s) = parentheses s := by
  induction b, s using bindTexturesFrom_induction with
  | nil b => rw [bindTexturesFrom_nil]
  | call s k hk ihargs ihrest =>
    obtain ⟨w, hw, hs, -, hargs⟩ := TextureCall.atStart?_eq_some_iff.mp hk
    rw [bindTexturesFrom_call hk, parentheses_append, hp.parentheses_format, ihargs, ihrest, hs,
      hw.parentheses_text_append, hargs, parentheses_trim]
    simp only [List.cons_append, List.append_assoc, List.nil_append]
  | cons b c r start ih =>
    rw [bindTexturesFrom_cons start, parentheses_cons, parentheses_cons, ih]

/-- A character that no call starts with was there before. -/
theorem exists_of_bindTexturesFrom_eq_cons (hp : p.Regular)
    (h : bindTexturesFrom p.format b s = c :: y) (hc : b = true → c ≠ 't') :
    ∃ r, s = c :: r ∧ bindTexturesFrom p.format (!isWordChar c) r = y := by
  cases s with
  | nil =>
    rw [bindTexturesFrom_nil] at h
    cases h
  | cons e r =>
    by_cases start : b = true → TextureCall.atStart? (e :: r) = none
    · rw [bindTexturesFrom_cons start] at h
      obtain ⟨rfl, hr⟩ := List.cons.inj h
      exact ⟨r, rfl, hr⟩
    · obtain ⟨rfl, hsome⟩ := Classical.not_imp.mp start
      obtain ⟨k, hk⟩ := Option.ne_none_iff_exists'.mp hsome
      obtain ⟨w, hw⟩ := hp.head
      rw [bindTexturesFrom_call hk, SampleShape.format_append, hw] at h
      exact absurd (List.cons.inj h).1.symm (hc rfl)

/-- A text without the letter that calls start with was there before. -/
theorem exists_of_bindTexturesFrom_eq_append (hp : p.Regular) (hw : 't' ∉ w)
    (h : bindTexturesFrom p.format b s = w ++ y) :
    ∃ r, s = w ++ r ∧ bindTexturesFrom p.format (mayStartBehind b w) r = y := by
  induction w generalizing b s with
  | nil => exact ⟨s, rfl, h⟩
  | cons c w ih =>
    obtain ⟨hc, hw⟩ := not_or.mp (mt List.mem_cons.mpr hw)
    obtain ⟨r, rfl, hr⟩ := exists_of_bindTexturesFrom_eq_cons hp h fun _ => Ne.symm hc
    obtain ⟨u, rfl, hu⟩ := ih hw hr
    exact ⟨u, rfl, hu⟩

/-- What is left of a word was there before. -/
theorem exists_of_bindTexturesFrom_eq_word (hp : p.Regular) (hw : IsWord w)
    (h : bindTexturesFrom p.format false s = w ++ y) :
    ∃ r, s = w ++ r ∧ bindTexturesFrom p.format false r = y := by
  induction w generalizing s with
  | nil => exact ⟨s, rfl, h⟩
  | cons c w ih =>
    obtain ⟨hc, hw⟩ := List.forall_mem_cons.mp hw
    obtain ⟨r, rfl, hr⟩ := exists_of_bindTexturesFrom_eq_cons hp h nofun
    rw [hc] at hr
    obtain ⟨u, rfl, hu⟩ := ih hw hr
    exact ⟨u, rfl, hu⟩

/-- **What was no call does not become one** by binding the text behind. -/
theorem atStart?_bindTexturesFrom (hp : p.Regular) (h : TextureCall.atStart? s = none) :
    TextureCall.atStart? (bindTexturesFrom p.format false s) = none := by
  refine TextureCall.atStart?_eq_none_of_heads h ?_
  intro k hk u hu
  have absent : 't' ∉ '(' :: (k.lead ++ (k.channel ++ k.gap)) :=
    List.not_mem_cons_of_ne_of_not_mem (by decide) (hk.not_mem_head rfl rfl)
  rw [k.head_eq, List.append_assoc] at hu
  obtain ⟨r, rfl, hr⟩ := exists_of_bindTexturesFrom_eq_word hp TextureCall.isWord_function hu
  obtain ⟨q, rfl, hq⟩ := exists_of_bindTexturesFrom_eq_append hp absent hr
  obtain ⟨v, rfl, hv⟩ := exists_of_bindTexturesFrom_eq_cons hp hq fun _ => by decide
  refine ⟨v, ?_, ?_⟩
  · rw [k.head_eq, List.append_assoc]
  · rw [← hv, parentheses_bindTexturesFrom hp]

/-- **Binding settles a text.** -/
theorem settled_bindTexturesFrom (hp : p.Regular) (b : Bool) (s : List Char) :
    Settled b (bindTexturesFrom p.format b s) := by
  induction b, s using bindTexturesFrom_induction with
  | nil b =>
    rw [bindTexturesFrom_nil]
    trivial
  | call s k hk ihargs ihrest =>
    obtain ⟨w, hw, -, -, hargs⟩ := TextureCall.atStart?_eq_some_iff.mp hk
    have balanced : Balanced (bindTexturesFrom p.format true k.args) := by
      apply hw.args.of_parentheses_eq
      rw [parentheses_bindTexturesFrom hp, hargs, parentheses_trim]
    rw [bindTexturesFrom_call hk]
    exact hp.settled_format k.channel ihargs balanced ihrest
  | cons b c r start ih =>
    rw [bindTexturesFrom_cons start]
    refine ⟨?_, ih⟩
    intro hb
    have none := atStart?_bindTexturesFrom hp (start hb)
    rwa [bindTexturesFrom_cons (by simp)] at none

end

/-! ## The dialects -/

/-- A first argument that names a channel by its number. -/
def channelArgument (before behind : List Char) (n : Nat) : List Char :=
  before ++ (Nat.toDigits 10 n ++ behind)

theorem not_mem_channelArgument (hdigit : c.isDigit = false) (hbefore : c ∉ x)
    (hbehind : c ∉ y) (n : Nat) :
    c ∉ channelArgument x y n := by
  simp only [channelArgument, List.mem_append]
  rintro (h | h | h)
  · exact hbefore h
  · rw [Nat.isDigit_of_mem_toDigits (by decide) (by decide) h] at hdigit
    cases hdigit
  · exact hbehind h

namespace Dialect

/-- How channels are sampled in a dialect. -/
def sampleShape : Dialect → SampleShape
  | glslEs100 => ⟨TextureCall.function ++ ['2', 'D'], glslChannel, []⟩
  | glslEs300 => ⟨TextureCall.function, glslChannel, []⟩
  | wgsl => ⟨TextureCall.function ++ "SampleLevel".toList, wgslChannel, [',', ' ', '0', '.', '0']⟩
where
  /-- The sampler of a channel. -/
  glslChannel : Nat → List Char := channelArgument ('u' :: "Channel".toList) [',']
  /-- The texture of a channel, and the sampler of all. -/
  wgslChannel : Nat → List Char :=
    channelArgument ('c' :: "hannel".toList) ", channelSampler,".toList

theorem sampling_language (d : Dialect) : d.language.sampling = .numbered d.sampleShape.format := by
  have numbered : ∀ {f g : SampleFormat}, (∀ n x, f n x = g n x) →
      Sampling.numbered f = .numbered g := by
    intro f g h
    exact congrArg _ (funext fun n => funext (h n))
  cases d
  all_goals
    apply numbered
    intro n x
    simp [sampleShape, sampleShape.glslChannel, sampleShape.wgslChannel, channelArgument,
      TextureCall.function, SampleShape.format, GlslVersion.sampler, channelSamplerName]

theorem regular_sampleShape (d : Dialect) : d.sampleShape.Regular := by
  have glsl : ∀ n c, c ∈ ['(', ')', '.'] → c ∉ sampleShape.glslChannel n := by
    intro n c hc
    apply not_mem_channelArgument
    all_goals
      simp only [List.mem_cons, List.not_mem_nil, or_false] at hc
      rcases hc with rfl | rfl | rfl <;> decide +kernel
  have wgsl : ∀ n c, c ∈ ['(', ')', '.'] → c ∉ sampleShape.wgslChannel n := by
    intro n c hc
    apply not_mem_channelArgument
    all_goals
      simp only [List.mem_cons, List.not_mem_nil, or_false] at hc
      rcases hc with rfl | rfl | rfl <;> decide +kernel
  -- a level of detail has a point, but behind it stands no swizzle
  have level : ∀ m : Swizzle, m.remap [',', ' ', '0', '.', '0'] = [',', ' ', '0', '.', '0'] := by
    intro m
    have plain : m.rename ['0'] = ['0'] := rfl
    rw [Swizzle.remap_cons (by decide), Swizzle.remap_cons (by decide),
      Swizzle.remap_cons (by decide), Swizzle.remap_point]
    change _ :: _ :: _ :: _ :: (m.rename ['0'] ++ m.remap []) = _
    rw [plain, Swizzle.remap_nil]
    rfl
  cases d with
  | glslEs100 | glslEs300 => exact {
      word := by decide
      head := ⟨_, rfl⟩
      lead_head := fun n => ⟨'u', _, rfl, rfl, rfl⟩
      lead_plain := fun n => ⟨glsl n _ (by decide), glsl n _ (by decide), glsl n _ (by decide)⟩
      tail_plain := by decide
      tail_head := .inl rfl
      tail_remap := Swizzle.remap_nil }
  | wgsl => exact {
      word := by decide +kernel
      head := ⟨_, rfl⟩
      lead_head := fun n => ⟨'c', _, rfl, rfl, rfl⟩
      lead_plain := fun n => ⟨wgsl n _ (by decide), wgsl n _ (by decide), wgsl n _ (by decide)⟩
      tail_plain := by decide
      tail_head := .inr ⟨',', [' ', '0', '.', '0'], rfl, by decide⟩
      tail_remap := level }

/-- **Binding texture calls is complete.** In each dialect no call that can be bound is left at any
place, and so binding once more changes nothing. -/
theorem binding_complete (d : Dialect) (e : String) :
    ∃ format, d.language.sampling = .numbered format ∧
      (∀ w : WrittenCall, w.Bindable → ¬ w.StandsIn (bindTextures format e).toList) ∧
      bindTextures format (bindTextures format e) = bindTextures format e := by
  have settled := settled_bindTexturesFrom d.regular_sampleShape true e.toList
  refine ⟨d.sampleShape.format, d.sampling_language, ?_, ?_⟩
  · rw [bindTextures, String.toList_ofList]
    exact settled_iff_forall_not_standsIn.mp settled
  · rw [bindTextures, bindTextures, String.toList_ofList, settled.bindTexturesFrom_eq]

end Dialect

end LitTiles
