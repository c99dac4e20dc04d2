import LitTiles.Program.Source
import LitTiles.Proofs.Effect.Spelling

/-!
# Blocks in generated text

The statements of an effect are a flat list, in which conditionals should nest. `Code` has the lists
in which they do, as trees; `Code.placed` writes a tree out, each statement with the number of
blocks around it. The generator knows nothing of trees: it counts the blocks that were opened and
closed before. `Counts` says that this count is right for each statement of a list and never below
zero, and so it is for what a tree is written out to (`Code.counts`). What the lines of a body are,
and what depth is behind them, follows from the count alone (`Counts.bodyLines_eq`,
`Counts.depthAfter_eq`).

A line has the braces of its statement and no others (`Statement.exists_text`) as long as there are
none in the texts of the effect: neither text pass adds any (`Dialect.addsNoBraces_language`). So
the braces of a body match where the count is right (`Counts.closesBraces`).
-/

namespace LitTiles

/-! ## Trees -/

/-- The parts of a body. -/
inductive CodePart where
  /-- Blocks, one after the other. -/
  | blocks
  /-- What there is of a conditional behind its first block. -/
  | branches

/-- A part of a body, as a tree. -/
inductive Code : CodePart → Type where
  /-- No more blocks. -/
  | done : Code .blocks
  /-- A declaration. -/
  | declare (name : String) (type : ValueType) (rest : Code .blocks) : Code .blocks
  /-- An assignment. -/
  | assign (op : Assignment) (target expr : String) (rest : Code .blocks) : Code .blocks
  /-- A conditional. -/
  | conditional (condition : String)
    (body : Code .blocks) (more : Code .branches) (rest : Code .blocks) :
    Code .blocks
  /-- No more branches. -/
  | endIf : Code .branches
  /-- The branch for all other cases. -/
  | otherwise (body : Code .blocks) : Code .branches
  /-- A branch under another condition. -/
  | elseIf (condition : String) (body : Code .blocks) (more : Code .branches) : Code .branches

namespace Code

/-- The statements of a part that stands in a number of blocks, each with the number of blocks
around it. All branches of a conditional stand where it does. -/
def placed (depth : Nat) : {part : CodePart} → Code part → List (Nat × Statement)
  | _, done => []
  | _, declare name type rest => (depth, .declare name type) :: rest.placed depth
  | _, assign op target expr rest => (depth, .assign op target expr) :: rest.placed depth
  | _, conditional condition body more rest =>
    (depth, .ifThen condition) ::
    (body.placed (depth + 1) ++ (more.placed depth ++ rest.placed depth))
  | _, endIf => [(depth, .endIf)]
  | _, otherwise body => (depth, .otherwise) :: (body.placed (depth + 1) ++ [(depth, .endIf)])
  | _, elseIf condition body more =>
    (depth, .elseIf condition) :: (body.placed (depth + 1) ++ more.placed depth)

/-- The statements of a body. -/
def statements (b : Code .blocks) : List Statement := (b.placed 0).map (·.2)

end Code

/-- The texts of a statement. -/
def Statement.texts : Statement → List String
  | declare name _ => [name]
  | assign _ target expr => [target, expr]
  | ifThen condition => [condition]
  | elseIf condition => [condition]
  | otherwise => []
  | endIf => []

/-- Neither brace is in a text. -/
def Braceless (s : List Char) : Prop := '{' ∉ s ∧ '}' ∉ s

instance (s : List Char) : Decidable (Braceless s) := inferInstanceAs (Decidable (_ ∧ _))

/-- No text of a statement has a brace. -/
def Statement.Braceless (s : Statement) : Prop := ∀ x ∈ s.texts, LitTiles.Braceless x.toList

instance (s : Statement) : Decidable s.Braceless := inferInstanceAs (Decidable (∀ x ∈ s.texts, _))

/-- A text that closes a number of braces more than it opens, and never more than were open. -/
structure ClosesBraces (depth : Nat) (s : List Char) : Prop where
  /-- So many more are closed than opened. -/
  count : s.count '}' = s.count '{' + depth
  /-- No start of the text closes more of them. -/
  bounded : ∀ p, p <+: s → p.count '}' ≤ p.count '{' + depth

/-- The depth behind some statements, from the depth in front of them. -/
def depthAfter (depth : Nat) (ss : List Statement) : Nat :=
  ss.foldl (fun depth s => s.nextDepth depth) depth

/-- The line of a statement with a number of blocks around it. -/
def placedLine (l : Language) (p : Nat × Statement) : String := indented p.1 (p.2.text l)

variable {c : Char} {depth depth' depth'' : Nat} {s t x : List Char}
  {part : CodePart} {l : Language} {st : Statement} {ps qs : List (Nat × Statement)}

/-! ## Counting blocks -/

theorem bodyLines_append (l : Language) (depth : Nat) (ss ts : List Statement) :
    bodyLines l depth (ss ++ ts) = bodyLines l depth ss ++ bodyLines l
    (depthAfter depth ss) ts := by
  induction ss generalizing depth with
  | nil => rfl
  | cons s ss ih => exact congrArg (_ :: ·) (ih (s.nextDepth depth))

/-- How the depth goes along some statements: each of them has the blocks around it that are counted
there, and none ends a block where there is none. -/
inductive Counts : Nat → List (Nat × Statement) → Nat → Prop
  /-- No statements. -/
  | nil (depth : Nat) : Counts depth [] depth
  /-- One more in front. -/
  | cons {ps : List (Nat × Statement)} {depth' : Nat} (depth : Nat) (s : Statement)
    (h : s.closes = true → 0 < depth) (rest : Counts (s.nextDepth depth) ps depth') :
    Counts depth ((s.lineDepth depth, s) :: ps) depth'

theorem Counts.append (hp : Counts depth ps depth') (hq : Counts depth' qs depth'') :
    Counts depth (ps ++ qs) depth'' := by
  induction hp with
  | nil depth => exact hq
  | cons depth s h _ ih => exact .cons depth s h (ih hq)

theorem Counts.depthAfter_eq (h : Counts depth ps depth') :
    depthAfter depth (ps.map (·.2)) = depth' := by
  induction h with
  | nil depth => rfl
  | cons depth s _ _ ih => exact ih

/-- The lines are where the statements are. -/
theorem Counts.bodyLines_eq (h : Counts depth ps depth') (l : Language) :
    bodyLines l depth (ps.map (·.2)) = ps.map (placedLine l) := by
  induction h with
  | nil depth => rfl
  | cons depth s _ _ ih => exact congrArg (_ :: ·) ih

/-- The depth in front of a part that stands in a number of blocks: branches follow a block. -/
def CodePart.startDepth (depth : Nat) : CodePart → Nat
  | blocks => depth
  | branches => depth + 1

/-- **The depth goes along a tree as its blocks do.** -/
theorem Code.counts (b : Code part) (depth : Nat) : Counts (part.startDepth depth)
    (b.placed depth) depth := by
  have last : ∀ depth, Counts (depth + 1) [(depth, .endIf)] depth := fun depth =>
    .cons _ .endIf (fun _ => Nat.succ_pos depth) (.nil depth)
  induction b generalizing depth with
  | done => exact .nil depth
  | declare name type rest ih => exact .cons depth (.declare name type) nofun (ih depth)
  | assign op target expr rest ih => exact .cons depth (.assign op target expr) nofun (ih depth)
  | conditional condition body more rest ihbody ihmore ihrest =>
    exact .cons depth (.ifThen condition) nofun
      ((ihbody (depth + 1)).append ((ihmore depth).append (ihrest depth)))
  | endIf => exact last depth
  | otherwise body ih =>
    exact .cons _ .otherwise (fun _ => Nat.succ_pos depth) ((ih (depth + 1)).append (last depth))
  | elseIf condition body more ihbody ihmore =>
    exact .cons _ (.elseIf condition) (fun _ => Nat.succ_pos depth)
      ((ihbody (depth + 1)).append (ihmore depth))

/-! ## Braces -/

theorem Braceless.append (hs : Braceless s) (ht : Braceless t) : Braceless (s ++ t) := by
  constructor <;> rw [List.mem_append, not_or]
  · exact ⟨hs.1, ht.1⟩
  · exact ⟨hs.2, ht.2⟩

namespace ClosesBraces

theorem nil : ClosesBraces 0 [] := ⟨rfl, fun p hp => by simp [List.prefix_nil.mp hp]⟩

/-- A character in front of a text moves the counts of all its starts. -/
theorem cons (h : ClosesBraces depth' s) (hc : [c].count '}' + depth' = [c].count '{' + depth) :
    ClosesBraces depth (c :: s) := by
  have parts : ∀ (d : Char) (p : List Char), (c :: p).count d = [c].count d + p.count d := by
    intro d p
    rw [← List.count_append, List.singleton_append]
  constructor
  · have rest := h.count
    have opened := parts '{' s
    have closed := parts '}' s
    omega
  · intro p hp
    rcases List.prefix_cons_iff.mp hp with rfl | ⟨q, rfl, hq⟩
    · exact Nat.zero_le _
    · have rest := h.bounded q hq
      have opened := parts '{' q
      have closed := parts '}' q
      omega

theorem opening (h : ClosesBraces (depth + 1) s) : ClosesBraces depth ('{' :: s) :=
  h.cons (by simp; omega)

theorem closing (h : ClosesBraces depth s) : ClosesBraces (depth + 1) ('}' :: s) :=
  h.cons (by simp; omega)

/-- A text without braces changes nothing. -/
theorem plain (h : ClosesBraces depth s) (hx : Braceless x) : ClosesBraces depth (x ++ s) := by
  induction x with
  | nil => exact h
  | cons c x ih =>
    obtain ⟨hopen, hopens⟩ := not_or.mp (mt List.mem_cons.mpr hx.1)
    obtain ⟨hclose, hcloses⟩ := not_or.mp (mt List.mem_cons.mpr hx.2)
    apply (ih ⟨hopens, hcloses⟩).cons
    rw [List.count_singleton, List.count_singleton, if_neg, if_neg]
    · simpa using Ne.symm hopen
    · simpa using Ne.symm hclose

end ClosesBraces

/-- A language that adds no braces to the texts of an effect. -/
structure Language.AddsNoBraces (l : Language) : Prop where
  /-- The text passes add none. -/
  spell : ∀ expr : String, Braceless expr.toList → Braceless (l.spell expr).toList
  /-- Declarations have none. -/
  declareLocal : ∀ (name : String) (type : ValueType), Braceless name.toList →
    Braceless (l.declareLocal name type).toList

/-- A statement has a brace where it closes a block and one where it opens one. -/
theorem Statement.exists_text (hl : l.AddsNoBraces) (hst : st.Braceless) :
    ∃ x, LitTiles.Braceless x ∧
    (st.text l).toList = (if st.closes then ['}'] else []) ++
    (x ++ if st.opens then ['{'] else []) := by
  cases st with
  | declare name type =>
    refine ⟨(l.declareLocal name type).toList,
      hl.declareLocal name type (hst name (by simp [texts])), ?_⟩
    simp [text, closes, opens]
  | assign op target expr =>
    have symbol : LitTiles.Braceless op.symbol.toList := by cases op <;> decide
    have ends : LitTiles.Braceless [' '] ∧ LitTiles.Braceless [';'] := by decide
    -- a statement is put together from pieces without braces, in the order of its text
    have htarget := hst target (by simp [texts])
    have hexpr := hl.spell expr (hst expr (by simp [texts]))
    have whole :=
      htarget.append (ends.1.append (symbol.append (ends.1.append (hexpr.append ends.2))))
    exact ⟨_, whole, by simp [text, closes, opens]⟩
  | ifThen condition =>
    have lead : LitTiles.Braceless "if (".toList := by decide +kernel
    have hcondition := hl.spell condition (hst condition (by simp [texts]))
    have ends : LitTiles.Braceless [')', ' '] := by decide
    exact ⟨_, lead.append (hcondition.append ends), by simp [text, closes, opens]⟩
  | elseIf condition =>
    have lead : LitTiles.Braceless " else if (".toList := by decide +kernel
    have hcondition := hl.spell condition (hst condition (by simp [texts]))
    have ends : LitTiles.Braceless [')', ' '] := by decide
    exact ⟨_, lead.append (hcondition.append ends), by simp [text, closes, opens]⟩
  | otherwise => exact ⟨" else ".toList, by decide +kernel, by simp [text, closes, opens]⟩
  | endIf => exact ⟨[], by decide, by simp [text, closes, opens]⟩

/-- So a line counts as its statement does. -/
theorem ClosesBraces.placedLine (hl : l.AddsNoBraces) (hst : st.Braceless)
    (hopen : st.closes = true → 0 < depth) (h : ClosesBraces (st.nextDepth depth) s) (n : Nat) :
    ClosesBraces depth ((placedLine l (n, st)).toList ++ s) := by
  obtain ⟨x, hx, htext⟩ := Statement.exists_text hl hst
  have blanks : Braceless (List.replicate (4 * n) ' ') := by
    constructor <;> intro hmem <;> cases List.eq_of_mem_replicate hmem
  have behind : ClosesBraces (st.lineDepth depth) ((if st.opens then ['{'] else []) ++ s) := by
    unfold Statement.nextDepth at h
    split_ifs at h ⊢
    · exact h.opening
    · exact h
  have text := behind.plain hx
  rw [LitTiles.placedLine, indented, String.toList_append, String.toList_ofList, htext,
    List.append_assoc, List.append_assoc, List.append_assoc]
  apply plain _ blanks
  by_cases hcloses : st.closes = true
  · obtain ⟨outer, rfl⟩ := Nat.exists_eq_add_one.mpr (hopen hcloses)
    rw [Statement.lineDepth, if_pos hcloses] at text
    rw [if_pos hcloses]
    exact text.closing
  · rw [Statement.lineDepth, if_neg hcloses] at text
    rwa [if_neg hcloses]

/-- **The braces of a body** are closed as the blocks of its statements are. -/
theorem Counts.closesBraces (hl : l.AddsNoBraces) (h : Counts depth ps depth')
    (hps : ∀ p ∈ ps, p.2.Braceless) (hs : ClosesBraces depth' s) :
    ClosesBraces depth ((unlines (ps.map (placedLine l))).toList ++ s) := by
  induction h with
  | nil depth => exact hs
  | cons depth st hopen _ ih =>
    obtain ⟨hst, hps⟩ := List.forall_mem_cons.mp hps
    have rest := (ih hps hs).plain (x := ['\n']) (by decide)
    have line := rest.placedLine hl hst hopen (st.lineDepth depth)
    simp only [unlines, List.map_cons, String.join_cons, String.toList_append, List.append_assoc]
      at line ⊢
    exact line

/-! ## The dialects -/

/-- A text pass adds no character that its calls do not have. -/
theorem not_mem_bindTexturesFrom {format : SampleFormat}
    (hf : ∀ n x, c ∉ x → c ∉ format n x) (b : Bool) (hs : c ∉ s) :
    c ∉ bindTexturesFrom format b s := by
  induction b, s using bindTexturesFrom_induction with
  | nil b => rwa [bindTexturesFrom_nil]
  | call s k hk ihargs ihrest =>
    obtain ⟨w, -, rfl, -, hargs⟩ := TextureCall.atStart?_eq_some_iff.mp hk
    obtain ⟨before, after, htrim, -, -⟩ := exists_trim w.args
    have args : c ∉ k.args := by
      intro hmem
      rw [hargs] at hmem
      apply hs
      rw [w.text_append, htrim]
      simp [hmem]
    have rest : c ∉ k.rest := fun hmem => hs (List.mem_append_right _ hmem)
    rw [bindTexturesFrom_call hk, List.mem_append, not_or]
    exact ⟨hf _ _ (ihargs args), ihrest rest⟩
  | cons b c' r start ih =>
    obtain ⟨hc, hr⟩ := not_or.mp (mt List.mem_cons.mpr hs)
    rw [bindTexturesFrom_cons start, List.mem_cons, not_or]
    exact ⟨hc, ih hr⟩

/-- Nor does the other one add characters that are in no names. -/
theorem Swizzle.not_mem_remap {m : Swizzle} (hm : m.NamesLetters)
    (hc : isWordChar c = false) (hs : c ∉ s) :
    c ∉ m.remap s := by
  have same := m.map_remap (· == c) (fun d hd => ?_) s
  · intro hmem
    have found : true ∈ (m.remap s).map (· == c) := List.mem_map.mpr ⟨c, hmem, beq_self_eq_true c⟩
    rw [same] at found
    obtain ⟨d, hd, heq⟩ := List.mem_map.mp found
    exact hs (beq_iff_eq.mp heq ▸ hd)
  · have word := isWordChar_of_isComponent hd
    have other : ∀ e, isWordChar e = true → (e == c) = false := by
      intro e he
      rw [beq_eq_false_iff_ne]
      rintro rfl
      rw [hc] at he
      cases he
    rw [other d word, other _ (hm d word)]

namespace Dialect

theorem not_mem_format (d : Dialect) (hc : c = '{' ∨ c = '}') (n : Nat) (hx : c ∉ x) :
    c ∉ d.sampleShape.format n x := by
  have lead : c ∉ d.sampleShape.lead n := by
    cases d
    all_goals
      apply not_mem_channelArgument
      all_goals rcases hc with rfl | rfl <;> decide +kernel
  have rest : c ∉ d.sampleShape.name ++ '(' :: ' ' :: (d.sampleShape.tail ++ [')']) := by
    cases d
    all_goals rcases hc with rfl | rfl <;> decide +kernel
  simp only [SampleShape.format, List.mem_append, List.mem_cons, not_or] at rest ⊢
  exact ⟨rest.1, rest.2.1, lead, rest.2.2.1, hx, rest.2.2.2⟩

theorem addsNoBraces_language (d : Dialect) : d.language.AddsNoBraces where
  spell := by
    -- spelling is binding and remapping, and neither writes a brace that was not there
    have kept : ∀ {c : Char}, c = '{' ∨ c = '}' → ∀ expr : String, c ∉ expr.toList →
        c ∉ (d.language.spell expr).toList := by
      intro c hc expr hexpr
      rw [spell_toList]
      apply Swizzle.not_mem_remap (Swizzle.namesLetters_language d)
        (by rcases hc with rfl | rfl <;> rfl)
      exact not_mem_bindTexturesFrom (fun n x hx => d.not_mem_format hc n hx) true hexpr
    intro expr hexpr
    exact ⟨kept (.inl rfl) expr hexpr.1, kept (.inr rfl) expr hexpr.2⟩
  declareLocal := by
    intro name type hname
    have glsl : Braceless type.glslName.toList := by cases type <;> decide +kernel
    have wgsl : Braceless type.wgslName.toList := by cases type <;> decide +kernel
    have marks : Braceless [' '] ∧ Braceless [';'] ∧ Braceless [':', ' '] ∧
        Braceless ['v', 'a', 'r', ' '] := by
      decide
    cases d with
    | glslEs100 | glslEs300 =>
      have line := glsl.append (marks.1.append (hname.append marks.2.1))
      simpa [language, GlslVersion.language] using line
    | wgsl =>
      have line := marks.2.2.2.append (hname.append (marks.2.2.1.append (wgsl.append marks.2.1)))
      simpa [language, Wgsl.language] using line

end Dialect

/-! ## Bodies -/

/-- **Bodies keep the block structure.** In each dialect, the body of an effect whose statements are
those of a tree without braces has a line for each statement, in their order and with four spaces
for each block around it. Its braces match; and as no block is left open, what follows is written as
it would be on its own. -/
theorem Code.generate_body (d : Dialect) {b : Code .blocks}
    (hb : ∀ s ∈ b.statements, s.Braceless) {e : Effect} (he : e.statements = b.statements) :
    (e.generate d.language).body = (b.placed 0).map (placedLine d.language) ∧
    ClosesBraces 0 (unlines (e.generate d.language).body).toList ∧
    depthAfter 0 e.statements = 0 ∧
    ∀ f g : Effect, g.statements = e.statements ++ f.statements →
      (g.generate d.language).body = (e.generate d.language).body ++
      (f.generate d.language).body := by
  have counts : Counts 0 (b.placed 0) 0 := b.counts 0
  have lines : (e.generate d.language).body = (b.placed 0).map (placedLine d.language) := by
    rw [Effect.generate, he]
    exact counts.bodyLines_eq d.language
  have closed : depthAfter 0 e.statements = 0 := by
    rw [he]
    exact counts.depthAfter_eq
  refine ⟨lines, ?_, closed, ?_⟩
  · have braces :=
      counts.closesBraces d.addsNoBraces_language (List.forall_mem_map.mp hb) ClosesBraces.nil
    rwa [List.append_nil, ← lines] at braces
  · intro f g hg
    have both := bodyLines_append d.language 0 e.statements f.statements
    rwa [closed, ← hg] at both

/-- A conditional inside of another one, which has two more branches. -/
theorem Code.generate_body_nested :
    let inner : Code .blocks :=
      .conditional "texture(1, uv).a > 0.5" (.assign .set "x" "1.0" .done) .endIf .done
    let b : Code .blocks := .conditional "a > 0.0" inner
      (.elseIf "a < 0.0" (.assign .sub "x" "1.0" .done) (.otherwise .done))
        (.declare "y" .float .done)
    let e : Effect := ⟨b.statements, [], 0⟩
    (∀ s ∈ b.statements, s.Braceless) ∧
      (e.generate Dialect.glslEs300.language).body =
        ["if (a > 0.0) \x7b", "    if (texture(uChannel1, uv).a > 0.5) \x7b",
          "        x = 1.0;", "    \x7d", "\x7d else if (a < 0.0) \x7b", "    x -= 1.0;",
          "\x7d else \x7b", "\x7d", "float y;"] ∧
      ClosesBraces 0 (unlines (e.generate Dialect.glslEs300.language).body).toList := by
  intro inner b e
  have braceless : ∀ s ∈ b.statements, s.Braceless := by decide +kernel
  exact ⟨braceless, by decide +kernel, (Code.generate_body .glslEs300 braceless rfl).2.1⟩

end LitTiles
