import LitTiles.Proofs.Effect.References

/-!
# References in generated text

The line of a statement accesses the members that the statement does, each under the name that its
dialect makes of it (`Dialect.memberName`), and the uniform block declares all members under their
own names (`Dialect.declaredName`). So the references of an effect are kept unless the dialect is
WGSL and one of them is to a member whose name reads like components.
-/

namespace LitTiles

/-- The members of the uniform block that a text accesses, in order. -/
def accesses (text : String) : List String := (accessesFrom true text.toList).map String.ofList

/-- A name that can be declared. -/
def IsIdentifier (name : String) : Prop :=
  name.toList ≠ [] ∧ name.toList.head?.any Char.isDigit = false ∧ IsWord name.toList

instance (name : String) : Decidable (IsIdentifier name) := inferInstanceAs (Decidable (_ ∧ _ ∧ _))

namespace Statement

/-- The text of a statement that is rewritten: the value that is assigned, or the condition. -/
def expression? : Statement → Option String
  | assign _ _ expr => some expr
  | ifThen condition | elseIf condition => some condition
  | _ => none

/-- The text in front of it that is the caller's. -/
def target : Statement → String
  | assign _ target _ => target
  | _ => ""

end Statement

namespace Dialect

/-- The name a member is accessed by in a dialect. -/
def memberName (d : Dialect) (name : String) : String :=
  String.ofList (d.language.swizzle.rename name.toList)

/-- The name of the member that a line of the uniform block declares. -/
def declaredName (d : Dialect) (line : String) : String :=
  match d with
  | wgsl => String.ofList (line.toList.takeWhile isWordChar)
  | _ => String.ofList (((line.toList.dropWhile (· ≠ ' ')).drop 1).takeWhile isWordChar)

end Dialect

namespace Effect

/-- The effect has a uniform with a name that can be declared. -/
def Declares (e : Effect) (name : String) : Prop :=
  IsIdentifier name ∧ ∃ u ∈ e.uniforms, u.name = name

/-- Some expression of the effect accesses a member. -/
def Refers (e : Effect) (name : String) : Prop :=
  ∃ s ∈ e.statements, ∃ expr, s.expression? = some expr ∧ name ∈ accesses expr

/-- Wherever an expression accesses a uniform, the line of its statement does so by the same
name. -/
def KeepsReferences (e : Effect) (d : Dialect) : Prop :=
  ∀ (k : Nat) (s : Statement) (expr : String) (j : Nat) (name : String),
    e.statements[k]? = some s → s.expression? = some expr → (accesses expr)[j]? = some name →
    e.Declares name →
    ∃ line, (e.generate d.language).body[k]? = some line ∧
      (accesses line)[(accesses s.target).length + j]? = some name

end Effect

variable {d : Dialect} {s : Statement} {x : String} {k : Nat}

/-! ## The dialects -/

theorem Swizzle.namesLetters_language (d : Dialect) : d.language.swizzle.NamesLetters := by
  intro c hc
  unfold Swizzle.apply Swizzle.letter?
  cases d
  all_goals
    split_ifs
    all_goals first | rfl | exact hc

theorem point_not_mem_toDigits (n : Nat) : '.' ∉ Nat.toDigits 10 n := by
  intro h
  have digit := Nat.isDigit_of_mem_toDigits (by decide) (by decide) h
  cases digit

theorem transparent_glsl (v : GlslVersion) : Transparent fun channel args =>
    (v.sampler ++ "(" ++ channelSamplerName channel ++ ", ").toList ++ args ++ [')'] := by
  have name : IsWord v.sampler.toList ∧ v.sampler.toList ≠ [] ∧ v.sampler.toList ≠ blockName := by
    cases v <;> decide +kernel
  obtain ⟨word, nonempty, other⟩ := name
  apply Transparent.of_shape (fun n => (channelSamplerName n ++ ",").toList) [] word nonempty other
  · intro n
    simp [channelSamplerName, point_not_mem_toDigits]
  · intro x
    rw [List.append_nil]
  · intro n x
    simp

theorem transparent_wgsl : Transparent fun channel args =>
    ("textureSampleLevel(channel" ++ toString channel ++ ", channelSampler, ").toList ++ args ++
      ", 0.0)".toList := by
  have word : IsWord "textureSampleLevel".toList := by decide +kernel
  apply Transparent.of_shape (fun n => ("channel" ++ toString n ++ ", channelSampler,").toList)
    [',', ' ', '0', '.', '0'] word (by decide +kernel) (by decide +kernel)
  · intro n
    simp [point_not_mem_toDigits]
  · intro x
    have none : accessesFrom true [' ', '0', '.', '0'] = [] := by decide
    rw [accessesFrom_append (by decide), none, List.append_nil]
  · intro n x
    simp

/-- **What becomes of the accesses of an expression.** -/
theorem accessesFrom_spell (d : Dialect) (expr : String) :
    accessesFrom true (d.language.spell expr).toList =
      (accessesFrom true expr.toList).map d.language.swizzle.rename := by
  have bound : ∀ {format} (_ : Transparent format),
      accessesFrom true (d.language.swizzle.remapText (bindTextures format expr)).toList =
        (accessesFrom true expr.toList).map d.language.swizzle.rename := by
    intro format hf
    rw [Swizzle.remapText, bindTextures, String.toList_ofList, String.toList_ofList,
      Swizzle.accessesFrom_remap (Swizzle.namesLetters_language d),
      accessesFrom_bindTexturesFrom hf]
  cases d with
  | glslEs100 => exact bound (transparent_glsl .es100)
  | glslEs300 => exact bound (transparent_glsl .es300)
  | wgsl => exact bound transparent_wgsl

example :
    accesses (Dialect.wgsl.language.spell "texture(0, uv * uniforms.scale).rgb + uniforms.rgb") =
    ["scale", "xyz"] := by decide +kernel

/-! ## Lines -/

theorem accessesFrom_indented (depth : Nat) (line : String) :
    accessesFrom true (indented depth line).toList = accessesFrom true line.toList := by
  rw [indented, String.toList_append, String.toList_ofList]
  apply accessesFrom_blanks
  intro c hc
  rw [List.eq_of_mem_replicate hc]
  rfl

theorem getElem?_bodyLines (l : Language) {ss : List Statement}
    (h : ss[k]? = some s) (depth : Nat) :
    ∃ depth', (bodyLines l depth ss)[k]? = some (indented depth' (s.text l)) := by
  induction ss generalizing depth k with
  | nil => cases h
  | cons s' ss ih =>
    cases k with
    | zero =>
      obtain rfl := Option.some.inj h
      exact ⟨_, rfl⟩
    | succ k => exact ih h _

/-- Around a condition there is no access. -/
theorem accessesFrom_condition {lead : List Char} (h : '.' ∉ lead) (condition : List Char) :
    accessesFrom true (lead ++ ' ' :: '(' :: (condition ++ [')', ' ', '\x7b'])) =
      accessesFrom true condition := by
  have block : accessesFrom true [' ', '\x7b'] = [] := by decide
  rw [accessesFrom_append (by decide), accessesFrom_of_not_mem h,
    accessesFrom_cons_of_not_word (c := '(') rfl, accessesFrom_append (by decide), block,
    List.append_nil, List.nil_append]

/-- A statement accesses what its target and its expression do. -/
theorem accessesFrom_text (l : Language) (h : s.expression? = some x) :
    accessesFrom true (s.text l).toList =
      accessesFrom true s.target.toList ++ accessesFrom true (l.spell x).toList := by
  cases s with
  | assign op target expr =>
    obtain rfl := Option.some.inj h
    -- the symbol is between target and expression, and it has no point that could be an access
    have symbol : '.' ∉ op.symbol.toList := by
      cases op <;> decide +kernel
    have shape : (Statement.text l (.assign op target expr)).toList =
        target.toList ++ ' ' :: (op.symbol.toList ++ ' ' ::
          ((l.spell expr).toList ++ ';' :: [])) := by
      simp [Statement.text]
    rw [shape, accessesFrom_append (by decide), accessesFrom_append (by decide),
      accessesFrom_of_not_mem symbol, accessesFrom_append (by decide), List.nil_append,
      accessesFrom, List.append_nil]
    rfl
  | ifThen condition =>
    obtain rfl := Option.some.inj h
    have shape : (Statement.text l (.ifThen condition)).toList =
        "if".toList ++ ' ' :: '(' :: ((l.spell condition).toList ++ [')', ' ', '\x7b']) := by
      simp [Statement.text]
    rw [shape, accessesFrom_condition (by decide +kernel)]
    rfl
  | elseIf condition =>
    obtain rfl := Option.some.inj h
    have shape : (Statement.text l (.elseIf condition)).toList =
        "\x7d else if".toList ++ ' ' :: '(' ::
        ((l.spell condition).toList ++ [')', ' ', '\x7b']) := by
      simp [Statement.text]
    rw [shape, accessesFrom_condition (by decide +kernel)]
    rfl
  | declare _ _ | otherwise | endIf => cases h

/-- **What the line of a statement accesses.** -/
theorem Effect.exists_line {e : Effect} (d : Dialect) (hs : e.statements[k]? = some s)
    (hx : s.expression? = some x) :
    ∃ line, (e.generate d.language).body[k]? = some line ∧
      accesses line = accesses s.target ++ (accesses x).map d.memberName := by
  obtain ⟨depth, hline⟩ := getElem?_bodyLines d.language hs 0
  refine ⟨_, hline, ?_⟩
  have names : String.ofList ∘ d.language.swizzle.rename = d.memberName ∘ String.ofList := by
    funext name
    simp [Dialect.memberName]
  rw [accesses, accessesFrom_indented, accessesFrom_text d.language hx,
    accessesFrom_spell, List.map_append, List.map_map, names, ← List.map_map]
  rfl

/-! ## Names -/

/-- No component has its own letter in WGSL. -/
theorem Swizzle.apply_xyzw_ne {c : Char} (h : isComponent c = true) : xyzw.apply c ≠ c := by
  simp only [isComponent, Bool.or_eq_true, beq_iff_eq] at h
  rcases h with ((rfl | rfl) | rfl) | rfl
  all_goals decide

theorem Swizzle.rename_identity (name : List Char) : identity.rename name = name := by
  have same : identity.apply = id := by
    funext c
    unfold apply letter?
    split_ifs
    all_goals simp [identity, *]
  rw [rename, same, List.map_id, ite_self]

theorem Swizzle.rename_xyzw_eq_self_iff {name : List Char} :
    xyzw.rename name = name ↔ isSwizzle name = false := by
  unfold rename
  split
  · rename_i h
    cases name with
    | nil => cases h
    | cons c name =>
      have component : isComponent c = true := by
        simp only [isSwizzle, Bool.and_eq_true, List.all_cons] at h
        exact h.2.1
      simp only [List.map_cons, List.cons.injEq, apply_xyzw_ne component, false_and, h,
        Bool.true_eq_false]
  · rename_i h
    simp [h]

/-- The name of a member stays unless components have other letters and it reads like some. -/
theorem Dialect.memberName_eq_self_iff {name : String} :
    d.memberName name = name ↔ (d = .wgsl → Swizzle.isSwizzle name.toList = false) := by
  have lists : d.memberName name = name ↔ d.language.swizzle.rename name.toList = name.toList := by
    rw [memberName, ← String.toList_inj, String.toList_ofList]
  rw [lists]
  cases d with
  | glslEs100 | glslEs300 => exact iff_of_true (Swizzle.rename_identity _) (by simp)
  | wgsl => exact Swizzle.rename_xyzw_eq_self_iff.trans (by simp)

/-- The uniform block declares a member under its own name. -/
theorem Dialect.declaredName_declareUniform {u : Uniform} (h : IsIdentifier u.name) (d : Dialect) :
    d.declaredName (d.language.declareUniform u.name u.type) = u.name := by
  obtain ⟨-, -, word⟩ := h
  -- in GLSL the name stands behind the type and a space
  have glsl : ∀ (type : ValueType),
      ((((type.glslName ++ " " ++ u.name ++ ";").toList.dropWhile (· ≠ ' ')).drop 1)
      |>.takeWhile isWordChar) = u.name.toList := by
    intro type
    have shape : ((type.glslName ++ " " ++ u.name ++ ";").toList.dropWhile (· ≠ ' ')) =
        ' ' :: (u.name.toList ++ [';']) := by
      cases type <;> simp [ValueType.glslName]
    rw [shape]
    exact word.takeWhile_append (breaks_cons rfl)
  cases d with
  | glslEs100 | glslEs300 =>
    apply String.toList_inj.mp
    rw [declaredName, String.toList_ofList]
    · exact glsl u.type
    · rintro ⟨⟩
  | wgsl =>
    -- in WGSL it stands first
    apply String.toList_inj.mp
    have shape : (u.name ++ ": " ++ u.type.wgslName ++ ",").toList =
        u.name.toList ++ ':' :: ' ' :: (u.type.wgslName ++ ",").toList := by simp
    rw [declaredName, String.toList_ofList]
    change List.takeWhile isWordChar (u.name ++ ": " ++ u.type.wgslName ++ ",").toList = _
    rw [shape, word.takeWhile_append (breaks_cons rfl)]

namespace Effect

variable {e : Effect} {u : Uniform}

theorem exists_declaration (d : Dialect) (hu : e.uniforms[k]? = some u) (h : IsIdentifier u.name) :
    ∃ line, (e.generate d.language).uniforms[k]? = some line ∧ d.declaredName line = u.name := by
  refine ⟨d.language.declareUniform u.name u.type, ?_, d.declaredName_declareUniform h⟩
  rw [generate, List.getElem?_map, hu]
  rfl

/-- Each reference is emitted by the name that its dialect makes of it, so it is kept if that is its
own. -/
theorem keepsReferences_iff : e.KeepsReferences d ↔
    (d = .wgsl → ∀ name, e.Refers name → e.Declares name →
      Swizzle.isSwizzle name.toList = false) := by
  constructor
  -- take the place of a reference: the line there accesses the name as the dialect spells it
  · intro keeps hd name hrefers hdeclares
    obtain ⟨s, hs, expr, hexpr, hname⟩ := hrefers
    obtain ⟨k, hk⟩ := List.mem_iff_getElem?.mp hs
    obtain ⟨j, hj⟩ := List.mem_iff_getElem?.mp hname
    obtain ⟨line, hline, haccess⟩ := keeps k s expr j name hk hexpr hj hdeclares
    obtain ⟨line', hline', haccesses⟩ := exists_line d hk hexpr
    obtain rfl := Option.some.inj (hline.symm.trans hline')
    rw [haccesses, List.getElem?_append_right (Nat.le_add_right _ _), Nat.add_sub_cancel_left,
      List.getElem?_map, hj] at haccess
    exact Dialect.memberName_eq_self_iff.mp (Option.some.inj haccess) hd
  -- conversely no declared name is respelled, so every line accesses what was referred to
  · intro plain k s expr j name hk hexpr hj hdeclares
    obtain ⟨line, hline, haccesses⟩ := exists_line d hk hexpr
    have refers : e.Refers name :=
      ⟨s, List.mem_of_getElem? hk, expr, hexpr, List.mem_of_getElem? hj⟩
    have same : d.memberName name = name :=
      Dialect.memberName_eq_self_iff.mpr fun hd => plain hd name refers hdeclares
    refine ⟨line, hline, ?_⟩
    rw [haccesses, List.getElem?_append_right (Nat.le_add_right _ _), Nat.add_sub_cancel_left,
      List.getElem?_map, hj]
    exact congrArg some same

/-- **The references of generated text.** The line of a statement accesses the members that the
statement does, in the same order, and the block declares the members of the table. All references
are kept, but in WGSL those to a uniform whose name consists of one to four component letters. -/
theorem references_emitted (e : Effect) (d : Dialect) :
    (∀ (k : Nat) (s : Statement) (expr : String), e.statements[k]? = some s →
      s.expression? = some expr →
      ∃ line, (e.generate d.language).body[k]? = some line ∧
        accesses line = accesses s.target ++ (accesses expr).map d.memberName) ∧
    (∀ (k : Nat) (u : Uniform), e.uniforms[k]? = some u → IsIdentifier u.name →
      ∃ line, (e.generate d.language).uniforms[k]? = some line ∧ d.declaredName line = u.name) ∧
    (e.KeepsReferences d ↔
      (d = .wgsl → ∀ name, e.Refers name → e.Declares name →
        Swizzle.isSwizzle name.toList = false)) := by
  refine ⟨?_, ?_, keepsReferences_iff⟩
  · intro k s expr hs hexpr
    exact exists_line d hs hexpr
  · intro k u hu hname
    exact exists_declaration d hu hname

/-- An effect whose uniform has the name of three components. -/
def tinted : Effect := (empty.uniform "rgb" .vec3).set "fragColor" "vec4(uniforms.rgb, 1.0)"

/-- In WGSL its body refers to a member that its block does not declare; in GLSL it does not. -/
theorem tinted_loses_reference :
    tinted.Declares "rgb" ∧ tinted.KeepsReferences .glslEs100 ∧ tinted.KeepsReferences .glslEs300 ∧
    ¬ tinted.KeepsReferences .wgsl ∧
    tinted.generate Dialect.wgsl.language =
      ⟨["fragColor = vec4(uniforms.xyz, 1.0);"],
       ["resolution: vec2<f32>,", "time: f32,", "rgb: vec3<f32>,"]⟩ := by
  have declares : tinted.Declares "rgb" := ⟨by decide +kernel, by decide +kernel⟩
  have refers : tinted.Refers "rgb" :=
    ⟨.assign .set "fragColor" "vec4(uniforms.rgb, 1.0)",
      by decide +kernel, _, rfl, by decide +kernel⟩
  refine ⟨declares, keepsReferences_iff.mpr (by simp), keepsReferences_iff.mpr (by simp), ?_,
    by decide +kernel⟩
  intro keeps
  have plain := keepsReferences_iff.mp keeps rfl "rgb" refers declares
  exact absurd plain (by decide +kernel)

end Effect

end LitTiles
