import LitTiles.Effect.Basic
import LitTiles.Text.Blank

/-!
# Binding texture calls

The first text pass over an expression. A call `texture(n, arguments)` whose first argument is a
literal channel below `maxChannels` is replaced by whatever the target language samples channel `n`
with; the arguments, trimmed, are rewritten in the same way, so nested calls are bound too.

A call counts only where a word can start: `mytexture(0, uv)` is left alone, and so are calls with
another first argument, with a channel that is too large, or without a closing parenthesis.

The pass runs on lists of characters. It ends because the arguments of a call and the text after it
are together shorter than the call (`TextureCall.length_lt`).
-/

namespace LitTiles

/-- The characters that names are made of. -/
def isWordChar (c : Char) : Bool := c.isAlphanum || c == '_'

/-- The number written by a run of decimal digits. -/
def decimalValue (digits : List Char) : Nat :=
  digits.foldl (fun n c => 10 * n + (c.toNat - '0'.toNat)) 0

/-- The number of open parentheses after a character, from the number before it. -/
def openAfter (depth : Nat) (c : Char) : Nat :=
  if c = '(' then depth + 1 else if c = ')' then depth - 1 else depth

/-- Splits text at the parenthesis that closes the first of `depth + 1` open ones. -/
def splitAtClosing : Nat → List Char → Option (List Char × List Char)
  | _, [] => none
  | depth, c :: r =>
    if c = ')' ∧ depth = 0 then some ([], r)
    else (splitAtClosing (openAfter depth c) r).map fun p => (c :: p.1, p.2)

/-- What is found after the opening of a call that can be bound. -/
structure TextureCall where
  /-- The literal channel. -/
  channel : Nat
  /-- The text between the comma and the closing parenthesis, trimmed. -/
  args : List Char
  /-- The text after the closing parenthesis. -/
  rest : List Char

namespace TextureCall

/-- The opening of a call. -/
def opening : List Char := "texture(".toList

/-- Reads a call whose opening has just been passed. -/
def afterOpening? (s : List Char) : Option TextureCall :=
  let t := trimStart s
  let digits := t.takeWhile Char.isDigit
  if digits.isEmpty then none
  else if maxChannels ≤ decimalValue digits then none
  else
    match trimStart (t.dropWhile Char.isDigit) with
    | ',' :: u =>
      (splitAtClosing 0 u).map fun p => ⟨decimalValue digits, trim p.1, p.2⟩
    | _ => none

/-- Reads a call at the start of a text. -/
def atStart? (s : List Char) : Option TextureCall :=
  if opening.isPrefixOf s then afterOpening? (s.drop opening.length) else none

end TextureCall

theorem length_splitAtClosing {depth : Nat} {s : List Char} {p : List Char × List Char}
    (h : splitAtClosing depth s = some p) : p.1.length + p.2.length + 1 = s.length := by
  induction s generalizing depth p with
  | nil => simp [splitAtClosing] at h
  | cons c r ih =>
    unfold splitAtClosing at h
    split at h
    · cases h
      simp
    · obtain ⟨q, hq, rfl⟩ := Option.map_eq_some_iff.1 h
      have := ih hq
      simp only [List.length_cons]
      omega

namespace TextureCall

theorem length_afterOpening {s : List Char} {k : TextureCall} (h : afterOpening? s = some k) :
    k.args.length + k.rest.length < s.length := by
  unfold afterOpening? at h
  simp only at h
  split at h
  · simp at h
  split at h
  · simp at h
  split at h
  · rename_i u hu
    obtain ⟨p, hp, rfl⟩ := Option.map_eq_some_iff.1 h
    -- what is left is behind the blanks, the digits, the blanks again and the comma, in that order
    have h₁ := length_splitAtClosing hp
    have h₂ := length_trim_le p.1
    have h₃ : u.length < s.length := by
      have a := length_dropWhile_le isBlank s
      have b := length_dropWhile_le Char.isDigit (trimStart s)
      have c := length_dropWhile_le isBlank ((trimStart s).dropWhile Char.isDigit)
      have d := congrArg List.length hu
      simp only [trimStart, List.length_cons] at a b c d
      omega
    simp only
    omega
  · simp at h

/-- The arguments of a call and the text after it are together shorter than the call. -/
theorem length_lt {s : List Char} {k : TextureCall} (h : atStart? s = some k) :
    k.args.length + k.rest.length < s.length := by
  unfold atStart? at h
  split at h
  · have := length_afterOpening h
    simp only [List.length_drop] at this
    omega
  · simp at h

end TextureCall

/-- How a bound call is written: from the channel and the rewritten arguments. -/
abbrev SampleFormat := Nat → List Char → List Char

/-- Binds the calls of a text, of which the first character may start a word or may not. -/
def bindTexturesFrom (format : SampleFormat) (mayStart : Bool) (s : List Char) : List Char :=
  match s with
  | [] => []
  | c :: r =>
    match h : if mayStart then TextureCall.atStart? (c :: r) else none with
    | some k =>
      have : k.args.length + k.rest.length < (c :: r).length := by
        split at h
        · exact TextureCall.length_lt h
        · simp at h
      format k.channel (bindTexturesFrom format true k.args) ++
        bindTexturesFrom format true k.rest
    | none => c :: bindTexturesFrom format (!isWordChar c) r
termination_by s.length
decreasing_by all_goals simp only [List.length_cons] at *; omega

/-- Binds every texture call of an expression. -/
def bindTextures (format : SampleFormat) (expr : String) : String :=
  String.ofList (bindTexturesFrom format true expr.toList)

end LitTiles
