import LitTiles.Pattern.Fault
import LitTiles.Text.Blank

/-!
# Reading written patterns

Readers go through a written pattern from its start. They keep what is left of it, the options that
apply, and the names of groups so far. A fault of the grammar ends the reading. What is well written
but cannot be had is an objection; the first one is kept and counts only if the whole text can be
read.

Where blanks do not count they are passed over together with comments, which begin with a number
sign and go to the end of the line (`withoutBlanks`).
-/

namespace LitTiles

namespace Pattern

/-- How letters and marks of a written pattern are meant. -/
structure Options where
  /-- Letters stand for both of their cases. -/
  anyCase : Bool := false
  /-- Lines have a start and an end of their own. -/
  everyLine : Bool := false
  /-- A point stands for line ends too. -/
  pointTakesAll : Bool := false
  /-- Letters are those of all scripts; otherwise the text is taken as bytes. -/
  allScripts : Bool := true
  /-- Lines may also end with a carriage return. -/
  returns : Bool := false
  /-- Blanks do not count, and there are comments. -/
  spaced : Bool := false
  /-- Repetitions prefer short texts unless they say otherwise. -/
  prefersShort : Bool := false
  deriving DecidableEq, Inhabited

namespace Options

/-- The letters of options. -/
def letters : List Char := ['i', 'm', 's', 'u', 'R', 'x', 'U']

/-- Switches the option of a letter on or off. -/
def set (o : Options) (letter : Char) (on : Bool) : Options :=
  match letter with
  | 'i' => { o with anyCase := on }
  | 'm' => { o with everyLine := on }
  | 's' => { o with pointTakesAll := on }
  | 'u' => { o with allScripts := on }
  | 'R' => { o with returns := on }
  | 'x' => { o with spaced := on }
  | 'U' => { o with prefersShort := on }
  | _ => o

/-- Switches options by a list of letters; those after a minus sign are switched off. -/
def setAll (o : Options) (letters : List Char) : Options :=
  let (on, off) := letters.span (· != '-')
  off.foldl (·.set · false) (on.foldl (·.set · true) o)

end Options

/-- A passage of a written pattern that was read. Passages of several parts are nested in each
other; of those in a passage it is enough to know the first one at each depth. -/
structure Passage where
  /-- Where it stands. -/
  span : Span
  /-- The first passage at each depth, itself included if it has parts. -/
  nested : List Span := []
  deriving DecidableEq, Inhabited

/-- A passage with other ones in it. -/
def Passage.around (span : Span) (parts : List Passage) : Passage :=
  { span, nested := span :: parts.foldl (fun ns p => ns ++ p.nested.drop ns.length) [] }

/-- Where a reader stands. -/
structure Reading where
  /-- How many characters have been read. -/
  position : Nat := 0
  /-- What is left of the written pattern. -/
  rest : List Char
  /-- The options that apply. -/
  options : Options := {}
  /-- The names of groups so far, and where they stand. -/
  names : List (List Char × Span) := []
  /-- How many groups are remembered so far. -/
  groups : Nat := 0
  /-- The first objection to what was read. -/
  objection : Option Fault := none
  deriving Inhabited

/-- A reader. -/
abbrev Read := StateT Reading (Except Fault)

/-- Text without the blanks and comments at its start. -/
def withoutBlanks (inComment : Bool) : List Char → List Char
  | [] => []
  | c :: cs =>
    if inComment then withoutBlanks (c != '\n') cs
    else if c = '#' then withoutBlanks true cs
    else if isBlank c then withoutBlanks false cs
    else c :: cs

namespace Read

variable {α : Type}

/-- How many characters have been read. -/
def position : Read Nat := return (← get).position

/-- The character that comes next. -/
def peek : Read (Option Char) := return (← get).rest.head?

/-- Passes over a number of characters. -/
def skip (n : Nat) : Read Unit := modify fun s =>
  { s with position := s.position + (s.rest.take n).length, rest := s.rest.drop n }

/-- Passes over blanks and comments where they do not count. -/
def skipBlanks : Read Unit := modify fun s =>
  if s.options.spaced then
    let rest := withoutBlanks false s.rest
    { s with position := s.position + (s.rest.length - rest.length), rest }
  else s

/-- Passes over a character and the blanks after it. -/
def advance : Read Unit := do skip 1; skipBlanks

/-- Passes over a word if it comes next, and answers whether it did. -/
def accept (word : String) : Read Bool := do
  if word.toList.isPrefixOf (← get).rest then
    skip word.length
    return true
  return false

/-- Ends the reading for what stands between two places. -/
def fail (cause : Cause) (start stop : Nat) : Read α := throw { cause, span := ⟨start, stop⟩ }

/-- Ends the reading for the next character, or for the place before it. -/
def failHere (cause : Cause) (length : Nat) : Read α := do
  let p ← position
  fail cause p (p + length)

/-- Ends the reading for what was read since a place. -/
def failSince (cause : Cause) (start : Nat) : Read α := do fail cause start (← position)

/-- Objects to a part of the text, unless there is an objection already. -/
def object (cause : Cause) (span : Span) : Read Unit := modify fun s =>
  if s.objection.isSome then s else { s with objection := some { cause, span } }

/-- Repeats a step from its own result until it answers nothing. -/
def steps (step : α → Read (Option α)) : Nat → α → Read α
  | 0, a => return a
  | n + 1, a => do
    match ← step a with
    | some a => steps step n a
    | none => return a

/-- Repeats a step that reads something whenever it answers a result, until it answers nothing. -/
def manySteps (step : α → Read (Option α)) (a : α) : Read α := do
  steps step ((← get).rest.length + 1) a

/-- Reads characters of a kind, without the blanks that do not count. -/
def readWhile (kind : Char → Bool) : Read (List Char) := do
  let cs ← manySteps (fun cs => do
    match ← peek with
    | some c =>
      if kind c then
        advance
        return some (c :: cs)
      return none
    | none => return none) []
  return cs.reverse

end Read

end Pattern

end LitTiles
