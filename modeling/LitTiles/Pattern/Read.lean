import LitTiles.Pattern.Brackets
import LitTiles.Pattern.Build
import LitTiles.Pattern.Exact
import LitTiles.Pattern.Machine
import LitTiles.Text.Letters

/-!
# The grammar of written patterns

A written pattern is a choice of sequences of items. An item is a character, a point, an escape, a
bracketed set, a place, or a group; it may be followed by a count of repetitions. A group may set
options for itself, and options may be set for what is left of a group.

`Pattern.read` answers the pattern, or the text of what is wrong: a fault of the grammar before
parts that are nested too deep, these before an objection, and an objection before what cannot be
searched for.
-/

namespace LitTiles

namespace Pattern

/-- An item of a sequence. -/
structure Item where
  /-- Its passage. -/
  passage : Passage
  /-- What it describes. -/
  pattern : Pattern
  deriving Inhabited

/-- What was read of a group. -/
structure Draft where
  /-- Where the group begins. -/
  start : Nat
  /-- The branches before the one that is being read, last one first. -/
  branches : List Item := []
  /-- Where the branch begins that is being read. -/
  branchStart : Nat := start
  /-- The items of the branch, last one first; nothing stands for options. -/
  items : List (Option Item) := []
  deriving Inhabited

namespace Draft

/-- Adds an item. -/
def add (d : Draft) (i : Item) : Draft := { d with items := some i :: d.items }

/-- The branch that is being read, as an item that ends at a place. A single item is no sequence. -/
def branch (d : Draft) (stop : Nat) : Item :=
  let items := d.items.reverse.filterMap id
  let span : Span := ⟨d.branchStart, stop⟩
  match d.items with
  | [] | [none] => ⟨{ span }, empty⟩
  | [some i] => i
  | _ => ⟨.around span (items.map (·.passage)), ofSequence (items.map (·.pattern))⟩

/-- The draft before the next branch, which begins after a sign at a place. -/
def nextBranch (d : Draft) (sign : Nat) : Draft :=
  { d with branches := d.branch sign :: d.branches, branchStart := sign + 1, items := [] }

/-- All the branches as an item that ends at a place. A single branch is no choice. -/
def whole (d : Draft) (stop : Nat) : Item :=
  let last := d.branch stop
  if d.branches.isEmpty then last
  else
    let branches := (last :: d.branches).reverse
    ⟨.around ⟨d.start, stop⟩ (branches.map (·.passage)), ofChoice (branches.map (·.pattern))⟩

end Draft

/-- Whether a character may stand in the name of a group. -/
def isGroupLetter (isFirst : Bool) (c : Char) : Bool :=
  c == '_' || isAlphabetic c || (!isFirst && (isNumeric c || c == '.' || c == '[' || c == ']'))

/-- What the start of a group says. -/
inductive GroupStart where
  /-- A group begins that is remembered. -/
  | remembered
  /-- A group begins that is not remembered, with options set by letters. -/
  | group (letters : List Char)
  /-- Options are set by letters, and there is no group. -/
  | setting (letters : List Char)
  deriving Inhabited

namespace Read

/-- Reads the name of a group. -/
def readGroupName : Read Unit := do
  let start ← position
  let name := (← get).rest.takeWhile (· != '>')
  let stop := start + name.length
  match name.zipIdx.find? fun (c, i) => !isGroupLetter (i == 0) c with
  | some (_, i) => fail .nameLetter (start + i) (start + i + 1)
  | none =>
    skip name.length
    if (← peek).isNone then failHere .nameCutShort 0
    skip 1
    if name.isEmpty then fail .noName start start
    match (← get).names.lookup name with
    | some first => throw { cause := .nameTwice, span := ⟨start, stop⟩, first := some first }
    | none => modify fun s => { s with names := s.names ++ [(name, ⟨start, stop⟩)] }

/-- Reads the letters of options up to a colon or the end of the group. -/
def readOptions : Read (List Char) := do
  let cs ← manySteps (fun (cs : List (Char × Nat)) => do
    match ← peek with
    | some c =>
      if c = ':' || c = ')' then return none
      let i ← position
      if !(c = '-' || Options.letters.contains c) then failHere .option 1
      match cs.lookup c with
      | some first =>
        throw {
          cause := if c = '-' then .switchedOffTwice else .optionTwice
          span := ⟨i, i + 1⟩
          first := some ⟨first, first + 1⟩ }
      | none =>
        skip 1
        return some ((c, i) :: cs)
    | none => failHere .optionsCutShort 0) []
  match cs with
  | ('-', i) :: _ => fail .nothingSwitchedOff i (i + 1)
  | _ => return cs.reverse.map (·.1)

/-- Reads the start of a group. -/
def readGroupStart : Read GroupStart := do
  let opened ← position
  advance
  if ← ["?=", "?!", "?<=", "?<!"].anyM accept then failSince .lookAround opened
  let inner ← position
  if ← ["?P<", "?<"].anyM accept then
    readGroupName
    return .remembered
  if !(← accept "?") then return .remembered
  if (← peek).isNone then fail .openGroup opened (opened + 1)
  let letters ← readOptions
  let isGroup := (← peek) == some ':'
  skip 1
  if isGroup then return .group letters
  if letters.isEmpty then fail .nothingRepeated inner inner
  return .setting letters

/-- The last item of a draft, and the draft without it. -/
def lastItem (d : Draft) : Read (Item × Draft) := do
  match d.items with
  | some i :: before => return (i, { d with items := before })
  | _ => failHere .nothingRepeated 0

/-- Reads whether a repetition differs from others in preferring short texts, and adds it. -/
def addRepetition (d : Draft) (i : Item) (least : Nat) (most : Option Nat) : Read Draft := do
  let differs ← accept "?"
  let prefersShort := differs != (← options).prefersShort
  let span : Span := ⟨i.passage.span.start, ← position⟩
  return d.add ⟨.around span [i.passage], ofRepetition i.pattern least most prefersShort⟩

/-- Reads the mark of a repetition. -/
def readMark (d : Draft) (least : Nat) (most : Option Nat) : Read Draft := do
  let (i, before) ← lastItem d
  skip 1
  addRepetition before i least most

/-- Reads a number of a count, or answers what is wrong with it. -/
def readNumber : Read (Except Fault Nat) := do
  discard (readWhile isBlank)
  let start ← position
  let digits ← readWhile (·.isDigit)
  let span : Span := ⟨start, ← position⟩
  discard (readWhile isBlank)
  let n := digits.foldl (fun n c => n * 10 + (c.toNat - '0'.toNat)) 0
  return if digits.isEmpty then .error { cause := .noCount, span }
    else if n < UInt32.size then .ok n
    else .error { cause := .numberTooLarge, span }

/-- Reads a count of repetitions in braces. A missing least count is a fault only where the count
goes on. -/
def readCount (d : Draft) : Read Draft := do
  let start ← position
  let (i, before) ← lastItem d
  let more : Read Unit := do
    if (← peek).isNone then failSince .openCount start
  advance
  more
  let least ← readNumber
  more
  let (least, most) ← do
    if (← peek) != some ',' then
      let n ← least
      pure (n, some n)
    else
      advance
      more
      let n ← least
      if (← peek) = some '}' then pure (n, none) else pure (n, some (← (← readNumber)))
  if (← peek) != some '}' then failSince .openCount start
  advance
  let added ← addRepetition before i least most
  if most.any (· < least) then failSince .countBackwards start
  return added

/-- The pattern of a character. -/
def letter (c : Char) (span : Span) : Read Pattern := do
  let o ← options
  if o.anyCase && o.allScripts then object .letterCases span
  return ofSet (if o.anyCase then (CharSet.single c).bothCases else .single c)

/-- The pattern of a point. -/
def point (span : Span) : Read Pattern := do
  let o ← options
  if !o.allScripts then object .notText span
  return ofSet <|
    if o.pointTakesAll then .all
    else if o.returns then CharSet.all.without ['\n', '\r']
    else CharSet.all.without ['\n']

/-- The start or end of a line, or of the text if lines have none of their own. -/
def linePlace (text line returns : Look) : Read Pattern := do
  let o ← options
  return .look (if !o.everyLine then text else if o.returns then returns else line)

/-- The pattern of an escape. -/
def ofEscape (e : Escape) (span : Span) : Read Pattern := do
  match e with
  | .letter c => letter c span
  | .byte c =>
    if !(← options).allScripts && 0x80 ≤ c.toNat then object .notText span
    letter c span
  | .letterClass ascii negated => return ofSet (← classSet ascii negated span)
  | .property name => return ofSet (← propertySet name span)
  | .textPlace l => return .look l
  | .wordPlace l => return if (← options).allScripts then .scriptLook l else .look l

/-- Reads an item that is neither a group nor a bracketed set. -/
def readAtom : Read Item := do
  let i ← position
  let span : Span := ⟨i, i + 1⟩
  match ← peek with
  | some '.' =>
    skip 1
    return ⟨{ span }, ← point span⟩
  | some '^' =>
    skip 1
    return ⟨{ span }, ← linePlace .textStart .lineStart .returnLineStart⟩
  | some '$' =>
    skip 1
    return ⟨{ span }, ← linePlace .textEnd .lineEnd .returnLineEnd⟩
  | _ =>
    let (e, span) ← readItem
    return ⟨{ span }, ← ofEscape e span⟩

/-- Reads a group up to its end, or the whole text if no group is open. Every round reads something,
so there are no more of them than characters. -/
def readGroup : Nat → Option Nat → Draft → Read Item
  | 0, _, d => return d.whole (← position)
  | n + 1, opened, d => do
    skipBlanks
    let start ← position
    match ← peek with
    | none =>
      match opened with
      | none => return d.whole start
      | some i => fail .openGroup i (i + 1)
    | some ')' =>
      if opened.isNone then failHere .noGroup 1
      skip 1
      return d.whole start
    | some '(' =>
      let outer ← options
      let inGroup := fun (settings : List Char) => do
        modify fun s => { s with options := s.options.setAll settings }
        let i ← readGroup n (some start) { start := ← position }
        modify fun s => { s with options := outer }
        return (Passage.around ⟨start, ← position⟩ [i.passage], i.pattern)
      match ← readGroupStart with
      | .setting settings =>
        modify fun s => { s with options := s.options.setAll settings }
        readGroup n opened { d with items := none :: d.items }
      | .group settings =>
        let (passage, p) ← inGroup settings
        readGroup n opened (d.add ⟨passage, p⟩)
      | .remembered =>
        let index := (← get).groups
        modify fun s => { s with groups := index + 1 }
        let (passage, p) ← inGroup []
        readGroup n opened (d.add ⟨passage, .group index p⟩)
    | some '|' =>
      skip 1
      readGroup n opened (d.nextBranch start)
    | some '[' =>
      let (set, passage) ← readBracketed
      readGroup n opened (d.add ⟨passage, ofSet set⟩)
    | some '?' => readGroup n opened (← readMark d 0 (some 1))
    | some '*' => readGroup n opened (← readMark d 0 none)
    | some '+' => readGroup n opened (← readMark d 1 none)
    | some '\x7b' => readGroup n opened (← readCount d)
    | some _ => readGroup n opened (d.add (← readAtom))

end Read

/-- What keeps a pattern from being searched for. The machine that reads forwards is made first. -/
def obstacle? (p : Pattern) : Option String :=
  let tooLarge :=
    "Compiled regex exceeds size limit of " ++ toString Machine.limit ++ " bytes."
  if p.isSearchedByTexts then none
  else if Machine.limit < Machine.size false p then some tooLarge
  else if p.asksForScripts then some "error building NFA"
  else if Machine.limit < Machine.size true p then some tooLarge
  else none

/-- Reads a written pattern; an error is the text of what is wrong with it. -/
def read (text : String) : Except String Pattern :=
  let cs := text.toList
  match (Read.readGroup (cs.length + 1) none { start := 0 }).run { rest := cs } with
  | .error f => .error (f.report cs)
  | .ok (i, s) =>
    let tooDeep : Option Fault :=
      i.passage.nested[nestLimit]?.map fun span => { cause := .nestedTooDeep, span }
    match tooDeep <|> s.objection with
    | some f => .error (f.report cs)
    | none =>
      match i.pattern.obstacle? with
      | some e => .error e
      | none => .ok i.pattern

end Pattern

end LitTiles
