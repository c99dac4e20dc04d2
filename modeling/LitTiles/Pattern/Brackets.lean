import LitTiles.Pattern.Escape

/-!
# Bracketed sets in written patterns

A set in brackets is the union of its items: characters, ranges, classes, and sets in brackets of
their own. Such unions may be joined by the operations `&&`, `--` and `~~`, from left to right.
Where letters stand for both of their cases, so does a set, and each side of an operation before it.
-/

namespace LitTiles

namespace Pattern

/-- A union of items of a bracketed set. -/
structure SetPart where
  /-- Where it begins. -/
  start : Nat
  /-- What is in it. -/
  set : CharSet := .nothing
  /-- Its items, last one first. -/
  items : List Passage := []
  /-- Whether one of its items is a character or a range of them. -/
  hasLetters : Bool := false
  deriving Inhabited

namespace SetPart

/-- Adds an item. -/
def add (p : SetPart) (set : CharSet) (item : Passage) (isLetter : Bool) : SetPart :=
  { p with
    set := .union p.set set
    items := item :: p.items
    hasLetters := p.hasLetters || isLetter }

/-- The passage of a union. A single item is no union. -/
def passage (p : SetPart) : Passage :=
  match p.items, p.items.getLast? with
  | [], _ | _, none => { span := ⟨p.start, p.start⟩ }
  | [item], _ => item
  | last :: _, some first => .around ⟨first.span.start, last.span.stop⟩ p.items.reverse

end SetPart

/-- The left side of an operation, and the operation. -/
abbrev LeftSide := SetPart × (CharSet → CharSet → CharSet)

/-- An ASCII class by its name between `[:` and `:]`, whether it is negated, and its length. -/
def namedClass? : List Char → Option (CharSet × Bool × Nat)
  | '[' :: ':' :: r =>
    let negated := r.head? == some '^'
    let r := if negated then r.drop 1 else r
    let name := r.takeWhile (· != ':')
    if [':', ']'].isPrefixOf (r.drop name.length) then
      (CharSet.ofName? name).map fun s => (s, negated, name.length + if negated then 5 else 4)
    else none
  | _ => none

/-- Whether what follows a minus sign makes it the sign of a range. Where blanks do not count they
are passed over, and with them one number sign. -/
def isRangeSign (spaced : Bool) (rest : List Char) : Bool :=
  let next := if !spaced then rest.head? else
    let r := rest.dropWhile isBlank
    let r := if r.head? = some '#' then (r.drop 1).dropWhile isBlank else r
    r.head? <|> rest.head?
  next != some ']' && next != some '-'

/-- The names of properties without what does not count in them. -/
def propertyKey (name : List Char) : String :=
  let hasIs := (name.take 2).map (·.toLower) == ['i', 's']
  let key := (name.drop (if hasIs then 2 else 0)).filter fun c =>
    c.toNat < 0x80 && c != ' ' && c != '_' && c != '-'
  if hasIs && key.map (·.toLower) == ['c'] then "isc" else String.ofList (key.map (·.toLower))

namespace Read

/-- The options that apply. -/
def options : Read Options := return (← get).options

/-- A set under the option for both cases. -/
def withCases (set : CharSet) (hasLetters : Bool) (span : Span) : Read CharSet := do
  let o ← options
  if !o.anyCase then return set
  if !o.allScripts then return set.bothCases
  if hasLetters then object .letterCases span
  return set

/-- A set or what is not in it. -/
def withSign (set : CharSet) (negated : Bool) (span : Span) : Read CharSet := do
  if !negated then return set
  if !(← options).allScripts then object .notText span
  return .complement set

/-- The set of a class escape. -/
def classSet (ascii : CharSet) (negated : Bool) (span : Span) : Read CharSet := do
  if (← options).allScripts then object .letterClass span
  withSign ascii negated span

/-- The set of a property. No property is known. -/
def propertySet (name : List Char) (span : Span) : Read CharSet := do
  object
    (if !(← options).allScripts then .beyondBytes
    else if ["cf", "lc", "sc"].contains (propertyKey name) then .propertyValue
    else .property) span
  return .nothing

/-- Takes an escape for a single character of a set. -/
def letterOf (item : Escape × Span) : Read Char := do
  let bytes := !(← options).allScripts
  match item with
  | (.letter c, span) =>
    if bytes && 0x80 ≤ c.toNat then object .beyondBytes span
    return c
  | (.byte c, span) =>
    if bytes && 0x80 ≤ c.toNat then object .notText span
    return c
  | (_, span) => throw { cause := .rangeEnd, span }

/-- Takes an escape for an item of a set. -/
def addItem (p : SetPart) (item : Escape × Span) : Read SetPart := do
  match item with
  | (.letterClass ascii negated, span) =>
    return p.add (← classSet ascii negated span) ⟨span, []⟩ false
  | (.property name, span) => return p.add (← propertySet name span) ⟨span, []⟩ false
  | (.textPlace _, span) | (.wordPlace _, span) => throw { cause := .placeInBracket, span }
  | (_, span) => return p.add (.single (← letterOf item)) ⟨span, []⟩ true

/-- Reads an escape or a character that stands for itself. -/
def readItem : Read (Escape × Span) := do
  let start ← position
  let e ← match (← get).rest with
    | '\\' :: _ => readEscape
    | c :: _ => do
      skip 1
      pure (.letter c)
    | [] => fail .openBracket start start
  return (e, ⟨start, ← position⟩)

/-- Ends the reading if nothing is left. -/
def expectMore (opened : Span) : Read Unit := do
  if (← peek).isNone then throw { cause := .openBracket, span := opened }

/-- Reads an item or a range. -/
def readRange (opened : Span) (p : SetPart) : Read SetPart := do
  let first ← readItem
  skipBlanks
  expectMore opened
  let s ← get
  if s.rest.head? != some '-' || !isRangeSign s.options.spaced (s.rest.drop 1) then
    addItem p first
  else
    advance
    expectMore opened
    let last ← readItem
    let span : Span := ⟨first.2.start, last.2.stop⟩
    let a ← letterOf first
    let b ← letterOf last
    if b < a then throw { cause := .rangeBackwards, span }
    return p.add (.range a b) ⟨span, []⟩ true

/-- Joins a part to the left side before it. -/
def joinParts (left : Option LeftSide) (right : SetPart) : Read SetPart := do
  match left with
  | none => return right
  | some (left, operation) =>
    let sides := (left.passage, right.passage)
    let r ← withCases right.set right.hasLetters sides.2.span
    let l ← withCases left.set left.hasLetters sides.1.span
    let span : Span := ⟨sides.1.span.start, sides.2.span.stop⟩
    return { start := span.start, set := operation l r, items := [.around span [sides.1, sides.2]] }

/-- Reads the start of a bracketed set: whether it is negated, where its start stands, and the
characters that stand for themselves there only. -/
def openSet : Read (Bool × Span × SetPart) := do
  let start ← position
  let more : Read Unit := do
    if (← peek).isNone then failSince .openBracket start
  advance
  more
  let negated := (← peek) == some '^'
  if negated then
    advance
    more
  let mut p ← manySteps (fun p => do
    if (← peek) != some '-' then return none
    let i ← position
    advance
    if (← peek).isNone then fail .openBracket start start
    return some (p.add (.single '-') ⟨⟨i, i + 1⟩, []⟩ true)) { start := ← position }
  if p.items.isEmpty && (← peek) == some ']' then
    let i ← position
    advance
    more
    p := p.add (.single ']') ⟨⟨i, i + 1⟩, []⟩ true
  return (negated, ⟨start, ← position⟩, p)

/-- The set between brackets. -/
def closeSet (set : CharSet) (hasLetters negated : Bool) (span : Span) : Read CharSet := do
  withSign (← withCases set hasLetters span) negated span

/-- Reads a set up to its closing bracket. Every round reads something, so there are no more of them
than characters. -/
def readSet : Nat → Span → Option LeftSide → SetPart → Read SetPart
  | 0, _, _, p => return p
  | n + 1, opened, left, p => do
    skipBlanks
    expectMore opened
    let start ← position
    let rest := (← get).rest
    let operate := fun (operation : CharSet → CharSet → CharSet) => do
      skip 2
      readSet n opened (some (← joinParts left p, operation)) { start := ← position }
    match rest with
    | ']' :: _ =>
      skip 1
      joinParts left p
    | '&' :: '&' :: _ => operate .intersection
    | '-' :: '-' :: _ => operate .difference
    | '~' :: '~' :: _ => operate .exclusive
    | '[' :: _ =>
      match namedClass? rest with
      | some (s, negated, length) =>
        skip length
        let span : Span := ⟨start, start + length⟩
        let s ← closeSet s true negated span
        readSet n opened left (p.add s ⟨span, []⟩ false)
      | none =>
        let (negated, opened', q) ← openSet
        let inner ← readSet n opened' none q
        let span : Span := ⟨start, ← position⟩
        let s ← closeSet inner.set inner.hasLetters negated span
        readSet n opened left (p.add s (.around span [inner.passage]) false)
    | _ => readSet n opened left (← readRange opened p)

/-- Reads a bracketed set. -/
def readBracketed : Read (CharSet × Passage) := do
  let start ← position
  let (negated, opened, p) ← openSet
  let inner ← readSet ((← get).rest.length + 1) opened none p
  let span : Span := ⟨start, ← position⟩
  return (← closeSet inner.set inner.hasLetters negated span, .around span [inner.passage])

end Read

end Pattern

end LitTiles
