import LitTiles.Pattern.Basic
import LitTiles.Pattern.Reading

/-!
# Escapes in written patterns

An escape begins with a backslash. It stands for a character, for a class of characters, or for a
place; what it asks for in the end depends on the options and on whether it stands in brackets.
-/

namespace LitTiles

namespace Pattern

/-- What an escape stands for. -/
inductive Escape where
  /-- A character. -/
  | letter (c : Char)
  /-- A character that is written as the number of a byte. -/
  | byte (c : Char)
  /-- The characters of a class, or all others. -/
  | letterClass (ascii : CharSet) (negated : Bool)
  /-- The characters with a property. -/
  | property (name : List Char)
  /-- The start or end of the text. -/
  | textPlace (look : Look)
  /-- A place in a word. -/
  | wordPlace (look : Look)
  deriving DecidableEq, Inhabited

/-- The ASCII digits. -/
def digitSet : CharSet := .range '0' '9'

/-- The ASCII blanks. -/
def blankSet : CharSet := .ofRanges [('\t', '\r'), (' ', ' ')]

/-- The escapes of one letter. -/
def Escape.ofLetter? : Char → Option Escape
  | 'a' => some (.letter '\x07')
  | 'f' => some (.letter '\x0c')
  | 'n' => some (.letter '\n')
  | 'r' => some (.letter '\r')
  | 't' => some (.letter '\t')
  | 'v' => some (.letter '\x0b')
  | 'd' => some (.letterClass digitSet false)
  | 'D' => some (.letterClass digitSet true)
  | 's' => some (.letterClass blankSet false)
  | 'S' => some (.letterClass blankSet true)
  | 'w' => some (.letterClass .wordLetters false)
  | 'W' => some (.letterClass .wordLetters true)
  | 'A' => some (.textPlace .textStart)
  | 'z' => some (.textPlace .textEnd)
  | 'b' => some (.wordPlace .wordBoundary)
  | 'B' => some (.wordPlace .notWordBoundary)
  | '<' => some (.wordPlace .wordStart)
  | '>' => some (.wordPlace .wordEnd)
  | c => if c.toNat < 0x80 && !c.isAlphanum then some (.letter c) else none

/-- The places in a word by name. -/
def wordPlace? (name : List Char) : Option Look :=
  match String.ofList name with
  | "start" => some .wordStart
  | "end" => some .wordEnd
  | "start-half" => some .wordStartHalf
  | "end-half" => some .wordEndHalf
  | _ => none

/-- Whether a character is a hexadecimal digit. -/
def isHexDigit (c : Char) : Bool :=
  c.isDigit || ('a' ≤ c && c ≤ 'f') || ('A' ≤ c && c ≤ 'F')

/-- Value of a hexadecimal digit. -/
def hexDigitValue (c : Char) : Nat :=
  if c.isDigit then c.toNat - '0'.toNat else c.toLower.toNat - 'a'.toNat + 10

/-- The character of a hexadecimal number. -/
def charOfHex? (digits : List Char) : Option Char :=
  let n := digits.foldl (fun n c => n * 16 + hexDigitValue c) 0
  if n.isValidChar then some (Char.ofNat n) else none

namespace Read

/-- Reads the number of a character between braces. -/
def readBracedHex : Read Escape := do
  let brace ← position
  advance
  let start := brace + 1
  let digits ← readWhile isHexDigit
  match ← peek with
  | none => failSince .escapeCutShort brace
  | some '}' =>
    let stop ← position
    advance
    if digits.isEmpty then failSince .noHexDigits brace
    match charOfHex? digits with
    | some c => return .letter c
    | none => fail .noSuchCharacter start stop
  | some _ => failHere .hexDigit 1

/-- Reads a number of hexadecimal digits. -/
def readHexDigits : Nat → Read (List Char)
  | 0 => return []
  | n + 1 => do
    match ← peek with
    | none => failHere .escapeCutShort 0
    | some c =>
      if !isHexDigit c then failHere .hexDigit 1
      advance
      return c :: (← readHexDigits n)

/-- Reads the number of a character after the letter for its size. -/
def readHex (size : Nat) : Read Escape := do
  advance
  match ← peek with
  | none => failHere .escapeCutShort 0
  | some '{' => readBracedHex
  | some _ =>
    let start ← position
    let digits ← readHexDigits size
    match charOfHex? digits with
    | some c => return if size = 2 then .byte c else .letter c
    | none => failSince .noSuchCharacter start

/-- Reads the name of a property. -/
def readProperty : Read Escape := do
  advance
  match ← peek with
  | none => failHere .escapeCutShort 0
  | some '\\' => failHere .propertyName 1
  | some '{' =>
    advance
    let name ← readWhile (· != '}')
    if (← peek).isNone then failHere .escapeCutShort 0
    skip 1
    return .property name
  | some c =>
    advance
    return .property [c]

/-- Reads a place in a word in braces after an escape for one, which may turn out to be a count of
it and then is left alone. -/
def readWordPlace (start : Nat) : Read (Option Look) := do
  let isNameLetter : Char → Bool := fun c => c.isAlpha || c == '-'
  let reading ← get
  let brace ← position
  advance
  let inside ← position
  match ← peek with
  | none => failSince .placeCutShort start
  | some c =>
    if !isNameLetter c then
      set reading
      return none
    let name ← readWhile isNameLetter
    if (← peek) != some '}' then failSince .openPlace brace
    let stop ← position
    skip 1
    match wordPlace? name with
    | some l => return some l
    | none => fail .place inside stop

/-- Reads an escape. -/
def readEscape : Read Escape := do
  let start ← position
  skip 1
  match ← peek with
  | none => failSince .escapeCutShort start
  | some 'x' => readHex 2
  | some 'u' => readHex 4
  | some 'U' => readHex 8
  | some 'p' | some 'P' => readProperty
  | some c =>
    skip 1
    if c.isDigit then failSince .reference start
    match Escape.ofLetter? c with
    | none => failSince .escape start
    | some (.wordPlace .wordBoundary) =>
      if (← peek) = some '{' then
        return .wordPlace ((← readWordPlace start).getD .wordBoundary)
      return .wordPlace .wordBoundary
    | some e => return e

end Read

end Pattern

end LitTiles
