import LitTiles.Text.Parts

/-!
# Faults of written patterns

A written pattern that cannot be read has a fault: a cause and the span of the text that it is
about, and for things given twice also the span of the first. A report shows the text with marks
under the spans and names the cause; where the text has several lines they are numbered, and a span
that goes over several of them is given by its ends instead.
-/

namespace LitTiles

namespace Pattern

/-- A part of a written pattern, from a character up to another one that is not included. -/
structure Span where
  /-- How many characters are before it. -/
  start : Nat
  /-- How many characters are before what follows it. -/
  stop : Nat
  deriving DecidableEq, Inhabited

/-- How many passages may be nested in each other. -/
def nestLimit : Nat := 250

/-- What can be wrong with a written pattern. -/
inductive Cause where
  /-- A bracketed set has no end. -/
  | openBracket
  /-- An escape in a bracketed set stands for a place and not for characters. -/
  | placeInBracket
  /-- A range goes from a character to an earlier one. -/
  | rangeBackwards
  /-- A range has an end that is not a single character. -/
  | rangeEnd
  /-- A number is too large. -/
  | numberTooLarge
  /-- The text ends in an escape. -/
  | escapeCutShort
  /-- Braces for a character by its number are empty. -/
  | noHexDigits
  /-- A number is that of no character. -/
  | noSuchCharacter
  /-- Something stands where a digit of a character's number is expected. -/
  | hexDigit
  /-- An escape has no meaning. -/
  | escape
  /-- A name of a property is missing. -/
  | propertyName
  /-- A group is referred to by its number. -/
  | reference
  /-- A group looks ahead or behind. -/
  | lookAround
  /-- There is a sign for switching options off and no option after it. -/
  | nothingSwitchedOff
  /-- An option is given twice. -/
  | optionTwice
  /-- There are two signs for switching options off. -/
  | switchedOffTwice
  /-- The text ends between options. -/
  | optionsCutShort
  /-- An option is not known. -/
  | option
  /-- Two groups have the same name. -/
  | nameTwice
  /-- A group has an empty name. -/
  | noName
  /-- A name of a group has a character that names cannot have. -/
  | nameLetter
  /-- The text ends in the name of a group. -/
  | nameCutShort
  /-- A group has no end. -/
  | openGroup
  /-- A group ends where none is open. -/
  | noGroup
  /-- A least count is above the greatest one. -/
  | countBackwards
  /-- There is no number where a count is expected. -/
  | noCount
  /-- A count has no end. -/
  | openCount
  /-- There is nothing to be repeated. -/
  | nothingRepeated
  /-- Braces for a place in a word have no end. -/
  | openPlace
  /-- Braces for a place in a word name none. -/
  | place
  /-- The text ends in braces that may be a place or a count. -/
  | placeCutShort
  /-- A character beyond ASCII is asked for where bytes are meant. -/
  | beyondBytes
  /-- Bytes are asked for that may be no text. -/
  | notText
  /-- There is no property of the name. -/
  | property
  /-- There is no value of a property by the name. -/
  | propertyValue
  /-- The digits, blanks and word letters of all scripts are not known. -/
  | letterClass
  /-- The cases of the letters of all scripts are not known. -/
  | letterCases
  /-- Too many parts are nested in each other. -/
  | nestedTooDeep
  deriving DecidableEq, Inhabited

/-- The text of a cause. -/
def Cause.message : Cause → String
  | openBracket => "unclosed character class"
  | placeInBracket => "invalid escape sequence found in character class"
  | rangeBackwards => "invalid character class range, the start must be <= the end"
  | rangeEnd => "invalid range boundary, must be a literal"
  | numberTooLarge => "decimal literal invalid"
  | escapeCutShort => "incomplete escape sequence, reached end of pattern prematurely"
  | noHexDigits => "hexadecimal literal empty"
  | noSuchCharacter => "hexadecimal literal is not a Unicode scalar value"
  | hexDigit => "invalid hexadecimal digit"
  | escape => "unrecognized escape sequence"
  | propertyName => "invalid Unicode character class"
  | reference => "backreferences are not supported"
  | lookAround => "look-around, including look-ahead and look-behind, is not supported"
  | nothingSwitchedOff => "dangling flag negation operator"
  | optionTwice => "duplicate flag"
  | switchedOffTwice => "flag negation operator repeated"
  | optionsCutShort => "expected flag but got end of regex"
  | option => "unrecognized flag"
  | nameTwice => "duplicate capture group name"
  | noName => "empty capture group name"
  | nameLetter => "invalid capture group character"
  | nameCutShort => "unclosed capture group name"
  | openGroup => "unclosed group"
  | noGroup => "unopened group"
  | countBackwards => "invalid repetition count range, the start must be <= the end"
  | noCount => "repetition quantifier expects a valid decimal"
  | openCount => "unclosed counted repetition"
  | nothingRepeated => "repetition operator missing expression"
  | openPlace =>
    "special word boundary assertion is either unclosed or contains an invalid character"
  | place =>
    "unrecognized special word boundary assertion, valid choices are: start, end, start-half " ++
      "or end-half"
  | placeCutShort =>
    "found either the beginning of a special word boundary or a bounded repetition on a \\b " ++
      "with an opening brace, but no closing brace"
  | beyondBytes => "Unicode not allowed here"
  | notText => "pattern can match invalid UTF-8"
  | property => "Unicode property not found"
  | propertyValue => "Unicode property value not found"
  | letterClass =>
    "Unicode-aware Perl class not found (make sure the unicode-perl feature is enabled)"
  | letterCases =>
    "Unicode-aware case insensitivity matching is not available (make sure the unicode-case " ++
      "feature is enabled)"
  | nestedTooDeep =>
    "exceed the maximum number of nested parentheses/brackets (" ++ toString nestLimit ++ ")"

/-- What is wrong with a written pattern, and where. -/
structure Fault where
  /-- What is wrong. -/
  cause : Cause
  /-- Where it is wrong. -/
  span : Span
  /-- What it repeats. -/
  first : Option Span := none
  deriving DecidableEq, Inhabited

/-- A place in a text of lines, both numbers from one on. -/
structure LinePlace where
  /-- Which line. -/
  line : Nat
  /-- Which character of the line. -/
  column : Nat
  deriving DecidableEq, Inhabited

/-- The place after a number of characters. -/
def LinePlace.after (cs : List Char) (n : Nat) : LinePlace :=
  let before := cs.take n
  ⟨before.count '\n' + 1, (before.reverse.takeWhile (· != '\n')).length + 1⟩

namespace Fault

/-- The lines of a written pattern as they are shown: without a last one that is empty, and without
carriage returns at the ends of the others. -/
def shownLines : List (List Char) → List (List Char)
  | [] | [[]] => []
  | [last] => [last]
  | l :: ls => (if l.getLast? = some '\r' then l.dropLast else l) :: shownLines ls

/-- Marks under a line, from columns and lengths in order; an empty part has one mark. -/
def marks (parts : List (Nat × Nat)) : List Char :=
  parts.foldl (fun row (column, length) =>
      row ++ List.replicate (column - 1 - row.length) ' ' ++ List.replicate (max 1 length) '^') []

/-- The spans of a fault in order. -/
def spans (f : Fault) : List Span :=
  match f.first with
  | none => [f.span]
  | some s => if s.start ≤ f.span.start then [s, f.span] else [f.span, s]

/-- The report of a fault in a written pattern. -/
def report (f : Fault) (text : List Char) : String :=
  let several := text.contains '\n'
  let places := f.spans.map fun s => (LinePlace.after text s.start, LinePlace.after text s.stop)
  let lines := parts '\n' text
  let width := (toString lines.length).length
  let shown := (shownLines lines).zipIdx.flatMap fun (l, i) =>
    let number := (toString (i + 1)).toList
    let head := if several then List.replicate (width - number.length) ' ' ++ number ++ [':', ' ']
      else List.replicate 4 ' '
    let here := places.filter fun (a, b) => a.line == i + 1 && b.line == i + 1
    (head ++ l) :: if here.isEmpty then []
      else [List.replicate head.length ' ' ++
        marks (here.map fun (a, b) => (a.column, b.column - a.column))]
  let divider := if several then [String.ofList (List.replicate 79 '~')] else []
  let notes := (places.filter fun (a, b) => a.line != b.line).map fun (a, b) =>
    "on line " ++ toString a.line ++ " (column " ++ toString a.column ++ ") through line " ++
      toString b.line ++ " (column " ++ toString (b.column - 1) ++ ")"
  "\n".intercalate <| ["regex parse error:"] ++ divider ++ shown.map String.ofList ++ divider ++
    notes ++ ["error: " ++ f.cause.message]

end Fault

end Pattern

end LitTiles
