import LitTiles.Pattern.CharSet

/-!
# Patterns

A pattern describes texts, and it *occurs* in a text if it describes some part of it, possibly an
empty one. What a pattern asks of the characters around a place is a `Look`; it sees one character
on either side.

Sequences and choices of several patterns hang to the right: the second part of a sequence may be
one again, the first may not, and the same holds of choices. `items` and `branches` list the parts.
-/

namespace LitTiles

/-- What a pattern may ask of the two sides of a place. -/
inductive Look where
  /-- The text starts here. -/
  | textStart
  /-- The text ends here. -/
  | textEnd
  /-- A line starts here. -/
  | lineStart
  /-- A line ends here. -/
  | lineEnd
  /-- A line starts here, where a line may also end with a carriage return. -/
  | returnLineStart
  /-- A line ends here, where a line may also end with a carriage return. -/
  | returnLineEnd
  /-- There is a word letter on one side only. -/
  | wordBoundary
  /-- There is a word letter on both sides or on none. -/
  | notWordBoundary
  /-- A word starts here. -/
  | wordStart
  /-- A word ends here. -/
  | wordEnd
  /-- There is no word letter before. -/
  | wordStartHalf
  /-- There is no word letter after. -/
  | wordEndHalf
  deriving DecidableEq, Inhabited

/-- Whether a place is as a look demands, given the characters on its two sides. -/
def Look.holds (l : Look) (before after : Option Char) : Bool :=
  let word := fun (c : Option Char) => (c.map CharSet.wordLetters.contains).getD false
  match l with
  | textStart => before.isNone
  | textEnd => after.isNone
  | lineStart => before.isNone || before == some '\n'
  | lineEnd => after.isNone || after == some '\n'
  | returnLineStart =>
    before.isNone || before == some '\n' || (before == some '\r' && after != some '\n')
  | returnLineEnd =>
    after.isNone || after == some '\r' || (after == some '\n' && before != some '\r')
  | wordBoundary => word before != word after
  | notWordBoundary => word before == word after
  | wordStart => !word before && word after
  | wordEnd => word before && !word after
  | wordStartHalf => !word before
  | wordEndHalf => !word after

/-- A description of texts. -/
inductive Pattern where
  /-- The empty text. -/
  | empty
  /-- A text of its own. -/
  | letters (cs : List Char)
  /-- One character of a set. -/
  | one (set : CharSet)
  /-- The empty text, at a place of some kind. -/
  | look (look : Look)
  /-- The empty text, at a place of some kind by the letters of all scripts. -/
  | scriptLook (look : Look)
  /-- A text of a pattern that is remembered under a number. -/
  | group (index : Nat) (a : Pattern)
  /-- A text of one pattern and then one of another. -/
  | sequence (a b : Pattern)
  /-- A text of one of two patterns. -/
  | choice (a b : Pattern)
  /-- A number of texts of a pattern, one after the other; short ones may be preferred. -/
  | repetition (a : Pattern) (least : Nat) (most : Option Nat) (prefersShort : Bool)
  deriving DecidableEq, Inhabited

namespace Pattern

/-- The parts of a sequence. -/
def items : Pattern → List Pattern
  | empty => []
  | sequence a b => a :: b.items
  | p => [p]

/-- The parts of a choice. -/
def branches : Pattern → List Pattern
  | choice a b => a :: b.branches
  | p => [p]

/-- Whether no text of a pattern has any character, but it may have a text. -/
def isAlwaysEmpty : Pattern → Bool
  | empty | look _ | scriptLook _ => true
  | letters _ | one _ => false
  | group _ a => a.isAlwaysEmpty
  | sequence a b | choice a b => a.isAlwaysEmpty && b.isAlwaysEmpty
  | repetition a _ most _ => most.isSome && a.isAlwaysEmpty

/-- Length of the shortest texts of a pattern. There is none if some part of it has no texts at
all, whether the pattern needs that part or not. -/
def minLength? : Pattern → Option Nat
  | empty | look _ | scriptLook _ => some 0
  | letters cs => some cs.length
  | one s => if s = .nothing then none else some 1
  | group _ a => a.minLength?
  | sequence a b => do return (← a.minLength?) + (← b.minLength?)
  | choice a b => do return min (← a.minLength?) (← b.minLength?)
  | repetition a least _ _ => do return (← a.minLength?) * least

/-- Whether every text of a pattern begins at a place of some kind, as far as its first parts
show. -/
def beginsAt (l : Look) : Pattern → Bool
  | look m => l == m
  | group _ a => a.beginsAt l
  | sequence a b => a.beginsAt l || a.isAlwaysEmpty && b.beginsAt l
  | choice a b => a.beginsAt l && b.beginsAt l
  | repetition a least _ _ => 0 < least && a.beginsAt l
  | empty | letters _ | one _ | scriptLook _ => false

/-- Whether every text of a pattern ends at a place of some kind, as far as its last parts show. -/
def endsAt (l : Look) : Pattern → Bool
  | look m => l == m
  | group _ a => a.endsAt l
  | sequence a b => b.endsAt l || b.isAlwaysEmpty && a.endsAt l
  | choice a b => a.endsAt l && b.endsAt l
  | repetition a least _ _ => 0 < least && a.endsAt l
  | empty | letters _ | one _ | scriptLook _ => false

/-- Whether the letters of all scripts would have to be known. -/
def asksForScripts : Pattern → Bool
  | empty | letters _ | one _ | look _ => false
  | scriptLook _ => true
  | group _ a | repetition a _ _ _ => a.asksForScripts
  | sequence a b | choice a b => a.asksForScripts || b.asksForScripts

/-- Whether a pattern remembers nothing and asks nothing of places. -/
def isPlain : Pattern → Bool
  | empty | letters _ | one _ => true
  | look _ | scriptLook _ | group _ _ => false
  | repetition a _ _ _ => a.isPlain
  | sequence a b | choice a b => a.isPlain && b.isPlain

end Pattern

end LitTiles
