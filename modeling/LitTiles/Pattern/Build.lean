import LitTiles.Pattern.Basic

/-!
# Building patterns

Patterns are put together in one form among several that describe the same texts: neighbouring
letters are one text, sets of one character are letters, choices of single characters are sets, what
begins all branches of a choice stands in front of it, and repetitions that say nothing are left
out.
-/

namespace LitTiles

namespace Pattern

/-- One character of a set. -/
def ofSet (s : CharSet) : Pattern :=
  match s.ranges with
  | [r] => if r.first = r.last then letters [Char.ofNat r.first] else one s
  | _ => one s

/-- Joins neighbouring letters. -/
def joinLetters : List Pattern → List Pattern
  | [] => []
  | p :: ps =>
    match p, joinLetters ps with
    | letters a, letters b :: qs => letters (a ++ b) :: qs
    | p, qs => p :: qs

/-- A sequence of parts as they are. -/
def chain : List Pattern → Pattern
  | [] => empty
  | [p] => p
  | p :: ps => sequence p (chain ps)

/-- A text of each pattern, one after the other. -/
def ofSequence (ps : List Pattern) : Pattern := chain (joinLetters (ps.flatMap items))

/-- A choice of parts as they are. -/
def alternatives : List Pattern → Pattern
  | [] => one .nothing
  | [p] => p
  | p :: ps => choice p (alternatives ps)

/-- The set of a pattern for one character of a set. -/
def set? : Pattern → Option CharSet
  | one s => some s
  | _ => none

/-- The character of a pattern for one character. -/
def letter? : Pattern → Option Char
  | letters [c] => some c
  | _ => none

/-- A text of one of several branches, which are no choices themselves. -/
def ofBranches (ps : List Pattern) : Pattern :=
  match ps.mapM letter?, ps.mapM set? with
  | some cs, _ => ofSet (.ofList cs)
  | none, some ss => ofSet (.unions ss)
  | none, none => alternatives ps

/-- What two lists begin with. -/
def commonStart : List Pattern → List Pattern → List Pattern
  | a :: as, b :: bs => if a = b then a :: commonStart as bs else []
  | _, _ => []

/-- What all of several sequences begin with; nothing if one of them is no sequence. -/
def sharedStart (ps : List Pattern) : List Pattern :=
  match ps.map items with
  | [] => []
  | first :: more =>
    if (first :: more).all (2 ≤ ·.length) then more.foldl commonStart first else []

/-- A text of one of several patterns. -/
def ofChoice (ps : List Pattern) : Pattern :=
  let ps := ps.flatMap branches
  match sharedStart ps with
  | [] => ofBranches ps
  | shared =>
    let rests := ps.map fun p => chain (p.items.drop shared.length)
    ofSequence (shared ++ [ofBranches (rests.flatMap branches)])

/-- A number of texts of a pattern, one after the other. One empty text is as good as several. -/
def ofRepetition (p : Pattern) (least : Nat) (most : Option Nat) (prefersShort : Bool) : Pattern :=
  let least := if p.isAlwaysEmpty then min least 1 else least
  let most := if p.isAlwaysEmpty then some (min (most.getD 1) 1) else most
  match least, most with
  | 0, some 0 => empty
  | 1, some 1 => p
  | _, _ => repetition p least most prefersShort

end Pattern

end LitTiles
