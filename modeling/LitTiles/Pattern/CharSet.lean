/-!
# Sets of characters

A set of characters is kept as ranges of their numbers, in order and with a number between each two
that is in neither. The numbers from `0xD800` to `0xDFFF` belong to no character; a neighbour of a
range is sought past them, but two ranges on both of their sides are not joined.
-/

namespace LitTiles

/-- The numbers from one to another, both included. -/
structure CodeRange where
  /-- The first number. -/
  first : Nat
  /-- The last number. -/
  last : Nat
  deriving DecidableEq, Inhabited

namespace CodeRange

/-- The range between two numbers, whichever comes first. -/
def between (a b : Nat) : CodeRange := ⟨min a b, max a b⟩

/-- The number of the next character. -/
def following (n : Nat) : Nat := if n = 0xD7FF then 0xE000 else n + 1

/-- The number of the character before. -/
def preceding (n : Nat) : Nat := if n = 0xE000 then 0xD7FF else n - 1

/-- Whether a number is in a range. -/
def contains (r : CodeRange) (n : Nat) : Bool := r.first ≤ n && n ≤ r.last

/-- What two ranges have in common. -/
def common? (a b : CodeRange) : Option CodeRange :=
  let first := max a.first b.first
  let last := min a.last b.last
  if first ≤ last then some ⟨first, last⟩ else none

/-- What is left of a range without another one. -/
def without (a b : CodeRange) : List CodeRange :=
  if (a.common? b).isNone then [a]
  else
    (if a.first < b.first then [⟨a.first, preceding b.first⟩] else []) ++
      if b.last < a.last then [⟨following b.last, a.last⟩] else []

/-- Adds a range to ranges in order; those that it meets are joined with it. -/
def insert (r : CodeRange) : List CodeRange → List CodeRange
  | [] => [r]
  | x :: xs =>
    if r.last + 1 < x.first then r :: x :: xs
    else if x.last + 1 < r.first then x :: insert r xs
    else insert ⟨min r.first x.first, max r.last x.last⟩ xs

/-- The ranges between ranges in order. -/
def gaps : List CodeRange → List CodeRange
  | a :: b :: rs => between (following a.last) (preceding b.first) :: gaps (b :: rs)
  | _ => []

end CodeRange

/-- A set of characters. -/
structure CharSet where
  /-- The numbers of its characters, in order. -/
  ranges : List CodeRange
  deriving DecidableEq, Inhabited

namespace CharSet

/-- Whether a character is in a set. -/
def contains (s : CharSet) (c : Char) : Bool := s.ranges.any (·.contains c.toNat)

/-- No character. -/
def nothing : CharSet := ⟨[]⟩

/-- The characters between two, both included. -/
def range (first last : Char) : CharSet := ⟨[⟨first.toNat, last.toNat⟩]⟩

/-- The set of one character. -/
def single (c : Char) : CharSet := range c c

/-- What is in one of two sets. -/
def union (a b : CharSet) : CharSet := ⟨b.ranges.foldl (fun rs r => r.insert rs) a.ranges⟩

/-- What is in both of two sets. -/
def intersection (a b : CharSet) : CharSet :=
  ⟨a.ranges.flatMap fun r => b.ranges.filterMap r.common?⟩

/-- What is in one set and not in another. -/
def difference (a b : CharSet) : CharSet :=
  ⟨b.ranges.foldl (fun rs r => rs.flatMap (·.without r)) a.ranges⟩

/-- What is in exactly one of two sets. -/
def exclusive (a b : CharSet) : CharSet := (union a b).difference (intersection a b)

/-- What is not in a set. Between two ranges that lie on both sides of the numbers of no character
there is nothing, and then the two numbers next to these are taken. -/
def complement (s : CharSet) : CharSet :=
  match s.ranges.head?, s.ranges.getLast? with
  | some a, some z =>
    ⟨(if 0 < a.first then [⟨0, CodeRange.preceding a.first⟩] else []) ++ CodeRange.gaps s.ranges ++
      if z.last < 0x10FFFF then [⟨CodeRange.following z.last, 0x10FFFF⟩] else []⟩
  | _, _ => ⟨[⟨0, 0x10FFFF⟩]⟩

/-- The union of sets. -/
def unions (ss : List CharSet) : CharSet := ss.foldl union nothing

/-- All the characters of a list of ranges. -/
def ofRanges (rs : List (Char × Char)) : CharSet := unions (rs.map fun (a, b) => range a b)

/-- All the characters of a list. -/
def ofList (cs : List Char) : CharSet := unions (cs.map single)

/-- All characters. -/
def all : CharSet := complement nothing

/-- The set without the characters of a list. -/
def without (s : CharSet) (cs : List Char) : CharSet := s.difference (ofList cs)

/-- The letters of words in ASCII: letters, digits and the underscore. -/
def wordLetters : CharSet := ofRanges [('0', '9'), ('A', 'Z'), ('_', '_'), ('a', 'z')]

/-- The other case of an ASCII letter. -/
def otherCase (c : Char) : Char := if c.isUpper then c.toLower else c.toUpper

/-- The set together with the other case of each of its ASCII letters. -/
def bothCases (s : CharSet) : CharSet :=
  let letters := ((List.range 0x80).map Char.ofNat).filter (·.isAlpha)
  union s (ofList (letters.filter fun c => s.contains (otherCase c)))

/-- The ASCII classes by name. -/
def ofName? (name : List Char) : Option CharSet :=
  let ranges? := match String.ofList name with
    | "alnum" => some [('0', '9'), ('A', 'Z'), ('a', 'z')]
    | "alpha" => some [('A', 'Z'), ('a', 'z')]
    | "ascii" => some [('\x00', '\x7f')]
    | "blank" => some [('\t', '\t'), (' ', ' ')]
    | "cntrl" => some [('\x00', '\x1f'), ('\x7f', '\x7f')]
    | "digit" => some [('0', '9')]
    | "graph" => some [('!', '~')]
    | "lower" => some [('a', 'z')]
    | "print" => some [(' ', '~')]
    | "punct" => some [('!', '/'), (':', '@'), ('[', '`'), ('\x7b', '~')]
    | "space" => some [('\t', '\r'), (' ', ' ')]
    | "upper" => some [('A', 'Z')]
    | "word" => some [('0', '9'), ('A', 'Z'), ('_', '_'), ('a', 'z')]
    | "xdigit" => some [('0', '9'), ('A', 'F'), ('a', 'f')]
    | _ => none
  ranges?.map ofRanges

end CharSet

end LitTiles
