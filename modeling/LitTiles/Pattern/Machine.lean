import LitTiles.Pattern.Basic
import LitTiles.Text.ByteRange

/-!
# The machine of a pattern

A pattern is searched by a machine that goes through states while it reads the bytes of a text, once
from the start and once from the end. A state takes room, and so do the links of a state that has
several. A `Fragment` is the part of a machine for a part of a pattern; joining its end to what
follows costs another link if it ends in a state of several links. The machine of a counted
repetition has a fragment for each round.

A pattern whose machines do not fit into `Machine.limit` is refused.
-/

namespace LitTiles

namespace Machine

/-- The room for each machine of a pattern, in bytes. -/
def limit : Nat := 10485760

/-- Size of a state. -/
def state : Nat := 32

/-- Size of a link to a state that is taken without reading. -/
def link : Nat := 4

/-- Size of a link to a state that is taken by reading a byte of a range. -/
def byteLink : Nat := 8

/-- A part of a machine. -/
structure Fragment where
  /-- Its size. -/
  size : Nat
  /-- Whether it ends in a state of several links. -/
  forks : Bool := false
  deriving DecidableEq, Inhabited

namespace Fragment

/-- The size of a fragment with its end joined to a state. -/
def joined (f : Fragment) : Nat := f.size + if f.forks then link else 0

/-- One fragment and then another. -/
def andThen (f g : Fragment) : Fragment := ⟨f.joined + g.size, g.forks⟩

/-- A fragment between two states that remember where it starts and ends. -/
def remembered (f : Fragment) : Fragment := ⟨2 * state + f.joined, false⟩

/-- A fragment a number of times. -/
def times (f : Fragment) : Nat → Fragment
  | 0 => ⟨state, false⟩
  | n + 1 => ⟨n * f.joined + f.size, f.forks⟩

/-- Rounds that may be left out, after a fragment. -/
def upTo (f before : Fragment) (n : Nat) : Fragment :=
  ⟨before.joined + state + n * (state + f.joined + 2 * link), false⟩

/-- A fragment for a repetition. Where every round reads something, one state chooses between
another round and going on; where a round may read nothing, one chooses before the rounds and one
after each of them. -/
def repeated (f : Fragment) (reads : Bool) (least : Nat) (most : Option Nat) : Fragment :=
  match least, most with
  | 0, some 1 => ⟨2 * state + f.joined + 2 * link, false⟩
  | 0, none =>
    if reads then ⟨state + f.joined + link, true⟩
    else ⟨3 * state + f.joined + 4 * link, false⟩
  | n, none => ⟨n * f.joined + state + link, true⟩
  | n, some m => if n = m then f.times n else f.upTo (f.times n) (m - n)

end Fragment

section Trees

variable {α : Type} [DecidableEq α]

/-- Neighbouring lists with the same first element, each with the rests of its lists. -/
def runs : List (List α) → List (α × List (List α))
  | [] => []
  | [] :: ls => runs ls
  | (a :: l) :: ls =>
    match runs ls with
    | [] => [(a, [l])]
    | (b, rests) :: more =>
      if a = b then (a, l :: rests) :: more
      else (a, [l]) :: (b, rests) :: more

/-- The trees of lists below one: a tree is given by the lists from its root to its leaves. A list
has at most a number of elements. -/
def subtrees : Nat → List (List α) → List (List (List α))
  | 0, _ => []
  | n + 1, ls =>
    if ls.all (·.isEmpty) then []
    else ls :: (runs ls).flatMap fun (_, rests) => subtrees n rests

/-- All that lists begin with, apart from nothing. -/
def beginnings (ls : List (List α)) : List (List α) :=
  ls.flatMap fun l => (List.range l.length).map fun n => l.take (n + 1)

end Trees

/-- The fragment for one character of a set. Where it reads forwards, byte sequences that go on in
the same way share their states, and where it reads backwards those that begin in the same way. -/
def ofSet (backwards : Bool) (s : CharSet) : Fragment :=
  let sequences := s.ranges.flatMap fun r => byteSequences r.first r.last
  if s.ranges.all (·.last < 0x80) then ⟨2 * state + byteLink * s.ranges.length, false⟩
  else if backwards then
    ⟨2 * state + state * (beginnings sequences).eraseDups.length + link * sequences.length, false⟩
  else
    ⟨(subtrees 4 sequences).eraseDups.foldl (fun size t =>
        size + state + byteLink * (runs t).length) state, false⟩

/-- The parts of a list of texts between empty ones. -/
def textsBetween (ts : List (List UInt8)) : List (List (List UInt8)) :=
  ts.foldr (fun t parts =>
      match t, parts with
      | [], parts => [] :: parts
      | t, p :: parts => (t :: p) :: parts
      | t, [] => [[t]]) [[]]

/-- Size of the states for a choice of texts, of at most a number of bytes each. Where a text ends
and others go on, those after it are kept apart from those before it. -/
def textStates : Nat → List (List UInt8) → Nat
  | 0, _ => 0
  | n + 1, ts =>
    if ts.all (·.isEmpty) then 0
    else
      let parts := match textsBetween ts with
        | [] :: more => [] :: more.dropWhile (·.isEmpty)
        | parts => parts
      let filled := parts.filter (!·.isEmpty)
      let inner := filled.map fun part =>
        let heads := (part.filterMap (·.head?)).eraseDups
        let own := state + if heads.length = 1 then 0 else byteLink * heads.length
        heads.foldl (fun size h => size +
          textStates n (part.filterMap fun t => if t.head? = some h then some t.tail else none)) own
      inner.foldl (· + ·) (state + link * (filled.length + (parts.length - 1)))

/-- The fragment for a choice of texts. -/
def ofTexts (ts : List (List UInt8)) : Fragment :=
  ⟨state + textStates (ts.flatten.length + 1) ts, false⟩

/-- The bytes of letters, in the order in which they are read. -/
def bytes (backwards : Bool) (cs : List Char) : List UInt8 :=
  let bs := cs.flatMap String.utf8EncodeChar
  if backwards then bs.reverse else bs

/-- What a pattern takes. -/
inductive Needs where
  /-- What a pattern takes that is no choice, and its bytes if it is a text of its own. -/
  | part (fragment : Fragment) (text : Option (List UInt8))
  /-- What the branches of a choice take, with a link to each and their ends joined, and their bytes
  if each is a text of its own. -/
  | choice (size : Nat) (texts : Option (List (List UInt8)))
  deriving Inhabited

namespace Needs

/-- The fragment of a pattern. -/
def fragment : Needs → Fragment
  | part f _ => f
  | choice _ (some ts) => ofTexts ts
  | choice size none => ⟨2 * state + size, false⟩

/-- What a pattern takes as a branch. -/
def size : Needs → Nat
  | part f _ => link + f.joined
  | choice size _ => size

/-- The bytes of a pattern as a branch. -/
def texts : Needs → Option (List (List UInt8))
  | part _ text => text.map fun t => [t]
  | choice _ texts => texts

end Needs

/-- What a pattern takes. Nothing is remembered backwards. -/
def needs (backwards : Bool) : Pattern → Needs
  | .empty | .look _ | .scriptLook _ => .part ⟨state, false⟩ none
  | .letters cs =>
    let bs := bytes backwards cs
    .part ⟨state * bs.length, false⟩ (some bs)
  | .one s => .part (ofSet backwards s) none
  | .group _ a =>
    let f := (needs backwards a).fragment
    .part (if backwards then f else f.remembered) none
  | .sequence a b =>
    let f := (needs backwards a).fragment
    let g := (needs backwards b).fragment
    .part (if backwards then g.andThen f else f.andThen g) none
  | .choice a b =>
    let a := needs backwards a
    let b := needs backwards b
    .choice (a.size + b.size) (do return (← a.texts) ++ (← b.texts))
  | .repetition a least most _ =>
    let reads := a.minLength?.any (0 < ·)
    .part ((needs backwards a).fragment.repeated reads least most) none

/-- Size of the machine of a pattern. It may begin anywhere in a text, unless the pattern asks for
the end of the text where it begins; what it finds is remembered where it reads forwards. -/
def size (backwards : Bool) (p : Pattern) : Nat :=
  let f := (needs backwards p).fragment
  let isAnchored := if backwards then p.endsAt .textEnd else p.beginsAt .textStart
  let start := if isAnchored then state else 3 * state + byteLink + 2 * link
  start + (if backwards then f else f.remembered).joined + state

end Machine

end LitTiles
