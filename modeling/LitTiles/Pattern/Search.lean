import LitTiles.Pattern.Basic

/-!
# Searching for patterns

A pattern leads from places of a text to later ones, those up to which a text of the pattern goes.
A `Reach` says for each place how far one may get from there; the distances are the bits of a
number. The reach of a pattern is put together from the reaches of its parts, so that each part is
looked at once for every place, however often it is repeated.

A round of a repetition stays where it is or goes on. Of as many rounds as there are places one
stays, so more of them lead nowhere else, and greater counts are taken for that number.
-/

namespace LitTiles

/-- How far one may get from each place of a text. -/
abbrev Reach := Array Nat

namespace Reach

/-- The distances that one may get from a place. -/
def row (r : Reach) (place : Nat) : Nat := r.getD place 0

/-- The number of the lowest bit that is set in a number. -/
def lowestBit (n : Nat) : Nat := (n - (n &&& (n - 1))).log2

/-- From each of a number of places to itself only. -/
def staying (places : Nat) : Reach := .replicate places 1

/-- Adds to known distances those that one may get by first going one of several distances, of
which there are at most a number, given the distances from where each of these leads. -/
def followed : Nat → Nat → Nat → (Nat → Nat) → Nat
  | 0, known, _, _ => known
  | n + 1, known, distances, next =>
    if distances = 0 then known
    else
      let d := distances.log2
      followed n (known ||| (next d <<< d)) (distances - 1 <<< d) next

/-- The same where nothing is gained by going on from a place that is reached already. -/
def followedOnce : Nat → Nat → Nat → (Nat → Nat) → Nat
  | 0, known, _, _ => known
  | n + 1, known, distances, next =>
    if distances = 0 then known
    else
      let d := lowestBit distances
      let known := known ||| (next d <<< d)
      followedOnce n known (distances - (distances &&& known)) next

/-- One reach and then another. -/
def andThen (a b : Reach) : Reach :=
  a.mapIdx fun i row => followed a.size 0 row (b.row <| i + ·)

/-- One of two reaches. -/
def either (a b : Reach) : Reach := a.mapIdx fun i row => row ||| b.row i

/-- A reach a number of times. -/
def times (r : Reach) (n : Nat) : Reach :=
  if n = 0 then staying r.size
  else if n = 1 then r
  else
    let half := r.times (n / 2)
    let even := half.andThen half
    if n % 2 = 0 then even else even.andThen r
termination_by n
decreasing_by omega

/-- A reach any number of times, found from the last place backwards. -/
def anyTimes (r : Reach) : Reach :=
  (r.foldr (fun row (later : Reach) =>
      later.push (followedOnce r.size 1 (row - row % 2) fun d => later.row (later.size - d)))
    #[]).reverse

/-- One reach and then another any number of times. -/
def andThenAny (a b : Reach) : Reach :=
  let b := b.anyTimes
  a.mapIdx fun i row => followedOnce a.size 0 row (b.row <| i + ·)

/-- Where one may get from a set of places, both as the bits of numbers. -/
def image (r : Reach) (places : Nat) : Nat := followed r.size 0 places r.row

end Reach

namespace Pattern

/-- Whether the characters of a list come next in a text. -/
def comesNext (text : Array Char) (place : Nat) : List Char → Bool
  | [] => true
  | c :: cs => text[place]? == some c && comesNext text (place + 1) cs

/-- A distance from those places of a text that have a property. -/
def reachWhere (text : Array Char) (distance : Nat) (p : Nat → Bool) : Reach :=
  .ofFn fun (i : Fin (text.size + 1)) => if p i then 1 <<< distance else 0

/-- The reach of a pattern in a text. The letters of all scripts are not known, so a `scriptLook`
never holds. -/
def reach (text : Array Char) : Pattern → Reach
  | empty => .staying (text.size + 1)
  | letters cs => reachWhere text cs.length fun i => comesNext text i cs
  | one s => reachWhere text 1 fun i => text[i]?.any s.contains
  | look l => reachWhere text 0 fun i => l.holds (if i = 0 then none else text[i - 1]?) text[i]?
  | scriptLook _ => reachWhere text 0 fun _ => false
  | group _ a => a.reach text
  | sequence a b => (a.reach text).andThen (b.reach text)
  | choice a b => (a.reach text).either (b.reach text)
  | repetition a least most _ =>
    let r := a.reach text
    let limit := text.size + 1
    let needed := r.times (min least limit)
    match most with
    | none => needed.andThenAny r
    | some m => needed.andThen ((r.either (.staying limit)).times (min (m - least) limit))

/-- Where the texts of a pattern may end that begin at one of a set of places. -/
def ends (text : Array Char) (places : Nat) : Pattern → Nat
  | group _ a => a.ends text places
  | sequence a b => b.ends text (a.ends text places)
  | choice a b => a.ends text places ||| b.ends text places
  | p => (p.reach text).image places

/-- Whether the pattern describes some part of a text. -/
def occursIn (p : Pattern) (text : String) : Bool :=
  let text := text.toList.toArray
  p.ends text (1 <<< (text.size + 1) - 1) != 0

end Pattern

end LitTiles
