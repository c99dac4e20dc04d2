import LitTiles.Pattern.Basic

/-!
# Patterns for a few texts

A pattern that describes a few short texts and nothing else is searched for by these texts, without
a machine. What cannot be had without knowing many texts, or long ones, counts as not known.
-/

namespace LitTiles

namespace Pattern

/-- How many texts are listed at most. -/
def textLimit : Nat := 250

/-- How many bytes a text has at most that is listed. -/
def textLengthLimit : Nat := 100

/-- How many characters of a set are listed, and how many rounds of a repetition, at most. -/
def listingLimit : Nat := 10

/-- Texts, if there are not too many of them and none is too long. -/
def withinLimits (ts : List (List Char)) : Option (List (List Char)) :=
  if ts.length ≤ textLimit && ts.all fun t => (String.ofList t).utf8ByteSize ≤ textLengthLimit then
    some ts
  else none

/-- Each text of a list followed by each of another. Nothing can follow where there is no text. -/
def following (as bs : Option (List (List Char))) : Option (List (List Char)) :=
  match as, bs with
  | some [], _ => some []
  | some as, some bs => withinLimits (as.flatMap fun a => bs.map (a ++ ·))
  | _, _ => none

/-- All the texts of a pattern, if they are known. -/
def allTexts? : Pattern → Option (List (List Char))
  | empty => some [[]]
  | letters cs => withinLimits [cs]
  | one s =>
    if s.ranges.foldl (fun n r => n + (r.last + 1 - r.first)) 0 ≤ listingLimit then
      some (s.ranges.flatMap fun r =>
        (List.range (r.last + 1 - r.first)).map fun i => [Char.ofNat (r.first + i)])
    else none
  | look _ | scriptLook _ => none
  | group _ a => a.allTexts?
  | sequence a b => following a.allTexts? b.allTexts?
  | choice a b => do withinLimits ((← a.allTexts?) ++ (← b.allTexts?))
  | repetition a least most _ =>
    match a.allTexts? with
    | some [] => some (if least = 0 then [[]] else [])
    | some ts =>
      if least = 0 && most = some 1 then withinLimits ([] :: ts)
      else if some least = most && least ≤ listingLimit then
        Nat.repeat (following · (some ts)) least (some [[]])
      else none
    | none => none

/-- Whether a pattern is searched for by its texts. An empty text is none to search for, and several
texts must not all begin with the same byte, which would be searched for instead. -/
def isSearchedByTexts (p : Pattern) : Bool :=
  p.isPlain &&
    match p.allTexts? with
    | none => false
    | some ts =>
      let ts := ts.eraseDups
      let heads := (ts.map fun t => ((String.ofList t).toUTF8.data[0]?)).eraseDups
      !ts.isEmpty && !ts.contains [] &&
        (ts.length = 1 || ts.length ≤ listingLimit && 1 < heads.length)

end Pattern

end LitTiles
