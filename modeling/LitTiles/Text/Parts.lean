/-!
# Parts of a text

Texts are split at every occurrence of a separator: `n` separators make `n + 1` parts, some of which
may be empty. Lines are the parts between line ends; a carriage return in front of a line end
belongs to it.
-/

namespace LitTiles

/-- The parts of a text between separators. -/
def parts (separator : Char) (text : List Char) : List (List Char) :=
  text.foldr (fun c ps =>
      if c = separator then [] :: ps
      else
        match ps with
        | [] => [[c]]
        | p :: ps => (c :: p) :: ps) [[]]

/-- A line without a carriage return at its end. -/
def withoutReturn (line : List Char) : List Char :=
  if line.getLast? = some '\r' then line.dropLast else line

/-- The lines of a text that a line end follows. -/
def linesOf (text : String) : List String :=
  (parts '\n' text.toList).map fun l => String.ofList (withoutReturn l)

/-- How far lines hang under a line they belong to. -/
def hanging (line : String) : String := "    " ++ line

/-- A text whose further lines hang under its first one. -/
def hangingLines (text : String) : String :=
  match (parts '\n' text.toList).map String.ofList with
  | [] => ""
  | first :: more => "\n".intercalate (first :: more.map hanging)

/-- A text before the first occurrence of a word and after it, if the word occurs. -/
def splitAtFirst? (word : List Char) : List Char → Option (List Char × List Char)
  | [] => none
  | c :: cs =>
    if word.isPrefixOf (c :: cs) then some ([], (c :: cs).drop word.length)
    else (splitAtFirst? word cs).map fun (before, after) => (c :: before, after)

end LitTiles
