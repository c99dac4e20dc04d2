import LitTiles.Log
import LitTiles.Text.Blank
import LitTiles.Text.Parts
import LitTiles.Text.Shown

/-!
# The lines of the log

A record is written with its time, its severity and its speaker in brackets in front of its text.
Further lines of the text follow on lines of their own, which hang under the first one. Of all that
is written only what is shown is left.

What is shown is read back line by line. A line in the form of a record's first line is one;
commands for terminals in the name of a speaker may have swallowed the bracket after it, and then a
later one takes its place. The time is not kept.
-/

namespace LitTiles

/-- A line of the error output. -/
inductive OutputLine where
  /-- A text as it is. -/
  | plain (text : String)
  /-- The first line of a record. -/
  | record (severity : Severity) (target text : String)
  deriving DecidableEq, Inhabited

/-- The severity of a name in capital letters. -/
def Severity.ofLabel? (label : String) : Option Severity :=
  [error, warn, info, debug, trace].find? (·.label == label)

/-- The words of a text, with blanks in between. -/
def wordsOf (text : List Char) : List String :=
  let words := parts ' ' (text.map fun c => if isBlank c then ' ' else c)
  (words.filter (!·.isEmpty)).map String.ofList

/-- Reads a line of the error output. -/
def OutputLine.read (line : String) : OutputLine :=
  match splitAtFirst? "] ".toList line.toList with
  | some ('[' :: head, text) =>
    match wordsOf head with
    | _ :: label :: target =>
      match Severity.ofLabel? label with
      | some severity => .record severity (target.headD "") (String.ofList text)
      | none => .plain line
    | _ => .plain line
  | _ => .plain line

/-- The lines of a text that is written as it is. -/
def writtenLines (text : String) : List OutputLine := (linesOf text).map .read

/-- The text of a record as it is written, with a dash for its time. -/
def Record.written (r : Record) : String :=
  "[- " ++ r.severity.label ++ " " ++ r.speaker.target ++ "] " ++ hangingLines r.text

/-- The lines of a record. -/
def Record.lines (r : Record) : List OutputLine := writtenLines (shownText r.written)

end LitTiles
