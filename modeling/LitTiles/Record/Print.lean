import LitTiles.Record.Trace
import LitTiles.Text.Digest

/-!
# Printed traces

A command is printed on one line: its name and its arguments with blanks in between. Lists are put
in brackets, floats are written by their bits, and bytes by their digest.
-/

namespace LitTiles

namespace Trace

mutual

/-- Prints a trace. -/
def print : Trace → String
  | absent => "none"
  | flag b => toString b
  | int n => toString n
  | float x => floatDigits x
  | double x => doubleDigits x
  | text s => s
  | bytes bs => digestBytes bs
  | hash s => hashDigits s.toUTF8.toList
  | list ts => "[" ++ " ".intercalate (printAll ts) ++ "]"

/-- Prints traces one by one. -/
def printAll : List Trace → List String
  | [] => []
  | t :: ts => print t :: printAll ts

end

/-- Prints a command. -/
def line : Trace → String
  | list ts => " ".intercalate (printAll ts)
  | t => print t

end Trace

end LitTiles
