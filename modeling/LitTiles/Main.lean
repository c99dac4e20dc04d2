import LitTiles.Demo.App
import LitTiles.Record.Print
import LitTiles.Record.Watched
import LitTiles.Window.EventText

/-!
# The demonstration on the command line

Reads events of a window system, one per line, and writes what the program does on them: commands to
the standard output, records of the log to the error output. The log is filtered by the variable
`RUST_LOG` of the environment.
-/

namespace LitTiles

/-- The text of a line of the error output. -/
def OutputLine.text : OutputLine → String
  | plain text => text
  | record severity target text => "[" ++ severity.label ++ " " ++ target ++ "] " ++ text

/-- Reads the lines up to the end of a stream. -/
partial def readLines (input : IO.FS.Stream) (lines : List String) : IO (List String) := do
  let line ← input.getLine
  if line.isEmpty then return lines.reverse else readLines input (line :: lines)

end LitTiles

open LitTiles

/-- Runs the demonstration; the exit code is one if it ended with an error. -/
def main : IO UInt32 := do
  let lines ← readLines (← IO.getStdin) []
  let events := lines.filterMap fun l =>
    HostEvent.ofWords? (((String.ofList (trim l.toList)).splitOn " ").filter (· != ""))
  let log := LogSetup.setUp none (← IO.getEnv "RUST_LOG") {}
  let report := Demo.app.run .start Demo.window {} {} events
  let history := (report.events.getD []).flatten ++ report.afterwards
  let output ← IO.getStdout
  let errors ← IO.getStderr
  (history.filterMap (·.trace? false)).forM fun t => output.putStrLn t.line
  (log.output (history.filterMap (·.record?))).forM fun l => errors.putStrLn l.text
  match report.result with
  | .ok () => return 0
  | .error e =>
    (Demo.errorLines e).forM fun l => errors.putStrLn l.text
    return 1
