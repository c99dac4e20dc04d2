import LitTiles.Demo.Start
import LitTiles.Log.Setup
import LitTiles.Window.Loop

/-!
# The demonstration as a program

One window shows the room until it is closed or escape is pressed.
-/

namespace LitTiles

namespace Demo

/-- The demonstration as an application. -/
def app : App Demo where
  onStart _ := Turn.within (·.renderer) (fun r w => { w with renderer := r }) onStart
  onEvent _ e d := (if e = .keyboard .escape true then .exit else .proceed, d)
  onFrame info := do
    modify fun w => { w with app := w.app.update info.elapsed }
    let d := (← get).app
    return (← Workspace.draw d.scene d.camera, [])

/-- The window of the demonstration. -/
def window : WindowConfig := { title := "tessera · lit tiles" }

/-- The lines by which a program reports the error that ended it. All lines of the causes hang under
the heading. -/
def errorLines (e : LoopError) : List OutputLine :=
  match e.chain with
  | [] => []
  | [error] => writtenLines ("Error: " ++ error)
  | error :: causes =>
    writtenLines ("Error: " ++ error) ++ writtenLines "\nCaused by:" ++
      causes.flatMap fun c => (linesOf c).map fun l => .plain (hanging l)

end Demo

end LitTiles
