import LitTiles.Window.Event

/-!
# Events in words

An event of the window system is written as its name and its arguments:

* `resumed`, `wait`: the program may open windows; there are no events left for now;
* `advance ms`: time has passed;
* `close w`, `redraw w`, `focus w`, `scale w`: something happened to window `w`;
* `press w key`, `release w key`: a key went down or up;
* `size w x y`, `resized w x y`: window `w` has a new size, of which the program is not told or is.

Keys other than `Escape` and `Space` are not told apart.
-/

namespace LitTiles

/-- The key of a name. -/
def Key.ofWord : String → Key
  | "Escape" => escape
  | "Space" => space
  | _ => unidentified

/-- The event of a name, of those that carry nothing. -/
def WindowEvent.ofWord? (word : String) : Option WindowEvent :=
  [closeRequested, redrawRequested, focused, rescaled].find? (·.label == word)

namespace HostEvent

/-- The window of a number in digits. -/
def window? (digits : String) : Option WindowId := digits.toNat?.map (⟨·⟩)

/-- The size of two numbers in digits. -/
def size? (width height : String) : Option SurfaceSize :=
  return ⟨.ofNat (← width.toNat?), .ofNat (← height.toNat?)⟩

/-- Reads an event. -/
def ofWords? : List String → Option HostEvent
  | ["resumed"] => some resumed
  | ["wait"] => some idle
  | ["advance", millis] => millis.toNat?.map passed
  | ["press", w, key] => return happened (← window? w) (.keyboard (.ofWord key) true) none
  | ["release", w, key] => return happened (← window? w) (.keyboard (.ofWord key) false) none
  | ["size", w, x, y] => return stretched (← window? w) (← size? x y)
  | ["resized", w, x, y] => return happened (← window? w) .resized (some (← size? x y))
  | [name, w] => return happened (← window? w) (← WindowEvent.ofWord? name) none
  | _ => none

end HostEvent

end LitTiles
