import LitTiles.Scalar

/-!
# The clock

Instants are whole milliseconds. Programs receive spans of time as seconds in a 32-bit float: the
whole seconds and the rest are converted apart, and then added.
-/

namespace LitTiles

/-- A span of time in milliseconds, as seconds. -/
def secondsOfMillis (ms : Nat) : Scalar :=
  Scalar.ofNat (ms / 1000) + Scalar.ofNat (ms % 1000 * 1000000) / 1000000000

end LitTiles
