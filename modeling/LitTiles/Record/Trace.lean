import LitTiles.Geometry.Extent

/-!
# Traces

Commands to a device are values of different types. Their traces are not: a trace is a tree of
numbers, texts and bytes, in which a command is a list that starts with its name. Traces are what a
log of commands shows and what two such logs are compared by.
-/

namespace LitTiles

/-- A printable view of a command or of one of its arguments. -/
inductive Trace where
  /-- Nothing. -/
  | absent
  /-- A truth value. -/
  | flag (b : Bool)
  /-- A whole number. -/
  | int (n : Int)
  /-- A 32-bit float. -/
  | float (x : Scalar)
  /-- A 64-bit float. -/
  | double (x : Float)
  /-- A text. -/
  | text (s : String)
  /-- A run of bytes. -/
  | bytes (bs : List UInt8)
  /-- A long text, of which a hash is enough. -/
  | hash (s : String)
  /-- A list of traces. -/
  | list (ts : List Trace)
  deriving Inhabited

namespace Trace

/-- A natural number. -/
def nat (n : Nat) : Trace := int n

/-- A list of floats. -/
def floats (xs : List Scalar) : Trace := list (xs.map float)

/-- A list of natural numbers. -/
def nats (ns : List Nat) : Trace := list (ns.map nat)

/-- A size in pixels. -/
def ofSize (s : SurfaceSize) : Trace := nats [s.width.toNat, s.height.toNat]

/-- What may be missing. -/
def option {α : Type} (f : α → Trace) : Option α → Trace
  | none => absent
  | some a => f a

/-- A command: its name and its arguments. -/
def command (name : String) (args : List Trace) : Trace := list (text name :: args)

/-- Length in bytes and hash of a long text. -/
def digest (s : String) : List Trace := [nat s.utf8ByteSize, hash s]

/-- The name of a command. -/
def name : Trace → String
  | list (text s :: _) => s
  | _ => ""

/-- The first argument of a command, if it is a number. -/
def firstNumber : Trace → Int
  | list (_ :: int n :: _) => n
  | _ => 0

end Trace

end LitTiles
