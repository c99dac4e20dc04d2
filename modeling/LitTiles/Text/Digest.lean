import LitTiles.Scalar

/-!
# Digests

How data is written where its exact value counts: numbers in hexadecimal, floats by their bits, and
runs of bytes byte by byte or, where they are long, by a hash. The hash is the 64-bit FNV-1a hash.
-/

namespace LitTiles

/-- A number in hexadecimal, with zeros in front up to a width. -/
def hexDigits (width n : Nat) : String :=
  let ds := Nat.toDigits 16 n
  String.ofList (List.replicate (width - ds.length) '0' ++ ds)

/-- The value of a hexadecimal text. -/
def hexValue (s : String) : Nat :=
  s.foldl (fun n c => 16 * n + (if c.isDigit then c.toNat - 48 else c.toLower.toNat - 87)) 0

/-- The 64-bit FNV-1a hash. -/
def fnv1a (bs : List UInt8) : UInt64 :=
  bs.foldl (fun h b => (h ^^^ b.toUInt64) * 0x100000001b3) 0xcbf29ce484222325

/-- A hash as sixteen digits. -/
def hashDigits (bs : List UInt8) : String := hexDigits 16 (fnv1a bs).toNat

/-- The longest run of bytes that is written byte by byte. -/
def longestShown : Nat := 256

/-- A run of bytes. -/
def digestBytes (bs : List UInt8) : String :=
  if bs.length ≤ longestShown then String.join (bs.map fun b => hexDigits 2 b.toNat)
  else "fnv:" ++ hashDigits bs

/-- A 32-bit float by its bits; one text stands for all that are not numbers. -/
def floatDigits (x : Scalar) : String :=
  if x.isNaN then "nan" else "0x" ++ hexDigits 8 x.bits.toNat

/-- Reads a 32-bit float by its bits or as one of the words for what has no digits. -/
def readFloat (s : String) : Scalar :=
  match s with
  | "nan" => Scalar.nan
  | "inf" => Scalar.infinity
  | "-inf" => -Scalar.infinity
  | _ => ⟨UInt32.ofNat (hexValue (s.drop 2).toString)⟩

/-- A 64-bit float by its bits; one text stands for all that are not numbers. -/
def doubleDigits (x : Float) : String :=
  if x.isNaN then "nan" else "0x" ++ hexDigits 16 x.toBits.toNat

end LitTiles
