/-!
# Scalars

World coordinates, colours, light parameters and uniform values are 32-bit floats. A scalar is the
bits of one, because data that is only passed on reaches the hardware bit by bit, whatever it
encodes. Arithmetic is that of floats; this module fixes what the standard leaves open and what is a
decision of the renderer.

* An operation on a NaN answers that NaN, made quiet; of two it answers the left one. An operation
  that has no result answers `Scalar.invalid`.
* `Scalar.lesser` and `Scalar.greater` ignore a NaN on either side, and answer the right operand
  when the two compare equal (so of two zeros of different sign the right one stays).
* `Scalar.hypot`, `Scalar.sine` and `Scalar.cosine` are computed with 64 bits and rounded once.
* `Scalar.pixels` and `Scalar.cell` round an exact value, read off the bits, to an integer and clamp
  it to 32 bits; NaN becomes zero.
-/

namespace LitTiles

/-- A number of the scene: a 32-bit float, by its bits. -/
structure Scalar where
  /-- The sign, the exponent field and the fraction. -/
  bits : UInt32
  deriving Inhabited

namespace Scalar

/-- The float of the same bits; all NaNs are one. -/
def toFloat32 (x : Scalar) : Float32 := Float32.ofBits x.bits

/-- The bits of a float. -/
def ofFloat32 (x : Float32) : Scalar := ⟨x.toBits⟩

/-- The same value with 64 bits. -/
def toFloat (x : Scalar) : Float := x.toFloat32.toFloat

/-- The nearest scalar to a natural number. -/
def ofNat (n : Nat) : Scalar := ofFloat32 (Float32.ofNat n)

/-- The nearest scalar to an unsigned number. -/
def ofUInt32 (n : UInt32) : Scalar := ofFloat32 n.toFloat32

/-- Not a number. -/
def isNaN (x : Scalar) : Bool := x.toFloat32.isNaN

/-- Infinite, of either sign. -/
def isInf (x : Scalar) : Bool := x.toFloat32.isInf

/-- Neither infinite nor NaN. -/
def isFinite (x : Scalar) : Bool := x.toFloat32.isFinite

/-- Positive infinity. -/
def infinity : Scalar := ⟨0x7f800000⟩

/-- The NaN that stands for a missing number. -/
def nan : Scalar := ⟨0x7fc00000⟩

/-- The NaN that an operation without result answers. -/
def invalid : Scalar := ⟨0xffc00000⟩

/-- The distance between one and the next larger float. -/
def epsilon : Scalar := ⟨0x34000000⟩

/-- A NaN as operations pass it on: with the first bit of its fraction set. -/
def quiet (x : Scalar) : Scalar := ⟨x.bits ||| 0x00400000⟩

/-- The answer of an operation on two operands that yields a float. -/
def answer (x y : Scalar) (z : Float32) : Scalar :=
  if x.isNaN then x.quiet
  else if y.isNaN then y.quiet
  else if z.isNaN then invalid
  else ofFloat32 z

instance (n : Nat) : OfNat Scalar n := ⟨ofNat n⟩

instance : OfScientific Scalar := ⟨fun m s e => ofFloat32 (OfScientific.ofScientific m s e)⟩

instance : Add Scalar := ⟨fun x y => answer x y (x.toFloat32 + y.toFloat32)⟩

instance : Sub Scalar := ⟨fun x y => answer x y (x.toFloat32 - y.toFloat32)⟩

instance : Mul Scalar := ⟨fun x y => answer x y (x.toFloat32 * y.toFloat32)⟩

instance : Div Scalar := ⟨fun x y => answer x y (x.toFloat32 / y.toFloat32)⟩

/-- Only the sign changes, also of a NaN. -/
instance : Neg Scalar := ⟨fun x => ⟨x.bits ^^^ 0x80000000⟩⟩

/-- Equality of floats: zeros of either sign agree, a NaN agrees with nothing. -/
instance : BEq Scalar := ⟨fun x y => x.toFloat32 == y.toFloat32⟩

instance : LT Scalar := ⟨fun x y => x.toFloat32 < y.toFloat32⟩

instance : LE Scalar := ⟨fun x y => x.toFloat32 ≤ y.toFloat32⟩

instance (x y : Scalar) : Decidable (x < y) :=
  inferInstanceAs (Decidable (x.toFloat32 < y.toFloat32))

instance (x y : Scalar) : Decidable (x ≤ y) :=
  inferInstanceAs (Decidable (x.toFloat32 ≤ y.toFloat32))

/-- The smaller of two numbers; a NaN gives way to the other operand. -/
def lesser (x y : Scalar) : Scalar :=
  if y.isNaN then x else if x < y then x else y

/-- The larger of two numbers; a NaN gives way to the other operand. -/
def greater (x y : Scalar) : Scalar :=
  if y.isNaN then x else if y < x then x else y

/-- Length of the hypotenuse. It is infinite as soon as one leg is, even beside a NaN. -/
def hypot (x y : Scalar) : Scalar :=
  if x.isInf || y.isInf then infinity
  else
    let a := x.toFloat
    let b := y.toFloat
    answer x y (Float.sqrt (a * a + b * b)).toFloat32

/-- Sine, rounded once from 64 bits. -/
def sine (x : Scalar) : Scalar := answer x x x.toFloat.sin.toFloat32

/-- Cosine, rounded once from 64 bits. -/
def cosine (x : Scalar) : Scalar := answer x x x.toFloat.cos.toFloat32

/-- The sign of a number: whether it is written with a minus. -/
def isMinus (x : Scalar) : Bool := 0x80000000 ≤ x.bits.toNat

/-- The exponent field, where subnormal numbers share the field of the smallest normal ones. -/
def exponent (x : Scalar) : Nat := max ((x.bits.toNat >>> 23) % 0x100) 1

/-- The significand with its leading one, which subnormal numbers lack. -/
def significand (x : Scalar) : Nat :=
  x.bits.toNat % 0x800000 + if (x.bits.toNat >>> 23) % 0x100 = 0 then 0 else 0x800000

/-- The magnitude of a number over `2 ^ 150`; of an infinity it is that of `2 ^ 128`, which is above
every finite one. -/
def magnitude (x : Scalar) : Nat := significand x <<< exponent x

/-- The denominator of values. -/
def denominator : Nat := 1 <<< 150

/-- The exact value of a number over `2 ^ 150`. -/
def value (x : Scalar) : Int := if isMinus x then -(magnitude x : Int) else magnitude x

/-- The nearest number of pixels, halves away from zero, clamped to 32 unsigned bits. -/
def pixels (x : Scalar) : UInt32 :=
  if x.isNaN then 0
  else UInt32.ofNat (min ((2 * value x + denominator) / (2 * denominator)).toNat 0xFFFFFFFF)

/-- The number of the grid cell a quotient falls into: its floor, clamped to 32 signed bits. -/
def cell (x : Scalar) : Int :=
  if x.isNaN then 0 else max (-0x80000000) (min (value x / denominator) 0x7FFFFFFF)

/-- The four bytes of a float, least significant first. -/
def bytes (x : Scalar) : List UInt8 :=
  let b := x.bits
  [b.toUInt8, (b >>> 8).toUInt8, (b >>> 16).toUInt8, (b >>> 24).toUInt8]

@[simp] theorem length_bytes (x : Scalar) : (bytes x).length = 4 := rfl

end Scalar

/-- The bytes of a run of floats, in order. -/
def floatBytes (xs : List Scalar) : List UInt8 := xs.flatMap Scalar.bytes

@[simp] theorem floatBytes_nil : floatBytes [] = [] := rfl

@[simp] theorem floatBytes_cons (x : Scalar) (xs : List Scalar) :
    floatBytes (x :: xs) = Scalar.bytes x ++ floatBytes xs := rfl

@[simp] theorem floatBytes_append (xs ys : List Scalar) :
    floatBytes (xs ++ ys) = floatBytes xs ++ floatBytes ys := by
  simp [floatBytes]

theorem length_floatBytes (xs : List Scalar) : (floatBytes xs).length = 4 * xs.length := by
  induction xs with
  | nil => rfl
  | cons x xs ih => simp [ih]; omega

end LitTiles
