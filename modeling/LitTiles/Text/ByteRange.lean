/-!
# Ranges of characters as ranges of bytes

A text is written in one to four bytes for each character. The characters of a range are written in
a number of byte sequences that can be given place by place: each place has a range of its own, and
all combinations occur. `byteSequences` splits a range of characters where this fails.
-/

namespace LitTiles

/-- The bytes from one to another, both included. -/
structure ByteRange where
  /-- The first byte. -/
  first : UInt8
  /-- The last byte. -/
  last : UInt8
  deriving DecidableEq, Inhabited

namespace ByteRange

/-- The greatest numbers of characters that are written in one, two and three bytes. -/
def lengthEnds : List Nat := [0x7F, 0x7FF, 0xFFFF]

/-- Where a range of numbers has to be split, so that all of the bytes after the first ones vary
freely: the last number of its first part. -/
def alignedCut? (first last : Nat) : Option Nat :=
  [64, 64 * 64, 64 * 64 * 64].findSome? fun block =>
    if first / block = last / block then none
    else if first % block ≠ 0 then some (first / block * block + block - 1)
    else if last % block ≠ block - 1 then some (last / block * block - 1)
    else none

/-- Where a range of numbers has to be split: the last number of its first part and the first number
of its second one. The numbers of no character are left out. -/
def cut? (first last : Nat) : Option (Nat × Nat) :=
  if first < 0xE000 && 0xD7FF < last then some (0xD7FF, 0xE000)
  else
    let lengthCut := lengthEnds.find? fun n => first ≤ n && n < last
    let cut := lengthCut <|> if last ≤ 0x7F then none else alignedCut? first last
    cut.map fun n => (n, n + 1)

/-- The bytes of the character of a number. -/
def bytes (n : Nat) : List UInt8 := String.utf8EncodeChar (Char.ofNat n)

/-- The byte sequences of a range of characters, split at most a number of times in a row. -/
def split : Nat → Nat → Nat → List (List ByteRange)
  | 0, _, _ => []
  | n + 1, first, last =>
    match cut? first last with
    | some (a, b) => split n first a ++ split n b last
    | none => [((bytes first).zip (bytes last)).map fun (a, b) => ⟨a, b⟩]

end ByteRange

/-- The byte sequences of the characters from one number to another. A range is split once past the
numbers of no character, three times for the lengths, and six times for the bytes. -/
def byteSequences (first last : Nat) : List (List ByteRange) := ByteRange.split 16 first last

end LitTiles
