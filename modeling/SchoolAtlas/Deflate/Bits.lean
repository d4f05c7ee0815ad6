/-!
# Bits

A stream of bits that comes in bytes.

Packed data is a stream of bits, the lowest bit of each byte first, and yet some
of its parts are bytes again. The stream therefore knows where the bytes end: it
holds what is left of the byte it has entered apart from the bytes it has not
reached. Going on to the next whole byte is forgetting the first part.

Reading can only fail at the end of the stream. No reader of packed data takes more
steps than there are bits left.

## Main definitions

* `Bits`: A stream of bits.
* `Bits.bit?`, `Bits.number?`: Reads a bit, or a number of some width.
* `Bits.aligned`: Leaves out the rest of a byte.
* `Bits.left`: The number of bits left.
-/

namespace SchoolAtlas

/-- A stream of bits. -/
structure Bits where
  /-- What is left of the byte last entered, lowest bit first. -/
  pending : List Bool
  bytes : List UInt8
deriving DecidableEq, Repr, Inhabited

namespace Bits

/-- The stream of whole bytes. -/
def ofBytes (bytes : List UInt8) : Bits := ⟨[], bytes⟩

/-- The bits of a byte, lowest first. -/
def ofByte (byte : UInt8) : List Bool := (List.range 8).map byte.toNat.testBit

/-- The number of bits left. -/
def left (b : Bits) : Nat := b.pending.length + 8 * b.bytes.length

/-- Reads a bit. -/
def bit? : Bits → Option (Bool × Bits)
  | ⟨bit :: pending, bytes⟩ => some (bit, ⟨pending, bytes⟩)
  | ⟨[], byte :: bytes⟩ => some (byte.toNat.testBit 0, ⟨(ofByte byte).tail, bytes⟩)
  | ⟨[], []⟩ => none

/-- Reads a number of some width, lowest bit first. -/
def number? : Nat → Bits → Option (Nat × Bits)
  | 0, b => some (0, b)
  | width + 1, b => do
    let (bit, b) ← b.bit?
    let (higher, b) ← number? width b
    return (2 * higher + bit.toNat, b)

/-- Reads several numbers of one width. -/
def numbers? (width : Nat) : Nat → Bits → Option (List Nat × Bits)
  | 0, b => some ([], b)
  | n + 1, b => do
    let (first, b) ← number? width b
    let (others, b) ← numbers? width n b
    return (first :: others, b)

/-- Leaves out the rest of a byte. -/
def aligned (b : Bits) : Bits := ⟨[], b.bytes⟩

end Bits

end SchoolAtlas
