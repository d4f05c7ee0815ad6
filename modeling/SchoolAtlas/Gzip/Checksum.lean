/-!
# Checksums

The remainder that guards data against damage.

Bits are read as the coefficients of a polynomial over two elements, and the
checksum of data is the remainder of its polynomial by a fixed one of degree 32.
The lowest bit of a byte counts as the highest coefficient, so a step of the
division moves the remainder to the right. The remainder starts with all bits
set and is given with all bits turned round: in this way zeros in front of the
data and behind it count as well.

## Main definitions

* `checksum`: The checksum of data.
-/

namespace SchoolAtlas

namespace Checksum

/-- The fixed polynomial without its highest coefficient, lowest bit first. -/
def divisor : UInt32 := 0xEDB88320

/-- One step of the division. -/
def step (r : UInt32) : UInt32 := if r &&& 1 = 1 then (r >>> 1) ^^^ divisor else r >>> 1

/-- The remainder after one more byte. -/
def addByte (r : UInt32) (byte : UInt8) : UInt32 := Nat.repeat step 8 (r ^^^ byte.toUInt32)

end Checksum

/-- The checksum of data. -/
def checksum (data : Array UInt8) : UInt32 :=
  (data.foldl Checksum.addByte 0xFFFFFFFF) ^^^ 0xFFFFFFFF

end SchoolAtlas
