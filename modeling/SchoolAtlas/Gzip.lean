import SchoolAtlas.Deflate
import SchoolAtlas.Gzip.Checksum

/-!
# Packed Files

A packed file is packed data between a head and a tail.

The head says how the data is packed and may carry the file's name, a comment and
fields for other programs, none of which matter here. The tail guards the data
by its checksum and its size. The head may guard itself by half a checksum.

A file may be followed by others or by anything else. Only the first is unpacked.

## Main definitions

* `Gzip.body?`: Takes the head off a file.
* `Gzip.unpack?`: Unpacks a file.
-/

namespace SchoolAtlas

namespace Gzip

/-- The number written by bytes, lowest first. -/
def number (bytes : List UInt8) : Nat := bytes.foldr (fun byte n => 256 * n + byte.toNat) 0

/-- Takes so many bytes off a file. -/
def take? (n : Nat) (bytes : List UInt8) : Option (List UInt8 × List UInt8) :=
  if n ≤ bytes.length then some (bytes.splitAt n) else none

/-- The greatest size of a text in the head. -/
def longestText : Nat := 65535

/-- Leaves out a text, which ends with a zero. -/
def afterText? (bytes : List UInt8) : Option (List UInt8) :=
  match bytes.dropWhile (· ≠ 0) with
  | _ :: rest => if (bytes.takeWhile (· ≠ 0)).length ≤ longestText then some rest else none
  | [] => none

/-- Leaves out fields for other programs, whose size comes first. -/
def afterFields? (bytes : List UInt8) : Option (List UInt8) := do
  let (size, bytes) ← take? 2 bytes
  return (← take? (number size) bytes).2

/-- Leaves out a part of the head if the flag of the part is set. -/
def optionalPart? (flags : UInt8) (flag : Nat) (after? : List UInt8 → Option (List UInt8))
    (bytes : List UInt8) : Option (List UInt8) :=
  if flags.toNat.testBit flag then after? bytes else some bytes

/-- Leaves out the guard of a head, which is half the checksum of what precedes it
    in the file. -/
def afterGuard? (file bytes : List UInt8) : Option (List UInt8) := do
  let (guard, rest) ← take? 2 bytes
  let head := file.take (file.length - bytes.length)
  if number guard = (checksum head.toArray).toUInt16.toNat then return rest else none

/-- Takes the head off a file. -/
def body? (file : List UInt8) : Option (List UInt8) := do
  match ← take? 10 file with
  | (0x1f :: 0x8b :: 8 :: flags :: _, rest) =>
    -- A flag without a meaning might change what follows.
    if 32 ≤ flags.toNat then none
    else
      optionalPart? flags 2 afterFields? rest >>= optionalPart? flags 3 afterText?
        >>= optionalPart? flags 4 afterText? >>= optionalPart? flags 1 (afterGuard? file)
  | _ => none

/-- Unpacks a file. -/
def unpack? (file : List UInt8) : Option (Array UInt8) := do
  let (data, rest) ← Deflate.unpack? (← body? file)
  let (expected, rest) ← take? 4 rest
  let (size, _) ← take? 4 rest
  if number expected = (checksum data).toNat ∧ number size = data.size % UInt32.size then
    return data
  else none

end Gzip

end SchoolAtlas
