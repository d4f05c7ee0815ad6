import SchoolAtlas.Deflate.PrefixCode

/-!
# Packed Data

Unpacking data that refers back to itself.

Packed data is a row of blocks, the last of them marked. A block holds bytes as
they are, or it holds symbols in two prefix codes. A symbol of the first code is
a byte, the end of the block, or the length of a stretch that has been seen
before; how far back the stretch starts is then a symbol of the second code. A
stretch may reach into itself, which repeats what it starts with, and it may
start before the data, where all bytes are zero. The two codes are either fixed
or written down in front of the block, and then the lengths of their words are
packed by a third code.

Everything else that the format leaves undefined is refused: the fourth kind of
block, a symbol without a meaning, a code whose lengths do not fit together, and
data that ends before its last block does.

## Main definitions

* `Deflate.Codes`: The two codes of a block.
* `Deflate.block?`: Unpacks a block.
* `Deflate.unpack?`: Unpacks data.
-/

namespace SchoolAtlas

namespace Deflate

/-- The two codes of a block. -/
structure Codes where
  /-- Bytes, the end of the block, and lengths of stretches. -/
  content : PrefixCode
  /-- How far back stretches start. -/
  distances : PrefixCode
deriving Repr, Inhabited

/-- The codes of a block that does not write down its own. -/
def Codes.fixed : Codes where
  content := .ofLengths
    (List.replicate 144 8 ++ List.replicate 112 9 ++ List.replicate 24 7 ++ List.replicate 8 8)
  distances := .ofLengths (List.replicate 32 5)

/-- The symbol that ends a block. -/
def endSymbol : Nat := 256

/-- The starts of ranges that follow each other, with the width in bits of the
    number that is added to the start. A range of `n` bits is `2 ^ n` long. -/
def ranges (start : Nat) : List Nat → List (Nat × Nat)
  | [] => []
  | width :: widths => (start, width) :: ranges (start + Nat.pow 2 width) widths

/-- The lengths of stretches by symbol. The greatest length has a symbol of its
    own. -/
def lengthRanges : Array (Nat × Nat) :=
  (ranges 3
    [0, 0, 0, 0, 0, 0, 0, 0, 1, 1, 1, 1, 2, 2, 2, 2, 3, 3, 3, 3, 4, 4, 4, 4, 5, 5, 5, 5]
      ++ [(258, 0)]).toArray

/-- The distances of stretches by symbol. -/
def distanceRanges : Array (Nat × Nat) :=
  (ranges 1
    [0, 0, 0, 0, 1, 1, 2, 2, 3, 3, 4, 4, 5, 5, 6, 6, 7, 7, 8, 8, 9, 9, 10, 10, 11, 11, 12, 12,
      13, 13]).toArray

/-- Reads a number in the range of a symbol. -/
def inRange? (table : Array (Nat × Nat)) (symbol : Nat) (bits : Bits) : Option (Nat × Bits) := do
  let (start, width) ← table[symbol]?
  let (offset, bits) ← bits.number? width
  return (start + offset, bits)

/-- The byte some way back from the end of data. Data follows on zeros. -/
def byteBack (distance : Nat) (data : Array UInt8) : UInt8 :=
  if distance ≤ data.size then data.getD (data.size - distance) 0 else 0

/-- Appends a stretch that starts some way back, byte by byte, so that it may
    reach into itself. -/
def repeatBack (distance : Nat) : Nat → Array UInt8 → Array UInt8
  | 0, data => data
  | n + 1, data => repeatBack distance n (data.push (byteBack distance data))

/-- Unpacks the symbols of a block and appends what they stand for. A symbol takes
    at least one bit, which bounds their number. -/
def symbols? (codes : Codes) : Nat → Array UInt8 → Bits → Option (Array UInt8 × Bits)
  | 0, _, _ => none
  | steps + 1, data, bits => do
    let (symbol, bits) ← codes.content.symbol? bits
    if symbol < endSymbol then symbols? codes steps (data.push symbol.toUInt8) bits
    else if symbol = endSymbol then return (data, bits)
    else
      let (length, bits) ← inRange? lengthRanges (symbol - endSymbol - 1) bits
      let (symbol, bits) ← codes.distances.symbol? bits
      let (distance, bits) ← inRange? distanceRanges symbol bits
      symbols? codes steps (repeatBack distance length data) bits

/-- Takes whole bytes off a stream and appends them. -/
def copy? : Nat → Array UInt8 → List UInt8 → Option (Array UInt8 × Bits)
  | 0, data, bytes => some (data, .ofBytes bytes)
  | _ + 1, _, [] => none
  | n + 1, data, byte :: bytes => copy? n (data.push byte) bytes

/-- Unpacks a block of bytes as they are. Their number is written twice, the second
    time with all bits turned round. -/
def plainBlock? (data : Array UInt8) (bits : Bits) : Option (Array UInt8 × Bits) := do
  let (size, bits) ← bits.aligned.number? 16
  let (check, bits) ← bits.number? 16
  if size + check = 0xFFFF then copy? size data bits.bytes else none

/-- The order in which the word lengths of the third code are written. -/
def lengthOrder : List Nat :=
  [16, 17, 18, 0, 8, 7, 9, 6, 10, 5, 11, 4, 12, 3, 13, 2, 14, 1, 15]

/-- The word lengths of the third code, in the order of its symbols. Those that are
    not written are zero. -/
def arrange (written : List Nat) : List Nat :=
  (List.range lengthOrder.length).map fun symbol =>
    ((lengthOrder.zip written).lookup symbol).getD 0

/-- Unpacks so many word lengths. A symbol of the third code is a length, or it
    repeats the length before it or the length zero. The lengths already read come
    last first. -/
def wordLengths? (code : PrefixCode) (wanted : Nat) :
    Nat → List Nat → Bits → Option (List Nat × Bits)
  | 0, _, _ => none
  | steps + 1, read, bits =>
    if read.length = wanted then some (read.reverse, bits)
    else if wanted < read.length then none
    else do
      let (symbol, bits) ← code.symbol? bits
      if symbol < 16 then wordLengths? code wanted steps (symbol :: read) bits
      else
        let (length, start, width) ← match symbol with
          | 16 => read.head?.map fun length => (length, 3, 2)
          | 17 => some (0, 3, 3)
          | _ => some (0, 11, 7)
        let (offset, bits) ← bits.number? width
        wordLengths? code wanted steps (List.replicate (start + offset) length ++ read) bits

/-- Reads the codes that a block writes down. -/
def writtenCodes? (bits : Bits) : Option (Codes × Bits) := do
  let (contents, bits) ← bits.number? 5
  let (distances, bits) ← bits.number? 5
  let (lengths, bits) ← bits.number? 4
  let contents := contents + endSymbol + 1
  let distances := distances + 1
  -- No symbol beyond these has a meaning.
  if endSymbol + 1 + lengthRanges.size < contents ∨ distanceRanges.size < distances then none
  else
    let (written, bits) ← bits.numbers? 3 (lengths + 4)
    let code ← PrefixCode.full? (arrange written)
    let wanted := contents + distances
    let (lengths, bits) ← wordLengths? code wanted (wanted + 1) [] bits
    return (⟨← PrefixCode.sparse? (lengths.take contents),
      ← PrefixCode.sparse? (lengths.drop contents)⟩, bits)

/-- Unpacks a block of a kind and appends what it holds. -/
def block? (kind : Nat) (data : Array UInt8) (bits : Bits) : Option (Array UInt8 × Bits) :=
  match kind with
  | 0 => plainBlock? data bits
  | 1 => symbols? .fixed (bits.left + 1) data bits
  | 2 => do
    let (codes, bits) ← writtenCodes? bits
    symbols? codes (bits.left + 1) data bits
  | _ => none

/-- Unpacks blocks up to the last. A block takes bits too, which bounds their
    number. -/
def blocks? : Nat → Array UInt8 → Bits → Option (Array UInt8 × Bits)
  | 0, _, _ => none
  | steps + 1, data, bits => do
    let (last, bits) ← bits.bit?
    let (kind, bits) ← bits.number? 2
    let (data, bits) ← block? kind data bits
    if last then return (data, bits) else blocks? steps data bits

/-- Unpacks data, and gives the bytes that follow it. -/
def unpack? (bytes : List UInt8) : Option (Array UInt8 × List UInt8) :=
  let bits := Bits.ofBytes bytes
  (blocks? (bits.left + 1) #[] bits).map fun (data, bits) => (data, bits.bytes)

end Deflate

end SchoolAtlas
