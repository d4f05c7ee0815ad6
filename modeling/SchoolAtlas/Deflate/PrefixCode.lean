import SchoolAtlas.Deflate.Bits

/-!
# Prefix Codes

Codes that give frequent symbols short words.

Such a code is written down as the length of each symbol's word and nothing else,
because the words follow from the lengths. Among words of one length the symbols
come in their order, and the words of the next length continue where the shorter
ones end. So the words of one length are a run of numbers, and a word is
recognised by its distance from the start of the run: if it lies beyond the end
of the run, it is the beginning of a longer word.

The lengths have to make sense together. Every word of `n` bits uses up one part
in `2 ^ n` of all bit sequences, and the parts have to add up to the whole. A
code of a single symbol may leave one half unused, and a code of none leaves all.

## Main definitions

* `PrefixCode`: A code.
* `PrefixCode.ofLengths`: The code that word lengths describe.
* `PrefixCode.IsFull`: The words use up all bit sequences.
* `PrefixCode.IsSparse`: There is at most one word, and it is as short as can be.
* `PrefixCode.symbol?`: Reads a symbol.
-/

namespace SchoolAtlas

/-- A code: how many words there are of each length from one bit upwards, and the
    symbols in the order of their words. -/
structure PrefixCode where
  counts : List Nat
  symbols : Array Nat
deriving DecidableEq, Repr, Inhabited

namespace PrefixCode

/-- The greatest length of a word. -/
def longest : Nat := 15

/-- The lengths that a word may have. -/
def wordLengths : List Nat := (List.range longest).map (· + 1)

/-- The symbols whose words have a length. A symbol is its place in the list of
    lengths. -/
def symbolsOf (lengths : List Nat) (length : Nat) : List Nat :=
  (lengths.zipIdx.filter (fun p => p.1 = length)).map Prod.snd

/-- The code that word lengths describe. A symbol of length zero has no word. -/
def ofLengths (lengths : List Nat) : PrefixCode where
  counts := wordLengths.map fun length => (symbolsOf lengths length).length
  symbols := (wordLengths.flatMap (symbolsOf lengths)).toArray

/-- The bit sequences that are used up by words, as a number of sequences of the
    greatest length. -/
def used (c : PrefixCode) : Nat :=
  (c.counts.zip wordLengths).foldr (fun p rest => p.1 * Nat.pow 2 (longest - p.2) + rest) 0

/-- The words use up all bit sequences and none of them twice. -/
def IsFull (c : PrefixCode) : Prop := c.used = Nat.pow 2 longest

instance (c : PrefixCode) : Decidable c.IsFull := inferInstanceAs (Decidable (_ = _))

/-- A code that must be full, of the given word lengths. -/
def full? (lengths : List Nat) : Option PrefixCode :=
  let code := ofLengths lengths
  if code.IsFull then some code else none

/-- There is at most one word, and it is one bit long. -/
def IsSparse (c : PrefixCode) : Prop :=
  c.symbols.size = 0 ∨ c.symbols.size = 1 ∧ c.counts.head? = some 1

instance (c : PrefixCode) : Decidable c.IsSparse := inferInstanceAs (Decidable (_ ∨ _))

/-- A code of the given word lengths that must be full unless it is sparse. -/
def sparse? (lengths : List Nat) : Option PrefixCode :=
  let code := ofLengths lengths
  if code.IsFull ∨ code.IsSparse then some code else none

/-- Finds the word that the next bits begin with: `ahead` is the distance of the
    bits read so far from the end of the run of words as long, and `index` counts
    the words that are shorter. The word's place among all words is returned. -/
def place? (ahead index : Nat) : List Nat → Bits → Option (Nat × Bits)
  | [], _ => none
  | count :: longer, bits => do
    let (bit, bits) ← bits.bit?
    let distance := 2 * ahead + bit.toNat
    if distance < count then return (index + distance, bits)
    else place? (distance - count) (index + count) longer bits

/-- Reads a symbol. -/
def symbol? (c : PrefixCode) (bits : Bits) : Option (Nat × Bits) := do
  let (place, bits) ← place? 0 0 c.counts bits
  return (← c.symbols[place]?, bits)

end PrefixCode

end SchoolAtlas
