/-!
# Blanks

White space, as far as the world's scripts have any, and texts without it at
their ends.

Tables come from many hands, and their fields are padded with whatever a
keyboard or a word processor offers. A field is therefore trimmed of every
character with the Unicode property `White_Space`, among them the no-break space
and the ideographic space, and not only of the blanks of ASCII.

## Main definitions

* `Text.isBlank`: Whether a character is white space.
* `Text.trim`: A text without white space at its ends.
-/

namespace SchoolAtlas

namespace Text

/-- Whether a character has the property `White_Space`. -/
def isBlank (c : Char) : Bool :=
  let n := c.toNat
  (9 ≤ n && n ≤ 13) || n = 0x20 || n = 0x85 || n = 0xA0 || n = 0x1680
    || (0x2000 ≤ n && n ≤ 0x200A) || n = 0x2028 || n = 0x2029 || n = 0x202F || n = 0x205F
    || n = 0x3000

/-- Characters without white space at their ends. -/
def trimChars (cs : List Char) : List Char :=
  ((cs.dropWhile isBlank).reverse.dropWhile isBlank).reverse

/-- A text without white space at its ends. -/
def trim (s : String) : String := String.ofList (trimChars s.toList)

end Text

end SchoolAtlas
