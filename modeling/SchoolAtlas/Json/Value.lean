import SchoolAtlas.Decimal.Shortest
import SchoolAtlas.NameMap

/-!
# JSON Values

The values that the atlas writes as JSON, and their written forms.

Whole numbers and floating-point numbers are kept apart. A count is written
without a point however large it is, and a measured value always shows a point
or an exponent. A number that is not finite has no JSON form, so it is written
as `null`.

The members of an object are written in the order in which they stand. An object
made from a map has them in the order of their names; `sorted` brings every
object of a value into that order.

## Main definitions

* `Json`: A JSON value.
* `Json.quote`: The written form of a string.
* `Json.compact`: The written form of a value without any space.
* `Json.pretty`: The written form with two spaces for each level.
* `Json.sorted`: The value with the members of all objects in order.
-/

namespace SchoolAtlas

/-- A JSON value. -/
inductive Json where
  | null
  | bool (b : Bool)
  | whole (n : Int)
  | real (x : Float)
  | string (s : String)
  | array (items : List Json)
  | object (members : List (String × Json))
deriving Inhabited, Repr

namespace Json

/-- A text or nothing. -/
def ofText? : Option String → Json
  | some s => string s
  | none => null

/-- A list of texts. -/
def texts (items : List String) : Json := array (items.map string)

/-- An object with one member for each entry of a map. -/
def ofMap (f : α → Json) (m : NameMap α) : Json :=
  object (m.entries.map (fun p => (p.1, f p.2)))

/-- Two hexadecimal digits of a number below 256. -/
def hexByte (n : Nat) : List Char :=
  [Nat.digitChar (n / 16 % 16), Nat.digitChar (n % 16)]

/-- The written form of one character of a string. Quotes, backslashes and
    control characters are escaped; all others stand for themselves. -/
def escape (c : Char) : List Char :=
  if c = '"' then ['\\', '"']
  else if c = '\\' then ['\\', '\\']
  else if c = '\n' then ['\\', 'n']
  else if c = '\r' then ['\\', 'r']
  else if c = '\t' then ['\\', 't']
  else if c.toNat = 8 then ['\\', 'b']
  else if c.toNat = 12 then ['\\', 'f']
  else if c.toNat < 32 then ['\\', 'u', '0', '0'] ++ hexByte c.toNat
  else [c]

/-- The written form of a string. -/
def quote (s : String) : String :=
  String.ofList ('"' :: s.toList.flatMap escape ++ ['"'])

/-- The written form of a floating-point number. -/
def realText (x : Float) : String := if x.isFinite then Decimal.text x else "null"

mutual

/-- The written form of a value without any space. -/
def compact : Json → String
  | null => "null"
  | bool true => "true"
  | bool false => "false"
  | whole n => toString n
  | real x => realText x
  | string s => quote s
  | array items => "[" ++ ",".intercalate (compactItems items) ++ "]"
  | object members => "\x7b" ++ ",".intercalate (compactMembers members) ++ "\x7d"

/-- The written forms of the items of an array. -/
def compactItems : List Json → List String
  | [] => []
  | v :: rest => compact v :: compactItems rest

/-- The written forms of the members of an object. -/
def compactMembers : List (String × Json) → List String
  | [] => []
  | (k, v) :: rest => (quote k ++ ":" ++ compact v) :: compactMembers rest

end

/-- The start of a line that lies a number of levels deep. -/
def lineStart (depth : Nat) : String :=
  String.ofList ('\n' :: List.replicate (2 * depth) ' ')

/-- Writes items on lines of their own between two brackets. Without items the
    brackets stand together. -/
def block (opening closing : String) (depth : Nat) (items : List String) : String :=
  if items.isEmpty then opening ++ closing
  else
    opening ++ lineStart (depth + 1)
      ++ ("," ++ lineStart (depth + 1)).intercalate items
      ++ lineStart depth ++ closing

mutual

/-- The written form of a value that starts a number of levels deep. -/
def prettyAt (depth : Nat) : Json → String
  | null => "null"
  | bool true => "true"
  | bool false => "false"
  | whole n => toString n
  | real x => realText x
  | string s => quote s
  | array items => block "[" "]" depth (prettyItems (depth + 1) items)
  | object members => block "\x7b" "\x7d" depth (prettyMembers (depth + 1) members)

/-- The written forms of the items of an array. -/
def prettyItems (depth : Nat) : List Json → List String
  | [] => []
  | v :: rest => prettyAt depth v :: prettyItems depth rest

/-- The written forms of the members of an object. -/
def prettyMembers (depth : Nat) : List (String × Json) → List String
  | [] => []
  | (k, v) :: rest => (quote k ++ ": " ++ prettyAt depth v) :: prettyMembers depth rest

end

/-- The written form of a value with two spaces for each level. -/
def pretty (v : Json) : String := prettyAt 0 v

mutual

/-- The value with the members of all objects in the order of their names. Of
    several members of one name the last stays. -/
def sorted : Json → Json
  | array items => array (sortedItems items)
  | object members => object (NameMap.ofList (sortedMembers members)).entries
  | v => v

/-- The items of an array, sorted within. -/
def sortedItems : List Json → List Json
  | [] => []
  | v :: rest => sorted v :: sortedItems rest

/-- The members of an object, sorted within. -/
def sortedMembers : List (String × Json) → List (String × Json)
  | [] => []
  | (k, v) :: rest => (k, sorted v) :: sortedMembers rest

end

end Json

end SchoolAtlas
