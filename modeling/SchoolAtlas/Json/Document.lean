import SchoolAtlas.Json.Number
import SchoolAtlas.Json.Value

/-!
# JSON Documents

What a JSON text says, before anyone asks what it means.

A reader of a preset or a census looks for the members it knows and skips the
rest, and it is strict only about what it looks at. A document therefore keeps
what such a reader may have to object to: the members of an object in their
order with every repetition, numbers as they are written, and the fact that a
string cannot be read. A string is unreadable if it escapes one half of a
surrogate pair without the other. Skipped, such a string does no harm; kept, it
is an error.

The grammar is that of JSON. The reader works on the characters of the text and
carries a bound on its steps, which twice the length of the text always meets:
a step either takes a character or enters the array or object just opened.

## Main definitions

* `Json.Document`: What a JSON text says.
* `Json.Document.ofText?`: Reads a text, all of it.
* `Json.Document.keep?`: The value that a document stands for, if all of it is
  to be kept.
-/

namespace SchoolAtlas

namespace Json

/-- What a JSON text says. -/
inductive Document where
  | null
  | bool (b : Bool)
  | number (n : Number)
  /-- A string, or nothing if it cannot be read. -/
  | string (s : Option String)
  | array (items : List Document)
  | object (members : List (Option String × Document))
deriving Inhabited, Repr

namespace Document

/-- The blanks that may stand between the parts of a text. -/
def isBlank (c : Char) : Bool := c = ' ' || c = '\n' || c = '\t' || c = '\r'

/-- Leaves out leading blanks. -/
def skipBlanks (text : List Char) : List Char := text.dropWhile isBlank

/-- A part of a string: a character, or a UTF-16 unit that is escaped. -/
inductive Part where
  | char (c : Char)
  | unit (n : Nat)
deriving DecidableEq, Repr

/-- The value of a hexadecimal digit. -/
def hexValue? (c : Char) : Option Nat :=
  if '0' ≤ c && c ≤ '9' then some (c.toNat - '0'.toNat)
  else if 'a' ≤ c && c ≤ 'f' then some (c.toNat - 'a'.toNat + 10)
  else if 'A' ≤ c && c ≤ 'F' then some (c.toNat - 'A'.toNat + 10)
  else none

/-- The number written by hexadecimal digits. -/
def hexNumber? (digits : List Char) : Option Nat :=
  digits.foldlM (fun n c => (hexValue? c).map (16 * n + ·)) 0

/-- The character that a short escape stands for. -/
def shortEscape? (c : Char) : Option Char :=
  if c = '"' || c = '\\' || c = '/' then some c
  else if c = 'b' then some (Char.ofNat 8)
  else if c = 'f' then some (Char.ofNat 12)
  else if c = 'n' then some '\n'
  else if c = 'r' then some '\r'
  else if c = 't' then some '\t'
  else none

/-- Takes the parts of a string off a text, up to its closing quote. The parts
    already taken come last first. -/
def takeParts? (taken : List Part) : List Char → Option (List Part × List Char)
  | [] => none
  | '"' :: rest => some (taken.reverse, rest)
  | '\\' :: 'u' :: a :: b :: c :: d :: rest =>
    match hexNumber? [a, b, c, d] with
    | some n => takeParts? (.unit n :: taken) rest
    | none => none
  | '\\' :: c :: rest =>
    match shortEscape? c with
    | some e => takeParts? (.char e :: taken) rest
    | none => none
  | c :: rest => if c.toNat < 32 then none else takeParts? (.char c :: taken) rest

/-- Whether a unit is the first half of a surrogate pair. -/
def isHighHalf (n : Nat) : Bool := 0xD800 ≤ n && n < 0xDC00

/-- Whether a unit is the second half of a surrogate pair. -/
def isLowHalf (n : Nat) : Bool := 0xDC00 ≤ n && n < 0xE000

/-- The characters of a string, unless a surrogate stands alone in it. The
    characters already joined come last first. -/
def joinParts? (joined : List Char) : List Part → Option (List Char)
  | [] => some joined.reverse
  | .char c :: rest => joinParts? (c :: joined) rest
  | .unit high :: .unit low :: rest =>
    if isHighHalf high then
      if isLowHalf low then
        let c := Char.ofNat (0x10000 + (high - 0xD800) * 0x400 + (low - 0xDC00))
        joinParts? (c :: joined) rest
      else none
    else if isLowHalf high then none
    else joinParts? (Char.ofNat high :: joined) (.unit low :: rest)
  | .unit n :: rest =>
    if isHighHalf n || isLowHalf n then none else joinParts? (Char.ofNat n :: joined) rest

/-- Takes a string off a text that follows its opening quote. -/
def takeString? (text : List Char) : Option (Option String × List Char) :=
  (takeParts? [] text).map fun (parts, rest) => ((joinParts? [] parts).map String.ofList, rest)

mutual

/-- Takes a value off a text. -/
def takeValue? : Nat → List Char → Option (Document × List Char)
  | 0, _ => none
  | steps + 1, text =>
    match skipBlanks text with
    | 'n' :: 'u' :: 'l' :: 'l' :: rest => some (.null, rest)
    | 't' :: 'r' :: 'u' :: 'e' :: rest => some (.bool true, rest)
    | 'f' :: 'a' :: 'l' :: 's' :: 'e' :: rest => some (.bool false, rest)
    | '"' :: rest => (takeString? rest).map fun (s, rest) => (.string s, rest)
    | '[' :: rest =>
      match skipBlanks rest with
      | ']' :: rest => some (.array [], rest)
      | rest => takeItems? steps [] rest
    | '\x7b' :: rest =>
      match skipBlanks rest with
      | '\x7d' :: rest => some (.object [], rest)
      | rest => takeMembers? steps [] rest
    | rest => (Number.take? rest).map fun (n, rest) => (.number n, rest)

/-- Takes the items of an array and its closing bracket off a text. The items
    already taken come last first. -/
def takeItems? : Nat → List Document → List Char → Option (Document × List Char)
  | 0, _, _ => none
  | steps + 1, taken, text =>
    match takeValue? steps text with
    | none => none
    | some (item, rest) =>
      match skipBlanks rest with
      | ',' :: rest => takeItems? steps (item :: taken) rest
      | ']' :: rest => some (.array (item :: taken).reverse, rest)
      | _ => none

/-- Takes the members of an object and its closing brace off a text. The members
    already taken come last first. -/
def takeMembers? :
    Nat → List (Option String × Document) → List Char → Option (Document × List Char)
  | 0, _, _ => none
  | steps + 1, taken, text =>
    match skipBlanks text with
    | '"' :: rest =>
      match takeString? rest with
      | none => none
      | some (name, rest) =>
        match skipBlanks rest with
        | ':' :: rest =>
          match takeValue? steps rest with
          | none => none
          | some (value, rest) =>
            match skipBlanks rest with
            | ',' :: rest => takeMembers? steps ((name, value) :: taken) rest
            | '\x7d' :: rest => some (.object ((name, value) :: taken).reverse, rest)
            | _ => none
        | _ => none
    | _ => none

end

/-- Reads a text, all of it. -/
def ofText? (text : String) : Option Document :=
  let chars := text.toList
  match takeValue? (2 * chars.length + 2) chars with
  | some (document, rest) => if (skipBlanks rest).isEmpty then some document else none
  | none => none

mutual

/-- The value that a document stands for if all of it is to be kept: every string
    has to be readable and every number in range, and arrays and objects may lie
    only so many levels deep. Of several members of one name the last stays. -/
def keep? (depth : Nat) : Document → Option Json
  | null => some .null
  | bool b => some (.bool b)
  | number n =>
    match n.natural?, n.negative? with
    | some value, _ => some (.whole value)
    | none, some value => some (.whole value)
    | none, none => n.real?.map .real
  | string s => s.map .string
  | array items =>
    match depth with
    | 0 => none
    | depth + 1 => (keepItems? depth items).map .array
  | object members =>
    match depth with
    | 0 => none
    | depth + 1 =>
      (keepMembers? depth members).map fun kept => .object (NameMap.ofList kept).entries

/-- The values of the items of an array. -/
def keepItems? (depth : Nat) : List Document → Option (List Json)
  | [] => some []
  | item :: rest =>
    match keep? depth item, keepItems? depth rest with
    | some value, some values => some (value :: values)
    | _, _ => none

/-- The names and values of the members of an object. -/
def keepMembers? (depth : Nat) : List (Option String × Document) → Option (List (String × Json))
  | [] => some []
  | (name, item) :: rest =>
    match name, keep? depth item, keepMembers? depth rest with
    | some name, some value, some values => some ((name, value) :: values)
    | _, _, _ => none

end

end Document

end Json

end SchoolAtlas
