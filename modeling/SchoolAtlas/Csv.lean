import SchoolAtlas.Text.Blank

/-!
# Comma-Separated Values

Reading tables that are written line by line.

Fields are separated by commas and records by line ends of any kind. A field
that opens with a quote may hold commas and line ends, and a quote within it is
written twice; after the closing quote the field goes on as if it were
unquoted. Lines without any character are no records. Nothing is ever wrong
with such a text: an open quote runs to the end, and a record may have any
number of fields.

The reader is a machine that takes one character at a time, so reading two texts
one after the other is the same as reading them as one. This is what makes a
table that comes in parts the same as the whole.

Every field is trimmed, quoted or not, and a mark at the start of the text that
tells its encoding is left out.

## Main definitions

* `Csv.Reader`: What the machine has read.
* `Csv.Reader.step`: Takes one more character.
* `Csv.records`: The records of a text.
* `Csv.Table`: A header and the records below it.

## Theorems

* `Csv.Reader.run_append`: A text in two parts is read part by part.
-/

namespace SchoolAtlas

namespace Csv

/-- Where in a record the machine stands. -/
inductive Place where
  /-- Before a record. -/
  | recordStart
  /-- Before a field that has to follow a comma. -/
  | fieldStart
  /-- In a field that is not quoted. -/
  | plain
  /-- Between the quotes of a field. -/
  | quoted
  /-- After a quote in a quoted field, which may close it. -/
  | quoteSeen
deriving DecidableEq, Repr

/-- What the machine has read. Everything unfinished comes last first. -/
structure Reader where
  place : Place
  field : List Char
  record : List String
  records : List (List String)
deriving DecidableEq, Repr

namespace Reader

/-- Nothing has been read. -/
def start : Reader := ⟨.recordStart, [], [], []⟩

/-- Whether a character ends a line. -/
def isLineEnd (c : Char) : Bool := c = '\n' || c = '\r'

/-- Adds a character to the field. -/
def push (r : Reader) (c : Char) (place : Place) : Reader :=
  { r with place, field := c :: r.field }

/-- The record with the field at its end. -/
def closedRecord (r : Reader) : List String :=
  String.ofList r.field.reverse :: r.record

/-- Closes the field and waits for the next one. -/
def closeField (r : Reader) : Reader :=
  { r with place := .fieldStart, field := [], record := r.closedRecord }

/-- Closes the field and with it the record. -/
def closeRecord (r : Reader) : Reader :=
  ⟨.recordStart, [], [], r.closedRecord.reverse :: r.records⟩

/-- Takes a character outside of quotes. -/
def stepPlain (r : Reader) (c : Char) : Reader :=
  if c = ',' then r.closeField
  else if isLineEnd c then r.closeRecord
  else r.push c .plain

/-- Takes the first character of a field. -/
def stepFirst (r : Reader) (c : Char) : Reader :=
  if c = '"' then { r with place := .quoted } else r.stepPlain c

/-- Takes one more character. -/
def step (r : Reader) (c : Char) : Reader :=
  match r.place with
  | .recordStart => if isLineEnd c then r else r.stepFirst c
  | .fieldStart => r.stepFirst c
  | .plain => r.stepPlain c
  | .quoted => if c = '"' then { r with place := .quoteSeen } else r.push c .quoted
  | .quoteSeen => if c = '"' then r.push c .quoted else r.stepPlain c

/-- Takes the characters of a text. -/
def run (r : Reader) (text : List Char) : Reader := text.foldl step r

/-- A text in two parts is read part by part. -/
@[simp]
theorem run_append (r : Reader) (s t : List Char) : r.run (s ++ t) = (r.run s).run t :=
  List.foldl_append

/-- The records read so far, in their order. A record that is still open ends
    with the text. -/
def finish (r : Reader) : List (List String) :=
  match r.place with
  | .recordStart => r.records.reverse
  | _ => r.closeRecord.records.reverse

end Reader

/-- A text without the mark that tells its encoding. -/
def withoutMark : List Char → List Char
  | c :: rest => if c.toNat = 0xFEFF then rest else c :: rest
  | [] => []

/-- The records of a text, with every field trimmed. -/
def records (text : String) : List (List String) :=
  (Reader.start.run (withoutMark text.toList)).finish.map (·.map Text.trim)

/-- A header and the records below it. -/
structure Table where
  header : List String
  records : List (List String)
deriving DecidableEq, Repr

/-- The table of a text. Its first record is the header. -/
def table (text : String) : Table :=
  match records text with
  | [] => ⟨[], []⟩
  | header :: rest => ⟨header, rest⟩

end Csv

end SchoolAtlas
