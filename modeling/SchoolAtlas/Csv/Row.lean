import SchoolAtlas.Csv
import SchoolAtlas.Decimal.Numeral

/-!
# Rows of a Table

Records whose fields are looked up by the names in a header.

A table may have columns that nobody asks for, in any order, and each record may
be shorter or longer than the header. A row can be read if every column that is
not asked for has a field all the same, and if no column that is asked for
occurs twice. A field that is not there at all counts as empty where it may be
empty; where it may not, the row cannot be read. An empty field that has to be
there is a text like any other.

## Main definitions

* `Csv.Cell`: What a row says in one column.
* `Csv.cells?`: What a record says in the columns of given names.
* `Csv.Cell.text?`, `Csv.Cell.optional?`: The two ways of reading a cell.
* `Csv.integer?`: Reads a whole number of 64 bits.
-/

namespace SchoolAtlas

namespace Csv

/-- What a row says in one column. -/
inductive Cell where
  | present (text : String)
  /-- The record ends before the column. -/
  | beyondEnd
  /-- The table has no such column. -/
  | noColumn
deriving DecidableEq, Repr

namespace Cell

/-- Reads a cell that has to be there. -/
def text? : Cell → Option String
  | present text => some text
  | beyondEnd | noColumn => none

/-- Reads a cell that may be empty. -/
def optional? (read : String → Option α) : Cell → Option (Option α)
  | present text => if text.isEmpty then some none else (read text).map some
  | beyondEnd | noColumn => some none

end Cell

/-- The columns of a header with what a record says in them. Columns go on when
    the record has ended. -/
def columns : List String → List String → List (String × Cell)
  | [], _ => []
  | name :: names, [] => (name, .beyondEnd) :: columns names []
  | name :: names, text :: texts => (name, .present text) :: columns names texts

/-- What a record says in the column of one name, unless there are two. -/
def cell? (columns : List (String × Cell)) (name : String) : Option Cell :=
  match columns.filter (fun c => c.1 = name) with
  | [] => some .noColumn
  | [c] => some c.2
  | _ => none

/-- What a record says in the columns of given names, in the order of the
    names. Other columns need a field, whatever it says. -/
def cells? (names header record : List String) : Option (List Cell) :=
  let columns := columns header record
  if columns.all (fun c => names.contains c.1 || c.2 != .beyondEnd) then
    names.mapM (cell? columns)
  else none

/-- The value of a digit in a base of at most 16. -/
def digit? (base : Nat) (c : Char) : Option Nat :=
  let n :=
    if '0' ≤ c && c ≤ '9' then c.toNat - '0'.toNat
    else if 'a' ≤ c && c ≤ 'f' then c.toNat - 'a'.toNat + 10
    else if 'A' ≤ c && c ≤ 'F' then c.toNat - 'A'.toNat + 10
    else base
  if n < base then some n else none

/-- Reads an optional sign and digits of a base, at least one of them. -/
def signed? (base : Nat) (text : List Char) : Option Int :=
  let (negative, digits) := Numeral.takeSign text
  if digits.isEmpty then none
  else
    (digits.foldlM (fun n c => (digit? base c).map (base * n + ·)) 0).map fun n =>
      if negative then -(n : Int) else n

/-- Reads a whole number that fits a word of 64 bits: decimal, or hexadecimal
    after `0x`, with a sign before the digits. -/
def integer? (text : String) : Option Int :=
  let value := match text.toList with
    | '0' :: 'x' :: digits => signed? 16 digits
    | chars => signed? 10 chars
  value.filter fun n => Int64.minValue.toInt ≤ n && n ≤ Int64.maxValue.toInt

/-- Reads a numeral as a floating-point number. -/
def real? (text : String) : Option Float := (Numeral.ofText? text).map Numeral.toFloat

end Csv

end SchoolAtlas
