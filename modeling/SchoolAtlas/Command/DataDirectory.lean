import SchoolAtlas.Census.Text
import SchoolAtlas.Command.Files
import SchoolAtlas.Gzip
import SchoolAtlas.Map.Session
import SchoolAtlas.Register.Load

/-!
# Data Directories

A directory that holds the tables and the census.

Each table is a file of its own, and any but the directory of schools may be
missing; it is then empty. A table may be packed. Where both forms are there, the
plain one is read. Without a census nobody lives anywhere, which only matters to
maps per capita.

## Main definitions

* `DataError`: Why a directory cannot be used.
* `Files.table`: Reads the text of a table.
* `Files.register`: Reads the tables.
* `Files.census`: Reads the census.
-/

namespace SchoolAtlas

/-- Why a directory cannot be used. -/
inductive DataError where
  /-- A file is there and cannot be read as text. -/
  | unreadable (path : String)
  /-- A packed file is there and cannot be unpacked to text. -/
  | notUnpacked (path : String)
  | noSchools (directory : String)
  /-- A row of the directory of schools is broken. -/
  | brokenSchools
  | brokenCensus
deriving DecidableEq, Repr

/-- The message of an error, if it has one. -/
def DataError.message? : DataError → Option String
  | unreadable path => some ("Failed to read " ++ path)
  | notUnpacked path => some ("Failed to decompress " ++ path)
  | noSchools directory => some ("No school_info.csv in " ++ directory)
  | brokenSchools => none
  | brokenCensus => some Census.unreadable

namespace DataDirectory

/-- The path of a table. -/
def tablePath (directory : String) (t : Table) : String :=
  Path.child directory (t.name ++ ".csv")

/-- The path of a packed table. -/
def packedPath (directory : String) (t : Table) : String := tablePath directory t ++ ".gz"

/-- The path of the census. -/
def censusPath (directory : String) : String := Path.child directory "demographics.json"

/-- All paths that a directory is read from. -/
def paths (directory : String) : List String :=
  censusPath directory ::
    Table.all.flatMap fun t => [tablePath directory t, packedPath directory t]

end DataDirectory

namespace Files

open DataDirectory

/-- Unpacks a file that is a text. -/
def unpack? (e : Entry) : Option String := do
  let data ← Gzip.unpack? (← e.contents?).toList
  String.fromUTF8? ⟨data⟩

/-- Reads the text of a table, if the table is there. -/
def table (files : Files) (directory : String) (t : Table) : Except DataError (Option String) :=
  let plain := tablePath directory t
  let packed := packedPath directory t
  if (files plain).isPresent then
    match (files plain).text? with
    | some text => .ok (some text)
    | none => .error (.unreadable plain)
  else if (files packed).isPresent then
    match unpack? (files packed) with
    | some text => .ok (some text)
    | none => .error (.notUnpacked packed)
  else .ok none

/-- Reads a table into a register. Only the directory of schools has to be
    there. -/
def load (files : Files) (directory : String) (r : Register) (t : Table) :
    Except DataError Register := do
  match ← files.table directory t with
  | some text =>
    match r.load? t text with
    | some r => return r
    | none => throw .brokenSchools
  | none => if t = .schools then throw (.noSchools directory) else return r

/-- Reads the tables of a directory, the schools first. -/
def register (files : Files) (directory : String) : Except DataError Register :=
  Table.all.foldlM (files.load directory) .empty

/-- Reads the census of a directory. -/
def census (files : Files) (directory : String) : Except DataError Census :=
  let path := censusPath directory
  if (files path).isPresent then
    match (files path).text? with
    | some text =>
      match Census.ofText? text with
      | some census => .ok census
      | none => .error .brokenCensus
    | none => .error (.unreadable path)
  else .ok .empty

end Files

end SchoolAtlas
