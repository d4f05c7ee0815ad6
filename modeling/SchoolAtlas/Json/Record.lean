import SchoolAtlas.Json.Document

/-!
# Records in JSON

How the members of a document become the fields of a record.

A record is written as an object or, more briefly, as an array of its fields in
their fixed order. An object may mention members that the record does not know,
but none that it knows twice, and the name of each member has to be readable. An
array may stop early but not run on. The two forms differ in what a missing
field means: an object that does not mention an optional field leaves it empty,
while an array that stops before it is broken. Only a field with a default may be
missing in both.

## Main definitions

* `Json.Field`: What a document says about one field.
* `Json.Document.fields?`: What a document says about the fields of a record.
* `Json.Field.required?`, `Json.Field.optional?`, `Json.Field.orDefault?`: The
  three ways of reading a field.
* `Json.Document.entries?`, `Json.Document.items?`, `Json.Document.choice?`:
  Documents read as maps, lists and choices between names.
-/

namespace SchoolAtlas

namespace Json

/-- What a document says about one field of a record. -/
inductive Field where
  | written (value : Document)
  /-- The object does not mention the field. -/
  | unmentioned
  /-- The array stops before the field. -/
  | cutOff
deriving Inhabited, Repr

namespace Field

/-- Reads a field that has to be written. -/
def required? (read : Document → Option α) : Field → Option α
  | written value => read value
  | unmentioned | cutOff => none

/-- Reads a field that may be empty: written as `null`, or not mentioned. -/
def optional? (read : Document → Option α) : Field → Option (Option α)
  | written .null => some none
  | written value => (read value).map some
  | unmentioned => some none
  | cutOff => none

/-- Reads a field that has a default for the case that it is not written. -/
def orDefault? (default : α) (read : Document → Option α) : Field → Option α
  | written value => read value
  | unmentioned | cutOff => some default

end Field

namespace Document

/-- The values of the members of one name. -/
def valuesOf (name : String) (members : List (Option String × Document)) : List Document :=
  (members.filter (fun m => m.1 == some name)).map Prod.snd

/-- What an object says about the field of one name, unless it says it twice. -/
def member? (members : List (Option String × Document)) (name : String) : Option Field :=
  match valuesOf name members with
  | [] => some .unmentioned
  | [value] => some (.written value)
  | _ => none

/-- What an array says about as many fields as there are names. -/
def positions : List String → List Document → List Field
  | [], _ => []
  | _ :: names, [] => .cutOff :: positions names []
  | _ :: names, item :: items => .written item :: positions names items

/-- What a document says about the fields of a record, in the order of their
    names. -/
def fields? (names : List String) : Document → Option (List Field)
  | object members =>
    if members.all (fun m => m.1.isSome) then names.mapM (member? members) else none
  | array items =>
    if items.length ≤ names.length then some (positions names items) else none
  | _ => none

/-- Reads a truth value. -/
def bool? : Document → Option Bool
  | bool b => some b
  | _ => none

/-- Reads a string. -/
def text? : Document → Option String
  | string s => s
  | _ => none

/-- Reads a count. -/
def count? : Document → Option Nat
  | number n => n.natural?
  | _ => none

/-- Reads every item of an array. -/
def items? (read : Document → Option α) : Document → Option (List α)
  | array items => items.mapM read
  | _ => none

/-- Reads the name and the value of a member. -/
def readMember? (read : Document → Option α) (m : Option String × Document) : Option (String × α) :=
  m.1.bind fun name => (read m.2).map fun value => (name, value)

/-- Reads the members of an object as the entries of a map. Every one of them
    has to be readable, and of one name the last stays. -/
def entries? (read : Document → Option α) : Document → Option (NameMap α)
  | object members => (members.mapM (readMember? read)).map NameMap.ofList
  | _ => none

/-- Reads the choice of a name: the name itself, or an object whose only member
    has that name and is empty. -/
def choice? : Document → Option String
  | string s => s
  | object [(name, .null)] => name
  | _ => none

end Document

end Json

end SchoolAtlas
