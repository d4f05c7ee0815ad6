import SchoolAtlas.NameMap

/-!
# Selections

A menu of checkboxes: each listed name is ticked or not.

A selection says which rows a query keeps, and two of its states keep
everything. With nothing ticked there is no restriction, because a restriction
to nothing could never match a row. With every listed name ticked there is none
either, because such a menu leaves nothing out on purpose. `restriction?` tells
these two from a real choice.

The ticks are a map ordered by name, so the ticked names come out in one order
however the boxes were clicked.

## Main definitions

* `Selection`: The listed names with their ticks.
* `Selection.set`: Ticks or unticks a name, listing it if it was not listed.
* `Selection.selected`: The ticked names in increasing order.
* `Selection.restriction?`: The ticked names, if they leave something out.

## Theorems

* `Selection.isSelected_set`: What is ticked after a click.
-/

namespace SchoolAtlas

/-- The listed names of a menu with their ticks. -/
structure Selection where
  ticks : NameMap Bool
deriving DecidableEq, Repr, Inhabited

namespace Selection

/-- The selection that lists nothing. -/
def empty : Selection := ⟨.empty⟩

/-- Lists the given names, ticked where the predicate says so. -/
def ofNames (names : List String) (ticked : String → Bool) : Selection :=
  ⟨.ofList (names.map (fun name => (name, ticked name)))⟩

/-- Lists the given names, all of them ticked. -/
def all (names : List String) : Selection := ofNames names (fun _ => true)

/-- Whether a name is ticked. A name that is not listed is not. -/
def isSelected (s : Selection) (name : String) : Bool := (s.ticks.get? name).getD false

/-- Ticks or unticks a name, listing it if it was not listed. -/
def set (s : Selection) (name : String) (ticked : Bool) : Selection :=
  ⟨s.ticks.insert name ticked⟩

/-- The listed names in increasing order. -/
def names (s : Selection) : List String := s.ticks.names

/-- The ticked names in increasing order. -/
def selected (s : Selection) : List String := (s.ticks.entries.filter Prod.snd).map Prod.fst

/-- Whether no name is ticked. -/
def isUnrestricted (s : Selection) : Bool := !s.ticks.values.any id

/-- Whether names are listed and all of them are ticked. -/
def isAll (s : Selection) : Bool := !s.ticks.isEmpty && s.ticks.values.all id

/-- The ticked names, or nothing if the selection lets everything through:
    because no name is ticked, or because every listed name is. -/
def restriction? (s : Selection) : Option (List String) :=
  if s.isUnrestricted || s.isAll then none else some s.selected

/-- What is ticked after a click: the clicked name as it was clicked, the others
    as before. -/
@[simp]
theorem isSelected_set (s : Selection) (name : String) (ticked : Bool) (x : String) :
    (s.set name ticked).isSelected x = if name = x then ticked else s.isSelected x := by
  simp only [isSelected, set, NameMap.get?_insert]
  split <;> rfl

end Selection

end SchoolAtlas
