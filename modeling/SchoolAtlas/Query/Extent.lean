import SchoolAtlas.Query.Text
import SchoolAtlas.Query.Visit

/-!
# Extent

How large a query may be.

A statement has only so many places for values. Its conditions are put together
two at a time, each with all that precede it, and the result may only be nested
so deep. To the conditions on schools come those that tie the joined rows to a
school, and those on rows that are gone through as tables.

Menus are far too short to reach either limit. A filter state can carry names
that are on no menu, though, and when every ticked level needs a row of its own,
each of them brings one more condition and all ticked languages once more.

## Main definitions

* `Condition.depth`, `SchoolCondition.depth`: How deep a condition is nested.
* `Query.depth`: How deep the conditions of a query are nested together.
* `Query.Fits`: A query that is small enough to be asked.
-/

namespace SchoolAtlas

/-- How deep conditions are nested when each is put together with all that precede
    it, given how deep each is nested on its own. -/
def conjunctionDepth : List Nat → Nat
  | [] => 0
  | first :: others => others.foldl (fun depth other => max depth other + 1) first

/-- How deep a condition is nested, given the depth of a column's name. -/
def Condition.depth {κ : Type} (name : Nat) : Condition κ → Nat
  | isNull _ | equals _ _ | oneOf _ _ => name + 1
  | either first second => max (first.depth name) (second.depth name) + 1
  | grouped inner => inner.depth name

/-- The depth of a column's name. -/
def ownName : Nat := 1

/-- The depth of a column's name with its table. -/
def qualifiedName : Nat := 2

/-- The depth of a comparison with the identifier of a school. -/
def keyDepth : Nat := qualifiedName + 1

/-- How deep the conditions on the rows of a school are nested. -/
def DetailQuery.depth (q : DetailQuery) : Nat :=
  conjunctionDepth (keyDepth :: q.conditions.map (Condition.depth ownName))

namespace SchoolCondition

/-- How deep the inside of a condition is nested. -/
def innerDepth : SchoolCondition → Nat
  | column condition => condition.depth qualifiedName
  | hasRow query => query.depth

/-- How deep a condition is nested. Asking for a row adds a level. -/
def depth : SchoolCondition → Nat
  | column condition => condition.depth qualifiedName
  | hasRow query => query.depth + 1

/-- How deep conditions are nested together with those of joins and of rows. -/
def depthTogether (joins : List Join) (conditions : List SchoolCondition) : Nat :=
  conjunctionDepth <|
    conditions.map depth ++ joins.map (fun _ => keyDepth)
      ++ (tabled joins conditions).map innerDepth

end SchoolCondition

namespace Query

/-- The number of places for values in a statement. -/
def mostValues : Nat := 32766

/-- How deep conditions may be nested. -/
def deepest : Nat := 1000

/-- How deep the conditions of a query are nested together. -/
def depth : Query → Nat
  | regions query => SchoolCondition.depthTogether query.joins query.conditions
  | roster query => SchoolCondition.depthTogether query.joins query.conditions

/-- The query is small enough to be asked. -/
def Fits (q : Query) : Prop := q.compiled.params.length ≤ mostValues ∧ q.depth ≤ deepest

instance (q : Query) : Decidable q.Fits := inferInstanceAs (Decidable (_ ∧ _))

end Query

end SchoolAtlas
