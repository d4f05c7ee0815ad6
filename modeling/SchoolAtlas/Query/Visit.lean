import SchoolAtlas.Query.Plan

/-!
# Visits

The order in which a query meets the rows of a register.

Neither the rows of an answer nor its counts depend on this order, and a sum of
head counts does not either, because none is below zero. Two things do depend on
it. A mean of grades is rounded at every addition, so it is a mean in some order.
And totals may fail, but only in a query that gets as far as asking for them.

Schools are met by county and town, and what is joined to a school follows join
by join. The exceptions are made for conditions that promise to let little
through. A mean over the whole country goes through its table from top to bottom
and looks up the school of each row. A roster that is restricted by two joins of
keys carries them out first and asks for totals afterwards.

Conditions on the rows of a school are looked at after all joins, because a query
goes through those rows as through one more table. There is only room for so many
tables. Conditions that find none left are looked at on their own, at once.

## Main definitions

* `Condition.tightness`, `DetailQuery.isTight`: How much conditions promise to
  keep out.
* `Register.visits`: The schools in the order of visits.
* `RegionQuery.leading?`: The rows that are gone through before the schools.
* `Join.inOrder`: Joins in the order in which they are carried out.
* `SchoolCondition.immediate`, `SchoolCondition.tabled`: The conditions that are
  looked at before the joins and after them.

## Theorems

* `Join.inOrder_perm`: No join is lost or repeated.
* `SchoolCondition.immediate_append_tabled_perm`: Nor is a condition.
-/

namespace SchoolAtlas

/-- How much a condition promises to keep out. To be one given value is more to
    ask than to be one of several, to be empty, or either of two things. -/
def Condition.tightness {κ : Type} : Condition κ → Nat
  | equals _ _ | oneOf _ [_] => 2
  | _ => 1

/-- Whether conditions promise to let little through: a tight one, or any two. -/
def DetailQuery.isTight (q : DetailQuery) : Bool :=
  2 ≤ q.conditions.foldr (fun c rest => c.tightness + rest) 0

namespace Register

/-- Whether one school is visited before another: by county, then by town, with
    the schools of no town first. -/
def visitedBefore (s t : School) : Bool :=
  if s.county = t.county then
    match s.town, t.town with
    | none, _ => true
    | some _, none => false
    | some a, some b => a ≤ b
  else s.county < t.county

/-- The schools in the order in which they are visited. -/
def visits (r : Register) : List School := r.schools.mergeSort visitedBefore

end Register

/-- The rows that a map goes through before the schools, if it does: those of a
    mean over the whole country, if little of the table is let through. -/
def RegionQuery.leading? (q : RegionQuery) : Option DetailQuery :=
  match q.measure, q.conditions, q.joins with
  | .gradeMean, [], [.rows _ _ query] => if query.isTight then some query else none
  | _, _, _ => none

namespace Join

/-- Whether a join keeps schools by their keys. -/
def isKeys : Join → Bool
  | keys _ _ => true
  | rows _ _ _ | totals => false

/-- Whether a join keeps schools by keys that little is let through for. -/
def isTight : Join → Bool
  | keys _ query => query.isTight
  | rows _ _ _ | totals => false

/-- The joins in the order in which they are carried out. With two joins of keys
    and a tight one among them, those come first. -/
def inOrder (joins : List Join) : List Join :=
  if 2 ≤ (joins.filter isKeys).length && joins.any isTight then
    joins.filter isKeys ++ joins.filter (!isKeys ·)
  else joins

/-- No join is lost or repeated. -/
theorem inOrder_perm (joins : List Join) : (inOrder joins).Perm joins := by
  unfold inOrder
  split
  · exact List.filter_append_perm isKeys joins
  · exact List.Perm.refl joins

end Join

namespace SchoolCondition

/-- The number of tables that there is room for in a query. -/
def mostTables : Nat := 64

/-- Whether a condition is on the rows of a school. -/
def isOnRows : SchoolCondition → Bool
  | column _ => false
  | hasRow _ => true

/-- The number of conditions on rows that there is room for beside the schools and
    what is joined to them. -/
def room (joins : List Join) : Nat := mostTables - 1 - joins.length

/-- The conditions on rows that a query goes through as tables: the first ones, as
    many as there is room for. -/
def tabled (joins : List Join) (conditions : List SchoolCondition) : List SchoolCondition :=
  (conditions.filter isOnRows).take (room joins)

/-- The conditions that are looked at on their own. -/
def immediate (joins : List Join) (conditions : List SchoolCondition) : List SchoolCondition :=
  conditions.filter (!isOnRows ·) ++ (conditions.filter isOnRows).drop (room joins)

/-- No condition is lost or repeated. -/
theorem immediate_append_tabled_perm (joins : List Join) (conditions : List SchoolCondition) :
    (immediate joins conditions ++ tabled joins conditions).Perm conditions := by
  have onRows : ((conditions.filter isOnRows).drop (room joins) ++ tabled joins conditions).Perm
      (conditions.filter isOnRows) :=
    List.perm_append_comm.trans (.of_eq (List.take_append_drop ..))
  rw [immediate, List.append_assoc]
  exact ((onRows.append_left _).trans List.perm_append_comm).trans
    (List.filter_append_perm isOnRows conditions)

end SchoolCondition

end SchoolAtlas
