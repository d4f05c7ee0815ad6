import SchoolAtlas.Query.Statement

/-!
# Conditions on Rows

What a query asks of one row, and what the answer is.

A column may be empty, and a comparison with an empty column has no answer: it
is neither true nor false. Only asking whether the column is empty always has
one. Such an open answer goes through `OR` and `AND` as far as it matters, and in
the end a row is kept only if everything asked of it is true.

## Main definitions

* `Condition`: What is asked of a row, over the columns of one table.
* `Condition.truth`: The answer for a row.
* `Condition.allHold`: Whether a row passes several conditions.
* `Condition.fragment`: The written form of a condition.

## Theorems

* `Condition.allHold_iff`: A row passes if each answer is true.
-/

namespace SchoolAtlas

/-- An answer that may be open. -/
abbrev Truth := Option Bool

namespace Truth

/-- True as soon as one side is, and open if an open side could still decide. -/
def or : Truth → Truth → Truth
  | some true, _ => some true
  | _, some true => some true
  | some false, some false => some false
  | _, _ => none

/-- False as soon as one side is, and open if an open side could still decide. -/
def and : Truth → Truth → Truth
  | some false, _ => some false
  | _, some false => some false
  | some true, some true => some true
  | _, _ => none

/-- A conjunction is true if both sides are. -/
theorem and_eq_true_iff {s t : Truth} : s.and t = some true ↔ s = some true ∧ t = some true := by
  rcases s with _ | (_ | _) <;> rcases t with _ | (_ | _) <;> simp [Truth.and]

/-- A disjunction is true if one side is. -/
theorem or_eq_true_iff {s t : Truth} : s.or t = some true ↔ s = some true ∨ t = some true := by
  rcases s with _ | (_ | _) <;> rcases t with _ | (_ | _) <;> simp [Truth.or]

end Truth

/-- What is asked of a row, over columns of type `κ`. -/
inductive Condition (κ : Type) where
  /-- The column is empty. -/
  | isNull (column : κ)
  /-- The column has a value. -/
  | equals (column : κ) (value : String)
  /-- The column has one of several values. -/
  | oneOf (column : κ) (values : List String)
  /-- One condition or the other. -/
  | either (first second : Condition κ)
  /-- A condition in brackets. -/
  | grouped (inner : Condition κ)
deriving DecidableEq, Repr

namespace Condition

variable {κ : Type}

/-- One of several values, or no condition if there are none. -/
def oneOf? (column : κ) (values : List String) : Option (Condition κ) :=
  if values.isEmpty then none else some (oneOf column values)

/-- The answer for a row, given what it has in its columns. -/
def truth (row : κ → Option String) : Condition κ → Truth
  | isNull column => some (row column).isNone
  | equals column value => (row column).map (· == value)
  | oneOf column values => (row column).map values.contains
  | either first second => (first.truth row).or (second.truth row)
  | grouped inner => inner.truth row

/-- The answer to several conditions together. -/
def truthOfAll (row : κ → Option String) (conditions : List (Condition κ)) : Truth :=
  conditions.foldr (fun c rest => (c.truth row).and rest) (some true)

/-- Whether a row passes several conditions. An open answer does not pass. -/
def allHold (row : κ → Option String) (conditions : List (Condition κ)) : Bool :=
  truthOfAll row conditions == some true

/-- A row passes several conditions if the answer to each of them is true. -/
theorem allHold_iff {row : κ → Option String} {conditions : List (Condition κ)} :
    allHold row conditions = true ↔ ∀ c ∈ conditions, c.truth row = some true := by
  induction conditions with
  | nil => simp [allHold, truthOfAll]
  | cons c rest ih =>
    simp only [allHold, beq_iff_eq, truthOfAll, List.foldr_cons, List.forall_mem_cons] at ih ⊢
    rw [Truth.and_eq_true_iff, ih]

/-- The written form of a condition, given the names of the columns. -/
def fragment (name : κ → String) : Condition κ → Fragment
  | isNull column => .raw (name column ++ " IS NULL")
  | equals column value => .equals (name column) value
  | oneOf column values =>
    (Fragment.oneOf? (name column) values).getD (.raw (name column ++ " IN ()"))
  | either first second => (first.fragment name).or (second.fragment name)
  | grouped inner => (inner.fragment name).grouped

end Condition

end SchoolAtlas
