/-!
# Statements

Statements of the query language, assembled from clauses.

A value that comes from a user never becomes part of a statement's text. It
travels beside the text as a parameter, and the text holds a placeholder for it.
A `Fragment` is a piece of text together with the parameters of its
placeholders, in the order of the placeholders, and every way of combining
fragments keeps the two in step.

A `Statement` collects clauses in whatever order they come up and puts them into
the order of the language when it is written. Joins are written before
conditions, so their parameters come first too.

An empty list of values makes no condition at all. The menus that these lists
come from restrict nothing when nothing is ticked.

## Main definitions

* `Fragment`: Text with the parameters of its placeholders.
* `Statement`: The clauses of one statement.
* `Statement.fragment`: The written form of a statement.
* `RowShape`: What the rows of a statement hold.
* `Compiled`: A written statement that is ready to run.
-/

namespace SchoolAtlas

/-- Text with the parameters of its placeholders, in their order. -/
structure Fragment where
  sql : String
  params : List String
deriving DecidableEq, Repr, Inhabited

namespace Fragment

/-- Text without placeholders. -/
def raw (sql : String) : Fragment := ⟨sql, []⟩

/-- A column has a value. -/
def equals (column value : String) : Fragment := ⟨column ++ " = ?", [value]⟩

/-- A column has one of several values, or no condition if there are none. -/
def oneOf? (column : String) (values : List String) : Option Fragment :=
  if values.isEmpty then none
  else
    let places := ", ".intercalate (values.map (fun _ => "?"))
    some ⟨column ++ " IN (" ++ places ++ ")", values⟩

/-- One or the other. -/
def or (f g : Fragment) : Fragment := ⟨f.sql ++ " OR " ++ g.sql, f.params ++ g.params⟩

/-- The fragment in brackets. -/
def grouped (f : Fragment) : Fragment := ⟨"(" ++ f.sql ++ ")", f.params⟩

/-- A statement finds a row. -/
def rowExists (f : Fragment) : Fragment := ⟨"EXISTS (" ++ f.sql ++ ")", f.params⟩

/-- Joins fragments with a separator. -/
def join (separator : String) (parts : List Fragment) : Fragment :=
  ⟨separator.intercalate (parts.map sql), parts.flatMap params⟩

/-- All of the parts that are there, or no condition if none is. -/
def all? (parts : List (Option Fragment)) : Option Fragment :=
  let present := parts.filterMap id
  if present.isEmpty then none else some (join " AND " present)

end Fragment

/-- How a joined statement meets the rows joined so far. -/
inductive JoinKind where
  /-- Rows without a partner are left out. -/
  | inner
  /-- Rows without a partner are kept. -/
  | left
deriving DecidableEq, Repr

/-- The keyword of a join. -/
def JoinKind.keyword : JoinKind → String
  | inner => "JOIN"
  | left => "LEFT JOIN"

/-- The unit that one row of a map query stands for. -/
inductive Grouping where
  | county
  | town
deriving DecidableEq, Repr, Inhabited

/-- What the rows of a statement hold. -/
inductive RowShape where
  /-- One row for each region, with its value in the named column. -/
  | regions (grouping : Grouping) (valueColumn : String)
  /-- One row for each school. -/
  | schools
deriving DecidableEq, Repr, Inhabited

/-- A written statement that is ready to run. -/
structure Compiled where
  sql : String
  params : List String
  shape : RowShape
deriving DecidableEq, Repr, Inhabited

/-- The clauses of one statement. -/
structure Statement where
  table : String
  distinct : Bool
  columns : List String
  joins : List Fragment
  conditions : List Fragment
  grouping : List String
  ordering : List String
deriving DecidableEq, Repr, Inhabited

namespace Statement

/-- All columns of a table. -/
def ofTable (table : String) : Statement := ⟨table, false, [], [], [], [], []⟩

/-- Leaves out repeated rows. -/
def asDistinct (s : Statement) : Statement := { s with distinct := true }

/-- Selects one more column. -/
def select (s : Statement) (column : String) : Statement :=
  { s with columns := s.columns ++ [column] }

/-- Selects several more columns. -/
def selectAll (s : Statement) (columns : List String) : Statement :=
  { s with columns := s.columns ++ columns }

/-- Joins the rows of another statement. -/
def join (s : Statement) (kind : JoinKind) (rows : Fragment) (label on : String) : Statement :=
  let sql := kind.keyword ++ " (" ++ rows.sql ++ ") " ++ label ++ " ON " ++ on
  { s with joins := s.joins ++ [⟨sql, rows.params⟩] }

/-- Adds a condition. -/
def filter (s : Statement) (condition : Fragment) : Statement :=
  { s with conditions := s.conditions ++ [condition] }

/-- Adds a condition, if there is one. -/
def filter? (s : Statement) (condition : Option Fragment) : Statement :=
  match condition with
  | some condition => s.filter condition
  | none => s

/-- Groups by one more column. -/
def groupBy (s : Statement) (column : String) : Statement :=
  { s with grouping := s.grouping ++ [column] }

/-- Orders by one more column. -/
def orderBy (s : Statement) (column : String) : Statement :=
  { s with ordering := s.ordering ++ [column] }

/-- The line of columns. Without columns everything is selected. -/
def head (s : Statement) : String :=
  let columns := if s.columns.isEmpty then "*" else ", ".intercalate s.columns
  "SELECT " ++ (if s.distinct then "DISTINCT " else "") ++ columns

/-- The conditions as one fragment, if there are any. -/
def condition? (s : Statement) : Option Fragment := Fragment.all? (s.conditions.map some)

/-- A line that lists columns after a keyword, unless there are none. -/
def listing (keyword : String) (columns : List String) : List String :=
  if columns.isEmpty then [] else [keyword ++ " " ++ ", ".intercalate columns]

/-- The written form of a statement, one clause to a line. The parameters of the
    joins come before those of the conditions. -/
def fragment (s : Statement) : Fragment :=
  let condition := s.condition?
  { sql := "\n".intercalate <|
      [s.head, "FROM " ++ s.table] ++ s.joins.map Fragment.sql
        ++ (condition.map (fun c => "WHERE " ++ c.sql)).toList
        ++ listing "GROUP BY" s.grouping ++ listing "ORDER BY" s.ordering
    params := s.joins.flatMap Fragment.params ++ (condition.map Fragment.params).getD [] }

/-- The statement, ready to run for rows of a shape. -/
def compiled (s : Statement) (shape : RowShape) : Compiled :=
  ⟨s.fragment.sql, s.fragment.params, shape⟩

end Statement

end SchoolAtlas
