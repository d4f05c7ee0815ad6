import SchoolAtlas.Json.Value
import SchoolAtlas.Query.Statement

/-!
# Row Shapes and Compiled Statements in Writing

How the shape of a statement's rows is named: in the stored form of a compiled
statement and in the message that refuses a statement of the wrong shape.

## Main definitions

* `RowShape.description`: A shape in a message.
* `RowShape.json`, `Fragment.json`, `Compiled.json`: Stored forms.
-/

namespace SchoolAtlas

namespace Grouping

/-- The stored name of a grouping. -/
def name : Grouping → String
  | county => "county"
  | town => "town"

/-- The name of a grouping in a message. -/
def title : Grouping → String
  | county => "County"
  | town => "Town"

end Grouping

namespace RowShape

/-- A shape in a message. -/
def description : RowShape → String
  | schools => "Schools"
  | regions grouping valueColumn =>
    "Regions \x7b grouping: " ++ grouping.title ++ ", value_column: "
      ++ Json.quote valueColumn ++ " \x7d"

/-- The stored form of a shape. -/
def json : RowShape → Json
  | schools => .string "schools"
  | regions grouping valueColumn =>
    .object
      [("regions",
        .object [("grouping", .string grouping.name), ("value_column", .string valueColumn)])]

end RowShape

/-- The stored form of a fragment. -/
def Fragment.json (f : Fragment) : Json :=
  .object [("sql", .string f.sql), ("params", .texts f.params)]

/-- The stored form of a compiled statement. -/
def Compiled.json (c : Compiled) : Json :=
  .object [("sql", .string c.sql), ("params", .texts c.params), ("shape", c.shape.json)]

end SchoolAtlas
