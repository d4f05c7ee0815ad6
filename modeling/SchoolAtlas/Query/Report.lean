import SchoolAtlas.Query.Answer
import SchoolAtlas.Query.Shape

/-!
# Answers in Writing

The stored forms of the rows of an answer, and the messages of errors.

An error of the atlas has a message. A query that is too large and a sum that is
have none: they say nothing that the one who asked could mend.

## Main definitions

* `QueryError.message?`: The message of an error.
* `RegionRow.json`, `SchoolRecord.json`: Stored forms.
-/

namespace SchoolAtlas

/-- The message of an error, if it has one. -/
def QueryError.message? : QueryError → Option String
  | regionsExpected got =>
    some ("query_aggregate expects a region query, got " ++ got.description)
  | schoolsExpected got => some ("query_roster expects a school query, got " ++ got.description)
  | unknownTable name => some ("unknown table: " ++ name)
  | tooLarge | overflow => none

/-- The stored form of a region's value. -/
def RegionRow.json (row : RegionRow) : Json :=
  .object
    [("county", .string row.county), ("town", .ofText? row.town),
      ("value", .real row.value.toFloat)]

/-- The stored form of a school of a roster. -/
def SchoolRecord.json (s : SchoolRecord) : Json :=
  .object
    [("id", .string s.id), ("name", .string s.name), ("county", .string s.county),
      ("town", .string s.town), ("languages", .texts s.languages), ("levels", .texts s.levels),
      ("total_students", .whole s.totalStudents), ("phone", .ofText? s.phone),
      ("email", .ofText? s.email), ("street", .ofText? s.street), ("number", .ofText? s.number)]

end SchoolAtlas
