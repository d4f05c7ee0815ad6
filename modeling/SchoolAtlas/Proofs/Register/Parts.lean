import SchoolAtlas.Proofs.Csv.Parts
import SchoolAtlas.Proofs.Register.Directory

/-!
# Loading in Parts

A table that comes in several files is loaded file by file.

Each file repeats the header, and each is cut where a record ends. Under one header the rows of two
parts are the rows of the one and then those of the other (`Register.readRows_append`), and all four
ways of loading go through the rows in their order. So what two files do one after the other is what
they do as one.

The ways of loading differ in what they make of a row that cannot be read. For the directory of
schools it refuses the file, and a file is refused exactly if one of its parts would be. For the
other tables it is passed over, and then it is as if it had never been there: its neighbours are
read as they are without it.

## Main definitions

* `Table.Reads`: A record can be read as a row of a table.

## Theorems

* `Register.readRows_append`: The rows of a table in two parts.
* `Register.load_append`: Loading two parts at once is loading them one after the other.
* `Register.load_schools_eq_none`: Whether a directory is refused does not depend on the register.
* `Register.load_passing_over`: Records that cannot be read may as well be left out.
* `Register.load_in_parts`: What loading in parts comes to, for all tables.
-/

namespace SchoolAtlas

/-- A record can be read as a row of a table, below a header. -/
def Table.Reads (table : Table) (header record : List String) : Prop :=
  match table with
  | .schools => School.ofRecord? header record ≠ none
  | .enrolments =>
    Register.readRecord Enrolment.columns Enrolment.ofCells? header record ≠ none
  | .bacResults =>
    Register.readRecord BacResult.columns BacResult.ofCells? header record ≠ none
  | .evaluationResults =>
    Register.readRecord EvaluationResult.columns EvaluationResult.ofCells? header record ≠ none

namespace Register

open Csv (IsHeader EndsRecord)

variable {α : Type} {columns : List String} {ofCells? : List Csv.Cell → Option α}
variable {head a : String}

/-- The rows below a header. -/
theorem readRows_of_isHeader (hhead : IsHeader head) (body : String) :
    readRows columns ofCells? (head ++ body)
      = (Csv.rows body.toList).map (readRecord columns ofCells? (Csv.table head).header) := by
  rw [readRows_eq, Csv.table_of_isHeader hhead]

/-- The rows of a table in two parts are those of the first part and then those of the second. -/
theorem readRows_append (hhead : IsHeader head) (ha : EndsRecord a.toList) (b : String) :
    readRows columns ofCells? (head ++ a ++ b)
      = readRows columns ofCells? (head ++ a) ++ readRows columns ofCells? (head ++ b) := by
  rw [String.append_assoc, readRows_of_isHeader hhead, readRows_of_isHeader hhead,
    readRows_of_isHeader hhead, String.toList_append, Csv.rows_append ha, List.map_append]

/-- Rows that can be read, in two parts. -/
theorem filterMap_readRows_append (hhead : IsHeader head) (ha : EndsRecord a.toList) (b : String) :
    (readRows columns ofCells? (head ++ a ++ b)).filterMap id
      = (readRows columns ofCells? (head ++ a)).filterMap id
        ++ (readRows columns ofCells? (head ++ b)).filterMap id := by
  rw [readRows_append hhead ha, List.filterMap_append]

/-- Records that cannot be read leave no rows. -/
theorem filterMap_readRows_eq_nil (hhead : IsHeader head) {x : String}
    (hx : ∀ record ∈ Csv.rows x.toList,
      readRecord columns ofCells? (Csv.table head).header record = none) :
    (readRows columns ofCells? (head ++ x)).filterMap id = [] := by
  rw [readRows_of_isHeader hhead, List.filterMap_map, List.filterMap_eq_nil_iff]
  exact hx

/-- A part of a table that cannot be read may as well be left out. -/
theorem filterMap_readRows_passing_over (hhead : IsHeader head) (ha : EndsRecord a.toList)
    {x : String} (hends : EndsRecord x.toList)
    (hx : ∀ record ∈ Csv.rows x.toList,
      readRecord columns ofCells? (Csv.table head).header record = none) (b : String) :
    (readRows columns ofCells? (head ++ a ++ x ++ b)).filterMap id
      = (readRows columns ofCells? (head ++ a ++ b)).filterMap id := by
  have hax : EndsRecord (a ++ x).toList := by
    rw [String.toList_append]
    exact ha.append hends
  have hparts : head ++ a ++ x ++ b = head ++ (a ++ x) ++ b := by simp only [String.append_assoc]
  -- The part that is passed over is cut out at both of its ends.
  rw [hparts, filterMap_readRows_append hhead hax, ← String.append_assoc,
    filterMap_readRows_append hhead ha x, filterMap_readRows_eq_nil hhead hx, List.append_nil,
    filterMap_readRows_append hhead ha b]

/-- Loading two parts at once is loading them one after the other, whether or not they are
    refused. -/
theorem load_append (hhead : IsHeader head) (ha : EndsRecord a.toList) (b : String) (r : Register)
    (table : Table) : r.load? table (head ++ a ++ b)
      = (r.load? table (head ++ a)).bind (fun r' => r'.load? table (head ++ b)) := by
  cases table with
  | schools =>
      simp only [load?, loadSchools?, readRows_append hhead ha, List.mapM_append]
      -- The rows of either part can be read or they cannot.
      cases (readRows School.columns School.ofCells? (head ++ a)).mapM id with
      | none => rfl
      | some first =>
          cases (readRows School.columns School.ofCells? (head ++ b)).mapM id with
          | none => rfl
          | some rest =>
              simp only [Option.bind_eq_bind, Option.bind_some, Option.pure_def, Option.map_some,
                List.foldl_append]
  | enrolments =>
      simp only [load?, loadEnrolments, filterMap_readRows_append hhead ha, Option.bind_some,
        List.append_assoc]
  | bacResults =>
      simp only [load?, loadBacResults, filterMap_readRows_append hhead ha, Option.bind_some,
        List.append_assoc]
  | evaluationResults =>
      simp only [load?, loadEvaluationResults, filterMap_readRows_append hhead ha,
        Option.bind_some, List.append_assoc]

/-- Whether a directory of schools is refused does not depend on the register. -/
theorem load_schools_eq_none (r r' : Register) (text : String) :
    r.load? .schools text = none ↔ r'.load? .schools text = none :=
  loadSchools?_eq_none_iff.trans loadSchools?_eq_none_iff.symm

/-- In a table other than the directory, records that cannot be read may as well be left out. -/
theorem load_passing_over (hhead : IsHeader head) (ha : EndsRecord a.toList) {x : String}
    (hends : EndsRecord x.toList) {table : Table} (htable : table ≠ .schools)
    (hx : ∀ record ∈ Csv.rows x.toList, ¬table.Reads (Csv.table head).header record) (b : String)
    (r : Register) : r.load? table (head ++ a ++ x ++ b) = r.load? table (head ++ a ++ b) := by
  -- A row that cannot be read refuses a file of schools, so these are left out.
  cases table with
  | schools => exact absurd rfl htable
  | enrolments =>
      have hrows := filterMap_readRows_passing_over hhead ha hends
        (fun record hrecord => of_not_not (hx record hrecord)) b
      rw [load?, load?, loadEnrolments, loadEnrolments, hrows]
  | bacResults =>
      have hrows := filterMap_readRows_passing_over hhead ha hends
        (fun record hrecord => of_not_not (hx record hrecord)) b
      rw [load?, load?, loadBacResults, loadBacResults, hrows]
  | evaluationResults =>
      have hrows := filterMap_readRows_passing_over hhead ha hends
        (fun record hrecord => of_not_not (hx record hrecord)) b
      rw [load?, load?, loadEvaluationResults, loadEvaluationResults, hrows]

/-- What loading in parts comes to, for a table that is cut below its header where a record ends.
    Loading the whole is loading the parts, refused or not, and a directory is refused exactly if
    one of its parts is. The other tables are never refused: the rows of the records that can be
    read are added in their order, and the records that cannot be read may as well be left out,
    wherever they stand. -/
theorem load_in_parts (hhead : IsHeader head) (ha : EndsRecord a.toList) (b : String)
    (r : Register) :
    (∀ table, r.load? table (head ++ a ++ b)
      = (r.load? table (head ++ a)).bind (fun r' => r'.load? table (head ++ b))) ∧
    (r.load? .schools (head ++ a ++ b) = none ↔
      r.load? .schools (head ++ a) = none ∨ r.load? .schools (head ++ b) = none) ∧
    (∀ text,
      r.load? .enrolments text = some { r with
        enrolments := r.enrolments ++ readable Enrolment.columns Enrolment.ofCells? text } ∧
      r.load? .bacResults text = some { r with
        bacResults := r.bacResults ++ readable BacResult.columns BacResult.ofCells? text } ∧
      r.load? .evaluationResults text = some { r with
        evaluationResults := r.evaluationResults
          ++ readable EvaluationResult.columns EvaluationResult.ofCells? text }) ∧
    ∀ table ≠ .schools, ∀ x : String, EndsRecord x.toList →
      (∀ record ∈ Csv.rows x.toList, ¬table.Reads (Csv.table head).header record) →
      r.load? table (head ++ a ++ x ++ b) = r.load? table (head ++ a ++ b) := by
  refine ⟨load_append hhead ha b r, ?_, fun text => ?_, fun table htable x hends hx =>
    load_passing_over hhead ha hends htable hx b r⟩
  · rw [load_append hhead ha, Option.bind_eq_none_iff]
    -- Whether the second part can be read does not depend on what the first part stored.
    cases hload : r.load? .schools (head ++ a) with
    | none => simp only [reduceCtorEq, false_implies, implies_true, true_or]
    | some r' =>
        simp only [Option.some.injEq, forall_eq', reduceCtorEq, false_or]
        exact load_schools_eq_none r' r _
  · refine ⟨?_, ?_, ?_⟩
    · rw [load?, loadEnrolments, filterMap_readRows]
    · rw [load?, loadBacResults, filterMap_readRows]
    · rw [load?, loadEvaluationResults, filterMap_readRows]

/-- The header of the enrolment statistics. -/
def enrolmentHeader : String := "cod_siiir_unitate,nivel,limba_de_predare,numar_elevi\n"

/-- Enrolments of one school, with a level that is quoted over two lines and another head count
    that is no number. -/
def firstEnrolments : String := "1,\"Liceal,\n\"\"seral\"\"\",română,400\n1,Gimnazial,română,n/a\n"

/-- The enrolments of another school, after an empty line. -/
def secondEnrolments : String := "\n2,Primar,Limba Maghiară,\n"

/-- The two parts are loaded one after the other as they are at once, and the head count that is
    no number is passed over. -/
theorem enrolments_in_parts :
    IsHeader enrolmentHeader ∧ EndsRecord firstEnrolments.toList ∧
    Register.empty.load? .enrolments (enrolmentHeader ++ firstEnrolments ++ secondEnrolments)
      = (Register.empty.load? .enrolments (enrolmentHeader ++ firstEnrolments)).bind
        (fun r' => r'.load? .enrolments (enrolmentHeader ++ secondEnrolments)) ∧
    Register.empty.load? .enrolments (enrolmentHeader ++ firstEnrolments ++ secondEnrolments)
      = some { Register.empty with enrolments :=
        [⟨"1", "Liceal,\n\"seral\"", some "română", 400⟩,
          ⟨"2", "Primar", some "maghiară", 0⟩] } := by
  have hhead : IsHeader enrolmentHeader := by decide +kernel
  -- There is a line end in quotes, which ends no record.
  have hfirst : EndsRecord firstEnrolments.toList := by decide +kernel
  have hparts := load_in_parts hhead hfirst secondEnrolments Register.empty
  refine ⟨hhead, hfirst, hparts.1 .enrolments, ?_⟩
  rw [(hparts.2.2.1 _).1]
  decide +kernel

end Register

end SchoolAtlas
