import Mathlib.Data.List.Nodup
import SchoolAtlas.Proofs.Lists
import SchoolAtlas.Query.Plan
import SchoolAtlas.Register.Load

/-!
# Registers That Loading Leads To

What can be relied on in a register that was filled by loading tables.

A register is a plain record of four lists, and most lists make no sense in it:
two schools could share an identifier, a school could have fewer than no students,
and a grade could be no number. Loading never gets there. It puts a school in place of
an older one of the same identifier, it stores a negative head count as zero, and it
stores no grade where there is no number. `Reached` says that a register came about by
loading, whatever the texts were and in whatever order.

Schools replace each other, so what is said about them is an induction over the loads.
All other rows are only ever added: each of them was read from cells at some time, and
what can be said about it is what reading makes sure of.

A load that is refused leaves the register alone, so it needs no case of its own.

## Main definitions

* `Register.Reached`: The registers that some sequence of loads leads to.
* `Register.loadAll?`: Loads files one after another.
* `Register.ReadFrom`: A row was read from a record of some text.

## Theorems

* `Register.reached_iff`: The reached registers are those that files are loaded into.
* `Register.nodup_putSchool`: Putting a school keeps identifiers apart.
* `Register.Reached.nodup_ids`: Schools of a reached register have identifiers of
  their own.
* `Register.schools_of_load`, `Register.rows_of_load`: What loading does to the schools and to
  the other rows.
* `Register.Reached.rows_read`: Every other row of a reached register was read.
* `Register.Reached.students_nonneg`: Head counts of a reached register are not
  negative.
* `Register.Reached.grades_defined`: Its grades are numbers.
-/

namespace SchoolAtlas

deriving instance DecidableEq for BacResult, EvaluationResult, Register

namespace Register

/-- The registers that some sequence of loads leads to. -/
inductive Reached : Register → Prop
  | empty : Reached Register.empty
  | load {r r' : Register} (table : Table) (text : String) (hr : Reached r)
      (hload : r.load? table text = some r') : Reached r'

/-- Loads files one after another, each into its table. -/
def loadAll? (r : Register) (files : List (Table × String)) : Option Register :=
  files.foldlM (fun r file => r.load? file.1 file.2) r

theorem Reached.loadAll {r r' : Register} {files : List (Table × String)} (hr : r.Reached)
    (h : r.loadAll? files = some r') : r'.Reached := by
  induction files generalizing r with
  | nil =>
      rw [loadAll?, List.foldlM_nil, Option.pure_def, Option.some.injEq] at h
      exact h ▸ hr
  | cons file rest ih =>
      rw [loadAll?, List.foldlM_cons, Option.bind_eq_bind, Option.bind_eq_some_iff] at h
      rcases h with ⟨mid, hmid, hrest⟩
      exact ih (.load file.1 file.2 hr hmid) hrest

/-- The reached registers are those that files are loaded into. -/
theorem reached_iff {r : Register} :
    r.Reached ↔ ∃ files, Register.empty.loadAll? files = some r := by
  constructor
  · intro h
    induction h with
    | empty => exact ⟨[], rfl⟩
    | load table text hr hload ih =>
        rcases ih with ⟨files, hfiles⟩
        -- The last load is the last file.
        refine ⟨files ++ [(table, text)], ?_⟩
        rw [loadAll?] at hfiles
        rw [loadAll?, List.foldlM_append, hfiles, Option.bind_eq_bind, Option.bind_some,
          List.foldlM_cons, hload]
        rfl
  · intro hex
    rcases hex with ⟨files, h⟩
    exact Reached.loadAll .empty h

theorem nodup_putSchool (schools : List School) (s : School)
    (h : (schools.map School.id).Nodup) : ((putSchool schools s).map School.id).Nodup := by
  rw [putSchool, List.map_append, List.map_singleton, List.nodup_append]
  refine ⟨h.sublist (List.filter_sublist.map School.id), List.nodup_singleton _, ?_⟩
  -- An older school of the same identifier was taken out before the new one is added.
  intro id hid other hother
  rcases List.mem_map.mp hid with ⟨kept, hkept, rfl⟩
  have hne := of_decide_eq_true (List.mem_filter.mp hkept).2
  rw [List.mem_singleton.mp hother]
  exact hne

theorem nodup_foldl_putSchool (schools new : List School)
    (h : (schools.map School.id).Nodup) :
    ((new.foldl putSchool schools).map School.id).Nodup := by
  induction new generalizing schools with
  | nil => exact h
  | cons s rest ih => exact ih _ (nodup_putSchool schools s h)

/-- An enrolment that was read has a head count that is not negative. -/
theorem students_nonneg_of_ofCells {cells : List Csv.Cell} {e : Enrolment}
    (h : Enrolment.ofCells? cells = some e) : 0 ≤ e.students := by
  unfold Enrolment.ofCells? at h
  split at h
  · simp only [Option.pure_def, Option.bind_eq_bind, Option.bind_eq_some_iff,
      Option.some.injEq] at h
    rcases h with ⟨_, _, _, _, _, _, students, _, rfl⟩
    -- A negative count is stored as zero.
    exact Int.le_max_right _ _
  · exact absurd h (by simp only [reduceCtorEq, not_false_eq_true])

/-- A grade that is stored is a number. -/
theorem not_isNaN_of_storedGrade {x grade : Float} (h : storedGrade? x = some grade) :
    ¬grade.isNaN = true := by
  rw [storedGrade?] at h
  by_cases hnan : x.isNaN = true
  · rw [if_pos hnan] at h
    exact absurd h (by simp only [reduceCtorEq, not_false_eq_true])
  · rw [if_neg hnan] at h
    -- Zero is stored without its sign, and is still a number.
    by_cases hzero : (x == 0.0) = true
    · rw [if_pos hzero, Option.some.injEq] at h
      rw [← h]
      decide +kernel
    · rw [if_neg hzero, Option.some.injEq] at h
      exact h ▸ hnan

theorem not_isNaN_of_grade {cell : Csv.Cell} {grade : Float}
    (h : grade? cell = some (some grade)) : ¬grade.isNaN = true := by
  rw [grade?, Option.map_eq_some_iff] at h
  rcases h with ⟨_, _, hstored⟩
  rcases Option.bind_eq_some_iff.mp hstored with ⟨_, _, hstored⟩
  exact not_isNaN_of_storedGrade hstored

theorem not_isNaN_of_bacCells {cells : List Csv.Cell} {b : BacResult} {grade : Float}
    (h : BacResult.ofCells? cells = some b) (hgrade : b.grade = some grade) :
    ¬grade.isNaN = true := by
  unfold BacResult.ofCells? at h
  split at h
  · simp only [Option.pure_def, Option.bind_eq_bind, Option.bind_eq_some_iff,
      Option.some.injEq] at h
    rcases h with ⟨_, _, _, _, _, _, _, _, _, _, _, _, stored, hstored, rfl⟩
    exact not_isNaN_of_grade (hstored.trans (congrArg some hgrade))
  · exact absurd h (by simp only [reduceCtorEq, not_false_eq_true])

theorem not_isNaN_of_evaluationCells {cells : List Csv.Cell} {e : EvaluationResult}
    {grade : Float} (h : EvaluationResult.ofCells? cells = some e)
    (hgrade : e.grade = some grade) : ¬grade.isNaN = true := by
  unfold EvaluationResult.ofCells? at h
  split at h
  · simp only [Option.pure_def, Option.bind_eq_bind, Option.bind_eq_some_iff,
      Option.some.injEq] at h
    rcases h with ⟨_, _, _, _, _, _, _, _, stored, hstored, _, _, rfl⟩
    exact not_isNaN_of_grade (hstored.trans (congrArg some hgrade))
  · exact absurd h (by simp only [reduceCtorEq, not_false_eq_true])

/-- A row was read from a record of some text. -/
def ReadFrom {α : Type} (columns : List String) (ofCells? : List Csv.Cell → Option α) (row : α) :
    Prop :=
  ∃ text, some row ∈ readRows columns ofCells? text

/-- A row that was read was read from the cells of a record. -/
theorem ReadFrom.exists_record {α : Type} {columns : List String}
    {ofCells? : List Csv.Cell → Option α} {row : α} (h : ReadFrom columns ofCells? row) :
    ∃ text record cells, record ∈ (Csv.table text).records ∧
      Csv.cells? columns (Csv.table text).header record = some cells ∧
      ofCells? cells = some row := by
  rcases h with ⟨text, hread⟩
  rcases List.mem_map.mp hread with ⟨record, hrecord, hrow⟩
  rcases Option.bind_eq_some_iff.mp hrow with ⟨cells, hcells, hrow⟩
  exact ⟨text, record, cells, hrecord, hcells, hrow⟩

theorem ReadFrom.exists_cells {α : Type} {columns : List String}
    {ofCells? : List Csv.Cell → Option α} {row : α} (h : ReadFrom columns ofCells? row) :
    ∃ cells, ofCells? cells = some row := by
  rcases h.exists_record with ⟨_, _, cells, _, _, hrow⟩
  exact ⟨cells, hrow⟩

theorem readFrom_of_mem {α : Type} {columns : List String}
    {ofCells? : List Csv.Cell → Option α} {text : String} {row : α}
    (h : row ∈ (readRows columns ofCells? text).filterMap id) : ReadFrom columns ofCells? row := by
  rcases List.mem_filterMap.mp h with ⟨read, hread, rfl⟩
  exact ⟨text, hread⟩

/-- What loading does to the schools: nothing, or it puts some that were read. -/
theorem schools_of_load {r r' : Register} {table : Table} {text : String}
    (h : r.load? table text = some r') :
    ∃ new : List School, r'.schools = new.foldl putSchool r.schools ∧
      ∀ s ∈ new, ReadFrom School.columns School.ofCells? s := by
  -- Other tables put no school.
  have hnone : ∃ new : List School, r.schools = new.foldl putSchool r.schools ∧
      ∀ s ∈ new, ReadFrom School.columns School.ofCells? s :=
    ⟨[], rfl, fun s hs => absurd hs List.not_mem_nil⟩
  cases table with
  | schools =>
      rw [load?, loadSchools?, Option.map_eq_some_iff] at h
      rcases h with ⟨new, hnew, rfl⟩
      rw [(Lists.mapM_eq_some_iff.mp hnew).2]
      exact ⟨_, rfl, fun s hs => readFrom_of_mem hs⟩
  | enrolments =>
      rw [load?, Option.some.injEq] at h
      exact h ▸ hnone
  | bacResults =>
      rw [load?, Option.some.injEq] at h
      exact h ▸ hnone
  | evaluationResults =>
      rw [load?, Option.some.injEq] at h
      exact h ▸ hnone

/-- What loading does to the rows that are not schools: nothing, or it adds some that were
    read. -/
theorem rows_of_load {r r' : Register} {table : Table} {text : String}
    (h : r.load? table text = some r') :
    (∃ new, r'.enrolments = r.enrolments ++ new ∧
      ∀ e ∈ new, ReadFrom Enrolment.columns Enrolment.ofCells? e) ∧
    (∃ new, r'.bacResults = r.bacResults ++ new ∧
      ∀ b ∈ new, ReadFrom BacResult.columns BacResult.ofCells? b) ∧
    ∃ new, r'.evaluationResults = r.evaluationResults ++ new ∧
      ∀ e ∈ new, ReadFrom EvaluationResult.columns EvaluationResult.ofCells? e := by
  -- A table that is not loaded stays as it is.
  have hnone : ∀ {α : Type} {P : α → Prop} (rows : List α),
      ∃ new, rows = rows ++ new ∧ ∀ row ∈ new, P row :=
    fun rows => ⟨[], (List.append_nil rows).symm, fun row hrow => absurd hrow List.not_mem_nil⟩
  cases table with
  | schools =>
      rw [load?, loadSchools?, Option.map_eq_some_iff] at h
      rcases h with ⟨_, _, rfl⟩
      exact ⟨hnone _, hnone _, hnone _⟩
  | enrolments =>
      rw [load?, Option.some.injEq] at h
      subst h
      exact ⟨⟨_, rfl, fun _ => readFrom_of_mem⟩, hnone _, hnone _⟩
  | bacResults =>
      rw [load?, Option.some.injEq] at h
      subst h
      exact ⟨hnone _, ⟨_, rfl, fun _ => readFrom_of_mem⟩, hnone _⟩
  | evaluationResults =>
      rw [load?, Option.some.injEq] at h
      subst h
      exact ⟨hnone _, hnone _, ⟨_, rfl, fun _ => readFrom_of_mem⟩⟩

namespace Reached

theorem nodup_ids {r : Register} (h : r.Reached) : (r.schools.map School.id).Nodup := by
  induction h with
  | empty => exact List.nodup_nil
  | load table text hr hload ih =>
      -- Only files of schools touch the schools, and they put them one by one.
      rcases schools_of_load hload with ⟨new, hnew, _⟩
      rw [hnew]
      exact nodup_foldl_putSchool _ new ih

/-- Every row of a reached register that is no school was read. -/
theorem rows_read {r : Register} (h : r.Reached) :
    (∀ e ∈ r.enrolments, ReadFrom Enrolment.columns Enrolment.ofCells? e) ∧
    (∀ b ∈ r.bacResults, ReadFrom BacResult.columns BacResult.ofCells? b) ∧
    ∀ e ∈ r.evaluationResults, ReadFrom EvaluationResult.columns EvaluationResult.ofCells? e := by
  induction h with
  | empty =>
      exact ⟨fun e he => absurd he List.not_mem_nil, fun b hb => absurd hb List.not_mem_nil,
        fun e he => absurd he List.not_mem_nil⟩
  | load table text hr hload ih =>
      -- One table has new rows after the last load. Its old ones are covered by the hypothesis.
      rcases rows_of_load hload with ⟨⟨es, hes, hnewes⟩, ⟨bs, hbs, hnewbs⟩, ⟨vs, hvs, hnewvs⟩⟩
      rcases ih with ⟨holdes, holdbs, holdvs⟩
      rw [hes, hbs, hvs]
      exact ⟨List.forall_mem_append.mpr ⟨holdes, hnewes⟩,
        List.forall_mem_append.mpr ⟨holdbs, hnewbs⟩, List.forall_mem_append.mpr ⟨holdvs, hnewvs⟩⟩

theorem students_nonneg {r : Register} (h : r.Reached) :
    ∀ e ∈ r.enrolments, 0 ≤ e.students := by
  intro e he
  rcases (h.rows_read.1 e he).exists_cells with ⟨cells, hcells⟩
  exact students_nonneg_of_ofCells hcells

/-- The grades of a reached register are numbers. -/
theorem grades_defined {r : Register} (h : r.Reached) {table : DetailTable} {d : Detail}
    (hd : d ∈ r.details table) {grade : Float} (hgrade : d.grade = some grade) :
    ¬grade.isNaN = true := by
  cases table with
  | enrolments =>
      -- An enrolment has no grade.
      rcases List.mem_map.mp hd with ⟨e, _, rfl⟩
      exact absurd hgrade (by simp only [Detail.ofEnrolment, reduceCtorEq, not_false_eq_true])
  | bacResults =>
      rcases List.mem_map.mp hd with ⟨b, hb, rfl⟩
      rcases (h.rows_read.2.1 b hb).exists_cells with ⟨cells, hcells⟩
      exact not_isNaN_of_bacCells hcells hgrade
  | evaluationResults =>
      rcases List.mem_map.mp hd with ⟨e, he, rfl⟩
      rcases (h.rows_read.2.2 e he).exists_cells with ⟨cells, hcells⟩
      exact not_isNaN_of_evaluationCells hcells hgrade

end Reached

end Register

end SchoolAtlas
