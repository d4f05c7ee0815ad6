import SchoolAtlas.Proofs.Csv.Written
import SchoolAtlas.Proofs.Register.Directory
import SchoolAtlas.Proofs.Register.Languages

/-!
# Loading What Was Stored

What becomes of a register whose tables are written to files and loaded again.

A file has a header of all columns, and a record for each row. Languages are written as they are
stored, missing texts as empty fields and head counts in digits. How grades are written is left
open, as long as a number can be read.

Such a file is loaded row by row, because nothing in a row that was read can fail to be read again
(`Enrolment.Stored`, `BacResult.Stored`): a text that has to be there is there, a head count fits a
word, and what is missing is missing again. Of a stored row, all but the languages and the grade
comes back as it was. Its texts were trimmed when they were read, and its letters replaced, so
there is nothing left to trim or to replace.

The languages come back trimmed, and that is a difference for those that begin with a blank. They
come from the long form with more than one blank after its word. A register without them is stored
again as it is. One with them is not, but it is after it was loaded a second time.

## Main definitions

* `Enrolment.fields`, `BacResult.fields`: Rows as they are written.
* `Enrolment.Stored`, `BacResult.Stored`: Rows that are what is stored for some fields.
* `Enrolment.reread`, `BacResult.reread`: Rows as they are read again.
* `BacResult.Legible`: Grades are written so that a number can be read.
* `Register.languages`: The languages that are stored.
* `Register.exported`, `Register.reloaded`: Tables are written to files, and these are loaded.

## Theorems

* `Register.readable_written`: A file that was written is read record by record.
* `Register.Reached.stored_rows`: Rows of a register are what is stored for some fields.
* `Register.Reached.reread`: A register that was filled from files is read again row by row.
* `Register.languages_reloaded`: What becomes of the languages.
-/

namespace SchoolAtlas

open Csv (Cell)
open Text (trim StartsBlank)
open Clean (storedText? storedLanguage? Spelled WideForm)

/-- The cells that say the fields of a record, each trimmed. -/
def fieldCells (fields : List String) : List Cell :=
  fields.map (fun field => .present (trim field))

section Cells

variable {cell : Cell} {read : Option String} {x : String}

/-- A field that may be empty says what is stored for it. -/
theorem optional?_trim (x : String) :
    (Cell.present (trim x)).optional? some = some (storedText? x) := by
  rw [Cell.optional?, storedText?]
  split <;> rfl

/-- An optional text that was read is not empty, and there is nothing to trim. -/
theorem bare_of_optional? (h : cell.optional? some = some read) (hcell : cell.Bare) {text : String}
    (htext : some text = read) : trim text = text ∧ text ≠ "" := by
  subst htext
  rcases Csv.Cell.present_of_optional? h with ⟨hpresent, hne⟩
  exact ⟨hcell text hpresent, hne⟩

/-- A language that was read is what is stored for some field. -/
theorem stored_of_optional? (h : cell.optional? some = some read) (hcell : cell.Bare) :
    ∃ x, read.map Clean.language = storedLanguage? x := by
  cases read with
  | none => exact ⟨"", rfl⟩
  | some text =>
      rcases bare_of_optional? h hcell rfl with ⟨htrim, hne⟩
      refine ⟨text, Eq.symm (Clean.storedLanguage?_eq_some_iff.mpr ⟨?_, ?_⟩)⟩
      · rw [htrim]
        exact hne
      · rw [htrim]

/-- An optional text is stored again as it is. -/
theorem storedText?_getD {text : Option String}
    (h : ∀ t, some t = text → trim t = t ∧ t ≠ "") : storedText? (text.getD "") = text := by
  cases text with
  | none => rfl
  | some t =>
      rcases h t rfl with ⟨htrim, hne⟩
      refine Clean.storedText?_eq_some_iff.mpr ⟨?_, htrim.symm⟩
      rw [Option.getD_some, htrim]
      exact hne

theorem trim_of_text? {text : String} (h : cell.text? = some text) (hcell : cell.Bare) :
    trim text = text := by
  cases cell with
  | present field =>
      rw [Cell.text?, Option.some.injEq] at h
      exact hcell text (congrArg Cell.present h)
  | beyondEnd => exact absurd h (by simp only [Cell.text?, reduceCtorEq, not_false_eq_true])
  | noColumn => exact absurd h (by simp only [Cell.text?, reduceCtorEq, not_false_eq_true])

/-- A text that nothing is read from when it is empty is read as it is. -/
theorem optional?_of_read {α : Type} {read : String → Option α} {text : String} {a : α}
    (hempty : read "" = none) (h : read text = some a) :
    (Cell.present text).optional? read = some (some a) := by
  have hne : text.isEmpty = false := by
    refine Bool.eq_false_iff.mpr (fun he => ?_)
    rw [String.isEmpty_iff.mp he, hempty] at h
    exact absurd h (by simp only [reduceCtorEq, not_false_eq_true])
  rw [Cell.optional?, hne, if_neg Bool.false_ne_true, h, Option.map_some]

theorem le_of_integer? {text : String} {n : Int} (h : Csv.integer? text = some n) :
    n ≤ Int64.maxValue.toInt := by
  have hrange := (Option.filter_eq_some_iff.mp h).2
  rw [Bool.and_eq_true, decide_eq_true_eq, decide_eq_true_eq] at hrange
  exact hrange.2

theorem getD_le_of_optional? {n : Option Int} (h : cell.optional? Csv.integer? = some n) :
    n.getD 0 ≤ Int64.maxValue.toInt := by
  -- A count that is missing is zero, and one that is there was read as a word.
  cases n with
  | none => exact Int.le_of_lt (by decide)
  | some n =>
      cases cell with
      | present text =>
          rw [Cell.optional?] at h
          split at h
          · exact absurd h (by simp only [Option.some.injEq, reduceCtorEq, not_false_eq_true])
          · simp only [Option.map_eq_some_iff, Option.some.injEq, exists_eq_right] at h
            exact le_of_integer? h
      | beyondEnd =>
          exact absurd h (by simp only [Cell.optional?, Option.some.injEq, reduceCtorEq,
            not_false_eq_true])
      | noColumn =>
          exact absurd h (by simp only [Cell.optional?, Option.some.injEq, reduceCtorEq,
            not_false_eq_true])

end Cells

namespace Enrolment

/-- The fields of an enrolment as it is written to a file. -/
def fields (e : Enrolment) : List String :=
  [e.school, e.level, e.language.getD "", toString e.students]

/-- An enrolment as it is read again. -/
def reread (e : Enrolment) : Enrolment := { e with language := e.language.map trim }

/-- An enrolment is what is stored for some fields. -/
structure Stored (e : Enrolment) : Prop where
  school : trim e.school = e.school
  level : trim e.level = e.level
  spelled : Spelled e.level
  language : ∃ x, e.language = storedLanguage? x
  students_nonneg : 0 ≤ e.students
  students_le : e.students ≤ Int64.maxValue.toInt

/-- What is stored for the fields of an enrolment. -/
theorem ofCells?_fieldCells {students : String} {n : Option Int}
    (h : (Cell.present (trim students)).optional? Csv.integer? = some n)
    (school level language : String) :
    ofCells? (fieldCells [school, level, language, students])
      = some ⟨trim school, Clean.diacritics (trim level), storedLanguage? language,
          max (n.getD 0) 0⟩ := by
  simp only [fieldCells, List.map_cons, List.map_nil, ofCells?, Cell.text?, optional?_trim, h,
    Option.bind_eq_bind, Option.bind_some, Option.pure_def, storedLanguage?]

theorem stored_of_ofCells? {cells : List Cell} {e : Enrolment} (h : ofCells? cells = some e)
    (hcells : ∀ cell ∈ cells, cell.Bare) : e.Stored := by
  have hnonneg := Register.students_nonneg_of_ofCells h
  unfold ofCells? at h
  -- Each field comes from its own cell, and has what reading the cell leaves.
  split at h
  · simp only [Option.pure_def, Option.bind_eq_bind, Option.bind_eq_some_iff,
      Option.some.injEq] at h
    rcases h with ⟨_, hschool, _, hlevel, _, hlanguage, n, hn, rfl⟩
    simp only [List.forall_mem_cons] at hcells
    rcases hcells with ⟨school, level, language, _⟩
    exact {
      school := trim_of_text? hschool school
      level := Clean.trim_diacritics (trim_of_text? hlevel level)
      spelled := Clean.spelled_diacritics _
      language := stored_of_optional? hlanguage language
      students_nonneg := hnonneg
      students_le := Int.max_le.mpr ⟨getD_le_of_optional? hn, by decide⟩ }
  · exact absurd h (by simp only [reduceCtorEq, not_false_eq_true])

/-- An enrolment that is written to a file is read again, with its language trimmed. -/
theorem Stored.ofCells?_fields {e : Enrolment} (h : e.Stored) :
    ofCells? (fieldCells e.fields) = some e.reread := by
  rcases h.language with ⟨x, hx⟩
  have hstudents : (Cell.present (trim (toString e.students))).optional? Csv.integer?
      = some (some e.students) := by
    rw [Csv.trim_toString h.students_nonneg]
    exact optional?_of_read (by decide) (Csv.integer?_toString h.students_nonneg h.students_le)
  refine (ofCells?_fieldCells hstudents e.school e.level _).trans ?_
  rw [h.school, h.level, Clean.diacritics_eq_self h.spelled, hx, Clean.storedLanguage?_getD, reread,
    hx, Option.getD_some, Int.max_eq_left h.students_nonneg]

end Enrolment

namespace BacResult

variable {gradeText : Float → String}

/-- Grades are written so that a number can be read. -/
def Legible (gradeText : Float → String) : Prop :=
  ∀ x : Float, ¬x.isNaN = true → (Csv.real? (trim (gradeText x))).isSome = true

/-- The fields of a candidate of the baccalaureate as it is written to a file. -/
def fields (gradeText : Float → String) (b : BacResult) : List String :=
  [b.school, b.sex.getD "", b.profile.getD "", b.motherTongue.getD "", b.foreignLanguage.getD "",
    b.result.getD "", (b.grade.map gradeText).getD ""]

/-- A grade as it is read again. -/
def rereadGrade (gradeText : Float → String) (grade : Option Float) : Option Float :=
  (grade? (.present (trim ((grade.map gradeText).getD "")))).getD none

/-- A candidate of the baccalaureate as it is read again. -/
def reread (gradeText : Float → String) (b : BacResult) : BacResult :=
  { b with
    motherTongue := b.motherTongue.map trim
    foreignLanguage := b.foreignLanguage.map trim
    grade := rereadGrade gradeText b.grade }

/-- A candidate of the baccalaureate is what is stored for some fields. -/
structure Stored (b : BacResult) : Prop where
  school : trim b.school = b.school
  texts : ∀ text, some text ∈ [b.sex, b.profile, b.result] → trim text = text ∧ text ≠ ""
  motherTongue : ∃ x, b.motherTongue = storedLanguage? x
  foreignLanguage : ∃ x, b.foreignLanguage = storedLanguage? x
  defined : ∀ grade, b.grade = some grade → ¬grade.isNaN = true

/-- What is stored for the fields of a candidate. -/
theorem ofCells?_fieldCells {written : String} {grade : Option Float}
    (h : grade? (.present (trim written)) = some grade)
    (school sex profile motherTongue foreignLanguage result : String) :
    ofCells? (fieldCells
        [school, sex, profile, motherTongue, foreignLanguage, result, written])
      = some ⟨trim school, storedText? sex, storedText? profile, storedLanguage? motherTongue,
          storedLanguage? foreignLanguage, storedText? result, grade⟩ := by
  simp only [fieldCells, List.map_cons, List.map_nil, ofCells?, Cell.text?, optional?_trim, h,
    Option.bind_eq_bind, Option.bind_some, Option.pure_def, storedLanguage?]

theorem stored_of_ofCells? {cells : List Cell} {b : BacResult} (h : ofCells? cells = some b)
    (hcells : ∀ cell ∈ cells, cell.Bare) : b.Stored := by
  have hgrade : ∀ grade, b.grade = some grade → ¬grade.isNaN = true :=
    fun _ hgrade => Register.not_isNaN_of_bacCells h hgrade
  unfold ofCells? at h
  split at h
  · simp only [Option.pure_def, Option.bind_eq_bind, Option.bind_eq_some_iff,
      Option.some.injEq] at h
    rcases h with ⟨_, hschool, _, hsex, _, hprofile, _, hmother, _, hforeign, _, hresult, _, _, rfl⟩
    simp only [List.forall_mem_cons] at hcells
    rcases hcells with ⟨school, sex, profile, mother, foreign, result, _⟩
    refine ⟨trim_of_text? hschool school, fun text htext => ?_, stored_of_optional? hmother mother,
      stored_of_optional? hforeign foreign, hgrade⟩
    -- Three of the fields are kept as they are written, once they are trimmed.
    simp only [List.mem_cons, List.not_mem_nil, or_false] at htext
    rcases htext with htext | htext | htext
    · exact bare_of_optional? hsex sex htext
    · exact bare_of_optional? hprofile profile htext
    · exact bare_of_optional? hresult result htext
  · exact absurd h (by simp only [reduceCtorEq, not_false_eq_true])

/-- A grade that is written so that a number can be read is no obstacle. -/
theorem grade?_of_legible (hlegible : Legible gradeText) {grade : Option Float}
    (h : ∀ x, grade = some x → ¬x.isNaN = true) :
    grade? (.present (trim ((grade.map gradeText).getD "")))
      = some (rereadGrade gradeText grade) := by
  -- A grade that was written can be read, if only as none.
  have hread : ∃ again, grade? (.present (trim ((grade.map gradeText).getD ""))) = some again := by
    cases grade with
    | none => exact ⟨none, rfl⟩
    | some x =>
        rcases Option.isSome_iff_exists.mp (hlegible x (h x rfl)) with ⟨y, hy⟩
        rw [Option.map_some, Option.getD_some, grade?, Cell.optional?, hy]
        split
        · exact ⟨none, rfl⟩
        · exact ⟨storedGrade? y, rfl⟩
  rcases hread with ⟨again, hagain⟩
  rw [rereadGrade, hagain, Option.getD_some]

/-- A candidate that is written to a file is read again, with both languages trimmed. -/
theorem Stored.ofCells?_fields {b : BacResult} (h : b.Stored) (hlegible : Legible gradeText) :
    ofCells? (fieldCells (b.fields gradeText)) = some (b.reread gradeText) := by
  have hgrade := grade?_of_legible hlegible h.defined
  have htext : ∀ {text}, text ∈ [b.sex, b.profile, b.result] →
      storedText? (text.getD "") = text :=
    fun hmem => storedText?_getD (fun t ht => h.texts t (ht ▸ hmem))
  refine (ofCells?_fieldCells hgrade b.school _ _ _ _ _).trans ?_
  -- Both languages have been stored, so reading them again is storing them twice.
  rcases h.motherTongue with ⟨x, hx⟩
  rcases h.foreignLanguage with ⟨x', hx'⟩
  rw [h.school, htext List.mem_cons_self, htext (List.mem_cons_of_mem _ List.mem_cons_self),
    htext (List.mem_cons_of_mem _ (List.mem_cons_of_mem _ List.mem_cons_self)), hx, hx',
    Clean.storedLanguage?_getD, Clean.storedLanguage?_getD, reread, hx, hx']

end BacResult

namespace Register

variable {quote : String → Bool} {gradeText : Float → String} {r : Register}

/-- The languages that are stored, those of the enrolments first. -/
def languages (r : Register) : List (Option String) :=
  r.enrolments.map Enrolment.language
    ++ r.bacResults.flatMap (fun b => [b.motherTongue, b.foreignLanguage])

/-- The tables that have languages, written to files. -/
def exported (quote : String → Bool) (gradeText : Float → String) (r : Register) :
    List (Table × String) :=
  [(.enrolments, Csv.written quote (Enrolment.columns :: r.enrolments.map Enrolment.fields)),
    (.bacResults,
      Csv.written quote (BacResult.columns :: r.bacResults.map (BacResult.fields gradeText)))]

/-- The register that these files are loaded into, when there is nothing in it. -/
def reloaded (quote : String → Bool) (gradeText : Float → String) (r : Register) : Register :=
  Register.empty.loadEach (r.exported quote gradeText)

/-- The rows of a file are read from the trimmed fields of its records. -/
theorem readable_written {α : Type} {columns : List String} {ofCells? : List Cell → Option α}
    (hnodup : columns.Nodup) (htrim : columns.map trim = columns) (hlong : 1 < columns.length)
    {rows : List (List String)} (hrows : ∀ fields ∈ rows, fields.length = columns.length) :
    readable columns ofCells? (Csv.written quote (columns :: rows))
      = rows.filterMap (fun fields => ofCells? (fieldCells fields)) := by
  -- Rows of several columns are records, even if all their fields are empty.
  have hrecords : ∀ fields ∈ columns :: rows, Csv.IsRecord fields := by
    rw [List.forall_mem_cons]
    exact ⟨Csv.isRecord_of_length hlong,
      fun fields hfields => Csv.isRecord_of_length (hrows fields hfields ▸ hlong)⟩
  rw [readable, Csv.table_written hrecords, htrim, List.filterMap_map]
  refine List.filterMap_congr (fun fields hfields => ?_)
  have hlength : (fields.map trim).length = columns.length := by
    rw [List.length_map, hrows fields hfields]
  rw [Function.comp_apply, readRecord, Csv.cells?_self hnodup hlength, Option.bind_some,
    List.map_map]
  rfl

theorem loadEnrolments_eq (r : Register) (text : String) : r.loadEnrolments text
    = { r with
        enrolments := r.enrolments ++ readable Enrolment.columns Enrolment.ofCells? text } := by
  rw [loadEnrolments, filterMap_readRows]

theorem loadBacResults_eq (r : Register) (text : String) : r.loadBacResults text
    = { r with
        bacResults := r.bacResults ++ readable BacResult.columns BacResult.ofCells? text } := by
  rw [loadBacResults, filterMap_readRows]

theorem enrolments_written {rows : List (List String)}
    (hrows : ∀ fields ∈ rows, fields.length = 4) :
    readable Enrolment.columns Enrolment.ofCells? (Csv.written quote (Enrolment.columns :: rows))
      = rows.filterMap (fun fields => Enrolment.ofCells? (fieldCells fields)) :=
  readable_written (by decide) (by decide) (by decide) hrows

theorem bacResults_written {rows : List (List String)}
    (hrows : ∀ fields ∈ rows, fields.length = 7) :
    readable BacResult.columns BacResult.ofCells? (Csv.written quote (BacResult.columns :: rows))
      = rows.filterMap (fun fields => BacResult.ofCells? (fieldCells fields)) :=
  readable_written (by decide) (by decide) (by decide) hrows

/-- What the language of a single enrolment is stored as. -/
theorem languages_enrolment (quote : String → Bool) (school level x : String) :
    (Register.empty.loadEach
        [(.enrolments, Csv.written quote [Enrolment.columns, [school, level, x, ""]])]).languages
      = [storedLanguage? x] := by
  have hread := @Enrolment.ofCells?_fieldCells "" none rfl school level x
  change (Register.empty.loadEnrolments _).languages = _
  rw [loadEnrolments_eq, enrolments_written (List.forall_mem_singleton.mpr rfl)]
  simp only [List.filterMap_cons, List.filterMap_nil, hread, languages, empty, List.nil_append,
    List.map_cons, List.map_nil, List.flatMap_nil, List.append_nil]

/-- What the languages of a single candidate are stored as. -/
theorem languages_bacResult (quote : String → Bool) (school sex profile x x' result : String) :
    (Register.empty.loadEach [(.bacResults, Csv.written quote
        [BacResult.columns, [school, sex, profile, x, x', result, ""]])]).languages
      = [storedLanguage? x, storedLanguage? x'] := by
  have hread := @BacResult.ofCells?_fieldCells "" none rfl school sex profile x x' result
  change (Register.empty.loadBacResults _).languages = _
  rw [loadBacResults_eq, bacResults_written (List.forall_mem_singleton.mpr rfl)]
  simp only [List.filterMap_cons, List.filterMap_nil, hread, languages, empty, List.nil_append,
    List.map_nil, List.flatMap_cons, List.flatMap_nil, List.append_nil]

/-- The rows of one register that have languages are those of another, read again. -/
structure Reread (gradeText : Float → String) (r again : Register) : Prop where
  enrolments : again.enrolments = r.enrolments.map Enrolment.reread
  bacResults : again.bacResults = r.bacResults.map (BacResult.reread gradeText)

/-- Rows that are read again have their languages trimmed. -/
theorem Reread.languages {again : Register} (h : Reread gradeText r again) :
    again.languages = r.languages.map (·.map trim) := by
  rw [Register.languages, Register.languages, h.enrolments, h.bacResults, List.map_append,
    List.map_map, List.map_map, List.flatMap_map, List.map_flatMap]
  rfl

/-- The rows of a register that was filled from files are what is stored for some fields. -/
theorem Reached.stored_rows (hr : r.Reached) :
    (∀ e ∈ r.enrolments, e.Stored) ∧ ∀ b ∈ r.bacResults, b.Stored := by
  rcases hr.rows_read with ⟨hes, hbs, _⟩
  constructor
  · intro e he
    rcases (hes e he).exists_bare with ⟨cells, hbare, hcells⟩
    exact Enrolment.stored_of_ofCells? hcells hbare
  · intro b hb
    rcases (hbs b hb).exists_bare with ⟨cells, hbare, hcells⟩
    exact BacResult.stored_of_ofCells? hcells hbare

/-- The tables of a register that was filled from files are read again row by row. -/
theorem Reached.reread (hr : r.Reached) (hlegible : BacResult.Legible gradeText) :
    Reread gradeText r (r.reloaded quote gradeText) := by
  rcases hr.stored_rows with ⟨hes, hbs⟩
  -- Row by row, the table that is read is the one that was written.
  have henrolments : readable Enrolment.columns Enrolment.ofCells?
      (Csv.written quote (Enrolment.columns :: r.enrolments.map Enrolment.fields))
        = r.enrolments.map Enrolment.reread := by
    rw [enrolments_written (List.forall_mem_map.mpr (fun _ _ => rfl)), List.filterMap_map,
      ← List.filterMap_eq_map]
    exact List.filterMap_congr (fun e he => (hes e he).ofCells?_fields)
  have hbacResults : readable BacResult.columns BacResult.ofCells?
      (Csv.written quote (BacResult.columns :: r.bacResults.map (BacResult.fields gradeText)))
        = r.bacResults.map (BacResult.reread gradeText) := by
    rw [bacResults_written (List.forall_mem_map.mpr (fun _ _ => rfl)), List.filterMap_map,
      ← List.filterMap_eq_map]
    exact List.filterMap_congr (fun b hb => (hbs b hb).ofCells?_fields hlegible)
  have hload : r.reloaded quote gradeText
      = (Register.empty.loadEnrolments _).loadBacResults _ := rfl
  rw [hload, loadEnrolments_eq, loadBacResults_eq, henrolments, hbacResults]
  exact ⟨rfl, rfl⟩

/-- A language of a register that was filled from files is what is stored for some field. -/
theorem Reached.stored_language (hr : r.Reached) {y : String} (h : some y ∈ r.languages) :
    ∃ x, storedLanguage? x = some y := by
  rcases hr.stored_rows with ⟨hes, hbs⟩
  -- A language belongs to an enrolment, or it is one of the two of a candidate.
  rcases List.mem_append.mp h with he | hb
  · rcases List.mem_map.mp he with ⟨e, he, hy⟩
    rcases (hes e he).language with ⟨x, hx⟩
    exact ⟨x, hx ▸ hy⟩
  · rcases List.mem_flatMap.mp hb with ⟨b, hb, hy⟩
    simp only [List.mem_cons, List.not_mem_nil, or_false] at hy
    rcases hy with hy | hy
    · rcases (hbs b hb).motherTongue with ⟨x, hx⟩
      exact ⟨x, hx ▸ hy.symm⟩
    · rcases (hbs b hb).foreignLanguage with ⟨x, hx⟩
      exact ⟨x, hx ▸ hy.symm⟩

theorem Reached.trim_eq_self_iff (hr : r.Reached) {y : String} (h : some y ∈ r.languages) :
    trim y = y ↔ ¬StartsBlank y := by
  rcases hr.stored_language h with ⟨x, hx⟩
  rcases Clean.storedLanguage?_eq_some_iff.mp hx with ⟨_, rfl⟩
  rw [Text.trim_eq_self_iff, and_iff_left (Clean.not_endsBlank_language (Text.trim_trim x))]

/-- Trimming changes a stored language exactly if it begins with a blank. -/
theorem Reached.map_trim_languages_iff (hr : r.Reached) :
    r.languages.map (·.map trim) = r.languages ↔
      ∀ y, some y ∈ r.languages → ¬StartsBlank y := by
  constructor
  -- The lists are the same only if they are at every place.
  · intro h y hy
    rw [← List.map_id r.languages, List.map_map, List.map_eq_map_iff] at h
    exact (hr.trim_eq_self_iff hy).mp (Option.some.inj (h _ hy))
  · intro h
    refine (List.map_congr_left (fun language hlanguage => ?_)).trans (List.map_id _)
    cases language with
    | none => rfl
    | some y => exact congrArg some ((hr.trim_eq_self_iff hlanguage).mpr (h y hlanguage))

/-- A second reading finds nothing to trim. -/
theorem Reached.languages_reloaded_twice (hr : r.Reached)
    (hlegible : BacResult.Legible gradeText) :
    ((r.reloaded quote gradeText).reloaded quote gradeText).languages
      = (r.reloaded quote gradeText).languages := by
  have hagain : (r.reloaded quote gradeText).Reached := Reached.empty.loadEach _
  have htwice : (fun language : Option String => (language.map trim).map trim) = (·.map trim) :=
    funext (fun language => by
      rw [Option.map_map]
      exact congrArg (language.map ·) (funext Text.trim_trim))
  rw [(hagain.reread hlegible).languages, (hr.reread hlegible).languages, List.map_map]
  exact congrArg (r.languages.map ·) htwice

/-- What is stored for a language is stored again without blanks at its ends, and so as it is
    exactly if there was no more than one blank after the word that was cut off. A register that is
    written to files and loaded again has its languages trimmed and nothing else in its enrolments
    changed. It has the same languages exactly if none of them begins with a blank, and a second
    time it always has. Stored languages that do not begin with a blank differ by more than white
    space at their ends. -/
theorem languages_reloaded (quote : String → Bool) (gradeText : Float → String)
    (hlegible : BacResult.Legible gradeText) {r : Register} (hr : r.Reached) :
    ((∀ school level x, (Register.empty.loadEach [(.enrolments, Csv.written quote
          [Enrolment.columns, [school, level, x, ""]])]).languages = [storedLanguage? x]) ∧
      ∀ school sex profile x x' result, (Register.empty.loadEach [(.bacResults, Csv.written quote
          [BacResult.columns, [school, sex, profile, x, x', result, ""]])]).languages
        = [storedLanguage? x, storedLanguage? x']) ∧
    (∀ x y, storedLanguage? x = some y → storedLanguage? y = some (trim y) ∧
      (storedLanguage? y = some y ↔ ¬WideForm (trim x)) ∧ (StartsBlank y ↔ WideForm (trim x))) ∧
    (Reread gradeText r (r.reloaded quote gradeText) ∧
      (r.reloaded quote gradeText).languages = r.languages.map (·.map trim) ∧
      ((r.reloaded quote gradeText).languages = r.languages ↔
        ∀ y, some y ∈ r.languages → ¬StartsBlank y) ∧
      ((r.reloaded quote gradeText).reloaded quote gradeText).languages
        = (r.reloaded quote gradeText).languages) ∧
    ∀ y y', some y ∈ r.languages → some y' ∈ r.languages → ¬StartsBlank y → ¬StartsBlank y' →
      trim y = trim y' → y = y' := by
  have hreread : Reread gradeText r (r.reloaded quote gradeText) := hr.reread hlegible
  -- What is said of reloading rests on its trimming the languages and doing no more.
  refine ⟨⟨languages_enrolment quote, languages_bacResult quote⟩, fun x y h => ?_,
    ⟨hreread, hreread.languages, ?_, hr.languages_reloaded_twice hlegible⟩,
    fun y y' hy hy' hfirst hfirst' h => ?_⟩
  · refine ⟨Clean.storedLanguage?_of_stored h, Clean.storedLanguage?_eq_self_iff h, ?_⟩
    rcases Clean.storedLanguage?_eq_some_iff.mp h with ⟨_, rfl⟩
    exact Clean.startsBlank_language_iff (Text.trim_trim x)
  · rw [hreread.languages]
    exact hr.map_trim_languages_iff
  · rw [(hr.trim_eq_self_iff hy).mpr hfirst, (hr.trim_eq_self_iff hy').mpr hfirst'] at h
    exact h

/-- Enrolments in one language that is written in two ways. -/
def wideEnrolments : String :=
  "cod_siiir_unitate,nivel,limba_de_predare\n1,Primar,Limba  Maghiară\n2,Primar,Limba Maghiară\n"

/-- A candidate who was examined in another. -/
def wideCandidates : String := "school_code,foreign_lang,mean_grade\n1,Limba  Engleză,8.5\n"

/-- One language is stored in two ways that differ by a blank, and read again in one. -/
theorem wideEnrolments_reloaded :
    let r := Register.empty.loadEach [(.enrolments, wideEnrolments), (.bacResults, wideCandidates)]
    r.languages = [some " maghiară", some "maghiară", none, some " engleză"] ∧
      (r.reloaded (fun _ => false) (fun _ => "8.5")).languages
        = [some "maghiară", some "maghiară", none, some "engleză"] := by
  intro r
  have hlanguages : r.languages
      = [some " maghiară", some "maghiară", none, some " engleză"] := by
    decide +kernel
  have hread : (Csv.real? (trim "8.5")).isSome = true := by decide +kernel
  -- The first language has one blank too many, and it is trimmed away with the next load.
  have hreloaded := (languages_reloaded (fun _ => false) (fun _ => "8.5") (fun _ _ => hread)
    (Reached.empty.loadEach _ : r.Reached)).2.2.1.2.1
  refine ⟨hlanguages, hreloaded.trans ?_⟩
  rw [hlanguages]
  decide +kernel

/-- A field that is what was stored for a language. -/
def storedField : String := "cod_siiir_unitate,nivel,limba_de_predare\n1,Primar,\" maghiară\"\n"

/-- A language that was stored is not always stored again, and two can differ by a blank alone. -/
theorem languages_not_canonical :
    (Register.empty.loadEach [(.enrolments, wideEnrolments)]).languages
        = [some " maghiară", some "maghiară"] ∧
      (Register.empty.loadEach [(.enrolments, storedField)]).languages = [some "maghiară"] := by
  decide +kernel

end Register

end SchoolAtlas
