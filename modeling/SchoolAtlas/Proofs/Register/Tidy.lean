import SchoolAtlas.Proofs.Register.Clean
import SchoolAtlas.Proofs.Register.Reached

/-!
# What Is Stored

A register that was filled from files holds nothing that loading was to keep out.

Four tables are loaded, each with its own cleaning, and one of them can be refused. What is said of
a row that is stored is said of it when it is read: rows are added and replaced, and never changed
(`Register.schools_of_load`, `Register.rows_of_load`). So the work is to look at each kind of row as
it is read from its cells, and the induction over the loads is the same for all of them.

Most of it is in the cells. An optional text is either missing or not empty
(`Csv.Cell.present_of_optional?`), and what cleaning makes of a text that is not empty must not be
empty either. For a language in the long form this needs more than its cell: only because fields are
trimmed is there something after the word for language. That is why rows are read from trimmed
cells, and why the table is looked at as far back as its fields.

Nothing is said of texts that have to be there. They may be empty, and are then stored as they are.

## Main definitions

* `Csv.Cell.Trimmed`: A cell does not end with white space.
* `Csv.Cell.Bare`: Trimming leaves a cell as it is.
* `School.Tidy`, `Enrolment.Tidy`, `BacResult.Tidy`, `EvaluationResult.Tidy`: Rows as they should be
  stored.
* `Register.Tidy`: All rows are, and schools have identifiers of their own.
* `Register.loadEach`: Loads files one after another, refused or not.

## Theorems

* `Csv.mem_of_cells?`: The cells of a row say what is in its record.
* `Register.ReadFrom.exists_bare`: The cells that a row was read from are trimmed.
* `School.tidy_of_ofCells?` and its like: Rows are read as they should be stored.
* `Register.Tidy.load`: Loading keeps a register tidy.
* `Register.tidy_loaded`: Every register that was filled from files is tidy.
-/

namespace SchoolAtlas

namespace Csv

/-- A cell does not end with white space. -/
def Cell.Trimmed (cell : Cell) : Prop := ∀ text, cell = .present text → ¬Text.EndsBlank text

/-- Trimming leaves a cell as it is. -/
def Cell.Bare (cell : Cell) : Prop := ∀ text, cell = .present text → Text.trim text = text

theorem Cell.Bare.trimmed {cell : Cell} (h : cell.Bare) : cell.Trimmed :=
  fun text htext => (Text.trim_eq_self_iff.mp (h text htext)).2

/-- Every field of a record was trimmed. -/
theorem trim_of_mem_records {text : String} {record : List String}
    (h : record ∈ (table text).records) : ∀ field ∈ record, Text.trim field = field := by
  have htail : (table text).records = (records text).tail := by
    rw [table]
    cases records text <;> rfl
  rw [htail] at h
  rcases List.mem_map.mp (List.mem_of_mem_tail h) with ⟨fields, _, rfl⟩
  intro field hfield
  rcases List.mem_map.mp hfield with ⟨untrimmed, _, rfl⟩
  exact Text.trim_trim untrimmed

/-- What is present in a column is a field of the record. -/
theorem mem_of_mem_columns {header record : List String} {column : String × Cell} {text : String}
    (h : column ∈ columns header record) (htext : column.2 = .present text) : text ∈ record := by
  -- Columns are paired with fields until these run out.
  induction header generalizing record with
  | nil => exact absurd h List.not_mem_nil
  | cons first names ih =>
      cases record with
      | nil =>
          rcases List.mem_cons.mp h with rfl | hrest
          · exact absurd htext (by simp only [reduceCtorEq, not_false_eq_true])
          · exact absurd (ih hrest) List.not_mem_nil
      | cons field fields =>
          rcases List.mem_cons.mp h with rfl | hrest
          · rw [Cell.present.injEq] at htext
            exact htext ▸ List.mem_cons_self
          · exact List.mem_cons_of_mem _ (ih hrest)

theorem mem_of_cell? {header record : List String} {name text : String}
    (h : cell? (columns header record) name = some (.present text)) : text ∈ record := by
  rw [cell?] at h
  split at h
  · exact absurd h (by simp only [Option.some.injEq, reduceCtorEq, not_false_eq_true])
  · next column hfilter =>
    have hmem : column ∈ columns header record :=
      List.mem_of_mem_filter (hfilter ▸ List.mem_singleton_self column)
    exact mem_of_mem_columns hmem (Option.some.inj h)
  · exact absurd h (by simp only [reduceCtorEq, not_false_eq_true])

/-- The cells of a row say nothing that is not in its record. -/
theorem mem_of_cells? {names header record : List String} {cells : List Cell} {text : String}
    (h : cells? names header record = some cells) (htext : .present text ∈ cells) :
    text ∈ record := by
  rw [cells?] at h
  split at h
  · rw [(Lists.mapM_eq_some_iff.mp h).2] at htext
    rcases List.mem_filterMap.mp htext with ⟨name, _, hname⟩
    exact mem_of_cell? hname
  · exact absurd h (by simp only [reduceCtorEq, not_false_eq_true])

/-- A text that may be missing is present if it is not, and is not empty. -/
theorem Cell.present_of_optional? {cell : Cell} {text : String}
    (h : cell.optional? some = some (some text)) : cell = .present text ∧ text ≠ "" := by
  -- Only a cell that is there, and not empty, has a text to give.
  cases cell with
  | present written =>
      rw [Cell.optional?] at h
      split at h
      · exact absurd h (by simp only [Option.some.injEq, reduceCtorEq, not_false_eq_true])
      · next hempty =>
        simp only [Option.map_some, Option.some.injEq] at h
        subst h
        exact ⟨rfl, fun heq => hempty (heq ▸ rfl)⟩
  | beyondEnd => exact absurd h (by simp only [Cell.optional?, Option.some.injEq, reduceCtorEq,
      not_false_eq_true])
  | noColumn => exact absurd h (by simp only [Cell.optional?, Option.some.injEq, reduceCtorEq,
      not_false_eq_true])

end Csv

open Csv (Cell)

variable {cell : Cell} {read : Option String}

/-- What holds of all texts that a function gives holds of one that was read through it. -/
theorem of_eq_map {P : String → Prop} {f : String → String} (hf : ∀ text, P (f text))
    {text : String} (h : some text = read.map f) : P text := by
  rcases Option.map_eq_some_iff.mp h.symm with ⟨original, _, rfl⟩
  exact hf original

/-- A text that may be missing is not empty, and neither is what is stored for it, if the
    cleaning does not empty it. -/
theorem ne_map_of_optional? {f : String → String} (h : cell.optional? some = some read)
    (hf : ∀ text, cell = .present text → text ≠ "" → f text ≠ "") : some "" ≠ read.map f := by
  intro hempty
  rcases Option.map_eq_some_iff.mp hempty.symm with ⟨text, rfl, htext⟩
  rcases Cell.present_of_optional? h with ⟨hpresent, hne⟩
  exact hf text hpresent hne htext

theorem ne_of_optional? (h : cell.optional? some = some read) : some "" ≠ read := by
  have hne := ne_map_of_optional? (f := id) h (fun _ _ hne => hne)
  rwa [Option.map_id, id_eq] at hne

theorem ne_diacritics_of_optional? (h : cell.optional? some = some read) :
    some "" ≠ read.map Clean.diacritics :=
  ne_map_of_optional? h (fun _ _ hne => Clean.diacritics_ne_empty hne)

theorem ne_language_of_optional? (h : cell.optional? some = some read) (hcell : cell.Trimmed) :
    some "" ≠ read.map Clean.language :=
  ne_map_of_optional? h (fun text hpresent hne => Clean.language_ne_empty hne (hcell text hpresent))

namespace School

/-- A school is stored as it should be: clean, and with nothing empty where nothing would do. -/
structure Tidy (s : School) : Prop where
  spelled : ∀ text, some text ∈ [s.town, some s.name, s.street] → Clean.Spelled text
  written : some "" ∉ [s.town, s.phone, s.email, s.street, s.number]

theorem tidy_of_ofCells? {cells : List Cell} {s : School} (h : ofCells? cells = some s) :
    s.Tidy := by
  unfold ofCells? at h
  split at h
  · simp only [Option.pure_def, Option.bind_eq_bind, Option.bind_eq_some_iff,
      Option.some.injEq] at h
    rcases h with ⟨_, _, _, _, _, htown, _, _, _, hphone, _, hemail, _, hstreet, _, hnumber, rfl⟩
    constructor
    · intro text htext
      simp only [List.mem_cons, List.not_mem_nil, or_false] at htext
      -- Town and street may be missing, the name may not.
      rcases htext with htext | htext | htext
      · exact of_eq_map Clean.spelled_diacritics htext
      · rw [Option.some.inj htext]
        exact Clean.spelled_diacritics _
      · exact of_eq_map Clean.spelled_diacritics htext
    -- What is empty was not read as a text, and respelling makes nothing empty.
    · simp only [List.mem_cons, List.not_mem_nil, or_false, not_or]
      exact ⟨ne_diacritics_of_optional? htown, ne_of_optional? hphone, ne_of_optional? hemail,
        ne_diacritics_of_optional? hstreet, ne_of_optional? hnumber⟩
  · exact absurd h (by simp only [reduceCtorEq, not_false_eq_true])

end School

namespace Enrolment

/-- An enrolment is stored as it should be. -/
structure Tidy (e : Enrolment) : Prop where
  spelled : ∀ text, some text ∈ [some e.level, e.language] → Clean.Spelled text
  short : ∀ text, some text = e.language → ¬Clean.LongForm text
  written : some "" ≠ e.language
  students_nonneg : 0 ≤ e.students

theorem tidy_of_ofCells? {cells : List Cell} {e : Enrolment} (h : ofCells? cells = some e)
    (hcells : ∀ cell ∈ cells, cell.Trimmed) : e.Tidy := by
  have hstudents := Register.students_nonneg_of_ofCells h
  unfold ofCells? at h
  split at h
  · next _ _ language _ =>
    simp only [Option.pure_def, Option.bind_eq_bind, Option.bind_eq_some_iff,
      Option.some.injEq] at h
    rcases h with ⟨_, _, _, _, _, hlanguage, _, _, rfl⟩
    -- The cell has no white space at its end, so taking a word off its front leaves something.
    have htrimmed : language.Trimmed :=
      hcells language (by simp only [List.mem_cons, true_or, or_true])
    refine ⟨fun text htext => ?_, fun text htext => ?_, ?_, hstudents⟩
    · simp only [List.mem_cons, List.not_mem_nil, or_false] at htext
      rcases htext with htext | htext
      · rw [Option.some.inj htext]
        exact Clean.spelled_diacritics _
      · exact of_eq_map Clean.spelled_language htext
    · exact of_eq_map (P := (¬Clean.LongForm ·)) Clean.not_longForm_language htext
    · exact ne_language_of_optional? hlanguage htrimmed
  · exact absurd h (by simp only [reduceCtorEq, not_false_eq_true])

end Enrolment

namespace BacResult

/-- A candidate of the baccalaureate is stored as it should be. -/
structure Tidy (b : BacResult) : Prop where
  spelled : ∀ text, some text ∈ [b.motherTongue, b.foreignLanguage] → Clean.Spelled text
  short : ∀ text, some text ∈ [b.motherTongue, b.foreignLanguage] → ¬Clean.LongForm text
  written : some "" ∉ [b.sex, b.profile, b.motherTongue, b.foreignLanguage, b.result]
  defined : ∀ grade, b.grade = some grade → ¬grade.isNaN = true

theorem tidy_of_ofCells? {cells : List Cell} {b : BacResult} (h : ofCells? cells = some b)
    (hcells : ∀ cell ∈ cells, cell.Trimmed) : b.Tidy := by
  have hgrade : ∀ grade, b.grade = some grade → ¬grade.isNaN = true :=
    fun _ hgrade => Register.not_isNaN_of_bacCells h hgrade
  unfold ofCells? at h
  split at h
  · next _ _ _ motherTongue foreignLanguage _ _ =>
    simp only [Option.pure_def, Option.bind_eq_bind, Option.bind_eq_some_iff,
      Option.some.injEq] at h
    rcases h with ⟨_, _, _, hsex, _, hprofile, _, hmother, _, hforeign, _, hresult, _, _, rfl⟩
    -- Both languages are cells of their own.
    have hmotherCell : motherTongue.Trimmed :=
      hcells motherTongue (by simp only [List.mem_cons, true_or, or_true])
    have hforeignCell : foreignLanguage.Trimmed :=
      hcells foreignLanguage (by simp only [List.mem_cons, true_or, or_true])
    refine ⟨fun text htext => ?_, fun text htext => ?_, ?_, hgrade⟩
    · simp only [List.mem_cons, List.not_mem_nil, or_false] at htext
      rcases htext with htext | htext <;> exact of_eq_map Clean.spelled_language htext
    · simp only [List.mem_cons, List.not_mem_nil, or_false] at htext
      rcases htext with htext | htext <;>
        exact of_eq_map (P := (¬Clean.LongForm ·)) Clean.not_longForm_language htext
    · simp only [List.mem_cons, List.not_mem_nil, or_false, not_or]
      exact ⟨ne_of_optional? hsex, ne_of_optional? hprofile,
        ne_language_of_optional? hmother hmotherCell,
        ne_language_of_optional? hforeign hforeignCell, ne_of_optional? hresult⟩
  · exact absurd h (by simp only [reduceCtorEq, not_false_eq_true])

end BacResult

namespace EvaluationResult

/-- A candidate of the national evaluation is stored as it should be. -/
structure Tidy (e : EvaluationResult) : Prop where
  written : some "" ≠ e.sex
  defined : ∀ grade,
    some grade ∈ [e.majorityLanguageGrade, e.mathematicsGrade, e.grade, e.schoolGrade] →
      ¬grade.isNaN = true

theorem tidy_of_ofCells? {cells : List Cell} {e : EvaluationResult}
    (h : ofCells? cells = some e) : e.Tidy := by
  unfold ofCells? at h
  split at h
  · simp only [Option.pure_def, Option.bind_eq_bind, Option.bind_eq_some_iff,
      Option.some.injEq] at h
    rcases h with ⟨_, _, _, hsex, _, hmajority, _, hmathematics, _, hmean, _, hschool, rfl⟩
    refine ⟨ne_of_optional? hsex, fun grade hgrade => ?_⟩
    simp only [List.mem_cons, List.not_mem_nil, or_false] at hgrade
    -- All four grades are read in one way.
    rcases hgrade with hgrade | hgrade | hgrade | hgrade
    · exact Register.not_isNaN_of_grade (hmajority.trans (congrArg some hgrade.symm))
    · exact Register.not_isNaN_of_grade (hmathematics.trans (congrArg some hgrade.symm))
    · exact Register.not_isNaN_of_grade (hmean.trans (congrArg some hgrade.symm))
    · exact Register.not_isNaN_of_grade (hschool.trans (congrArg some hgrade.symm))
  · exact absurd h (by simp only [reduceCtorEq, not_false_eq_true])

end EvaluationResult

namespace Register

/-- A row that was read was read from trimmed cells. -/
theorem ReadFrom.exists_bare {α : Type} {columns : List String}
    {ofCells? : List Cell → Option α} {row : α} (h : ReadFrom columns ofCells? row) :
    ∃ cells, (∀ cell ∈ cells, cell.Bare) ∧ ofCells? cells = some row := by
  rcases h.exists_record with ⟨text, record, cells, hrecord, hcells, hrow⟩
  refine ⟨cells, fun cell hcell field hfield => ?_, hrow⟩
  exact Csv.trim_of_mem_records hrecord field (Csv.mem_of_cells? hcells (hfield ▸ hcell))

/-- A register in which schools have identifiers of their own and all rows are stored as they
    should be. -/
structure Tidy (r : Register) : Prop where
  nodup_ids : (r.schools.map School.id).Nodup
  schools : ∀ s ∈ r.schools, s.Tidy
  enrolments : ∀ e ∈ r.enrolments, e.Tidy
  bacResults : ∀ b ∈ r.bacResults, b.Tidy
  evaluationResults : ∀ e ∈ r.evaluationResults, e.Tidy

theorem tidy_empty : Register.empty.Tidy where
  nodup_ids := List.nodup_nil
  schools := fun _ hs => absurd hs List.not_mem_nil
  enrolments := fun _ he => absurd he List.not_mem_nil
  bacResults := fun _ hb => absurd hb List.not_mem_nil
  evaluationResults := fun _ he => absurd he List.not_mem_nil

/-- A school that is there after some were put is one of them or was there before. -/
theorem mem_foldl_putSchool {schools new : List School} {s : School}
    (h : s ∈ new.foldl putSchool schools) : s ∈ schools ∨ s ∈ new := by
  induction new generalizing schools with
  | nil => exact Or.inl h
  | cons first rest ih =>
      rcases ih h with hput | hrest
      · rw [putSchool, List.mem_append, List.mem_singleton] at hput
        rcases hput with hold | rfl
        · exact Or.inl (List.mem_of_mem_filter hold)
        · exact Or.inr List.mem_cons_self
      · exact Or.inr (List.mem_cons_of_mem _ hrest)

/-- Loading keeps a register tidy, whatever the text is. -/
theorem Tidy.load {r r' : Register} (h : r.Tidy) {table : Table} {text : String}
    (hload : r.load? table text = some r') : r'.Tidy := by
  rcases schools_of_load hload with ⟨schools, hschools, hread⟩
  rcases rows_of_load hload with ⟨⟨es, hes, hreades⟩, ⟨bs, hbs, hreadbs⟩, ⟨vs, hvs, hreadvs⟩⟩
  -- The schools of a file take the place of others, and other rows are added to those before.
  constructor
  · rw [hschools]
    exact nodup_foldl_putSchool _ schools h.nodup_ids
  · rw [hschools]
    intro s hs
    rcases mem_foldl_putSchool hs with hold | hnew
    · exact h.schools s hold
    · rcases (hread s hnew).exists_cells with ⟨_, hcells⟩
      exact School.tidy_of_ofCells? hcells
  · rw [hes]
    refine List.forall_mem_append.mpr ⟨h.enrolments, fun e he => ?_⟩
    rcases (hreades e he).exists_bare with ⟨_, hbare, hcells⟩
    exact Enrolment.tidy_of_ofCells? hcells (fun cell hcell => (hbare cell hcell).trimmed)
  · rw [hbs]
    refine List.forall_mem_append.mpr ⟨h.bacResults, fun b hb => ?_⟩
    rcases (hreadbs b hb).exists_bare with ⟨_, hbare, hcells⟩
    exact BacResult.tidy_of_ofCells? hcells (fun cell hcell => (hbare cell hcell).trimmed)
  · rw [hvs]
    refine List.forall_mem_append.mpr ⟨h.evaluationResults, fun e he => ?_⟩
    rcases (hreadvs e he).exists_cells with ⟨_, hcells⟩
    exact EvaluationResult.tidy_of_ofCells? hcells

/-- Loads files one after another, each into its table. One that is refused leaves the register
    as it is. -/
def loadEach (r : Register) (files : List (Table × String)) : Register :=
  files.foldl (fun r file => (r.load? file.1 file.2).getD r) r

theorem Reached.loadEach {r : Register} (h : r.Reached) (files : List (Table × String)) :
    (r.loadEach files).Reached := by
  induction files generalizing r with
  | nil => exact h
  | cons file rest ih =>
      have hstep : ((r.load? file.1 file.2).getD r).Reached := by
        cases hload : r.load? file.1 file.2 with
        | none => exact h
        | some r' => exact .load file.1 file.2 h hload
      exact ih hstep

theorem Tidy.loadEach {r : Register} (h : r.Tidy) (files : List (Table × String)) :
    (r.loadEach files).Tidy := by
  induction files generalizing r with
  | nil => exact h
  | cons file rest ih =>
      have hstep : ((r.load? file.1 file.2).getD r).Tidy := by
        cases hload : r.load? file.1 file.2 with
        | none => exact h
        | some r' => exact h.load hload
      exact ih hstep

/-- Whatever files are loaded, in whatever order and whether or not they are refused, the register
    is tidy. -/
theorem tidy_loaded (files : List (Table × String)) : (Register.empty.loadEach files).Tidy :=
  tidy_empty.loadEach files

end Register

end SchoolAtlas
