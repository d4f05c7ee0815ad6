import SchoolAtlas.Proofs.Register.Tidy

/-!
# The Directory of Schools

What a file of schools leaves behind, whether it is loaded or refused.

A file is loaded as a whole or not at all. So a record that cannot be read refuses the file
wherever it stands, and the schools before it are not there either. A file that is loaded has the
last word on all of the identifiers in it and no word on any other: a school is its last record and
nothing else, whatever was known of it before and whatever the file said of it further up.

Schools are put one by one, each in place of an older one, so the list of schools changes at every
step. Its form in the end is simple all the same (`Register.foldl_putSchool_eq`): the older schools
that are not in the file, and then what the file would leave in a register without any. Loading a
file twice comes to the same because of it: after the first time there is no older school whose
identifier is in the file, other than those that the file has put there.

## Main definitions

* `Register.readRecord`: The row that a record says, below a header.
* `Register.readable`: The rows of the records that can be read.
* `School.ofRecord?`: The school that a record says.
* `Register.Renewed`: What a file of schools changes and what it leaves.

## Theorems

* `Register.loadSchools?_eq_none_iff`: A file is refused exactly if a record of it cannot be read.
* `Register.foldl_putSchool_eq`: The schools after some were put.
* `Register.foldl_putSchool_twice`: Putting schools a second time changes nothing.
* `Register.renewed_of_load`: A file that is loaded has the last word on its schools.
* `Register.loadSchools_whole_or_not`: A file of schools is loaded as a whole or not at all.
-/

namespace SchoolAtlas

namespace Register

/-- The row that a record says below a header, if it can be read. -/
def readRecord {α : Type} (columns : List String) (ofCells? : List Csv.Cell → Option α)
    (header record : List String) : Option α :=
  (Csv.cells? columns header record).bind ofCells?

theorem readRows_eq {α : Type} (columns : List String) (ofCells? : List Csv.Cell → Option α)
    (text : String) : readRows columns ofCells? text
      = (Csv.table text).records.map (readRecord columns ofCells? (Csv.table text).header) :=
  rfl

/-- The rows of the records that can be read, in the order of the records. -/
def readable {α : Type} (columns : List String) (ofCells? : List Csv.Cell → Option α)
    (text : String) : List α :=
  (Csv.table text).records.filterMap (readRecord columns ofCells? (Csv.table text).header)

theorem filterMap_readRows {α : Type} (columns : List String)
    (ofCells? : List Csv.Cell → Option α) (text : String) :
    (readRows columns ofCells? text).filterMap id = readable columns ofCells? text := by
  rw [readRows_eq, List.filterMap_map]
  rfl

end Register

/-- The school that a record says below a header, if it can be read. -/
def School.ofRecord? (header record : List String) : Option School :=
  Register.readRecord School.columns School.ofCells? header record

namespace Register

/-- The schools of a file, in the order of its records. -/
def schoolsOf (text : String) : List School := readable School.columns School.ofCells? text

/-- What a file of schools changes in a register and what it leaves. A school in it is what its
    last record says. -/
structure Renewed (r r' : Register) (text : String) : Prop where
  enrolments : r'.enrolments = r.enrolments
  bacResults : r'.bacResults = r.bacResults
  evaluationResults : r'.evaluationResults = r.evaluationResults
  last : ∀ before record after s, (Csv.table text).records = before ++ record :: after →
    School.ofRecord? (Csv.table text).header record = some s →
    (∀ other ∈ after, ∀ t, School.ofRecord? (Csv.table text).header other = some t →
      t.id ≠ s.id) →
    r'.schools.filter (fun t => t.id = s.id) = [s]
  kept : ∀ id, (∀ record ∈ (Csv.table text).records, ∀ s,
      School.ofRecord? (Csv.table text).header record = some s → s.id ≠ id) →
    r'.schools.filter (fun t => t.id = id) = r.schools.filter (fun t => t.id = id)

section Schools

variable {schools new : List School} {s : School} {id : String}

/-- The schools after some were put: the older ones that none of them replaces, and then what they
    leave on their own. -/
theorem foldl_putSchool_eq (schools new : List School) : new.foldl putSchool schools
    = schools.filter (fun t => t.id ∉ new.map School.id) ++ new.foldl putSchool [] := by
  induction new generalizing schools with
  | nil =>
      simp only [List.foldl_nil, List.map_nil, List.not_mem_nil, not_false_eq_true, decide_true,
        List.filter_true, List.append_nil]
  | cons first rest ih =>
      have hsplit : schools.filter (fun t => t.id ∉ (first :: rest).map School.id)
          = (schools.filter (fun t => t.id ≠ first.id)).filter
              (fun t => t.id ∉ rest.map School.id) := by
        rw [List.filter_filter]
        refine List.filter_congr (fun t _ => ?_)
        rw [Bool.eq_iff_iff, Bool.and_eq_true, decide_eq_true_eq, decide_eq_true_eq,
          decide_eq_true_eq, List.map_cons, List.mem_cons, not_or, and_comm]
      -- The first school is put into either list, and what comes after it may replace it.
      rw [List.foldl_cons, List.foldl_cons, ih, @ih (putSchool [] first), putSchool,
        putSchool, List.filter_append, hsplit, List.append_assoc]
      rfl

/-- What some schools leave on their own has their identifiers. -/
theorem id_mem_of_mem_foldl_putSchool (h : s ∈ new.foldl putSchool []) :
    s.id ∈ new.map School.id :=
  List.mem_map_of_mem ((mem_foldl_putSchool h).resolve_left List.not_mem_nil)

theorem filter_foldl_putSchool_of_notMem (h : id ∉ new.map School.id) :
    (new.foldl putSchool schools).filter (fun t => t.id = id)
      = schools.filter (fun t => t.id = id) := by
  have hnew : (new.foldl putSchool []).filter (fun t => t.id = id) = [] := by
    refine List.filter_eq_nil_iff.mpr (fun t ht hid => h ?_)
    exact of_decide_eq_true hid ▸ id_mem_of_mem_foldl_putSchool ht
  rw [foldl_putSchool_eq, List.filter_append, hnew, List.append_nil, List.filter_filter]
  refine List.filter_congr (fun t _ => ?_)
  -- A school with this identifier is among those that are not replaced.
  by_cases hid : t.id = id
  · rw [decide_eq_true hid, decide_eq_true (hid ▸ h)]
    rfl
  · rw [decide_eq_false hid, Bool.false_and]

/-- A school that was put is alone under its identifier. -/
theorem filter_putSchool_self : (putSchool schools s).filter (fun t => t.id = s.id) = [s] := by
  have hnone : (schools.filter (fun t => t.id ≠ s.id)).filter (fun t => t.id = s.id) = [] := by
    refine List.filter_eq_nil_iff.mpr (fun t ht hid => ?_)
    exact of_decide_eq_true (List.mem_filter.mp ht).2 (of_decide_eq_true hid)
  rw [putSchool, List.filter_append, hnone, List.nil_append, List.filter_singleton,
    decide_eq_true rfl]
  rfl

/-- The last school of an identifier stays. -/
theorem filter_foldl_putSchool_last {before after : List School}
    (h : s.id ∉ after.map School.id) :
    ((before ++ s :: after).foldl putSchool schools).filter (fun t => t.id = s.id) = [s] := by
  rw [List.foldl_append, List.foldl_cons, filter_foldl_putSchool_of_notMem h,
    filter_putSchool_self]

/-- Putting schools a second time changes nothing. -/
theorem foldl_putSchool_twice :
    new.foldl putSchool (new.foldl putSchool schools) = new.foldl putSchool schools := by
  have hnone : (new.foldl putSchool []).filter (fun t => t.id ∉ new.map School.id) = [] := by
    refine List.filter_eq_nil_iff.mpr (fun t ht hid => ?_)
    exact of_decide_eq_true hid (id_mem_of_mem_foldl_putSchool ht)
  rw [foldl_putSchool_eq (new.foldl putSchool schools), foldl_putSchool_eq schools,
    List.filter_append, hnone, List.append_nil,
    List.filter_filter]
  simp only [Bool.and_self]

end Schools

variable {r : Register} {text : String}

/-- A file is refused exactly if a record of it cannot be read. -/
theorem loadSchools?_eq_none_iff : r.loadSchools? text = none ↔
    ∃ record ∈ (Csv.table text).records,
      School.ofRecord? (Csv.table text).header record = none := by
  rw [loadSchools?, Option.map_eq_none_iff]
  constructor
  · intro hnone
    by_contra hall
    -- If every record can be read, so can the file.
    have hsome : ∀ row ∈ readRows School.columns School.ofCells? text, (id row).isSome := by
      intro row hrow
      rcases List.mem_map.mp hrow with ⟨record, hrecord, rfl⟩
      exact Option.isSome_iff_ne_none.mpr (fun hread => hall ⟨record, hrecord, hread⟩)
    have hread := Lists.mapM_eq_some_iff.mpr ⟨hsome, rfl⟩
    exact absurd (hnone.symm.trans hread) (by simp only [reduceCtorEq, not_false_eq_true])
  · rintro ⟨record, hrecord, hread⟩
    cases hrows : (readRows School.columns School.ofCells? text).mapM id with
    | none => rfl
    | some schools =>
        have hsome := (Lists.mapM_eq_some_iff.mp hrows).1 _ (List.mem_map_of_mem hrecord)
        change (School.ofRecord? _ record).isSome = true at hsome
        rw [hread] at hsome
        exact absurd hsome Bool.false_ne_true

/-- A file that is not refused has its schools put in the order of its records. -/
theorem loadSchools?_eq_some {r' : Register} (h : r.loadSchools? text = some r') :
    r' = { r with schools := (schoolsOf text).foldl putSchool r.schools } := by
  rw [loadSchools?, Option.map_eq_some_iff] at h
  rcases h with ⟨schools, hschools, rfl⟩
  rw [(Lists.mapM_eq_some_iff.mp hschools).2, filterMap_readRows, schoolsOf]

/-- A file that is loaded has the last word on the schools in it, and no word on anything else. -/
theorem renewed_of_load {r' : Register} (h : r.loadSchools? text = some r') :
    Renewed r r' text := by
  rw [loadSchools?_eq_some h]
  refine ⟨rfl, rfl, rfl, fun before record after s hrecords hread hafter => ?_,
    fun id hid => ?_⟩
  -- The last record with the identifier cuts the file in two, and none of the second part has it.
  · have hnew : schoolsOf text
        = before.filterMap (School.ofRecord? (Csv.table text).header) ++ s
          :: after.filterMap (School.ofRecord? (Csv.table text).header) := by
      rw [schoolsOf, readable, hrecords, List.filterMap_append]
      exact congrArg _ (List.filterMap_cons_some hread)
    change ((schoolsOf text).foldl putSchool r.schools).filter _ = _
    rw [hnew]
    refine filter_foldl_putSchool_last (fun hmem => ?_)
    rcases List.mem_map.mp hmem with ⟨t, ht, hid⟩
    rcases List.mem_filterMap.mp ht with ⟨other, hother, hotherRead⟩
    exact hafter other hother t hotherRead hid
  · refine filter_foldl_putSchool_of_notMem (fun hmem => ?_)
    rcases List.mem_map.mp hmem with ⟨s, hs, hsid⟩
    rcases List.mem_filterMap.mp hs with ⟨record, hrecord, hread⟩
    exact hid record hrecord s hread hsid

/-- Loading a file of schools again changes nothing. -/
theorem load_schools_again {r' : Register} (h : r.loadSchools? text = some r') :
    r'.loadSchools? text = some r' := by
  cases hagain : r'.loadSchools? text with
  | none =>
      -- What refuses a file does not depend on the register.
      rw [loadSchools?_eq_none_iff.mpr (loadSchools?_eq_none_iff.mp hagain)] at h
      exact absurd h (by simp only [reduceCtorEq, not_false_eq_true])
  | some r'' =>
      rw [loadSchools?_eq_some hagain, loadSchools?_eq_some h]
      simp only [foldl_putSchool_twice]

/-- A file of schools is loaded as a whole or not at all. If a record of it cannot be read, wherever
    it stands, the register stays what it was. If all of them can, each school in it is what its
    last record says, everything else stays, and loading the file again changes nothing. -/
theorem loadSchools_whole_or_not (r : Register) (text : String) :
    ((∃ record ∈ (Csv.table text).records,
        School.ofRecord? (Csv.table text).header record = none) →
      r.load? .schools text = none ∧ r.loadEach [(.schools, text)] = r) ∧
    ((∀ record ∈ (Csv.table text).records,
        School.ofRecord? (Csv.table text).header record ≠ none) →
      ∃ r', r.load? .schools text = some r' ∧ r.loadEach [(.schools, text)] = r' ∧
        Renewed r r' text ∧ r'.load? .schools text = some r') := by
  have heach : r.loadEach [(.schools, text)] = (r.loadSchools? text).getD r := rfl
  constructor
  · intro hbad
    have hnone := loadSchools?_eq_none_iff (r := r).mpr hbad
    exact ⟨hnone, by rw [heach, hnone]; rfl⟩
  · intro hall
    -- A file is only refused for a record that cannot be read.
    cases hload : r.loadSchools? text with
    | none =>
        rcases loadSchools?_eq_none_iff.mp hload with ⟨record, hrecord, hread⟩
        exact absurd hread (hall record hrecord)
    | some r' =>
        exact ⟨r', hload, by rw [heach, hload]; rfl, renewed_of_load hload,
          load_schools_again hload⟩

/-- A register of two schools. -/
def twoSchools : Register where
  schools :=
    [⟨"1", "CJ", some "Turda", "A", some "0264", none, none, none⟩,
      ⟨"3", "AB", some "Blaj", "C", none, none, none, none⟩]
  enrolments := [⟨"1", "Primar", some "română", 7⟩]
  bacResults := []
  evaluationResults := []

/-- A file that says two things of one school, the second without a town. -/
def renewal : String := "id,judet,localitate,nume\n1,CJ,Turda,B\n2,CJ,Dej,D\n1,CJ,,E\n"

/-- A file whose last record ends before the name. -/
def brokenRenewal : String := "id,judet,localitate,nume\n1,CJ,Turda,B\n2,CJ,Dej\n"

/-- A school of the file has nothing left of what was known of it before, one that is not in the
    file stays, and a broken file is refused although its first record can be read. -/
theorem renewal_of_twoSchools :
    (∃ r', twoSchools.load? .schools renewal = some r' ∧
      r'.schools.filter (fun t => t.id = "1") = [⟨"1", "CJ", none, "E", none, none, none, none⟩] ∧
      r'.schools.filter (fun t => t.id = "3")
        = [⟨"3", "AB", some "Blaj", "C", none, none, none, none⟩] ∧
      r'.load? .schools renewal = some r') ∧
    twoSchools.load? .schools brokenRenewal = none := by
  constructor
  · rcases (loadSchools_whole_or_not twoSchools renewal).2 (by decide +kernel) with
      ⟨r', hload, _, hrenewed, hagain⟩
    -- One school is in the file twice, the other is not in it.
    refine ⟨r', hload, ?_, ?_, hagain⟩
    · exact hrenewed.last [["1", "CJ", "Turda", "B"], ["2", "CJ", "Dej", "D"]] ["1", "CJ", "", "E"]
        [] ⟨"1", "CJ", none, "E", none, none, none, none⟩ (by decide +kernel) (by decide +kernel)
        (fun _ hother => absurd hother List.not_mem_nil)
    · rw [hrenewed.kept "3" (by decide +kernel)]
      decide +kernel
  · exact ((loadSchools_whole_or_not twoSchools brokenRenewal).1 (by decide +kernel)).1

end Register

end SchoolAtlas
