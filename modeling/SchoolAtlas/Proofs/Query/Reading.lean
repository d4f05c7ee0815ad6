import SchoolAtlas.Proofs.Query.Form
import SchoolAtlas.Proofs.Query.PlanDraft
import SchoolAtlas.Proofs.Text.Legible

/-!
# Reading a Query Back

What the text of a query says about its plan.

The text of a statement follows from the form of its plan. The converse needs a proof: two
plans of different forms could be written with one text, if a name of a column began another
or if a list of conditions ran on into what comes after it. A plan without anything like that
is `Query.IsClear`. It asks for at least one value wherever it asks for one of several, puts
its alternatives into brackets, and joins its rows with the columns and under the labels that
queries use.

The text is read from front to back and clause by clause. What starts a clause is a word of
its own, so it is enough to show for each clause that it can be read with anything behind it
(`Text.Legible`). Two things need care. A list of conditions or joins must not go on into what
stands behind it, which is why the ends of clauses are listed (`Statement.endMarks`). And the
rows that are joined to a school are statements themselves, in brackets.

## Main definitions

* `Condition.IsClear`, `DetailQuery.IsClear`, `Join.IsClear`, `Query.IsClear`: What can be told
  apart by its text.
* `Statement.whereClause`: The conditions of a statement in writing.
* `DetailColumns`: The columns of detail rows that queries join.
* `Join.written`: A join in writing.
* `Query.opening`, `Query.closing`: A plan in writing, before its joins and after its conditions.

## Theorems

* `Condition.legible_clear`: Clear conditions can be read.
* `Statement.sql_fragment`: The text of a statement, clause by clause.
* `DetailQuery.read_existence`: The question for a row can be read.
* `Join.legible`: Clear joins can be read.
* `Query.sql_compiled`: The text of a plan, piece by piece.
* `Query.blank_eq_of_sql`: Clear plans of one text have one form.
-/

namespace SchoolAtlas

open Text (Legible Opens apart)

/-! ### Conditions -/

namespace Condition

variable {κ : Type} {name : κ → String}

/-- A condition on one column that says something. -/
def IsComparison : Condition κ → Prop
  | isNull _ | equals _ _ => True
  | oneOf _ values => values ≠ []
  | either _ _ | grouped _ => False

/-- A condition that can be told from what follows it: a comparison, or up to two of them in
    brackets. -/
inductive IsClear : Condition κ → Prop where
  | comparison {c : Condition κ} (h : c.IsComparison) : IsClear c
  | grouped {c : Condition κ} (h : c.IsComparison) : IsClear (grouped c)
  | either {c d : Condition κ} (hc : c.IsComparison) (hd : d.IsComparison) :
    IsClear (grouped (either c d))

/-- Names of columns that can be told apart, from each other and from other texts. -/
structure AreNames (name : κ → String) : Prop where
  legible : Legible (fun _ => True) (fun column => name column ++ " ") id
  ne_bracket : ∀ column rest rest', (name column ++ " ") ++ rest ≠ "(" ++ rest'

/-- What a comparison writes after its column, given the form of the comparison. -/
inductive Predicate (column : κ) : Condition κ → String → Prop where
  | isNull : Predicate column (isNull column) "IS NULL"
  | equals : Predicate column (equals column "") "= ?"
  | oneOf (more : List Unit) :
    Predicate column (oneOf column ("" :: more.map (fun _ => "")))
      ("IN (?" ++ (Text.following ", " (more.map (fun _ => "?")) ++ ")"))

/-- A comparison is written as its column and a predicate. -/
theorem IsComparison.written {c : Condition κ} (h : c.IsComparison) (name : κ → String) :
    ∃ column predicate, Predicate column c.blank predicate ∧
      (c.fragment name).sql = (name column ++ " ") ++ predicate := by
  cases c with
  | isNull column =>
      refine ⟨column, _, .isNull, ?_⟩
      rw [String.append_assoc]
      rfl
  | equals column value =>
      refine ⟨column, _, .equals, ?_⟩
      rw [String.append_assoc]
      rfl
  | oneOf column values =>
      cases values with
      -- A list without values is no comparison.
      | nil => exact absurd rfl h
      | cons value more =>
          refine ⟨column, "IN (?" ++ (Text.following ", " (more.map (fun _ => "?")) ++ ")"), ?_, ?_⟩
          · have hform : Predicate column _ _ := .oneOf (more.map (fun _ => ()))
            rw [List.map_map, List.map_map] at hform
            exact hform
          · rw [fragment, Fragment.oneOf?, List.isEmpty_cons, if_neg Bool.false_ne_true,
              Option.getD_some, List.map_cons, Text.intercalate_cons]
            simp only [String.append_assoc, String.append_right_inj]
            rfl
  | either first second => exact False.elim h
  | grouped inner => exact False.elim h

/-- The places of a list can be counted. -/
theorem read_places {more more' : List Unit} {rest rest' : String}
    (heq : Text.following ", " (more.map (fun _ => "?")) ++ (")" ++ rest)
      = Text.following ", " (more'.map (fun _ => "?")) ++ (")" ++ rest')) :
    more = more' ∧ rest = rest' := by
  have hplace : Legible (fun _ : Unit => True) (fun _ => "?") id :=
    Text.legible_of_apart (fun _ _ _ _ => Or.inl rfl)
  -- What follows the list closes it and is not one more place.
  have hclosed : ∀ (text : String) (a : Unit), True → ∀ last : String,
      ")" ++ text ≠ ", " ++ ("?" ++ last) :=
    fun text _ _ last => Text.append_ne_append (by decide) text ("?" ++ last)
  rcases hplace.following ", " (fun _ _ => trivial) (fun _ _ => trivial) (hclosed rest)
    (hclosed rest') heq with ⟨hmore, hrest⟩
  rw [List.map_id, List.map_id] at hmore
  exact ⟨hmore, (String.append_right_inj _).mp hrest⟩

/-- Predicates of one column can be told apart. -/
theorem Predicate.read {column : κ} {form form' : Condition κ} {predicate predicate' : String}
    (h : Predicate column form predicate) (h' : Predicate column form' predicate')
    {rest rest' : String} (heq : predicate ++ rest = predicate' ++ rest') :
    form = form' ∧ rest = rest' := by
  -- Predicates of two kinds differ in their first words. Only lists are longer than these.
  cases h with
  | isNull =>
      cases h' with
      | isNull => exact ⟨rfl, (String.append_right_inj _).mp heq⟩
      | equals => exact absurd heq (Text.append_ne_append (by decide) _ _)
      | oneOf more =>
          rw [@String.append_assoc "IN (?"] at heq
          exact absurd heq (Text.append_ne_append (by decide) _ _)
  | equals =>
      cases h' with
      | isNull => exact absurd heq (Text.append_ne_append (by decide) _ _)
      | equals => exact ⟨rfl, (String.append_right_inj _).mp heq⟩
      | oneOf more =>
          rw [@String.append_assoc "IN (?"] at heq
          exact absurd heq (Text.append_ne_append (by decide) _ _)
  | oneOf more =>
      cases h' with
      | isNull =>
          rw [String.append_assoc] at heq
          exact absurd heq (Text.append_ne_append (by decide) _ _)
      | equals =>
          rw [String.append_assoc] at heq
          exact absurd heq (Text.append_ne_append (by decide) _ _)
      | oneOf more' =>
          simp only [String.append_assoc, String.append_right_inj] at heq
          rcases read_places heq with ⟨rfl, hrest⟩
          exact ⟨rfl, hrest⟩

theorem legible_comparison (hname : AreNames name) :
    Legible IsComparison (fun c : Condition κ => (c.fragment name).sql) blank := by
  intro c d hc hd rest rest' heq
  rcases hc.written name with ⟨column, predicate, hform, hsql⟩
  rcases hd.written name with ⟨column', predicate', hform', hsql'⟩
  simp only [hsql, hsql'] at heq
  rw [String.append_assoc, @String.append_assoc (name column' ++ " ")] at heq
  rcases hname.legible trivial trivial heq with ⟨hsame, hrest⟩
  have hcolumn : column = column' := hsame
  subst hcolumn
  exact hform.read hform' hrest

/-- A clear condition begins with a column or a bracket. -/
theorem IsClear.opens {c : Condition κ} (h : c.IsClear) (name : κ → String) :
    (∃ column more, (c.fragment name).sql = (name column ++ " ") ++ more) ∨
      ∃ more, (c.fragment name).sql = "(" ++ more := by
  cases h with
  | comparison h =>
      rcases h.written name with ⟨column, predicate, _, hsql⟩
      exact Or.inl ⟨column, predicate, hsql⟩
  | grouped h => exact Or.inr ⟨_, String.append_assoc⟩
  | either hc hd => exact Or.inr ⟨_, String.append_assoc⟩

/-- A comparison does not begin with a bracket. -/
theorem IsComparison.ne_bracket (hname : AreNames name) {c : Condition κ} (h : c.IsComparison)
    (rest rest' : String) : (c.fragment name).sql ++ rest ≠ "(" ++ rest' := by
  rcases h.written name with ⟨column, predicate, _, hsql⟩
  rw [hsql, String.append_assoc]
  exact hname.ne_bracket column _ _

/-- Clear conditions can be read, as far as their form goes. -/
theorem legible_clear (hname : AreNames name) :
    Legible IsClear (fun c : Condition κ => (c.fragment name).sql) blank := by
  have hclose : ∀ rest rest' : String, ")" ++ rest ≠ " OR " ++ rest' :=
    Text.append_ne_append (by decide)
  have hone : ∀ (c : Condition κ) (rest : String), (c.grouped.fragment name).sql ++ rest
      = "(" ++ ((c.fragment name).sql ++ (")" ++ rest)) := by
    intro c rest
    rw [fragment, Fragment.grouped, String.append_assoc, String.append_assoc]
  have htwo : ∀ (c d : Condition κ) (rest : String),
      ((either c d).grouped.fragment name).sql ++ rest = "(" ++ ((c.fragment name).sql
        ++ (" OR " ++ ((d.fragment name).sql ++ (")" ++ rest)))) := by
    intro c d rest
    rw [hone, fragment, Fragment.or]
    simp only [String.append_assoc]
  intro c d hc hd rest rest' heq
  simp only at heq
  cases hc with
  | comparison hc =>
      cases hd with
      | comparison hd => exact legible_comparison hname hc hd heq
      | grouped hd => exact absurd (heq.trans (hone _ _)) (hc.ne_bracket hname _ _)
      | either hd _ => exact absurd (heq.trans (htwo _ _ _)) (hc.ne_bracket hname _ _)
  | grouped hc =>
      rw [hone] at heq
      cases hd with
      | comparison hd => exact absurd heq.symm (hd.ne_bracket hname _ _)
      | grouped hd =>
          rw [hone, String.append_right_inj] at heq
          rcases legible_comparison hname hc hd heq with ⟨hform, hrest⟩
          exact ⟨by rw [blank, blank, hform], (String.append_right_inj _).mp hrest⟩
      | either hd _ =>
          rw [htwo, String.append_right_inj] at heq
          -- One comparison is closed where the other goes on.
          exact absurd (legible_comparison hname hc hd heq).2 (hclose _ _)
  | either hc hc' =>
      rw [htwo] at heq
      cases hd with
      | comparison hd => exact absurd heq.symm (hd.ne_bracket hname _ _)
      | grouped hd =>
          rw [hone, String.append_right_inj] at heq
          exact absurd (legible_comparison hname hc hd heq).2.symm (hclose _ _)
      | either hd hd' =>
          rw [htwo, String.append_right_inj] at heq
          rcases legible_comparison hname hc hd heq with ⟨hfirst, hrest⟩
          rw [String.append_right_inj] at hrest
          rcases legible_comparison hname hc' hd' hrest with ⟨hsecond, hclosed⟩
          exact ⟨by simp only [blank, hfirst, hsecond], (String.append_right_inj _).mp hclosed⟩

end Condition

theorem DetailColumn.areNames : Condition.AreNames DetailColumn.name where
  legible := Text.legible_of_apart (fun a _ b _ => by cases a <;> cases b <;> decide)
  ne_bracket := fun column => Text.append_ne_append (by cases column <;> decide)

theorem SchoolColumn.areNames : Condition.AreNames SchoolColumn.name where
  legible := Text.legible_of_apart (fun a _ b _ => by cases a <;> cases b <;> decide)
  ne_bracket := fun column => Text.append_ne_append (by cases column <;> decide)

/-! ### Statements -/

namespace Statement

/-- The conditions of a statement in writing, unless there are none. -/
def whereClause : List Fragment → String
  | [] => ""
  | first :: others =>
    "\nWHERE " ++ (first.sql ++ Text.following " AND " (others.map Fragment.sql))

/-- The text of a statement, clause by clause. -/
theorem sql_fragment (s : Statement) :
    s.fragment.sql = s.head ++ ("\nFROM " ++ (s.table
      ++ (Text.following "\n" (s.joins.map Fragment.sql) ++ (whereClause s.conditions
        ++ Text.following "\n"
          (listing "GROUP BY" s.grouping ++ listing "ORDER BY" s.ordering))))) := by
  -- The fragment joins its conditions first, where the clause writes them one after the other.
  have hwhere : Text.following "\n" (s.condition?.map (fun c => "WHERE " ++ c.sql)).toList
      = whereClause s.conditions := by
    rw [condition?_eq]
    cases s.conditions with
    | nil => rfl
    | cons first others =>
        rw [List.isEmpty_cons, if_neg Bool.false_ne_true, Option.map_some, Option.toList_some,
          Fragment.join, List.map_cons, Text.intercalate_cons, Text.following_cons]
        rw [Text.following_nil, String.append_empty, ← String.append_assoc]
        rfl
  have hfrom : ("\n" ++ ("FROM " ++ s.table) : String) = "\nFROM " ++ s.table := by
    rw [← String.append_assoc]
    rfl
  rw [fragment, List.append_assoc, List.append_assoc, List.append_assoc, List.cons_append,
    List.cons_append, List.nil_append, Text.intercalate_cons, Text.following_cons,
    ← @String.append_assoc "\n", hfrom, Text.following_append, Text.following_append,
    hwhere, String.append_assoc]

/-- What can stand after the conditions of a statement. -/
def endMarks : List String := [") ", "\nGROUP BY ", "\nORDER BY "]

/-- The conditions of a statement can be read if each of them can. -/
theorem read_whereClause {α : Type u} {β : Type v} {kind : α → Prop} {write : α → Fragment}
    {seen : α → β} (h : Legible kind (fun a => (write a).sql) seen) {as bs : List α}
    (has : ∀ a ∈ as, kind a) (hbs : ∀ b ∈ bs, kind b) {rest rest' : String}
    (hrest : Opens endMarks rest) (hrest' : Opens endMarks rest')
    (heq : whereClause (as.map write) ++ rest = whereClause (bs.map write) ++ rest') :
    as.map seen = bs.map seen ∧ rest = rest' := by
  have hempty : ∀ text : String, whereClause [] ++ text = text := fun _ => String.empty_append
  have hcons : ∀ (a : α) (others : List α) (text : String),
      whereClause ((a :: others).map write) ++ text = "\nWHERE " ++ ((write a).sql
        ++ (Text.following " AND " (others.map (fun a => (write a).sql)) ++ text)) := by
    intro a others text
    rw [List.map_cons, whereClause, List.map_map, String.append_assoc, String.append_assoc]
    rfl
  -- A clause shows by its first word whether it is there, since what follows starts otherwise.
  cases as with
  | nil =>
      rw [List.map_nil, hempty] at heq
      cases bs with
      | nil => exact ⟨rfl, heq⟩
      | cons b others =>
          rw [hcons] at heq
          exact absurd heq (hrest.ne_append (by decide) _)
  | cons a others =>
      rw [hcons] at heq
      cases bs with
      | nil =>
          rw [List.map_nil, hempty] at heq
          exact absurd heq.symm (hrest'.ne_append (by decide) _)
      | cons b others' =>
          rw [hcons, String.append_right_inj] at heq
          rcases List.forall_mem_cons.mp has with ⟨ha, hothers⟩
          rcases List.forall_mem_cons.mp hbs with ⟨hb, hothers'⟩
          rcases h ha hb heq with ⟨hfirst, hfollow⟩
          rcases h.following " AND " hothers hothers' (fun _ _ _ => hrest.ne_append (by decide) _)
            (fun _ _ _ => hrest'.ne_append (by decide) _) hfollow with ⟨hall, hsame⟩
          exact ⟨by rw [List.map_cons, List.map_cons, hfirst, hall], hsame⟩

end Statement

/-! ### Rows of detail tables -/

namespace DetailQuery

/-- The conditions on the rows of a detail table can be told apart. -/
def IsClear (q : DetailQuery) : Prop := ∀ c ∈ q.conditions, c.IsClear

theorem legible_table :
    Legible (fun _ => True) (fun table : DetailTable => table.table.name) id :=
  Text.legible_of_apart (fun a _ b _ => by cases a <;> cases b <;> decide)

/-- The question whether a school has a row, piece by piece. -/
theorem sql_existence (q : DetailQuery) :
    q.existence.sql = "EXISTS (SELECT 1\nFROM " ++ (q.table.table.name ++ ("\nWHERE "
      ++ (q.table.key ++ (" = si.id" ++ (Text.following " AND "
        (q.conditions.map (fun c => (c.fragment DetailColumn.name).sql)) ++ ")"))))) := by
  have hhead : ∀ s : Statement, s.columns = ["1"] → s.distinct = false → s.head = "SELECT 1" := by
    intro s hcolumns hdistinct
    rw [Statement.head, hcolumns, hdistinct]
    rfl
  have hstart : "EXISTS (SELECT 1\nFROM " = "EXISTS (" ++ ("SELECT 1" ++ "\nFROM ") := rfl
  -- The condition on the key comes first, so there is a clause for conditions in any case.
  rw [existence, Statement.foldl_filter, Fragment.rowExists, Statement.sql_fragment,
    hhead _ rfl rfl, hstart]
  simp only [Statement.filter, Statement.select, Statement.ofTable, Statement.listing,
    List.nil_append, List.isEmpty_nil, if_true, List.map_nil, Text.following_nil,
    String.append_empty, String.empty_append, List.singleton_append, Statement.whereClause,
    Fragment.raw, String.append_assoc, List.map_map, Function.comp_def]

theorem read_existence {q q' : DetailQuery} (hq : q.IsClear) (hq' : q'.IsClear)
    {rest rest' : String} (heq : q.existence.sql ++ rest = q'.existence.sql ++ rest') :
    q.blank = q'.blank ∧ rest = rest' := by
  rw [sql_existence, sql_existence] at heq
  simp only [String.append_assoc, String.append_right_inj] at heq
  rcases legible_table trivial trivial heq with ⟨htable, heq⟩
  simp only [id_eq] at htable
  rw [htable] at heq
  simp only [String.append_right_inj] at heq
  -- The key and its table are left out, and the conditions follow.
  have hclosed : ∀ (text : String) (c : Condition DetailColumn), c.IsClear → ∀ more : String,
      ")" ++ text ≠ " AND " ++ ((c.fragment DetailColumn.name).sql ++ more) :=
    fun text _ _ _ => Text.append_ne_append (by decide) text _
  rcases (Condition.legible_clear DetailColumn.areNames).following " AND " hq hq' (hclosed rest)
    (hclosed rest') heq with ⟨hforms, hrest⟩
  exact ⟨by rw [blank, blank, htable, hforms], (String.append_right_inj _).mp hrest⟩

end DetailQuery

/-- A condition on schools that can be told from what follows it. -/
def SchoolCondition.IsClear : SchoolCondition → Prop
  | column condition => condition.IsClear
  | hasRow query => query.IsClear

/-- Asking for a row begins in a way of its own. -/
theorem Condition.IsClear.ne_existence {c : Condition SchoolColumn} (h : c.IsClear)
    (q : DetailQuery) (rest rest' : String) :
    (c.fragment SchoolColumn.name).sql ++ rest ≠ q.existence.sql ++ rest' := by
  rw [DetailQuery.sql_existence, String.append_assoc]
  rcases h.opens SchoolColumn.name with ⟨column, more, hsql⟩ | ⟨more, hsql⟩
  · rw [hsql, String.append_assoc]
    exact Text.append_ne_append (by cases column <;> decide) _ _
  · rw [hsql, String.append_assoc]
    exact Text.append_ne_append (by decide) _ _

theorem SchoolCondition.legible :
    Legible IsClear (fun c : SchoolCondition => c.fragment.sql) blank := by
  intro c d hc hd rest rest' heq
  simp only at heq
  -- No condition on a column starts in the way a question for rows does.
  cases c with
  | column c =>
      cases d with
      | column d =>
          rcases Condition.legible_clear SchoolColumn.areNames hc hd heq with ⟨hform, hrest⟩
          exact ⟨by rw [blank, blank, hform], hrest⟩
      | hasRow q => exact absurd heq (Condition.IsClear.ne_existence hc q _ _)
  | hasRow q =>
      cases d with
      | column d => exact absurd heq.symm (Condition.IsClear.ne_existence hd q _ _)
      | hasRow q' =>
          rcases DetailQuery.read_existence hc hd heq with ⟨hform, hrest⟩
          exact ⟨by rw [blank, blank, hform], hrest⟩

/-! ### Joins -/

/-- The columns of detail rows that are joined to a school. -/
inductive DetailColumns where
  /-- The distinct keys. -/
  | keys
  /-- All columns. -/
  | all
  /-- The keys and the head counts. -/
  | students
deriving DecidableEq, Repr

namespace DetailColumns

/-- The join of some columns of detail rows. -/
def join (columns : DetailColumns) (label : String) (query : DetailQuery) : Join :=
  match columns with
  | keys => .keys label query
  | all => .rows label [] query
  | students => .rows label [query.table.key, "numar_elevi"] query

/-- The rows with these columns. -/
def statement (columns : DetailColumns) (query : DetailQuery) : Statement :=
  match columns with
  | keys => query.statement.asDistinct.select query.table.key
  | all => query.statement.selectAll []
  | students => query.statement.selectAll [query.table.key, "numar_elevi"]

/-- The rows in writing, up to the conditions on them. -/
def opening (columns : DetailColumns) (table : DetailTable) : String :=
  (columns.statement ⟨table, []⟩).head ++ ("\nFROM " ++ table.table.name)

theorem sql_statement (columns : DetailColumns) (q : DetailQuery) :
    (columns.statement q).fragment.sql = columns.opening q.table
      ++ Statement.whereClause (q.conditions.map (Condition.fragment DetailColumn.name)) := by
  have hrows : ∀ s : Statement, s.joins = [] → s.grouping = [] → s.ordering = [] →
      s.fragment.sql
        = s.head ++ ("\nFROM " ++ (s.table ++ Statement.whereClause s.conditions)) := by
    intro s hjoins hgrouping hordering
    rw [Statement.sql_fragment, hjoins, hgrouping, hordering]
    simp only [List.map_nil, Text.following_nil, String.empty_append, Statement.listing,
      List.isEmpty_nil, if_true, List.append_nil, String.append_empty]
  rw [opening, String.append_assoc, String.append_assoc]
  -- The columns are chosen beside the conditions.
  cases columns <;> rw [statement, DetailQuery.statement_eq, hrows _ rfl rfl rfl] <;> rfl

theorem legible_opening :
    Legible (fun _ => True)
      (fun start : DetailColumns × DetailTable => opening start.1 start.2) id := by
  refine Text.legible_of_apart ?_
  rintro ⟨columns, table⟩ _ ⟨columns', table'⟩ _
  cases columns <;> cases table <;> cases columns' <;> cases table' <;> decide

end DetailColumns

namespace Join

/-- A join in writing. -/
def written (j : Join) : String := "".intercalate ((j.addTo (.ofTable "")).joins.map Fragment.sql)

/-- A join comes after the joins that are there and changes nothing else. -/
theorem addTo_eq (j : Join) (s : Statement) :
    ∃ f : Fragment, f.sql = j.written ∧ j.addTo s = { s with joins := s.joins ++ [f] } := by
  cases j with
  | keys label query => exact ⟨_, String.intercalate_singleton.symm, rfl⟩
  | rows label columns query => exact ⟨_, String.intercalate_singleton.symm, rfl⟩
  | totals => exact ⟨_, String.intercalate_singleton.symm, rfl⟩

theorem foldl_addTo_eq (joins : List Join) (s : Statement) :
    ∃ fragments : List Fragment, fragments.map Fragment.sql = joins.map written ∧
      joins.foldl addTo s = { s with joins := s.joins ++ fragments } := by
  induction joins generalizing s with
  | nil => exact ⟨[], rfl, by rw [List.foldl_nil, List.append_nil]⟩
  | cons j rest ih =>
      rcases j.addTo_eq s with ⟨f, hf, hone⟩
      rcases ih (j.addTo s) with ⟨fragments, hfragments, hall⟩
      refine ⟨f :: fragments, by rw [List.map_cons, List.map_cons, hf, hfragments], ?_⟩
      rw [List.foldl_cons, hall, hone]
      simp only [List.append_assoc, List.singleton_append]

/-- The labels of joined rows. -/
def labels : List String := ["lvl", "lng", "bac", "en", "fs", "x"]

/-- The join of some rows in writing, piece by piece. -/
theorem written_join (columns : DetailColumns) (label : String) (q : DetailQuery) :
    (columns.join label q).written = "JOIN (" ++ (columns.opening q.table
      ++ (Statement.whereClause (q.conditions.map (Condition.fragment DetailColumn.name))
        ++ (") " ++ (label ++ (" ON "
          ++ (label ++ ("." ++ (q.table.key ++ " = si.id")))))))) := by
  have hjoin : ∀ rows : String,
      JoinKind.inner.keyword ++ " (" ++ rows ++ ") " ++ label ++ " ON "
        ++ (label ++ "." ++ q.table.key ++ " = si.id")
      = "JOIN (" ++ (rows ++ (") " ++ (label ++ (" ON "
        ++ (label ++ ("." ++ (q.table.key ++ " = si.id"))))))) := by
    intro rows
    have hstart : JoinKind.inner.keyword ++ " (" = "JOIN (" := rfl
    rw [hstart]
    simp only [String.append_assoc]
  -- The rows that are joined are a statement of their own, in brackets.
  rw [← @String.append_assoc (columns.opening q.table), ← DetailColumns.sql_statement,
    ← hjoin]
  cases columns with
  | keys => exact String.intercalate_singleton
  | all => exact String.intercalate_singleton
  | students => exact String.intercalate_singleton

/-- A join that can be told from what follows it. -/
inductive IsClear : Join → Prop where
  | detail (columns : DetailColumns) {label : String} {query : DetailQuery}
    (hlabel : label ∈ labels) (hquery : query.IsClear) : IsClear (columns.join label query)
  | totals : IsClear .totals

/-- How a join begins. -/
def startMarks : List String := ["JOIN (", "LEFT JOIN"]

theorem opens_totals : Opens ["LEFT JOIN"] totals.written := by
  have hwritten : totals.written = JoinKind.left.keyword ++ " (" ++ totalsStatement.fragment.sql
      ++ ") " ++ "stats" ++ " ON " ++ ("stats." ++ DetailTable.enrolments.key ++ " = si.id") :=
    String.intercalate_singleton
  rw [hwritten]
  simp only [String.append_assoc]
  exact Text.opens_append List.mem_cons_self _

/-- A clear join begins with a word of its own. -/
theorem IsClear.opens {j : Join} (h : j.IsClear) : Opens startMarks j.written := by
  cases h with
  | detail =>
      rw [written_join]
      exact Text.opens_append List.mem_cons_self _
  | totals =>
      exact opens_totals.mono (List.subset_cons_self _ _)

theorem blank_join (columns : DetailColumns) (label : String) (q : DetailQuery) :
    (columns.join label q).blank = columns.join label q.blank := by
  cases columns <;> rfl

theorem legible_label : Legible (· ∈ labels) (fun label => label ++ " ON ") id :=
  Text.legible_of_apart (by decide)

/-- Clear joins can be read, as far as their form goes. -/
theorem legible : Legible IsClear written blank := by
  -- The summary is joined to all schools, the rows of a query only where there are any.
  have hother : ∀ (columns : DetailColumns) (label : String) (q : DetailQuery)
      (rest rest' : String), totals.written ++ rest ≠ (columns.join label q).written ++ rest' := by
    intro columns label q rest rest'
    rcases opens_totals with ⟨mark, hmark, more, hmore⟩
    rw [hmore, List.mem_singleton.mp hmark, written_join, String.append_assoc,
      String.append_assoc]
    exact Text.append_ne_append (by decide) _ _
  intro j j' hj hj' rest rest' heq
  cases hj with
  | totals =>
      cases hj' with
      | totals => exact ⟨rfl, (String.append_right_inj _).mp heq⟩
      | detail _ hlabel hquery => exact absurd heq (hother _ _ _ _ _)
  | @detail columns label q hlabel hquery =>
      cases hj' with
      | totals => exact absurd heq.symm (hother _ _ _ _ _)
      | @detail columns' label' q' hlabel' hquery' =>
          rw [written_join, written_join] at heq
          simp only [String.append_assoc, String.append_right_inj] at heq
          rcases DetailColumns.legible_opening (a := (columns, q.table))
            (b := (columns', q'.table)) trivial trivial heq with ⟨hopening, hwhere⟩
          rw [id_eq, id_eq, Prod.mk.injEq] at hopening
          rcases hopening with ⟨rfl, htable⟩
          rcases Statement.read_whereClause (Condition.legible_clear DetailColumn.areNames)
            hquery hquery' (Text.opens_append List.mem_cons_self _)
            (Text.opens_append List.mem_cons_self _) hwhere with ⟨hforms, hend⟩
          rw [String.append_right_inj, ← @String.append_assoc label,
            ← @String.append_assoc label'] at hend
          rcases legible_label hlabel hlabel' hend with ⟨hsame, hend⟩
          have hlabels : label = label' := hsame
          subst hlabels
          rw [htable] at hend
          simp only [String.append_right_inj] at hend
          refine ⟨?_, hend⟩
          rw [blank_join, blank_join, DetailQuery.blank, DetailQuery.blank, htable, hforms]

end Join

/-! ### Queries -/

namespace RegionQuery

/-- A column of a region after its county: its value, or its town if no value is named. -/
def column : Option Measure → String
  | none => townKey ++ " AS localitate"
  | some measure => measure.expression

/-- The columns of a region after its county. -/
def valueColumns : Grouping → Measure → List (Option Measure)
  | .county, measure => [some measure]
  | .town, measure => [none, some measure]

/-- How a column begins. -/
def columnStart : Option Measure → String
  | none => "COALESCE("
  | some .distinctSchools => "CAST(COUNT(D"
  | some .studentSum => "CAST(SUM("
  | some .rowCount => "CAST(COUNT(*"
  | some .gradeMean => "CAST(AVG("

theorem column_eq (value : Option Measure) : ∃ more, column value = columnStart value ++ more := by
  rcases value with _ | _ | _ | _ | _
  · exact ⟨"si.localitate, 'Unknown') AS localitate", by decide +kernel⟩
  · exact ⟨"ISTINCT si.id) AS INTEGER) AS school_count", by decide +kernel⟩
  · exact ⟨"fs.numar_elevi) AS INTEGER) AS student_count", by decide +kernel⟩
  · exact ⟨") AS INTEGER) AS student_count", by decide +kernel⟩
  · exact ⟨"x.mean_grade) FILTER (WHERE x.mean_grade IS NOT NULL) AS REAL) AS mean_grade",
      by decide +kernel⟩

theorem legible_column : Legible (fun _ => True) column id := by
  refine Text.legible_of_starts columnStart column_eq ?_
  rintro (_ | measure) _ (_ | measure') _
  · exact Or.inl rfl
  · cases measure' <;> decide
  · cases measure <;> decide
  · cases measure <;> cases measure' <;> decide

theorem valueColumns_inj {grouping grouping' : Grouping} {measure measure' : Measure}
    (h : valueColumns grouping measure = valueColumns grouping' measure') :
    grouping = grouping' ∧ measure = measure' := by
  cases grouping <;> cases grouping' <;> simp_all [valueColumns]

end RegionQuery

namespace Query

/-- The conditions of a plan. -/
def conditions : Query → List SchoolCondition
  | regions query => query.conditions
  | roster query => query.conditions

/-- What a plan shows: regions with a value each, or the schools of a roster. -/
def outline : Query → Option (Grouping × Measure)
  | regions query => some (query.grouping, query.measure)
  | roster _ => none

/-- The statement of an outline, without any joins and conditions. -/
def bare : Option (Grouping × Measure) → Statement
  | some (grouping, measure) => RegionQuery.statement ⟨grouping, [], [], measure⟩
  | none => RosterQuery.statement ⟨[], []⟩

/-- The statement of a plan is that of its outline, with joins and conditions. -/
theorem statement_eq (q : Query) :
    ∃ fragments : List Fragment, fragments.map Fragment.sql = q.joins.map Join.written ∧
      q.statement = { bare q.outline with
        joins := fragments, conditions := q.conditions.map SchoolCondition.fragment } := by
  rcases Join.foldl_addTo_eq q.joins (.ofTable (Table.schools.name ++ " si")) with
    ⟨fragments, htexts, hjoined⟩
  refine ⟨fragments, htexts, ?_⟩
  have hrows : schoolStatement q.joins q.conditions
      = { Statement.ofTable (Table.schools.name ++ " si") with
          joins := fragments, conditions := q.conditions.map SchoolCondition.fragment } := by
    rw [schoolStatement, hjoined, Statement.foldl_filter]
    rfl
  -- The form of a statement depends on what it is for, its joins and conditions do not.
  cases q with
  | regions query =>
      rw [conditions, joins] at hrows
      rw [statement, RegionQuery.statement, hrows]
      rcases query with ⟨_ | _, _, _, _⟩ <;> rfl
  | roster query =>
      rw [conditions, joins] at hrows
      rw [statement, RosterQuery.statement, hrows]
      rfl

/-- The beginning of a plan in writing, up to its joins. -/
def opening (outline : Option (Grouping × Measure)) : String :=
  (bare outline).head ++ ("\nFROM " ++ (bare outline).table)

/-- The end of a plan in writing, after its conditions. -/
def closing (outline : Option (Grouping × Measure)) : String :=
  Text.following "\n" (Statement.listing "GROUP BY" (bare outline).grouping
    ++ Statement.listing "ORDER BY" (bare outline).ordering)

/-- The text of a plan, piece by piece. -/
theorem sql_compiled (q : Query) :
    q.compiled.sql = opening q.outline ++ (Text.following "\n" (q.joins.map Join.written)
      ++ (Statement.whereClause (q.conditions.map SchoolCondition.fragment)
        ++ closing q.outline)) := by
  rcases q.statement_eq with ⟨fragments, htexts, hstatement⟩
  rw [compiled, Statement.compiled, hstatement, Statement.sql_fragment, ← htexts, opening,
    String.append_assoc, String.append_assoc]
  rfl

theorem opening_regions (grouping : Grouping) (measure : Measure) :
    opening (some (grouping, measure)) = "SELECT si.judet"
      ++ (Text.following ", " ((RegionQuery.valueColumns grouping measure).map RegionQuery.column)
        ++ ("\nFROM " ++ "school_info si")) := by
  have hhead : ∀ columns, "SELECT " ++ "" ++ (", ".intercalate ("si.judet" :: columns))
      = "SELECT si.judet" ++ Text.following ", " columns := by
    intro columns
    rw [Text.intercalate_cons, ← String.append_assoc]
    rfl
  rw [← String.append_assoc, ← hhead]
  cases grouping <;> rfl

theorem opening_roster : ∃ more, opening none = "SELECT si.id" ++ more := by
  have hhead : ∀ columns, "SELECT " ++ "" ++ (", ".intercalate ("si.id" :: columns))
      = "SELECT si.id" ++ Text.following ", " columns := by
    intro columns
    rw [Text.intercalate_cons, ← String.append_assoc]
    rfl
  refine ⟨Text.following ", " RosterQuery.columns.tail ++ ("\nFROM " ++ "school_info si"), ?_⟩
  rw [← String.append_assoc, ← hhead]
  rfl

/-- The beginning of a plan can be read. -/
theorem legible_opening : Legible (fun _ => True) opening id := by
  rcases opening_roster with ⟨more, hroster⟩
  have hother : ∀ (grouping : Grouping) (measure : Measure) (rest rest' : String),
      opening none ++ rest ≠ opening (some (grouping, measure)) ++ rest' := by
    intro grouping measure rest rest'
    rw [hroster, opening_regions, String.append_assoc, String.append_assoc]
    exact Text.append_ne_append (by decide) _ _
  rintro (_ | ⟨grouping, measure⟩) (_ | ⟨grouping', measure'⟩) _ _ rest rest' heq
  · exact ⟨rfl, (String.append_right_inj _).mp heq⟩
  · exact absurd heq (hother _ _ _ _)
  · exact absurd heq.symm (hother _ _ _ _)
  · rw [opening_regions, opening_regions] at heq
    simp only [String.append_assoc, String.append_right_inj] at heq
    -- The columns are followed by the table, which is not one more column.
    have hend : ∀ (text : String) (value : Option Measure), True → ∀ last : String,
        "\nFROM " ++ ("school_info si" ++ text) ≠ ", " ++ (RegionQuery.column value ++ last) :=
      fun text _ _ _ => Text.append_ne_append (by decide) _ _
    rcases RegionQuery.legible_column.following ", " (fun _ _ => trivial) (fun _ _ => trivial)
      (hend rest) (hend rest') heq with ⟨hcolumns, hrest⟩
    rw [List.map_id, List.map_id] at hcolumns
    rcases RegionQuery.valueColumns_inj hcolumns with ⟨rfl, rfl⟩
    simp only [String.append_right_inj] at hrest
    exact ⟨rfl, hrest⟩

theorem opens_closing (outline : Option (Grouping × Measure)) :
    Opens Statement.endMarks (closing outline) := by
  have hgroup : "\nGROUP BY " ∈ Statement.endMarks := by decide
  have horder : "\nORDER BY " ∈ Statement.endMarks := by decide
  rcases outline with _ | ⟨_ | _, measure⟩
  · exact ⟨_, horder, "si.nume", rfl⟩
  · exact ⟨_, hgroup, "si.judet", rfl⟩
  · exact ⟨_, hgroup, "si.judet, " ++ RegionQuery.townKey, rfl⟩

/-- A plan that can be told from others by its text. -/
structure IsClear (q : Query) : Prop where
  joins : ∀ j ∈ q.joins, j.IsClear
  conditions : ∀ c ∈ q.conditions, c.IsClear

/-- What follows the joins of a plan is not one more join. -/
theorem ne_written (conditions : List SchoolCondition) (outline : Option (Grouping × Measure))
    {j : Join} (hj : j.IsClear) (more : String) :
    Statement.whereClause (conditions.map SchoolCondition.fragment) ++ closing outline
      ≠ "\n" ++ (j.written ++ more) := by
  -- What follows the joins starts with a clause for conditions, or with what ends a statement.
  have hopens : Opens ("\nWHERE " :: Statement.endMarks)
      (Statement.whereClause (conditions.map SchoolCondition.fragment) ++ closing outline) := by
    cases conditions with
    | nil =>
        rw [List.map_nil, Statement.whereClause, String.empty_append]
        exact (opens_closing outline).mono (List.subset_cons_self _ _)
    | cons c others =>
        rw [List.map_cons, Statement.whereClause, String.append_assoc]
        exact Text.opens_append List.mem_cons_self _
  have hapart : ∀ mark ∈ Join.startMarks,
      ("\nWHERE " :: Statement.endMarks).all (apart ("\n" ++ mark)) = true := by
    decide
  rcases hj.opens with ⟨mark, hmark, rest, hwritten⟩
  rw [hwritten, String.append_assoc, ← String.append_assoc]
  exact hopens.ne_append (hapart mark hmark) _

/-- Clear plans of one text have one form. -/
theorem blank_eq_of_sql {q q' : Query} (hq : q.IsClear) (hq' : q'.IsClear)
    (h : q.compiled.sql = q'.compiled.sql) : q.blank = q'.blank := by
  -- The text is read from left to right: outline, joins, conditions.
  rw [sql_compiled, sql_compiled] at h
  rcases legible_opening trivial trivial h with ⟨houtline, hjoined⟩
  rcases Join.legible.following "\n" hq.joins hq'.joins (fun _ => ne_written _ _)
    (fun _ => ne_written _ _) hjoined with ⟨hjoins, hended⟩
  rcases Statement.read_whereClause SchoolCondition.legible hq.conditions hq'.conditions
    (opens_closing _) (opens_closing _) hended with ⟨hconditions, _⟩
  rw [id_eq, id_eq] at houtline
  cases q with
  | regions query =>
      cases q' with
      | regions query' =>
          rw [outline, outline, Option.some.injEq, Prod.mk.injEq] at houtline
          rw [blank, blank, houtline.1, houtline.2]
          exact congrArg₂ (fun joins conditions => regions ⟨_, joins, conditions, _⟩) hjoins
            hconditions
      | roster query' => exact absurd houtline (Option.some_ne_none _)
  | roster query =>
      cases q' with
      | regions query' => exact absurd houtline.symm (Option.some_ne_none _)
      | roster query' =>
          exact congrArg₂ (fun joins conditions => roster ⟨joins, conditions⟩) hjoins hconditions

end Query

end SchoolAtlas
