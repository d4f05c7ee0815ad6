import Mathlib.Data.List.Forall2
import SchoolAtlas.Query.Statement

/-!
# Values in Their Places

What a text becomes when its values are written into it.

A value travels beside the text, and a question mark in the text holds its place. Nothing
ties the two together but their order: the first value belongs to the first place, and so
on. `fill` goes through a text and writes each value into its place. Whoever assembles a
text has to see to it that this puts the values where they were meant to be.

`Fragment.FillsTo` says that they did. A fragment has as many places as values, and filling
it gives a text in which the values have been written from the start. Both are kept when
fragments are put one after the other, and everything that can be done with fragments
comes down to that: brackets, lists, conjunctions and whole statements are texts without
places around and between fragments that have some. A statement writes its joins before its
conditions and lists their values in the same order, however they came up, which is the one
thing here that is not about appending.

How a value is written does not matter. It may well hold a question mark, since places are
those of the text before anything is filled in.

## Main definitions

* `Text.isPlain`: A text has no place for a value.
* `fill`, `Fragment.filled`: A text with its values in their places.
* `Fragment.append`: A fragment after another.
* `Fragment.FillsTo`, `Statement.FillsTo`: Values belong to their places.
* `Clause`, `Statement.list`: The clauses that list columns.

## Theorems

* `fill_append`: Filling goes part by part.
* `Fragment.FillsTo.join`: Fragments with a separator.
* `Statement.FillsTo.fragment`: A written statement.
-/

namespace SchoolAtlas

/-- A text has no place for a value. -/
def Text.isPlain (text : String) : Bool := !text.toList.contains '?'

theorem Text.isPlain_append (s t : String) : isPlain (s ++ t) = (isPlain s && isPlain t) := by
  rw [isPlain, String.toList_append, List.contains_append, Bool.not_or]
  rfl

theorem Text.isPlain_intercalate {separator : String} (hs : isPlain separator = true)
    {texts : List String} (h : texts.all isPlain = true) :
    isPlain (separator.intercalate texts) = true := by
  induction texts with
  | nil => rfl
  | cons t rest ih =>
      rw [List.all_cons, Bool.and_eq_true] at h
      -- The separator comes between two texts, so a single one has none.
      cases rest with
      | nil =>
          rw [String.intercalate_singleton]
          exact h.1
      | cons u rest =>
          rw [String.intercalate_cons_cons, isPlain_append, isPlain_append, h.1, hs, ih h.2]
          rfl

/-- Writes values into the places of a text, one after another. -/
def fill (write : String → String) : List Char → List String → List Char
  | [], _ => []
  | c :: rest, [] => c :: fill write rest []
  | c :: rest, v :: values =>
    if c = '?' then (write v).toList ++ fill write rest values
    else c :: fill write rest (v :: values)

/-- Filling goes part by part, if the first part has as many places as values. -/
theorem fill_append {write : String → String} {text : List Char} {values : List String}
    (h : text.count '?' = values.length) (text' : List Char) (values' : List String) :
    fill write (text ++ text') (values ++ values')
      = fill write text values ++ fill write text' values' := by
  induction text generalizing values with
  | nil =>
      rw [List.count_nil] at h
      rw [List.length_eq_zero_iff.mp h.symm]
      rfl
  | cons c rest ih =>
      by_cases hc : c = '?'
      · -- The place takes the first value, and there is one.
        subst hc
        rw [List.count_cons_self] at h
        cases values with
        | nil => exact absurd h (Nat.succ_ne_zero _)
        | cons v values =>
            rw [List.cons_append, List.cons_append, fill, if_pos rfl, fill, if_pos rfl,
              ih (Nat.succ.inj h), List.append_assoc]
      · rw [List.count_cons_of_ne hc] at h
        have hkeep : ∀ text values,
            fill write (c :: text) values = c :: fill write text values := by
          intro text values
          cases values with
          | nil => rfl
          | cons v values => rw [fill, if_neg hc]
        rw [List.cons_append, hkeep, hkeep, ih h, List.cons_append]

namespace Fragment

variable {write : String → String}

/-- The number of places in a fragment. -/
def places (f : Fragment) : Nat := f.sql.toList.count '?'

/-- The text of a fragment with its values in their places. -/
def filled (write : String → String) (f : Fragment) : String :=
  String.ofList (fill write f.sql.toList f.params)

/-- A fragment after another. -/
def append (f g : Fragment) : Fragment := ⟨f.sql ++ g.sql, f.params ++ g.params⟩

/-- A fragment has a place for each of its values, and it reads like another one when they
    are filled in. -/
structure FillsTo (write : String → String) (f g : Fragment) : Prop where
  places : f.places = f.params.length
  eq : g = raw (f.filled write)

theorem FillsTo.append {f f' g g' : Fragment} (hf : f.FillsTo write f') (hg : g.FillsTo write g') :
    (f.append g).FillsTo write (f'.append g') := by
  rcases hf with ⟨hf, rfl⟩
  rcases hg with ⟨hg, rfl⟩
  constructor
  · rw [Fragment.places] at hf hg
    rw [Fragment.places, Fragment.append, String.toList_append, List.count_append, hf, hg,
      List.length_append]
  · rw [filled, filled, filled, Fragment.append, Fragment.append, String.toList_append,
      fill_append hf, String.ofList_append]
    rfl

theorem fillsTo_raw {sql : String} (h : Text.isPlain sql = true) :
    (raw sql).FillsTo write (raw sql) := by
  have hnot : '?' ∉ sql.toList := by
    rw [Text.isPlain, Bool.not_eq_true', ← Bool.not_eq_true, List.contains_iff_mem] at h
    exact h
  -- Without values every character is kept, and a question mark would be too.
  have hkeep : ∀ text : List Char, fill write text [] = text := by
    intro text
    induction text with
    | nil => rfl
    | cons c rest ih => rw [fill, ih]
  constructor
  · exact List.count_eq_zero.mpr hnot
  · rw [filled, raw, hkeep, String.ofList_toList]
    rfl

theorem fillsTo_place (value : String) :
    (Fragment.mk "?" [value]).FillsTo write (raw (write value)) := by
  have hfill : fill write "?".toList [value] = (write value).toList := List.append_nil _
  constructor
  · exact (rfl : "?".toList.count '?' = 1)
  · rw [filled, hfill, String.ofList_toList]

theorem fillsTo_equals {column : String} (h : Text.isPlain column = true) (value : String) :
    (equals column value).FillsTo write (raw (column ++ " = " ++ write value)) := by
  have heq : equals column value = (raw (column ++ " = ")).append ⟨"?", [value]⟩ := by
    rw [append, raw, String.append_assoc]
    rfl
  have hcolumn : (raw (column ++ " = ")).FillsTo write (raw (column ++ " = ")) := by
    refine fillsTo_raw ?_
    rw [Text.isPlain_append, h]
    rfl
  rw [heq]
  exact hcolumn.append (fillsTo_place value)

theorem grouped_eq (f : Fragment) : f.grouped = (raw "(").append (f.append (raw ")")) := by
  rw [grouped, append, append, raw, raw, List.append_nil, ← String.append_assoc]
  rfl

theorem rowExists_eq (f : Fragment) :
    f.rowExists = (raw "EXISTS (").append (f.append (raw ")")) := by
  rw [rowExists, append, append, raw, raw, List.append_nil, ← String.append_assoc]
  rfl

theorem or_eq (f g : Fragment) : f.or g = f.append ((raw " OR ").append g) := by
  rw [Fragment.or, append, append, raw, String.append_assoc]
  rfl

theorem FillsTo.between {f g : Fragment} (h : f.FillsTo write g) {before after : String}
    (hbefore : Text.isPlain before = true) (hafter : Text.isPlain after = true) :
    ((raw before).append (f.append (raw after))).FillsTo write
      ((raw before).append (g.append (raw after))) :=
  (fillsTo_raw hbefore).append (h.append (fillsTo_raw hafter))

theorem FillsTo.grouped {f g : Fragment} (h : f.FillsTo write g) :
    f.grouped.FillsTo write g.grouped := by
  rw [grouped_eq, grouped_eq]
  exact h.between rfl rfl

theorem FillsTo.rowExists {f g : Fragment} (h : f.FillsTo write g) :
    f.rowExists.FillsTo write g.rowExists := by
  rw [rowExists_eq, rowExists_eq]
  exact h.between rfl rfl

theorem FillsTo.or {f f' g g' : Fragment} (hf : f.FillsTo write f') (hg : g.FillsTo write g') :
    (f.or g).FillsTo write (f'.or g') := by
  rw [or_eq, or_eq]
  exact hf.append ((fillsTo_raw rfl).append hg)

theorem join_singleton (separator : String) (f : Fragment) : join separator [f] = f := by
  rw [join, List.map_singleton, String.intercalate_singleton, List.flatMap_singleton]

theorem join_cons_cons (separator : String) (f g : Fragment) (rest : List Fragment) :
    Fragment.join separator (f :: g :: rest)
      = f.append ((raw separator).append (Fragment.join separator (g :: rest))) := by
  rw [Fragment.join, Fragment.join, append, append, raw, List.map_cons, List.map_cons,
    String.intercalate_cons_cons, String.append_assoc]
  rfl

theorem FillsTo.join {separator : String} (hs : Text.isPlain separator = true)
    {parts parts' : List Fragment} (h : List.Forall₂ (FillsTo write) parts parts') :
    (Fragment.join separator parts).FillsTo write (Fragment.join separator parts') := by
  induction h with
  | nil => exact fillsTo_raw rfl
  | cons hf hrest ih =>
      -- The last part has no separator after it.
      cases hrest with
      | nil =>
          rw [join_singleton, join_singleton]
          exact hf
      | cons hg hrest =>
          rw [join_cons_cons, join_cons_cons]
          exact hf.append ((fillsTo_raw hs).append ih)

theorem oneOf?_eq_some {column : String} {values : List String} {f : Fragment}
    (h : oneOf? column values = some f) :
    f = (raw (column ++ " IN (")).append
      ((join ", " (values.map (fun v => ⟨"?", [v]⟩))).append (raw ")")) := by
  rw [oneOf?] at h
  split at h
  · exact absurd h (by simp only [reduceCtorEq, not_false_eq_true])
  -- Each value stands in a fragment of its own, so joining them keeps their order.
  · have hparams : (values.map (fun v => Fragment.mk "?" [v])).flatMap params = values := by
      rw [List.flatMap_map]
      exact List.flatMap_singleton' values
    rw [← Option.some.inj h, join, append, append, raw, raw, hparams, List.map_map,
      List.append_nil, ← String.append_assoc]
    rfl

theorem fillsTo_oneOf {column : String} (hc : Text.isPlain column = true) {values : List String}
    {f : Fragment} (h : oneOf? column values = some f) :
    f.FillsTo write (raw (column ++ " IN (" ++ ", ".intercalate (values.map write) ++ ")")) := by
  -- The list is a join of places, one for each value.
  have hplaces : List.Forall₂ (FillsTo write) (values.map (fun v => ⟨"?", [v]⟩))
      (values.map (fun v => raw (write v))) := by
    rw [List.forall₂_map_left_iff, List.forall₂_map_right_iff, List.forall₂_same]
    exact fun v _ => fillsTo_place v
  have hbefore : Text.isPlain (column ++ " IN (") = true := by
    rw [Text.isPlain_append, hc]
    rfl
  have hseparator : Text.isPlain ", " = true := rfl
  have hwritten : join ", " (values.map (fun v => raw (write v)))
      = raw (", ".intercalate (values.map write)) := by
    rw [join, List.map_map, List.flatMap_map]
    exact congrArg _ (List.flatMap_eq_nil_iff.mpr (fun _ _ => rfl))
  have hlist := (FillsTo.join hseparator hplaces).between hbefore (rfl : Text.isPlain ")" = true)
  rw [← oneOf?_eq_some h, hwritten, append, append, raw, raw, ← String.append_assoc] at hlist
  exact hlist

/-- The parts of a conjunction that are there fill part by part. -/
theorem FillsTo.all? {parts parts' : List (Option Fragment)}
    (h : List.Forall₂ (Option.Rel (FillsTo write)) parts parts') :
    Option.Rel (FillsTo write) (Fragment.all? parts) (Fragment.all? parts') := by
  have hpresent : List.Forall₂ (FillsTo write) (parts.filterMap id) (parts'.filterMap id) :=
    List.rel_filterMap (fun _ _ h => h) h
  rw [Fragment.all?, Fragment.all?]
  -- Filling makes no part appear or disappear, so both sides join as many.
  cases hf : parts.filterMap id with
  | nil =>
      rw [hf, List.forall₂_nil_left_iff] at hpresent
      rw [hpresent]
      exact .none
  | cons f rest =>
      rw [hf] at hpresent
      cases hg : parts'.filterMap id with
      | nil =>
          rw [hg, List.forall₂_nil_right_iff] at hpresent
          exact absurd hpresent (List.cons_ne_nil _ _)
      | cons g rest' =>
          rw [hg] at hpresent
          exact .some (FillsTo.join rfl hpresent)

end Fragment

/-- The clauses of a statement that list columns. -/
inductive Clause where
  | select
  | groupBy
  | orderBy

namespace Statement

variable {write : String → String} {s t : Statement}

/-- Lists one more column in a clause. -/
def list (s : Statement) : Clause → String → Statement
  | .select => s.select
  | .groupBy => s.groupBy
  | .orderBy => s.orderBy

/-- The texts of a statement that no value is written into. -/
def textsPlain (s : Statement) : Bool :=
  Text.isPlain s.table && s.columns.all Text.isPlain && s.grouping.all Text.isPlain
    && s.ordering.all Text.isPlain

/-- A statement reads like another one when its values are filled in: they differ in joins
    and conditions, and those have the values in their places. -/
structure FillsTo (write : String → String) (s t : Statement) : Prop where
  plain : s.textsPlain = true
  joins : List.Forall₂ (Fragment.FillsTo write) s.joins t.joins
  conditions : List.Forall₂ (Fragment.FillsTo write) s.conditions t.conditions
  eq : t = { s with joins := t.joins, conditions := t.conditions }

theorem plain_head (h : s.columns.all Text.isPlain = true) : Text.isPlain s.head = true := by
  rw [head, Text.isPlain_append, Text.isPlain_append]
  have hcolumns : Text.isPlain (if s.columns.isEmpty then "*" else ", ".intercalate s.columns)
      = true := by
    split
    · rfl
    · exact Text.isPlain_intercalate rfl h
  rw [hcolumns]
  cases s.distinct <;> rfl

theorem plain_listing {keyword : String} (hk : Text.isPlain keyword = true) {columns : List String}
    (h : columns.all Text.isPlain = true) : (listing keyword columns).all Text.isPlain = true := by
  rw [listing]
  split
  · rfl
  · rw [List.all_cons, List.all_nil, Bool.and_true, Text.isPlain_append, Text.isPlain_append, hk,
      Text.isPlain_intercalate rfl h]
    rfl

theorem fragment_eq (s : Statement) :
    s.fragment = Fragment.join "\n"
      ([.raw s.head, .raw ("FROM " ++ s.table)] ++ s.joins
        ++ s.condition?.toList.map (Fragment.raw "WHERE ").append
        ++ (listing "GROUP BY" s.grouping ++ listing "ORDER BY" s.ordering).map .raw) := by
  -- Texts without values can be written as fragments.
  have hraws : ∀ texts : List String, (texts.map Fragment.raw).map Fragment.sql = texts ∧
      (texts.map Fragment.raw).flatMap Fragment.params = [] := by
    intro texts
    rw [List.map_map, List.flatMap_map]
    exact ⟨List.map_id _, List.flatMap_eq_nil_iff.mpr (fun _ _ => rfl)⟩
  rw [fragment, Fragment.join, List.map_append, List.map_append, List.map_append,
    List.flatMap_append, List.flatMap_append, List.flatMap_append, (hraws _).1, (hraws _).2,
    List.append_nil]
  cases s.condition? with
  | none => simp [Fragment.raw]
  | some c => simp [Fragment.raw, Fragment.append]

/-- A written statement has its values in their places: those of the joins and then those of
    the conditions. -/
theorem FillsTo.fragment (h : s.FillsTo write t) : s.fragment.FillsTo write t.fragment := by
  rcases h with ⟨hplain, hjoins, hconditions, heq⟩
  simp only [textsPlain, Bool.and_eq_true] at hplain
  rcases hplain with ⟨⟨⟨htable, hcolumns⟩, hgrouping⟩, hordering⟩
  -- The lines without places are the same on both sides.
  have hsame : t.head = s.head ∧ t.table = s.table ∧ t.grouping = s.grouping
      ∧ t.ordering = s.ordering := by
    rw [heq]
    exact ⟨rfl, rfl, rfl, rfl⟩
  have hfrom : Text.isPlain ("FROM " ++ s.table) = true := by
    rw [Text.isPlain_append, htable]
    rfl
  have hstart : List.Forall₂ (Fragment.FillsTo write) [.raw s.head, .raw ("FROM " ++ s.table)]
      [.raw s.head, .raw ("FROM " ++ s.table)] :=
    .cons (Fragment.fillsTo_raw (plain_head hcolumns)) (.cons (Fragment.fillsTo_raw hfrom) .nil)
  have hwhere : List.Forall₂ (Fragment.FillsTo write)
      (s.condition?.toList.map (Fragment.raw "WHERE ").append)
      (t.condition?.toList.map (Fragment.raw "WHERE ").append) := by
    have hall : Option.Rel (Fragment.FillsTo write) s.condition? t.condition? := by
      refine Fragment.FillsTo.all? ?_
      rw [List.forall₂_map_left_iff, List.forall₂_map_right_iff]
      exact hconditions.imp (fun _ _ h => .some h)
    generalize s.condition? = c, t.condition? = c' at hall ⊢
    cases hall with
    | none => exact .nil
    | some h => exact .cons ((Fragment.fillsTo_raw rfl).append h) .nil
  have hend : List.Forall₂ (Fragment.FillsTo write)
      ((listing "GROUP BY" s.grouping ++ listing "ORDER BY" s.ordering).map .raw)
      ((listing "GROUP BY" s.grouping ++ listing "ORDER BY" s.ordering).map .raw) := by
    have hlines : (listing "GROUP BY" s.grouping ++ listing "ORDER BY" s.ordering).all Text.isPlain
        = true := by
      rw [List.all_append, plain_listing rfl hgrouping, plain_listing rfl hordering]
      rfl
    rw [List.forall₂_map_left_iff, List.forall₂_map_right_iff, List.forall₂_same]
    exact fun line hline => Fragment.fillsTo_raw (List.all_eq_true.mp hlines line hline)
  rw [fragment_eq, fragment_eq, hsame.1, hsame.2.1, hsame.2.2.1, hsame.2.2.2]
  exact Fragment.FillsTo.join rfl (List.rel_append (List.rel_append (List.rel_append hstart hjoins)
    hwhere) hend)

theorem fillsTo_ofTable {table : String} (h : Text.isPlain table = true) :
    (ofTable table).FillsTo write (ofTable table) := by
  refine ⟨?_, .nil, .nil, rfl⟩
  rw [textsPlain, ofTable, h]
  rfl

namespace FillsTo

theorem asDistinct (h : s.FillsTo write t) : s.asDistinct.FillsTo write t.asDistinct :=
  ⟨h.plain, h.joins, h.conditions, by rw [h.eq]; rfl⟩

theorem list (h : s.FillsTo write t) (clause : Clause) {column : String}
    (hc : Text.isPlain column = true) :
    (s.list clause column).FillsTo write (t.list clause column) := by
  have hplain : (s.list clause column).textsPlain = true := by
    have hplain := h.plain
    cases clause <;>
      simp only [textsPlain, Statement.list, Statement.select, Statement.groupBy,
        Statement.orderBy, List.all_append, List.all_cons, List.all_nil, hc, Bool.and_true]
        at hplain ⊢ <;>
      exact hplain
  cases clause <;> exact ⟨hplain, h.joins, h.conditions, by rw [h.eq]; rfl⟩

theorem join (h : s.FillsTo write t) (kind : JoinKind) {rows rows' : Fragment}
    (hrows : rows.FillsTo write rows') {label on : String} (hlabel : Text.isPlain label = true)
    (hon : Text.isPlain on = true) :
    (s.join kind rows label on).FillsTo write (t.join kind rows' label on) := by
  have hbefore : Text.isPlain (kind.keyword ++ " (") = true := by cases kind <;> rfl
  have hafter : Text.isPlain (") " ++ label ++ " ON " ++ on) = true := by
    rw [Text.isPlain_append, Text.isPlain_append, Text.isPlain_append, hlabel, hon]
    rfl
  -- The joined rows are the only part with places.
  have hjoin := hrows.between hbefore hafter
  simp only [Fragment.append, Fragment.raw, List.nil_append, List.append_nil,
    ← String.append_assoc] at hjoin
  exact ⟨h.plain, List.rel_append h.joins (.cons hjoin .nil), h.conditions, by rw [h.eq]; rfl⟩

theorem filter (h : s.FillsTo write t) {f g : Fragment} (hf : f.FillsTo write g) :
    (s.filter f).FillsTo write (t.filter g) :=
  ⟨h.plain, h.joins, List.rel_append h.conditions (.cons hf .nil), by rw [h.eq]; rfl⟩

theorem filter? (h : s.FillsTo write t) {f g : Option Fragment}
    (hf : Option.Rel (Fragment.FillsTo write) f g) :
    (s.filter? f).FillsTo write (t.filter? g) := by
  cases hf with
  | none => exact h
  | some hf => exact h.filter hf

end FillsTo

end Statement

end SchoolAtlas
