import SchoolAtlas.Proofs.Query.Filling

/-!
# Drafts of Statements

Everything that can be assembled from clauses, and where its values end up.

The plans of the atlas lead to a few statements, but fragments and statements can be put
together in many more ways, and nothing about places and values depends on the way. A draft
is a record of the steps that were taken: comparisons and raw texts at the leaves, brackets,
alternatives and conjunctions of what there is, and statements whose joins and conditions
are written drafts again, to any depth. Steps of a statement come in any order. Carrying
them out is `Draft.value`, and it may come to nothing, because a list of no values makes no
condition.

A draft can also be written with its values in the text from the start. `Draft.inlined`
does that at the leaves and changes nothing else, so the values are where their comparisons
are and no places are left. That is what a draft means, and `Draft.fillsTo` says that the
database is asked for the same: filling the places of the assembled text with its parameters
gives the text with its values inlined. The induction is on the steps, and each of them is
one lemma about fragments or statements.

Fragments, the parts of a conjunction and statements are drafted in one type with an index,
because they contain each other.

## Main definitions

* `DraftKind`, `Draft`: Steps of assembling something.
* `Draft.value`: What the steps lead to.
* `Draft.inlined`: The same steps with values in the text.
* `Draft.isPlain`: The texts of a draft have no places.
* `DraftKind.FillsTo`: Two results agree when values are filled in.

## Theorems

* `Draft.fillsTo`: The values of a draft belong to their places.
* `Draft.value_inlined`: What that means for a fragment.
-/

namespace SchoolAtlas

namespace Options

variable {α α' β β' : Type} {R : α → α' → Prop} {S : β → β' → Prop}

theorem rel_map {f : α → β} {g : α' → β'} {a : Option α} {b : Option α'} (h : Option.Rel R a b)
    (hfg : ∀ {x y}, R x y → S (f x) (g y)) : Option.Rel S (a.map f) (b.map g) := by
  cases h with
  | none => exact .none
  | some h => exact .some (hfg h)

theorem rel_bind {f : α → Option β} {g : α' → Option β'} {a : Option α} {b : Option α'}
    (h : Option.Rel R a b) (hfg : ∀ {x y}, R x y → Option.Rel S (f x) (g y)) :
    Option.Rel S (a.bind f) (b.bind g) := by
  cases h with
  | none => exact .none
  | some h => exact hfg h

end Options

/-- What is drafted: a fragment, the parts of a conjunction, or a statement. -/
inductive DraftKind where
  | fragment
  | parts
  | statement

/-- Steps of assembling something. -/
inductive Draft : DraftKind → Type where
  | raw (sql : String) : Draft .fragment
  | equals (column value : String) : Draft .fragment
  | oneOf (column : String) (values : List String) : Draft .fragment
  | either (first second : Draft .fragment) : Draft .fragment
  | grouped (inner : Draft .fragment) : Draft .fragment
  | rowExists (inner : Draft .fragment) : Draft .fragment
  | all (parts : Draft .parts) : Draft .fragment
  | written (statement : Draft .statement) : Draft .fragment
  | noPart : Draft .parts
  | part (first : Draft .fragment) (rest : Draft .parts) : Draft .parts
  | ofTable (table : String) : Draft .statement
  | distinct (statement : Draft .statement) : Draft .statement
  | list (statement : Draft .statement) (clause : Clause) (column : String) : Draft .statement
  | join (statement : Draft .statement) (kind : JoinKind) (rows : Draft .fragment)
      (label on : String) : Draft .statement
  /-- Adds a condition that has to be there. -/
  | filter (statement : Draft .statement) (condition : Draft .fragment) : Draft .statement
  /-- Adds a condition, if it is there. -/
  | filter? (statement : Draft .statement) (condition : Draft .fragment) : Draft .statement

/-- What a draft of some kind leads to. -/
abbrev DraftKind.Value : DraftKind → Type
  | fragment => Option Fragment
  | parts => List (Option Fragment)
  | statement => Option Statement

/-- Results of two drafts agree when values are filled in: both are missing, or one reads like
    the other. -/
def DraftKind.FillsTo (write : String → String) : (k : DraftKind) → k.Value → k.Value → Prop
  | fragment => Option.Rel (Fragment.FillsTo write)
  | parts => List.Forall₂ (Option.Rel (Fragment.FillsTo write))
  | statement => Option.Rel (Statement.FillsTo write)

namespace Draft

/-- What the steps lead to. A step that takes something that is missing leads to nothing. -/
def value : Draft k → k.Value
  | raw sql => some (.raw sql)
  | equals column value => some (.equals column value)
  | oneOf column values => Fragment.oneOf? column values
  | either first second => first.value.bind fun f => second.value.map f.or
  | grouped inner => inner.value.map Fragment.grouped
  | rowExists inner => inner.value.map Fragment.rowExists
  | all parts => Fragment.all? parts.value
  | written statement => statement.value.map Statement.fragment
  | noPart => []
  | part first rest => first.value :: rest.value
  | ofTable table => some (.ofTable table)
  | distinct statement => statement.value.map Statement.asDistinct
  | list statement clause column => statement.value.map (·.list clause column)
  | join statement kind rows label on =>
    statement.value.bind fun s => rows.value.map fun rows => s.join kind rows label on
  | filter statement condition => statement.value.bind fun s => condition.value.map s.filter
  | filter? statement condition => statement.value.map (·.filter? condition.value)

/-- The same steps, with the values in the text from the start. -/
def inlined (write : String → String) : Draft k → Draft k
  | raw sql => raw sql
  | equals column value => raw (column ++ " = " ++ write value)
  | oneOf column values =>
    if values.isEmpty then oneOf column []
    else raw (column ++ " IN (" ++ ", ".intercalate (values.map write) ++ ")")
  | either first second => either (first.inlined write) (second.inlined write)
  | grouped inner => grouped (inner.inlined write)
  | rowExists inner => rowExists (inner.inlined write)
  | all parts => all (parts.inlined write)
  | written statement => written (statement.inlined write)
  | noPart => noPart
  | part first rest => part (first.inlined write) (rest.inlined write)
  | ofTable table => ofTable table
  | distinct statement => distinct (statement.inlined write)
  | list statement clause column => list (statement.inlined write) clause column
  | join statement kind rows label on =>
    join (statement.inlined write) kind (rows.inlined write) label on
  | filter statement condition => filter (statement.inlined write) (condition.inlined write)
  | filter? statement condition => filter? (statement.inlined write) (condition.inlined write)

/-- No text of a draft has a place for a value. Values are not texts of it. -/
def isPlain : Draft k → Bool
  | raw sql => Text.isPlain sql
  | equals column _ | oneOf column _ => Text.isPlain column
  | either first second => first.isPlain && second.isPlain
  | grouped inner | rowExists inner => inner.isPlain
  | all parts => parts.isPlain
  | written statement => statement.isPlain
  | noPart => true
  | part first rest => first.isPlain && rest.isPlain
  | ofTable table => Text.isPlain table
  | distinct statement => statement.isPlain
  | list statement _ column => statement.isPlain && Text.isPlain column
  | join statement _ rows label on =>
    statement.isPlain && rows.isPlain && Text.isPlain label && Text.isPlain on
  | filter statement condition | filter? statement condition =>
    statement.isPlain && condition.isPlain

/-- The values of a draft belong to their places: filling in the parameters of what the steps
    lead to gives what they lead to with the values in the text. -/
theorem fillsTo (write : String → String) (d : Draft k) (h : d.isPlain = true) :
    k.FillsTo write d.value (d.inlined write).value := by
  induction d with
  | raw sql => exact .some (Fragment.fillsTo_raw h)
  | equals column value => exact .some (Fragment.fillsTo_equals h value)
  | oneOf column values =>
      rw [inlined]
      cases hf : Fragment.oneOf? column values with
      | none =>
          have hnil : values.isEmpty = true := by
            by_contra hne
            rw [Fragment.oneOf?, if_neg hne] at hf
            exact absurd hf (by simp only [reduceCtorEq, not_false_eq_true])
          -- A list of no values makes no condition on either side.
          rw [if_pos hnil, value, value, hf]
          exact .none
      | some f =>
          have hne : ¬values.isEmpty = true := by
            intro hnil
            rw [Fragment.oneOf?, if_pos hnil] at hf
            exact absurd hf (by simp only [reduceCtorEq, not_false_eq_true])
          rw [if_neg hne, value, value, hf]
          exact .some (Fragment.fillsTo_oneOf h hf)
  | either first second ih₁ ih₂ =>
      rw [isPlain, Bool.and_eq_true] at h
      exact Options.rel_bind (ih₁ h.1) (fun hf => Options.rel_map (ih₂ h.2) (fun hg => hf.or hg))
  | grouped inner ih => exact Options.rel_map (ih h) Fragment.FillsTo.grouped
  | rowExists inner ih => exact Options.rel_map (ih h) Fragment.FillsTo.rowExists
  -- Parts that are missing are missing on both sides, so the same ones are left.
  | all parts ih => exact Fragment.FillsTo.all? (ih h)
  | written statement ih => exact Options.rel_map (ih h) Statement.FillsTo.fragment
  | noPart => exact .nil
  | part first rest ih₁ ih₂ =>
      rw [isPlain, Bool.and_eq_true] at h
      exact .cons (ih₁ h.1) (ih₂ h.2)
  | ofTable table => exact .some (Statement.fillsTo_ofTable h)
  | distinct statement ih => exact Options.rel_map (ih h) Statement.FillsTo.asDistinct
  | list statement clause column ih =>
      rw [isPlain, Bool.and_eq_true] at h
      exact Options.rel_map (ih h.1) (fun hs => hs.list clause h.2)
  | join statement kind rows label on ih₁ ih₂ =>
      simp only [isPlain, Bool.and_eq_true] at h
      rcases h with ⟨⟨⟨hstatement, hrows⟩, hlabel⟩, hon⟩
      exact Options.rel_bind (ih₁ hstatement) (fun hs =>
        Options.rel_map (ih₂ hrows) (fun hf => hs.join kind hf hlabel hon))
  | filter statement condition ih₁ ih₂ =>
      rw [isPlain, Bool.and_eq_true] at h
      exact Options.rel_bind (ih₁ h.1) (fun hs =>
        Options.rel_map (ih₂ h.2) (fun hf => hs.filter hf))
  | filter? statement condition ih₁ ih₂ =>
      rw [isPlain, Bool.and_eq_true] at h
      exact Options.rel_map (ih₁ h.1) (fun hs => hs.filter? (ih₂ h.2))

theorem value_inlined (write : String → String) {d : Draft .fragment} (h : d.isPlain = true) :
    (∀ f, d.value = some f → f.places = f.params.length) ∧
      (d.inlined write).value = d.value.map (fun f => .raw (f.filled write)) := by
  have hfills : Option.Rel (Fragment.FillsTo write) d.value (d.inlined write).value :=
    d.fillsTo write h
  generalize d.value = before, (d.inlined write).value = after at hfills ⊢
  cases hfills with
  | none => exact ⟨fun _ h => absurd h (by simp only [reduceCtorEq, not_false_eq_true]), rfl⟩
  | some hf =>
      refine ⟨fun _ h => Option.some.inj h ▸ hf.places, ?_⟩
      rw [Option.map_some, hf.eq]

end Draft

end SchoolAtlas
