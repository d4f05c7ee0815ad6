import SchoolAtlas.Proofs.Command.Rearrangement

/-!
# What Lists of Names Replace

The menus that a command line leads to, told without its clicks.

A list of names on the command line is carried out as clicks: every name given is ticked, and then
every other name of the menu is unticked. Told at once, it says which names are ticked and which
are listed in the end (`Selection.Replaced`). The names given are ticked and no others, and no name
gets lost. Without a list the ticks are as they were at the start.

The levels have one more say. An exam that the options turn on ticks its level, and since these
clicks come last they do so whatever levels are given. What the other options do to the place and to
the way of counting does not touch the menus.

The source is what the last click makes it, whatever came before.

## Main definitions

* `Selection.Replaced`: A menu after a list of names, and some names that are ticked anyway.
* `FilterArguments.forcedLevels`: The levels that options tick besides those given.

## Theorems

* `Selection.isSelected_replacing_iff`: The names that are ticked after a list of names.
* `Selection.mem_names_replacing_iff`: The names that are listed.
* `Filter.State.source_apply_source`: The source that is picked is the source.
* `FilterArguments.replaced_levels_examClicks`: What the exams do to the levels.
* `FilterArguments.filterState_replaced`: What a command line makes of the menus.
-/

namespace SchoolAtlas

namespace Selection

variable {menu result later : Selection} {given forced : List String}

/-- A menu whose ticks are replaced by the names given, if any is, with some names ticked in any
    case. No name of the menu gets lost. -/
structure Replaced (given forced : List String) (menu result : Selection) : Prop where
  ticked_iff : ∀ name, result.isSelected name = true ↔
    (if given = [] then menu.isSelected name = true else name ∈ given) ∨ name ∈ forced
  listed_iff : ∀ name, name ∈ result.names ↔ name ∈ menu.names ∨ name ∈ given ∨ name ∈ forced

theorem isSelected_replacing_iff (menu : Selection) (given : List String) (name : String) :
    (menu.setAll (menu.replacing given)).isSelected name = true ↔
      if given = [] then menu.isSelected name = true else name ∈ given := by
  by_cases hnil : given = []
  · rw [if_pos hnil, hnil]
    rfl
  rw [if_neg hnil]
  by_cases hin : name ∈ given
  · have hget : (menu.setAll (menu.replacing given)).ticks.get? name = some true := by
      refine NameMap.get?_insertAll_of_mem (mem_replacing_iff.mpr ⟨hnil, Or.inl ⟨hin, rfl⟩⟩)
        (fun other hother => ?_)
      exact (mem_replacing_iff.mp hother).2.elim And.right (fun hout => absurd hin hout.2.1)
    simp only [isSelected, hget, Option.getD_some, hin]
  · have hget : (menu.setAll (menu.replacing given)).ticks.get? name ≠ some true := by
      by_cases hlisted : name ∈ menu.names
      · have hfalse : (menu.ticks.insertAll (menu.replacing given)).get? name = some false := by
          refine NameMap.get?_insertAll_of_mem
            (mem_replacing_iff.mpr ⟨hnil, Or.inr ⟨hlisted, hin, rfl⟩⟩) (fun other hother => ?_)
          exact (mem_replacing_iff.mp hother).2.elim (fun h => absurd h.1 hin) (fun h => h.2.2)
        rw [setAll, hfalse]
        decide
      · -- A name that is neither given nor listed is not clicked at all.
        have hout : name ∉ (menu.replacing given).map Prod.fst := by
          intro hclick
          rcases List.mem_map.mp hclick with ⟨click, hmem, rfl⟩
          exact (mem_replacing_iff.mp hmem).2.elim (fun h => hin h.1) (fun h => hlisted h.1)
        rw [setAll, NameMap.get?_insertAll_of_not_mem hout]
        exact fun htrue =>
          hlisted (NameMap.mem_names_iff.mpr (Option.isSome_of_eq_some htrue))
    rw [isSelected]
    cases hticks : (menu.setAll (menu.replacing given)).ticks.get? name with
    | none => simp only [Option.getD_none, Bool.false_eq_true, hin]
    | some ticked =>
        cases ticked with
        | true => exact absurd hticks hget
        | false => simp only [Option.getD_some, Bool.false_eq_true, hin]

theorem mem_names_replacing_iff (menu : Selection) (given : List String) (name : String) :
    name ∈ (menu.setAll (menu.replacing given)).names ↔ name ∈ menu.names ∨ name ∈ given := by
  -- A click is on a given name or on a listed one, and every given name is clicked.
  have hclicks : name ∈ (menu.replacing given).map Prod.fst ∨ name ∈ menu.names ↔
      name ∈ menu.names ∨ name ∈ given := by
    constructor
    · rintro (hclick | hlisted)
      · rcases List.mem_map.mp hclick with ⟨click, hmem, rfl⟩
        exact (mem_replacing_iff.mp hmem).2.elim (fun h => Or.inr h.1) (fun h => Or.inl h.1)
      · exact Or.inl hlisted
    · rintro (hlisted | hin)
      · exact Or.inr hlisted
      · have hclick : (name, true) ∈ menu.replacing given :=
          mem_replacing_iff.mpr ⟨List.ne_nil_of_mem hin, Or.inl ⟨hin, rfl⟩⟩
        exact Or.inl (List.mem_map.mpr ⟨_, hclick, rfl⟩)
  exact NameMap.mem_names_insertAll.trans hclicks

/-- The clicks that replace a menu do so. -/
theorem replaced_setAll (menu : Selection) (given : List String) :
    Replaced given [] menu (menu.setAll (menu.replacing given)) where
  ticked_iff := fun name => by
    rw [isSelected_replacing_iff, or_iff_left List.not_mem_nil]
  listed_iff := fun name => by
    rw [mem_names_replacing_iff, or_iff_left (b := name ∈ []) List.not_mem_nil]

theorem replaced_refl (menu : Selection) : Replaced [] [] menu menu :=
  replaced_setAll menu []

/-- It only matters which names are ticked in any case. -/
theorem Replaced.congr {forced' : List String} (h : Replaced given forced menu result)
    (hsame : ∀ name, name ∈ forced ↔ name ∈ forced') : Replaced given forced' menu result where
  ticked_iff := fun name => by rw [h.ticked_iff, hsame]
  listed_iff := fun name => by rw [h.listed_iff, hsame]

/-- Names can be ticked anyway once the menu is replaced. -/
theorem Replaced.trans (h : Replaced given [] menu result) (h' : Replaced [] forced result later) :
    Replaced given forced menu later where
  ticked_iff := fun name => by
    rw [h'.ticked_iff, if_pos rfl, h.ticked_iff, or_iff_left (b := name ∈ []) List.not_mem_nil]
  listed_iff := fun name => by
    rw [h'.listed_iff, h.listed_iff, or_iff_left (b := name ∈ []) List.not_mem_nil,
      or_iff_right (a := name ∈ []) List.not_mem_nil, or_assoc]

/-- A level that is forced is listed, whether or not it was. -/
theorem mem_names_withLevel (levels : Selection) (level name : String) :
    name ∈ (Filter.State.withLevel levels level).names ↔ name ∈ levels.names ∨ name = level := by
  rw [Filter.State.withLevel]
  split
  · next hticked =>
    exact (or_iff_left_of_imp (fun h => h ▸ mem_names_of_isSelected hticked)).symm
  · rw [names, set, NameMap.mem_names_iff, NameMap.get?_insert, names, NameMap.mem_names_iff]
    by_cases hname : level = name
    · simp only [hname, if_true, Option.isSome_some, or_true]
    · rw [if_neg hname, or_iff_left (fun h => hname h.symm)]

/-- A level that is forced is one of those that are ticked in any case. -/
theorem Replaced.withLevel (h : Replaced given forced menu result) (level : String) :
    Replaced given (level :: forced) menu (Filter.State.withLevel result level) where
  ticked_iff := fun name => by
    rw [Filter.State.isSelected_withLevel, Bool.or_eq_true, decide_eq_true_eq, h.ticked_iff,
      List.mem_cons, eq_comm (a := level), or_left_comm]
  listed_iff := fun name => by
    rw [mem_names_withLevel, h.listed_iff, List.mem_cons, or_comm, or_left_comm,
      or_left_comm (a := name = level)]

end Selection

theorem Filter.State.source_apply_source (s : Filter.State) (source : DataSource) :
    (s.apply (.source source)).source = source := by
  cases source <;> rfl

namespace FilterArguments

open SchoolAtlas.Filter (State Update)

variable {a : FilterArguments}

/-- The levels that options tick besides those given: each exam ticks its own, if it is turned on
    together with the other or picked as the source. -/
def forcedLevels (a : FilterArguments) : List String :=
  (if a.examDataset ∨ a.source = some .bac then [Catalogue.highSchool] else [])
    ++ (if a.examDataset ∨ a.source = some .evaluation then [Catalogue.middleSchool] else [])

/-- The options for counting touch nothing else. -/
theorem countClicks_frame (a : FilterArguments) (s : State) :
    ∃ strict perCapita schoolAgeOnly, s.applyAll a.countClicks
      = { s with strictLevelLanguage := strict, perCapita, schoolAgeOnly } := by
  rw [countClicks]
  cases a.strict <;> cases a.perCapita <;> cases a.schoolAgeOnly <;> exact ⟨_, _, _, rfl⟩

/-- The options for the exams touch nothing but them and the levels. -/
theorem examClicks_frame (a : FilterArguments) (s : State) :
    ∃ levels examDataset bac evaluation, s.applyAll a.examClicks
      = { s with levels, examDataset, inBacData := bac, inEvaluationData := evaluation } := by
  rw [examClicks]
  cases a.examDataset <;> cases a.source <;> exact ⟨_, _, _, _, rfl⟩

/-- What the options for the exams do to the levels. -/
theorem replaced_levels_examClicks (a : FilterArguments) (s : State) :
    Selection.Replaced [] a.forcedLevels s.levels (s.applyAll a.examClicks).levels := by
  have hnone := Selection.replaced_refl s.levels
  have hboth := (hnone.withLevel Catalogue.highSchool).withLevel Catalogue.middleSchool
  rw [examClicks, forcedLevels]
  cases a.examDataset with
  | false =>
      rcases a.source with _ | _ | _ | _
      · exact hnone
      · exact hnone
      · exact hnone.withLevel Catalogue.highSchool
      · exact hnone.withLevel Catalogue.middleSchool
  | true =>
      -- Both levels are ticked by then, and a source ticks one of them again.
      simp only [true_or, if_true, List.singleton_append]
      have hmem : ∀ name, name ∈ [Catalogue.middleSchool, Catalogue.highSchool] ↔
          name ∈ [Catalogue.highSchool, Catalogue.middleSchool] :=
        fun _ => List.Perm.mem_iff (.swap _ _ _)
      rcases a.source with _ | _ | _ | _
      · exact hboth.congr hmem
      · exact hboth.congr hmem
      · exact (hboth.withLevel Catalogue.highSchool).congr (by simp [or_comm])
      · exact (hboth.withLevel Catalogue.middleSchool).congr (by simp [or_comm])

/-- What a command line makes of the menus. If the file to start from can be read, the options lead
    to a state. In each of its menus the names given replace the ticks, and without any the ticks
    are as they were; an exam that the options turn on has its level ticked besides. A source that
    is given is the source of the state. -/
theorem filterState_replaced (files : Files) (a : FilterArguments) :
    (∀ e, files.startState a = .error e → files.filterState a = .error e) ∧
      ∀ start, files.startState a = .ok start → ∃ s, files.filterState a = .ok s ∧
        Selection.Replaced a.levels a.forcedLevels start.levels s.levels ∧
        Selection.Replaced a.languages [] start.languages s.languages ∧
        Selection.Replaced a.bacLanguages [] start.bacLanguages s.bacLanguages ∧
        Selection.Replaced a.bacResults [] start.bacResults s.bacResults ∧
        ∀ source, a.source = some source → s.source = source := by
  constructor
  · intro e herror
    rw [Files.filterState, herror]
    rfl
  · intro start hstart
    rcases placeClicks_frame a start with ⟨county, town, hplace⟩
    rcases countClicks_frame a (a.replaced { start with county, town }) with ⟨_, _, _, hcount⟩
    rcases examClicks_frame a ((a.replaced { start with county, town }).applyAll a.countClicks) with
      ⟨levels, _, _, _, hexam⟩
    -- Of all groups of clicks, the menus are touched by two: their own, and that of the exams.
    have hstate : a.state start = ((a.replaced { start with county, town }).applyAll
        a.countClicks).applyAll a.examClicks := by rw [state_eq, hplace]
    refine ⟨a.state start, by rw [Files.filterState, hstart]; rfl, ?_, ?_, ?_, ?_, ?_⟩
    · have hlevels := replaced_levels_examClicks a
        ((a.replaced { start with county, town }).applyAll a.countClicks)
      rw [← hstate, hcount] at hlevels
      exact (Selection.replaced_setAll start.levels a.levels).trans hlevels
    · rw [hstate, hexam, hcount]
      exact Selection.replaced_setAll start.languages a.languages
    · rw [hstate, hexam, hcount]
      exact Selection.replaced_setAll start.bacLanguages a.bacLanguages
    · rw [hstate, hexam, hcount]
      exact Selection.replaced_setAll start.bacResults a.bacResults
    · intro source hsource
      rw [state_eq, examClicks, hsource, State.applyAll_append]
      exact State.source_apply_source _ source

/-- A file has the baccalaureate on and two levels, of which one is given together with a level that
    is not in the menu. The evaluation is picked, so that its level is ticked as well. The languages
    are as the file has them. A file that is not there is missed. -/
theorem filterState_replaced_evaluation :
    let files : Files := fun path =>
      if path = "p.json" then
        .file ("\x7b\"inBacData\":true,\"levels\":\x7b\"Primar\":false,\"Liceal\":true\x7d,"
          ++ "\"languages\":\x7b\"rromani\":true,\"italiana\":false\x7d\x7d").toUTF8
      else .missing
    let a : FilterArguments :=
      { (default : FilterArguments) with
        preset := some "p.json", levels := ["Sport", "Primar", "Sport"],
        source := some .evaluation }
    (∃ s, files.filterState a = .ok s ∧ s.source = .evaluation ∧
      (∀ name, s.levels.isSelected name = true ↔
        name ∈ ["Sport", "Primar", "Sport"] ∨ name ∈ [Catalogue.middleSchool]) ∧
      (∀ name, s.languages.isSelected name = true ↔
        (Selection.ofNames ["italiana", "rromani"] (· = "rromani")).isSelected name = true)) ∧
      files.filterState { a with preset := some "q.json" }
        = .error (.presetUnreadable "q.json") := by
  intro files a
  let start : State :=
    { State.initial with
      levels := .ofNames ["Liceal", "Primar"] (· = "Liceal")
      languages := .ofNames ["italiana", "rromani"] (· = "rromani"), inBacData := true }
  have hstart : files.startState a = .ok start :=
    startState_of_preset rfl rfl (by decide +kernel)
  -- The stored level gives way to those that are given and to the one that the exam forces.
  rcases (filterState_replaced files a).2 start hstart with
    ⟨s, hs, hlevels, hlanguages, _, _, hsource⟩
  refine ⟨⟨s, hs, hsource _ rfl, hlevels.ticked_iff, fun name => ?_⟩,
    (filterState_replaced files { a with preset := some "q.json" }).1 _ rfl⟩
  exact (hlanguages.ticked_iff name).trans (or_iff_left List.not_mem_nil)

end FilterArguments

end SchoolAtlas
