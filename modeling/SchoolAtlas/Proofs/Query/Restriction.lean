import SchoolAtlas.Proofs.Query.Recovery

/-!
# The Restriction Behind a Query

Which filter states ask for the same query.

A state holds far more than one query looks at. There are menus of three data sources, of
which one answers; names that are listed without a tick; a town that a map does not show; and
flags for ways of counting that no statement knows of. `State.SameRestriction` lists what is
left: the data source, and what it is restricted to. For candidates of the baccalaureate that
is the restriction of a menu and not its ticks, so a menu with everything ticked is as good as
one with nothing ticked.

`State.compiled_eq_iff` says that this is all there is to it, in both directions. That states
with one restriction have one query is a matter of going through the definitions. The other
direction starts from the written statements. They are read back (`Query.eq_of_compiled`),
which leaves two plans that are the same, and what remains is to find the restriction in a
plan. Values are in the order of their names there, so which names they are is enough. The
condition on mother tongues is taken apart by what it lets through rather than by its form:
its rule says which restriction it is the rule of.

## Main definitions

* `Filter.State.SameRestriction`: Two states restrict one data source alike.

## Theorems

* `Filter.restriction_eq_of_passesLanguage`: A rule on mother tongues determines its
  restriction.
* `Filter.State.regionQuery_eq_iff`, `Filter.State.rosterQuery?_eq_iff`: States that ask for
  one plan.
* `Filter.State.compiled_eq_iff`: States that ask for one written query.
-/

namespace SchoolAtlas

namespace Filter

variable {a b : Option (List String)}

/-- The rule on mother tongues says which restriction it is a rule of. -/
theorem restriction_eq_of_passesLanguage
    (ha : ∀ picked ∈ a, picked.Pairwise (· < ·)) (hb : ∀ picked ∈ b, picked.Pairwise (· < ·))
    (h : ∀ tongue, PassesLanguage a tongue ↔ PassesLanguage b tongue) : a = b := by
  -- The majority language spelt out passes exactly if there is no restriction.
  have hspelt : ∀ picked, ¬PassesLanguage (some picked) (some Catalogue.majorityLanguage) :=
    fun _ hpass => hpass.1 rfl
  cases a with
  | none =>
      cases b with
      | none => rfl
      | some picked => exact absurd ((h _).mp trivial) (hspelt picked)
  | some picked =>
      cases b with
      | none => exact absurd ((h _).mpr trivial) (hspelt picked)
      | some picked' =>
          refine congrArg some (Selection.eq_of_ordered (ha _ rfl) (hb _ rfl) (fun name => ?_))
          by_cases hname : name = Catalogue.majorityLanguage
          · subst hname
            exact h none
          · have hpass := h (some name)
            rwa [PassesLanguage, PassesLanguage, and_iff_right hname, and_iff_right hname] at hpass

theorem restriction_eq_of_passesResult
    (ha : ∀ picked ∈ a, picked.Pairwise (· < ·)) (hb : ∀ picked ∈ b, picked.Pairwise (· < ·))
    (h : ∀ result, PassesResult a result ↔ PassesResult b result) : a = b := by
  -- No result at all passes only where nothing is asked for, which tells none from some.
  have hempty : ∀ picked, ¬PassesResult (some picked) none := by
    intro picked hpass
    rcases List.mem_map.mp hpass with ⟨name, _, hnone⟩
    exact absurd hnone (Option.some_ne_none name)
  have hname : ∀ picked name, PassesResult (some picked) (some name) ↔ name ∈ picked :=
    fun picked name => by simp only [PassesResult, List.mem_map, Option.some.injEq, exists_eq_right]
  cases a with
  | none =>
      cases b with
      | none => rfl
      | some picked => exact absurd ((h _).mp trivial) (hempty picked)
  | some picked =>
      cases b with
      | none => exact absurd ((h _).mpr trivial) (hempty picked)
      | some picked' =>
          refine congrArg some (Selection.eq_of_ordered (ha _ rfl) (hb _ rfl) (fun name => ?_))
          rw [← hname, ← hname]
          exact h (some name)

namespace State

variable {f g s : State}

/-- Two states have one data source and restrict it alike. For the general source that is a
    matter of the names that are ticked, and over schools also of whether level and language
    have to meet. -/
structure SameRestriction (overSchools : Bool) (f g : State) : Prop where
  source : f.source = g.source
  levels : f.source = .general → ∀ name, f.levels.isSelected name = g.levels.isSelected name
  languages :
    f.source = .general → ∀ name, f.languages.isSelected name = g.languages.isSelected name
  strict : f.source = .general → overSchools = true → f.isStrict = g.isStrict
  bacLanguages : f.source = .bac → f.bacLanguages.restriction? = g.bacLanguages.restriction?
  bacResults : f.source = .bac → f.bacResults.restriction? = g.bacResults.restriction?

/-! ### Conditions -/

theorem oneOf?_inj {κ : Type} {column : κ} {values values' : List String}
    (h : Condition.oneOf? column values = Condition.oneOf? column values') : values = values' := by
  cases values with
  | nil =>
      cases values' with
      | nil => rfl
      | cons value' more' => exact absurd h.symm (Option.some_ne_none _)
  | cons value more =>
      cases values' with
      | nil => exact absurd h (Option.some_ne_none _)
      | cons value' more' => exact (Condition.oneOf.inj (Option.some.inj h)).2

theorem enrolmentRows_inj (h : f.enrolmentRows = g.enrolmentRows) :
    f.levels.selected = g.levels.selected ∧ f.languages.selected = g.languages.selected := by
  have hkinds : ∀ {values values' : List String}, ∀ c ∈ Condition.oneOf? DetailColumn.level values,
      ∀ d ∈ Condition.oneOf? DetailColumn.language values', c ≠ d := by
    intro values values' c hc d hd
    rw [(mem_oneOf?_iff.mp hc).2, (mem_oneOf?_iff.mp hd).2]
    simp only [ne_eq, Condition.oneOf.injEq, reduceCtorEq, false_and, not_false_eq_true]
  rcases Lists.toList_append_inj hkinds hkinds (congrArg DetailQuery.conditions h) with
    ⟨hlevels, hlanguages⟩
  exact ⟨oneOf?_inj hlevels, oneOf?_inj hlanguages⟩

theorem independentJoins_inj (h : f.independentJoins = g.independentJoins) :
    f.levels.selected = g.levels.selected ∧ f.languages.selected = g.languages.selected := by
  let keys (label : String) (c : Condition DetailColumn) : Join := .keys label ⟨.enrolments, [c]⟩
  have hjoins : ∀ s : State, s.independentJoins
      = ((Condition.oneOf? .level s.levels.selected).map (keys "lvl")).toList
        ++ ((Condition.oneOf? .language s.languages.selected).map (keys "lng")).toList := by
    intro s
    rw [independentJoins, Option.toList_map, Option.toList_map]
  -- The two kinds of keys have different labels.
  have hkinds : ∀ {c d : Option (Condition DetailColumn)}, ∀ j ∈ c.map (keys "lvl"),
      ∀ j' ∈ d.map (keys "lng"), j ≠ j' := by
    intro c d j hj j' hj' heq
    rcases Option.map_eq_some_iff.mp hj with ⟨_, _, rfl⟩
    rcases Option.map_eq_some_iff.mp hj' with ⟨_, _, rfl⟩
    exact absurd (Join.keys.inj heq).1 (by decide)
  have hinj : ∀ (label : String) {c d : Option (Condition DetailColumn)},
      c.map (keys label) = d.map (keys label) → c = d := by
    intro label c d
    refine (Option.map_inj_right (fun x y heq => ?_)).mp
    simpa only [keys, Join.keys.injEq, DetailQuery.mk.injEq, List.cons.injEq, true_and, and_true]
      using heq
  rw [hjoins, hjoins] at h
  rcases Lists.toList_append_inj hkinds hkinds h with ⟨hlevels, hlanguages⟩
  exact ⟨oneOf?_inj (hinj _ hlevels), oneOf?_inj (hinj _ hlanguages)⟩

theorem bacRows_inj (h : f.bacRows = g.bacRows) :
    f.bacLanguages.restriction? = g.bacLanguages.restriction? ∧
      f.bacResults.restriction? = g.bacResults.restriction? := by
  have hkinds : ∀ {s t : State}, ∀ c ∈ motherTongueCondition? s.bacLanguages,
      ∀ d ∈ resultCondition? t.bacResults, c ≠ d := by
    intro s t c hc d hd
    rcases Option.bind_eq_some_iff.mp hd with ⟨values, _, hvalues⟩
    rcases Option.bind_eq_some_iff.mp hc with ⟨picked, _, hpicked⟩
    rw [(mem_oneOf?_iff.mp hvalues).2]
    -- It is put into brackets or is about the mother tongue.
    split at hpicked
    · rw [← Option.some.inj hpicked]
      simp only [ne_eq, reduceCtorEq, not_false_eq_true]
    · rw [(mem_oneOf?_iff.mp hpicked).2]
      simp only [ne_eq, Condition.oneOf.injEq, reduceCtorEq, false_and, not_false_eq_true]
  rcases Lists.toList_append_inj hkinds hkinds (congrArg DetailQuery.conditions h) with
    ⟨hlanguages, hresults⟩
  constructor
  · refine restriction_eq_of_passesLanguage (fun _ => Selection.restriction?_ordered)
      (fun _ => Selection.restriction?_ordered) (fun tongue => ?_)
    let row : DetailColumn → Option String := fun _ => tongue
    have hpass : ∀ languages : Selection,
        (∀ c ∈ (motherTongueCondition? languages).toList, c.truth row = some true) ↔
          PassesLanguage languages.restriction? tongue := fun _ => motherTongueCondition?_iff
    rw [← hpass, hlanguages, hpass]
  · refine restriction_eq_of_passesResult (fun _ => Selection.restriction?_ordered)
      (fun _ => Selection.restriction?_ordered) (fun result => ?_)
    let row : DetailColumn → Option String := fun _ => result
    have hpass : ∀ results : Selection,
        (∀ c ∈ (resultCondition? results).toList, c.truth row = some true) ↔
          PassesResult results.restriction? result := fun _ => resultCondition?_iff
    rw [← hpass, hresults, hpass]

theorem strictConditions_inj (hf : f.isStrict = true)
    (h : f.strictConditions = g.strictConditions) :
    f.levels.selected = g.levels.selected ∧ f.languages.selected = g.languages.selected := by
  let ask (languages : List String) (level : String) : SchoolCondition :=
    .hasRow ⟨.enrolments, .equals .level level :: choice .language languages⟩
  have hask : ∀ {languages languages' : List String} {level level' : String},
      ask languages level = ask languages' level' → languages = languages' ∧ level = level' := by
    intro languages languages' level level' heq
    simp only [ask, SchoolCondition.hasRow.injEq, DetailQuery.mk.injEq, List.cons.injEq,
      Condition.equals.injEq, true_and] at heq
    exact ⟨oneOf?_inj (Lists.toList_inj heq.2), heq.1⟩
  have hlist : f.levels.selected.map (ask f.languages.selected)
      = g.levels.selected.map (ask g.languages.selected) := h
  -- Something is ticked, so there is a condition to see the languages in.
  have hlanguages : f.languages.selected = g.languages.selected := by
    cases hlevels : f.levels.selected with
    | nil => exact absurd hlevels (isStrict_iff.mp hf).2.1
    | cons level rest =>
        cases hlevels' : g.levels.selected with
        | nil =>
            rw [hlevels, hlevels'] at hlist
            exact absurd hlist (List.cons_ne_nil _ _)
        | cons level' rest' =>
            rw [hlevels, hlevels'] at hlist
            exact (hask (List.cons.inj hlist).1).1
  rw [hlanguages] at hlist
  exact ⟨List.map_injective_iff.mpr (fun _ _ heq => (hask heq).2) hlist, hlanguages⟩

/-! ### Joins and conditions -/

theorem source_eq_of_studentQuery (h : f.studentQuery.table = g.studentQuery.table) :
    f.source = g.source := by
  rw [studentQuery, studentQuery] at h
  cases hf : f.source <;> cases hg : g.source <;> rw [hf, hg] at h <;>
    first | rfl | exact DetailTable.noConfusion h

/-- Schools are kept by keys of the table of the data source. -/
theorem keys_of_mem_schoolJoins {j : Join} (hj : j ∈ s.schoolJoins) :
    ∃ label query, j = .keys label query ∧ query.table = s.studentQuery.table := by
  rw [schoolJoins] at hj
  rw [studentQuery]
  cases hsource : s.source with
  | general =>
      simp only [hsource, independentJoins] at hj
      -- Strict matching has no joins, and otherwise there is one for each menu in use.
      split at hj
      · exact absurd hj List.not_mem_nil
      · rcases List.mem_append.mp hj with hj | hj <;>
          rcases List.mem_map.mp hj with ⟨c, _, rfl⟩ <;> exact ⟨_, _, rfl, rfl⟩
  | bac => exact ⟨_, _, List.mem_singleton.mp (hsource ▸ hj), rfl⟩
  | evaluation => exact ⟨_, _, List.mem_singleton.mp (hsource ▸ hj), rfl⟩

theorem source_eq_of_schoolJoins (h : f.schoolJoins = g.schoolJoins) : f.source = g.source := by
  -- Only the general source may do without keys.
  have hgeneral : ∀ {s : State}, s.schoolJoins = [] → s.source = .general := by
    intro s hnil
    rw [schoolJoins] at hnil
    cases hsource : s.source with
    | general => rfl
    | bac => exact absurd (hsource ▸ hnil) (List.cons_ne_nil _ _)
    | evaluation => exact absurd (hsource ▸ hnil) (List.cons_ne_nil _ _)
  by_cases hnil : f.schoolJoins = []
  · rw [hgeneral hnil, hgeneral (h ▸ hnil)]
  · rcases List.exists_mem_of_ne_nil _ hnil with ⟨j, hj⟩
    rcases keys_of_mem_schoolJoins hj with ⟨label, query, rfl, htable⟩
    rcases keys_of_mem_schoolJoins (h ▸ hj) with ⟨label', query', heq, htable'⟩
    rw [(Join.keys.inj heq).2] at htable
    exact source_eq_of_studentQuery (htable.symm.trans htable')

theorem sameRestriction_of_schools (hjoins : f.schoolJoins = g.schoolJoins)
    (hconditions : f.schoolConditions = g.schoolConditions) : SameRestriction true f g := by
  have hsource := source_eq_of_schoolJoins hjoins
  rw [schoolJoins, schoolJoins, ← hsource] at hjoins
  rw [schoolConditions, schoolConditions, ← hsource] at hconditions
  -- Strict matching shows in that there are conditions.
  have hne : ∀ {s : State}, s.isStrict = true → s.strictConditions ≠ [] :=
    fun hstrict hnil => (isStrict_iff.mp hstrict).2.1 (List.map_eq_nil_iff.mp hnil)
  have hgeneral : f.source = .general → f.isStrict = g.isStrict ∧
      f.levels.selected = g.levels.selected ∧ f.languages.selected = g.languages.selected := by
    intro hf
    simp only [hf] at hjoins hconditions
    cases hstrict : f.isStrict <;> cases hstrict' : g.isStrict <;>
      simp only [hstrict, hstrict', if_true, if_false, Bool.false_eq_true] at hjoins hconditions
    · exact ⟨rfl, independentJoins_inj hjoins⟩
    · exact absurd hconditions.symm (hne hstrict')
    · exact absurd hconditions (hne hstrict)
    · exact ⟨rfl, strictConditions_inj hstrict hconditions⟩
  have hbac : f.source = .bac → f.bacRows = g.bacRows := by
    intro hf
    simp only [hf] at hjoins
    exact (Join.keys.inj (List.cons.inj hjoins).1).2
  exact {
    source := hsource
    levels := fun hf => Selection.selected_eq_iff.mp (hgeneral hf).2.1
    languages := fun hf => Selection.selected_eq_iff.mp (hgeneral hf).2.2
    strict := fun hf _ => (hgeneral hf).1
    bacLanguages := fun hf => (bacRows_inj (hbac hf)).1
    bacResults := fun hf => (bacRows_inj (hbac hf)).2 }

theorem sameRestriction_of_students (hjoins : f.studentJoins = g.studentJoins) :
    SameRestriction false f g := by
  rcases studentJoins_eq f with ⟨label, columns, hf⟩
  rcases studentJoins_eq g with ⟨label', columns', hg⟩
  rw [hf, hg] at hjoins
  have hquery := (Join.rows.inj (List.cons.inj hjoins).1).2.2
  have hsource := source_eq_of_studentQuery (congrArg DetailQuery.table hquery)
  rw [studentQuery, studentQuery, ← hsource] at hquery
  -- The conditions of the two sources are told apart before the menus are read off.
  have hgeneral : f.source = .general → f.enrolmentRows = g.enrolmentRows := by
    intro hf
    simpa only [hf] using hquery
  have hbac : f.source = .bac → f.bacRows = g.bacRows := by
    intro hf
    simpa only [hf] using hquery
  exact {
    source := hsource
    levels := fun hf => Selection.selected_eq_iff.mp (enrolmentRows_inj (hgeneral hf)).1
    languages := fun hf => Selection.selected_eq_iff.mp (enrolmentRows_inj (hgeneral hf)).2
    strict := fun _ hfalse => absurd hfalse Bool.false_ne_true
    bacLanguages := fun hf => (bacRows_inj (hbac hf)).1
    bacResults := fun hf => (bacRows_inj (hbac hf)).2 }

namespace SameRestriction

variable {overSchools : Bool}

theorem bacRows (h : SameRestriction overSchools f g) (hf : f.source = .bac) :
    f.bacRows = g.bacRows := by
  rw [State.bacRows, State.bacRows, motherTongueCondition?, motherTongueCondition?,
    resultCondition?, resultCondition?, h.bacLanguages hf, h.bacResults hf]

theorem schools (h : SameRestriction true f g) :
    f.schoolJoins = g.schoolJoins ∧ f.schoolConditions = g.schoolConditions := by
  rw [schoolJoins, schoolJoins, schoolConditions, schoolConditions, ← h.source]
  cases hf : f.source with
  | general =>
      have hlevels := Selection.selected_eq_iff.mpr (h.levels hf)
      have hlanguages := Selection.selected_eq_iff.mpr (h.languages hf)
      simp only [independentJoins, strictConditions, hlevels, hlanguages, h.strict hf rfl,
        and_self]
  | bac => simp only [h.bacRows hf, and_self]
  | evaluation => exact ⟨rfl, rfl⟩

theorem students (h : SameRestriction overSchools f g) : f.studentJoins = g.studentJoins := by
  rw [studentJoins, studentJoins, ← h.source]
  cases hf : f.source with
  | general =>
      have hlevels := Selection.selected_eq_iff.mpr (h.levels hf)
      have hlanguages := Selection.selected_eq_iff.mpr (h.languages hf)
      simp only [enrolmentRows, hlevels, hlanguages]
  | bac => simp only [h.bacRows hf]
  | evaluation => rfl

end SameRestriction

/-! ### Plans -/

/-- Conditions on the place come first and are told from what follows. -/
theorem county_eq_of_conditions {conditions conditions' : List SchoolCondition}
    (hsome : f.county.isSome = g.county.isSome)
    (h : f.county.toList.map inCounty ++ conditions = g.county.toList.map inCounty ++ conditions') :
    f.county = g.county ∧ conditions = conditions' := by
  rcases Options.none_or_some hsome with ⟨hf, hg⟩ | ⟨code, code', hf, hg⟩
  · rw [hf, hg] at h
    exact ⟨hf.trans hg.symm, h⟩
  · rw [hf, hg] at h
    rcases List.cons.inj h with ⟨hcode, hrest⟩
    -- Both lists start with the condition on the county.
    have hsame : code = code' := by
      simpa only [inCounty, SchoolCondition.column.injEq, Condition.equals.injEq, true_and]
        using hcode
    exact ⟨by rw [hf, hg, hsame], hrest⟩

theorem regionQuery_eq_iff (f g : State) (statistic : Statistic) :
    f.regionQuery statistic = g.regionQuery statistic ↔
      f.county = g.county ∧ SameRestriction (!statistic.overStudents) f g := by
  constructor
  · intro h
    -- What a map is grouped by shows whether a county is open.
    have hsome : f.county.isSome = g.county.isSome := by
      have hgrouping := congrArg RegionQuery.grouping h
      rw [regionQuery, regionQuery] at hgrouping
      simp only at hgrouping
      cases hf : f.county.isSome <;> cases hg : g.county.isSome <;> simp_all
    rcases county_eq_of_conditions hsome (congrArg RegionQuery.conditions h) with
      ⟨hcounty, hconditions⟩
    have hjoins := congrArg RegionQuery.joins h
    refine ⟨hcounty, ?_⟩
    rw [regionQuery, regionQuery] at hjoins
    cases hover : statistic.overStudents with
    | true =>
        simp only [hover, if_true] at hjoins
        exact sameRestriction_of_students hjoins
    | false =>
        simp only [hover, Bool.false_eq_true, if_false] at hjoins hconditions
        exact sameRestriction_of_schools hjoins hconditions
  · intro h
    rcases h with ⟨hcounty, h⟩
    cases hover : statistic.overStudents with
    | true =>
        simp only [regionQuery, hcounty, hover, if_true, h.students, h.source]
    | false =>
        rw [hover] at h
        simp only [regionQuery, hcounty, hover, Bool.false_eq_true, if_false, h.schools,
          h.source]

theorem openTown?_eq_iff {code name : String} :
    s.openTown? = some (code, name) ↔ s.county = some code ∧ s.town = some name := by
  rw [openTown?]
  cases s.county <;> cases s.town <;> simp

theorem rosterQuery?_congr (hopen : f.openTown? = g.openTown?) (h : SameRestriction true f g) :
    f.rosterQuery? = g.rosterQuery? := by
  rw [rosterQuery?, rosterQuery?, hopen, h.schools.1, h.schools.2]

theorem rosterQuery?_eq_iff (hf : f.openTown?.isSome) (hg : g.openTown?.isSome) :
    f.rosterQuery? = g.rosterQuery? ↔
      f.county = g.county ∧ f.town = g.town ∧ SameRestriction true f g := by
  rcases Option.isSome_iff_exists.mp hf with ⟨⟨code, name⟩, hopen⟩
  rcases Option.isSome_iff_exists.mp hg with ⟨⟨code', name'⟩, hopen'⟩
  rw [rosterQuery?, rosterQuery?, hopen, hopen', Option.map_some, Option.map_some,
    Option.some.injEq, RosterQuery.eq_iff, List.cons.injEq]
  rw [openTown?_eq_iff] at hopen hopen'
  rw [hopen.1, hopen.2, hopen'.1, hopen'.2]
  -- County and town are the first two conditions of a roster.
  simp only [List.cons_append, List.nil_append, List.cons.injEq, true_and, inCounty, inTown,
    SchoolCondition.column.injEq, Condition.equals.injEq, Option.some.injEq]
  constructor
  · intro h
    rcases h with ⟨hjoins, hcode, hname, hconditions⟩
    exact ⟨hcode, hname, sameRestriction_of_schools hjoins hconditions⟩
  · intro h
    rcases h with ⟨hcode, hname, h⟩
    exact ⟨h.schools.1, hcode, hname, h.schools.2⟩

/-- The written queries of two states are the same, text, values and shape, exactly if the
    states agree on the place and on the restriction of one data source: on the county for a
    map, and on county and town for a roster. -/
theorem compiled_eq_iff (f g : State) :
    (∀ statistic, (Query.regions (f.regionQuery statistic)).compiled
        = (Query.regions (g.regionQuery statistic)).compiled ↔
      f.county = g.county ∧ SameRestriction (!statistic.overStudents) f g) ∧
    (f.openTown?.isSome → g.openTown?.isSome →
      (f.rosterQuery?.map (fun q => (Query.roster q).compiled)
          = g.rosterQuery?.map (fun q => (Query.roster q).compiled) ↔
        f.county = g.county ∧ f.town = g.town ∧ SameRestriction true f g)) := by
  constructor
  · intro statistic
    rw [← regionQuery_eq_iff]
    constructor
    · intro h
      exact Query.regions.inj (Query.eq_of_compiled (f.isClear_regionQuery statistic)
        (g.isClear_regionQuery statistic) h)
    · exact fun h => by rw [h]
  · intro hf hg
    rw [← rosterQuery?_eq_iff hf hg]
    constructor
    · intro h
      -- Both open a town, so there are two rosters.
      rcases Options.none_or_some_of_map h with ⟨hq, hq'⟩ | ⟨q, q', hq, hq', hsame⟩
      · rw [hq, hq']
      · rw [hq, hq', Query.roster.inj (Query.eq_of_compiled (isClear_rosterQuery hq)
          (isClear_rosterQuery hq') hsame)]
    · exact fun h => by rw [h]

/-- A town with candidates of the baccalaureate, with ticks of some mother tongues. -/
def candidatesOf (ticked : String → Bool) : State :=
  { initial with
    county := some "CJ"
    town := some "Turda"
    inBacData := true
    bacLanguages := .ofNames Catalogue.bacLanguages ticked }

/-- All mother tongues ticked ask for the roster and the maps that none ticked ask for, and one
    ticked asks for others. -/
theorem compiled_eq_iff_candidates :
    let all := candidatesOf (fun _ => true)
    let none := { candidatesOf (fun _ => false) with levels := .empty, perCapita := true }
    let majority := candidatesOf (· == Catalogue.majorityLanguage)
    let roster (s : State) := s.rosterQuery?.map (fun q => (Query.roster q).compiled)
    let map (s : State) (statistic : Statistic) :=
      (Query.regions (s.regionQuery statistic)).compiled
    (roster all = roster none ∧ ∀ statistic, map all statistic = map none statistic) ∧
      (roster all ≠ roster majority ∧ ∀ statistic, map all statistic ≠ map majority statistic) := by
  intro all none majority roster map
  have hsource : all.source ≠ .general := by decide
  -- Of all that was changed, nothing matters to the candidates of an exam.
  have hsame : ∀ overSchools, SameRestriction overSchools all none := fun _ =>
    { source := rfl
      levels := fun h => absurd h hsource
      languages := fun h => absurd h hsource
      strict := fun h _ => absurd h hsource
      bacLanguages := fun _ => by decide
      bacResults := fun _ => rfl }
  have hother : ∀ overSchools, ¬SameRestriction overSchools all majority :=
    fun _ h => absurd (h.bacLanguages rfl) (by decide)
  refine ⟨⟨?_, fun statistic => ?_⟩, fun heq => ?_, fun statistic heq => ?_⟩
  · exact ((compiled_eq_iff all none).2 rfl rfl).mpr ⟨rfl, rfl, hsame true⟩
  · exact ((compiled_eq_iff all none).1 statistic).mpr ⟨rfl, hsame _⟩
  · exact hother _ (((compiled_eq_iff all majority).2 rfl rfl).mp heq).2.2
  · exact hother _ (((compiled_eq_iff all majority).1 statistic).mp heq).2

end State

end Filter

end SchoolAtlas
