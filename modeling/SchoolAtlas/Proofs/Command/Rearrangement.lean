import SchoolAtlas.Command
import SchoolAtlas.Proofs.Filter.Consistency
import SchoolAtlas.Proofs.Selection

/-!
# The Order of Options

Whether it matters in what order the names of a menu are given.

A list of names replaces a menu, and what a menu is replaced by is a set: which names are given,
and not when or how often. The menus that a command line leads to depend on the sets alone,
because each name is either ticked by its clicks or unticked and never both
(`NameMap.insertAll_congr`).

The clicks are made one after the other, though, and a click on a level looks at the levels after
it. An exam is given up as soon as its level is not ticked, and is not taken up again when the
level is. So an exam outlasts the clicks if its level is ticked after every one of them
(`Selection.staysTicked_replacing_iff`). Among clicks that end with the level ticked, it is only
before the level's own click that the level can be missing, and only if it was missing at the
start. A consistent state never has an exam on without its level, and from one of these no order
matters. A stored state may have that, and then it matters whether the level comes first.

Options that set the exams themselves come last and make up for all of this.

## Main definitions

* `Selection.setAll`, `Selection.replacing`: Several clicks, and those that replace a menu.
* `Selection.staysTicked`: A name is ticked after every click.
* `Selection.Unmoved`: It makes no difference to a name in what order names are given.
* `FilterArguments.Rearranged`: The same names are given in another order, or more often.
* `FilterArguments.SetsExams`: The options set the exams themselves.
* `FilterArguments.OrderFree`: The order of the levels does not matter to the exams.

## Theorems

* `Selection.unmoved_iff`: Every order treats a name alike.
* `Filter.State.applyAll_levels`: Several clicks on levels.
* `FilterArguments.state_eq`: The state that options lead to.
* `FilterArguments.state_of_rearranged`: What another order leads to.
* `FilterArguments.forall_state_eq_iff`: When all orders lead to one state.
* `FilterArguments.filterState_rearranged`: The same of whole command lines.
* `FilterArguments.order_matters`: An order that does.
-/

namespace SchoolAtlas

namespace Selection

variable {menu : Selection} {name : String} {given : List String}

/-- The selection after several clicks. -/
def setAll (menu : Selection) (clicks : List (String × Bool)) : Selection :=
  ⟨menu.ticks.insertAll clicks⟩

/-- The clicks that replace the ticks of a menu by the names given, if any is. -/
def replacing (menu : Selection) (given : List String) : List (String × Bool) :=
  if given.isEmpty then []
  else given.map (·, true) ++ (menu.names.filter (!given.contains ·)).map (·, false)

/-- A name is ticked after every one of several clicks. -/
def staysTicked (name : String) (menu : Selection) : List (String × Bool) → Bool
  | [] => true
  | click :: rest =>
    (menu.set click.1 click.2).isSelected name
      && staysTicked name (menu.set click.1 click.2) rest

theorem staysTicked_append (name : String) (menu : Selection)
    (clicks more : List (String × Bool)) :
    staysTicked name menu (clicks ++ more)
      = (staysTicked name menu clicks && staysTicked name (menu.setAll clicks) more) := by
  induction clicks generalizing menu with
  | nil => rfl
  | cons click rest ih =>
      rw [List.cons_append, staysTicked, staysTicked, ih, Bool.and_assoc]
      rfl

/-- Ticking never unticks, so a name that is ticked stays so. -/
theorem staysTicked_ticks_of_isSelected (h : menu.isSelected name = true)
    (given : List String) : staysTicked name menu (given.map (·, true)) = true := by
  induction given generalizing menu with
  | nil => rfl
  | cons other rest ih =>
      have hnext : (menu.set other true).isSelected name = true := by
        rw [isSelected_set, h, ite_self]
      rw [List.map_cons, staysTicked, hnext, Bool.true_and, ih hnext]

/-- A name that is not ticked has to be the first to be. -/
theorem staysTicked_ticks_iff (menu : Selection) (given : List String) :
    staysTicked name menu (given.map (·, true)) = true ↔
      given = [] ∨ menu.isSelected name = true ∨ given.head? = some name := by
  cases given with
  | nil => simp only [List.map_nil, staysTicked, true_or]
  | cons first rest =>
      have hnext : (menu.set first true).isSelected name = true ↔
          menu.isSelected name = true ∨ first = name := by
        rw [isSelected_set]
        by_cases hfirst : first = name
        · simp only [hfirst, if_true, or_true]
        · simp only [hfirst, if_false, or_false]
      -- Ticks untick nothing, so only the menu after the first of them has to be looked at.
      rw [List.map_cons, staysTicked, Bool.and_eq_true, hnext, List.head?_cons, Option.some.injEq]
      simp only [reduceCtorEq, false_or, and_iff_left_iff_imp]
      exact fun h => staysTicked_ticks_of_isSelected (hnext.mpr h) rest

/-- Unticking other names leaves a name ticked. -/
theorem staysTicked_unticks_iff (h : menu.isSelected name = true) (others : List String) :
    staysTicked name menu (others.map (·, false)) = true ↔ name ∉ others := by
  -- The induction carries the menu, in which the name is still ticked.
  induction others generalizing menu with
  | nil => simp only [List.map_nil, staysTicked, List.not_mem_nil, not_false_eq_true]
  | cons other rest ih =>
      rw [List.map_cons, staysTicked, Bool.and_eq_true, isSelected_set, List.mem_cons, not_or]
      by_cases hother : other = name
      · simp only [hother, if_true, Bool.false_eq_true, false_and, not_true_eq_false]
      · have hnext : (menu.set other false).isSelected name = true := by
          rw [isSelected_set, if_neg hother, h]
        rw [if_neg hother, ih hnext, h]
        exact and_congr_left' ⟨fun _ => Ne.symm hother, fun _ => rfl⟩

theorem isSelected_setAll_ticks (menu : Selection) (given : List String) :
    (menu.setAll (given.map (·, true))).isSelected name = true ↔
      name ∈ given ∨ menu.isSelected name = true := by
  induction given generalizing menu with
  | nil =>
      rw [or_iff_right List.not_mem_nil]
      rfl
  | cons other rest ih =>
      -- The first click belongs to the menu that the others start from.
      have hstep : menu.setAll ((other :: rest).map (·, true))
          = (menu.set other true).setAll (rest.map (·, true)) := rfl
      rw [hstep, ih, isSelected_set, List.mem_cons]
      by_cases hother : other = name
      · simp only [hother, if_true, or_true, true_or]
      · rw [if_neg hother, or_iff_right (a := name = other) (fun h => hother h.symm)]

/-- A name is ticked after every click that replaces a menu exactly if it is given, and if it was
    ticked at the start or comes first. -/
theorem staysTicked_replacing_iff (menu : Selection) (given : List String) :
    staysTicked name menu (menu.replacing given) = true ↔
      given = [] ∨ name ∈ given ∧ (menu.isSelected name = true ∨ given.head? = some name) := by
  rw [replacing]
  split
  · next hempty =>
    simp only [staysTicked, List.isEmpty_iff.mp hempty, true_or]
  · next hempty =>
    have hne : given ≠ [] := fun hnil => hempty (List.isEmpty_iff.mpr hnil)
    rw [staysTicked_append, Bool.and_eq_true, staysTicked_ticks_iff, or_iff_right hne,
      or_iff_right hne, and_comm]
    refine and_congr_left (fun hticked => ?_)
    -- The name is ticked once the names given are, and is then unticked if it is not among them.
    have hmem : name ∈ given ∨ menu.isSelected name = true :=
      hticked.elim Or.inr (fun hfirst => Or.inl (List.mem_of_mem_head? hfirst))
    rw [staysTicked_unticks_iff ((isSelected_setAll_ticks menu given).mpr hmem), List.mem_filter,
      Bool.not_eq_true', List.contains_eq_mem, decide_eq_false_iff_not, not_and, not_not]
    exact ⟨fun hout => hmem.elim id (fun h => hout (mem_names_of_isSelected h)),
      fun hin _ => hin⟩

theorem mem_map_click_iff {click : String × Bool} {names : List String} {ticked : Bool} :
    click ∈ names.map (·, ticked) ↔ click.1 ∈ names ∧ click.2 = ticked := by
  rw [List.mem_map]
  constructor
  · rintro ⟨other, hin, rfl⟩
    exact ⟨hin, rfl⟩
  · rintro ⟨hin, rfl⟩
    exact ⟨_, hin, rfl⟩

theorem mem_replacing_iff {click : String × Bool} :
    click ∈ menu.replacing given ↔ given ≠ [] ∧
      (click.1 ∈ given ∧ click.2 = true ∨
        click.1 ∈ menu.names ∧ click.1 ∉ given ∧ click.2 = false) := by
  rw [replacing]
  split
  -- Nothing is given, so nothing is replaced.
  · next hempty =>
    simp only [List.isEmpty_iff.mp hempty, List.not_mem_nil, ne_eq, not_true_eq_false, false_and]
  · next hempty =>
    have hne : given ≠ [] := fun hnil => hempty (List.isEmpty_iff.mpr hnil)
    rw [List.mem_append, mem_map_click_iff, mem_map_click_iff, List.mem_filter,
      Bool.not_eq_true', List.contains_eq_mem, decide_eq_false_iff_not, and_assoc,
      and_iff_right hne]

/-- The menu that is left depends only on which names are given. -/
theorem setAll_replacing_congr (menu : Selection) {given given' : List String}
    (h : ∀ name, name ∈ given ↔ name ∈ given') :
    menu.setAll (menu.replacing given) = menu.setAll (menu.replacing given') := by
  have hnil : given = [] ↔ given' = [] := by
    rw [List.eq_nil_iff_forall_not_mem, List.eq_nil_iff_forall_not_mem]
    exact forall_congr' (fun name => not_congr (h name))
  refine congrArg Selection.mk (NameMap.insertAll_congr _ (fun click => ?_) ?_)
  · rw [mem_replacing_iff, mem_replacing_iff, ne_eq, ne_eq, hnil, h]
  · intro name value other hvalue hother
    -- A name is ticked if it is given and unticked if not.
    rcases (mem_replacing_iff.mp hvalue).2 with ⟨hin, hticked⟩ | ⟨_, hout, hticked⟩ <;>
      rcases (mem_replacing_iff.mp hother).2 with ⟨hin', hticked'⟩ | ⟨_, hout', hticked'⟩
    · exact hticked'.trans hticked.symm
    · exact absurd hin hout'
    · exact absurd hin' hout
    · exact hticked'.trans hticked.symm

/-- It makes no difference to a name in what order the names of a menu are given: it is ticked
    at the start, or is not given, or is given alone. -/
def Unmoved (menu : Selection) (name : String) (given : List String) : Prop :=
  menu.isSelected name = true ∨ name ∉ given ∨ ∀ other ∈ given, other = name

instance (menu : Selection) (name : String) (given : List String) :
    Decidable (menu.Unmoved name given) :=
  inferInstanceAs (Decidable (_ ∨ _ ∨ ∀ other ∈ given, _))

/-- A name that is given alone comes first. -/
theorem head?_of_alone (hin : name ∈ given) (halone : ∀ other ∈ given, other = name) :
    given.head? = some name := by
  cases given with
  | nil => exact absurd hin List.not_mem_nil
  | cons first rest => rw [List.head?_cons, halone first List.mem_cons_self]

/-- A name is unmoved exactly if every order of the names given treats it alike. -/
theorem unmoved_iff : menu.Unmoved name given ↔
    ∀ given', (∀ other, other ∈ given' ↔ other ∈ given) →
      staysTicked name menu (menu.replacing given')
        = staysTicked name menu (menu.replacing given) := by
  constructor
  · intro h given' hsame
    have hnil : given' = [] ↔ given = [] := by
      rw [List.eq_nil_iff_forall_not_mem, List.eq_nil_iff_forall_not_mem]
      exact forall_congr' (fun other => not_congr (hsame other))
    rw [Bool.eq_iff_iff, staysTicked_replacing_iff, staysTicked_replacing_iff, hnil, hsame]
    refine or_congr_right (and_congr_right (fun hin => ?_))
    rcases h with hticked | hout | halone
    · simp only [hticked, true_or]
    · exact absurd hin hout
    · rw [head?_of_alone hin halone, head?_of_alone ((hsame name).mpr hin)
        (fun other hother => halone other ((hsame other).mp hother))]
  · intro h
    by_contra hmoved
    rw [Unmoved, not_or, not_or, not_not, not_forall] at hmoved
    rcases hmoved with ⟨hmenu, hin, other, hother⟩
    rw [Classical.not_imp] at hother
    -- One order begins with the name and one with another, and only the first keeps it ticked.
    have hfirst := h (name :: given)
      (fun x => List.mem_cons.trans (or_iff_right_of_imp (fun hx => hx ▸ hin)))
    have hlater := h (other :: given)
      (fun x => List.mem_cons.trans (or_iff_right_of_imp (fun hx => hx ▸ hother.1)))
    rw [← hlater, Bool.eq_iff_iff, staysTicked_replacing_iff, staysTicked_replacing_iff] at hfirst
    have hkept := hfirst.mp (Or.inr ⟨List.mem_cons_self, Or.inr rfl⟩)
    rcases hkept with hnil | ⟨_, hticked | hhead⟩
    · exact absurd hnil (List.cons_ne_nil _ _)
    · exact hmenu hticked
    · exact hother.2 (Option.some.inj hhead)

end Selection

namespace Filter

namespace State

/-- The state with each exam turned on or off, and nothing else touched. -/
def withExams (s : State) (bac evaluation : Bool) : State :=
  { s with inBacData := bac, inEvaluationData := evaluation }

/-- Several clicks on levels. An exam that is on outlasts them if its level is ticked after every
    one of them. -/
theorem applyAll_levels (s : State) (clicks : List (String × Bool)) :
    s.applyAll (clicks.map (fun click => .level click.1 click.2))
      = { s with
          levels := s.levels.setAll clicks
          inBacData := s.inBacData && s.levels.staysTicked Catalogue.highSchool clicks
          inEvaluationData :=
            s.inEvaluationData && s.levels.staysTicked Catalogue.middleSchool clicks } := by
  induction clicks generalizing s with
  | nil =>
      simp only [List.map_nil, applyAll, List.foldl_nil, Selection.staysTicked, Bool.and_true]
      rfl
  | cons click rest ih =>
      have hstep : s.applyAll ((click :: rest).map (fun click => .level click.1 click.2))
          = (s.tickLevel click.1 click.2).applyAll
              (rest.map (fun click => .level click.1 click.2)) := rfl
      -- The first click may already clear a flag, and then it stays cleared.
      rw [hstep, ih]
      simp only [tickLevel, Selection.staysTicked, Bool.and_assoc]
      rfl

/-- Several clicks on a menu that brings nothing else along. -/
theorem applyAll_menu (update : String → Bool → Update) (menu : State → Selection)
    (put : State → Selection → State)
    (hstep : ∀ s name ticked, s.apply (update name ticked) = put s ((menu s).set name ticked))
    (hmenu : ∀ s m, menu (put s m) = m) (hput : ∀ s m m', put (put s m) m' = put s m')
    (hself : ∀ s, put s (menu s) = s) (s : State) (clicks : List (String × Bool)) :
    s.applyAll (clicks.map (fun click => update click.1 click.2))
      = put s ((menu s).setAll clicks) := by
  induction clicks generalizing s with
  | nil => exact (hself s).symm
  -- One click puts a menu, and the clicks after it put another in its place.
  | cons click rest ih =>
      have hcons : s.applyAll ((click :: rest).map (fun click => update click.1 click.2))
          = (s.apply (update click.1 click.2)).applyAll
              (rest.map (fun click => update click.1 click.2)) := rfl
      rw [hcons, ih, hstep, hput, hmenu]
      rfl

end State

end Filter

/-- What is read of a file that holds a text. -/
@[simp]
theorem Entry.text?_file_toUTF8 (text : String) : (Entry.file text.toUTF8).text? = some text :=
  dif_pos text.isValidUTF8

namespace FilterArguments

open SchoolAtlas.Filter (State Update)

variable {a b : FilterArguments} {s start : State}

/-- The clicks that pick the place. -/
def placeClicks (a : FilterArguments) : List Update :=
  clickIf a.county.isSome (.county a.county) ++ clickIf a.town.isSome (.town a.town)

/-- The clicks that turn a way of counting on. -/
def countClicks (a : FilterArguments) : List Update :=
  clickIf a.strict (.strictLevelLanguage true) ++ clickIf a.perCapita (.perCapita true)
    ++ clickIf a.schoolAgeOnly (.schoolAgeOnly true)

/-- The clicks that set the exams. -/
def examClicks (a : FilterArguments) : List Update :=
  clickIf a.examDataset (.examDataset true) ++ a.source.toList.map .source

/-- The state with its menus replaced by the names given. -/
def replaced (a : FilterArguments) (s : State) : State :=
  { s with
    levels := s.levels.setAll (s.levels.replacing a.levels)
    languages := s.languages.setAll (s.languages.replacing a.languages)
    bacLanguages := s.bacLanguages.setAll (s.bacLanguages.replacing a.bacLanguages)
    bacResults := s.bacResults.setAll (s.bacResults.replacing a.bacResults)
    inBacData :=
      s.inBacData && s.levels.staysTicked Catalogue.highSchool (s.levels.replacing a.levels)
    inEvaluationData :=
      s.inEvaluationData
        && s.levels.staysTicked Catalogue.middleSchool (s.levels.replacing a.levels) }

theorem replacement_eq (given : List String) (menu : Selection) (update : String → Bool → Update) :
    replacement given menu update
      = (menu.replacing given).map (fun click => update click.1 click.2) := by
  rw [replacement, Selection.replacing]
  split
  · rfl
  · rw [List.map_append, List.map_map, List.map_map]
    rfl

/-- Picking the place touches nothing else. -/
theorem placeClicks_frame (a : FilterArguments) (start : State) :
    ∃ county town, start.applyAll a.placeClicks = { start with county, town } := by
  have hcounty : ∃ county town, start.applyAll (clickIf a.county.isSome (.county a.county))
      = { start with county, town } := by
    cases a.county with
    | none => exact ⟨_, _, rfl⟩
    | some code => exact ⟨_, _, rfl⟩
  rcases hcounty with ⟨county, town, hcounty⟩
  rw [placeClicks, State.applyAll_append, hcounty]
  -- A town is picked in a state that may already have another county.
  cases a.town with
  | none => exact ⟨_, _, rfl⟩
  | some name =>
      rcases State.pickTown_frame { start with county, town } (some name) with ⟨town', htown⟩
      exact ⟨_, _, htown⟩

/-- The state that options lead to: the place is picked, the menus are replaced, and then the
    other options have their effect. -/
theorem state_eq (a : FilterArguments) (start : State) :
    a.state start = ((a.replaced (start.applyAll a.placeClicks)).applyAll a.countClicks).applyAll
      a.examClicks := by
  have hupdates : a.updates start = a.placeClicks
      ++ (replacement a.levels start.levels .level
        ++ (replacement a.languages start.languages .language
          ++ (replacement a.bacLanguages start.bacLanguages .bacLanguage
            ++ (replacement a.bacResults start.bacResults .bacResult
              ++ (a.countClicks ++ a.examClicks))))) := by
    simp only [updates, placeClicks, countClicks, examClicks, List.append_assoc]
  rcases placeClicks_frame a start with ⟨county, town, hplace⟩
  rw [state, hupdates]
  simp only [State.applyAll_append, hplace, replacement_eq, State.applyAll_levels]
  -- No menu looks at another, so each is replaced on its own.
  rw [State.applyAll_menu .language State.languages (fun s m => { s with languages := m })
      (fun _ _ _ => rfl) (fun _ _ => rfl) (fun _ _ _ => rfl) (fun _ => rfl),
    State.applyAll_menu .bacLanguage State.bacLanguages (fun s m => { s with bacLanguages := m })
      (fun _ _ _ => rfl) (fun _ _ => rfl) (fun _ _ _ => rfl) (fun _ => rfl),
    State.applyAll_menu .bacResult State.bacResults (fun s m => { s with bacResults := m })
      (fun _ _ _ => rfl) (fun _ _ => rfl) (fun _ _ _ => rfl) (fun _ => rfl)]
  rfl

/-- The same options with the same names, which may stand in another order or be given more or
    less often. -/
structure Rearranged (a b : FilterArguments) : Prop where
  same : b = { a with levels := b.levels, languages := b.languages,
                      bacLanguages := b.bacLanguages, bacResults := b.bacResults }
  mem_levels : ∀ name, name ∈ b.levels ↔ name ∈ a.levels
  mem_languages : ∀ name, name ∈ b.languages ↔ name ∈ a.languages
  mem_bacLanguages : ∀ name, name ∈ b.bacLanguages ↔ name ∈ a.bacLanguages
  mem_bacResults : ∀ name, name ∈ b.bacResults ↔ name ∈ a.bacResults

/-- The options set the exams themselves. -/
def SetsExams (a : FilterArguments) : Prop := a.examDataset = true ∨ a.source.isSome = true

instance (a : FilterArguments) : Decidable a.SetsExams := inferInstanceAs (Decidable (_ ∨ _))

/-- What it takes for the order of the levels not to matter: the options set the exams
    themselves, or no order takes away an exam that is on at the start. -/
def OrderFree (a : FilterArguments) (start : State) : Prop :=
  a.SetsExams ∨
    (start.inBacData = true → start.levels.Unmoved Catalogue.highSchool a.levels) ∧
    (start.inEvaluationData = true → start.levels.Unmoved Catalogue.middleSchool a.levels)

instance (a : FilterArguments) (start : State) : Decidable (a.OrderFree start) :=
  inferInstanceAs (Decidable (_ ∨ _))

/-- Counting in another way does not touch the exams. -/
theorem applyAll_countClicks_withExams (a : FilterArguments) (s : State) (bac evaluation : Bool) :
    (s.withExams bac evaluation).applyAll a.countClicks
      = (s.applyAll a.countClicks).withExams bac evaluation := by
  have hclick : ∀ (s : State) (on : Bool) (u : Update),
      (∀ s : State, (s.withExams bac evaluation).apply u = (s.apply u).withExams bac evaluation) →
      (s.withExams bac evaluation).applyAll (clickIf on u)
        = (s.applyAll (clickIf on u)).withExams bac evaluation := by
    intro s on u hu
    cases on with
    | false => rfl
    | true => exact hu s
  -- No click on how to count touches the flags.
  rw [countClicks, State.applyAll_append, State.applyAll_append, State.applyAll_append,
    State.applyAll_append, hclick _ _ _ (fun _ => rfl), hclick _ _ _ (fun _ => rfl),
    hclick _ _ _ (fun _ => rfl)]

/-- Options that set the exams do so whatever they were. -/
theorem applyAll_examClicks_of_sets (h : a.SetsExams) (s : State) (bac evaluation : Bool) :
    (s.withExams bac evaluation).applyAll a.examClicks = s.applyAll a.examClicks := by
  rw [examClicks]
  cases hsource : a.source with
  | some source => cases a.examDataset <;> rfl
  | none =>
      have hexam : a.examDataset = true :=
        h.resolve_right (fun hsome => by rw [hsource] at hsome; exact Bool.noConfusion hsome)
      rw [hexam]
      rfl

theorem examClicks_eq_nil (h : ¬a.SetsExams) : a.examClicks = [] := by
  rw [SetsExams, not_or, Bool.not_eq_true, Bool.not_eq_true, Option.isSome_eq_false_iff,
    Option.isNone_iff_eq_none] at h
  rw [examClicks, h.1, h.2]
  rfl

namespace Rearranged

theorem placeClicks_eq (h : a.Rearranged b) : b.placeClicks = a.placeClicks := by
  rw [h.same]
  rfl

theorem countClicks_eq (h : a.Rearranged b) : b.countClicks = a.countClicks := by
  rw [h.same]
  rfl

theorem examClicks_eq (h : a.Rearranged b) : b.examClicks = a.examClicks := by
  rw [h.same]
  rfl

/-- The menus are the same, and only the exams can differ. -/
theorem replaced_eq (h : a.Rearranged b) (s : State) :
    b.replaced s
      = (a.replaced s).withExams (b.replaced s).inBacData (b.replaced s).inEvaluationData := by
  rw [replaced, replaced, State.withExams,
    Selection.setAll_replacing_congr s.levels h.mem_levels,
    Selection.setAll_replacing_congr s.languages h.mem_languages,
    Selection.setAll_replacing_congr s.bacLanguages h.mem_bacLanguages,
    Selection.setAll_replacing_congr s.bacResults h.mem_bacResults]

theorem setsExams_iff (h : a.Rearranged b) : b.SetsExams ↔ a.SetsExams := by
  rw [h.same]
  rfl

theorem of_levels {given : List String} (h : ∀ name, name ∈ given ↔ name ∈ a.levels) :
    a.Rearranged { a with levels := given } where
  same := rfl
  mem_levels := h
  mem_languages := fun _ => Iff.rfl
  mem_bacLanguages := fun _ => Iff.rfl
  mem_bacResults := fun _ => Iff.rfl

end Rearranged

/-- Before the clicks that set the exams, another order has led to the same state except for the
    exams. -/
theorem exists_before_examClicks (h : a.Rearranged b) (start : State) :
    ∃ (s : State) (bac evaluation : Bool), a.state start = s.applyAll a.examClicks ∧
      b.state start = (s.withExams bac evaluation).applyAll a.examClicks := by
  rw [state_eq a, state_eq b, h.placeClicks_eq, h.countClicks_eq, h.examClicks_eq, h.replaced_eq,
    applyAll_countClicks_withExams]
  exact ⟨_, _, _, rfl, rfl⟩

/-- Another order leads to the same state, except for what becomes of the exams. -/
theorem state_of_rearranged (h : a.Rearranged b) (start : State) :
    b.state start = (a.state start).withExams (b.state start).inBacData
      (b.state start).inEvaluationData := by
  rcases exists_before_examClicks h start with ⟨s, bac, evaluation, ha, hb⟩
  by_cases hsets : a.SetsExams
  · rw [hb, ha, applyAll_examClicks_of_sets hsets]
    rfl
  · rw [hb, ha, examClicks_eq_nil hsets]
    rfl

/-- Options that set the exams lead to the same state in every order. -/
theorem state_of_rearranged_of_sets (h : a.Rearranged b) (hsets : a.SetsExams) (start : State) :
    b.state start = a.state start := by
  rcases exists_before_examClicks h start with ⟨s, bac, evaluation, ha, hb⟩
  rw [hb, ha, applyAll_examClicks_of_sets hsets]

/-- What becomes of the exams if no option sets them. -/
theorem state_exams (h : ¬a.SetsExams) (start : State) :
    (a.state start).inBacData
        = (start.inBacData
          && start.levels.staysTicked Catalogue.highSchool (start.levels.replacing a.levels)) ∧
      (a.state start).inEvaluationData
        = (start.inEvaluationData
          && start.levels.staysTicked Catalogue.middleSchool
            (start.levels.replacing a.levels)) := by
  rcases placeClicks_frame a start with ⟨county, town, hplace⟩
  have hcount := applyAll_countClicks_withExams a (a.replaced { start with county, town })
    (a.replaced { start with county, town }).inBacData
    (a.replaced { start with county, town }).inEvaluationData
  -- The arguments say nothing of the flags, so the clicks on levels are the last to touch them.
  have hstate : a.state start
      = (a.replaced { start with county, town }).applyAll a.countClicks := by
    rw [state_eq, hplace, examClicks_eq_nil h]
    rfl
  exact ⟨hstate.trans hcount ▸ rfl, hstate.trans hcount ▸ rfl⟩

/-- All orders lead to one state exactly if the order does not matter to the exams. -/
theorem forall_state_eq_iff (a : FilterArguments) (start : State) :
    (∀ b, a.Rearranged b → b.state start = a.state start) ↔ a.OrderFree start := by
  constructor
  · intro hall
    by_cases hsets : a.SetsExams
    · exact Or.inl hsets
    -- It is enough to rearrange the levels, which are all that the flags depend on.
    have hlevels : ∀ given, (∀ name, name ∈ given ↔ name ∈ a.levels) →
        ({ a with levels := given } : FilterArguments).state start = a.state start :=
      fun given hgiven => hall _ (Rearranged.of_levels hgiven)
    refine Or.inr ⟨fun hon => Selection.unmoved_iff.mpr (fun given hgiven => ?_),
      fun hon => Selection.unmoved_iff.mpr (fun given hgiven => ?_)⟩
    · have hflag := congrArg State.inBacData (hlevels given hgiven)
      rwa [(state_exams (a := { a with levels := given }) hsets start).1,
        (state_exams hsets start).1, hon, Bool.true_and, Bool.true_and] at hflag
    · have hflag := congrArg State.inEvaluationData (hlevels given hgiven)
      rwa [(state_exams (a := { a with levels := given }) hsets start).2,
        (state_exams hsets start).2, hon, Bool.true_and, Bool.true_and] at hflag
  · intro hfree b hb
    by_cases hsets : a.SetsExams
    · exact state_of_rearranged_of_sets hb hsets start
    rcases hfree.resolve_left hsets with ⟨hbac, hevaluation⟩
    have hsets' : ¬b.SetsExams := fun h => hsets (hb.setsExams_iff.mp h)
    -- A flag that is not set at the start is not set at the end, in whichever order.
    have hbac' : (b.state start).inBacData = (a.state start).inBacData := by
      rw [(state_exams hsets' start).1, (state_exams hsets start).1]
      cases hon : start.inBacData with
      | false => rfl
      | true => rw [Selection.unmoved_iff.mp (hbac hon) _ hb.mem_levels]
    have hevaluation' :
        (b.state start).inEvaluationData = (a.state start).inEvaluationData := by
      rw [(state_exams hsets' start).2, (state_exams hsets start).2]
      cases hon : start.inEvaluationData with
      | false => rfl
      | true => rw [Selection.unmoved_iff.mp (hevaluation hon) _ hb.mem_levels]
    rw [state_of_rearranged hb, hbac', hevaluation']
    rfl

/-- In a consistent state an exam has its level ticked already. -/
theorem orderFree_of_consistent (a : FilterArguments) (h : start.Consistent) :
    a.OrderFree start :=
  Or.inr ⟨fun hon => Or.inl (h.bac_level hon), fun hon => Or.inl (h.evaluation_level hon)⟩

/-- The state that a stored one is read from. -/
theorem startState_of_preset {files : Files} {path text : String} (hpreset : a.preset = some path)
    (hfile : files path = .file text.toUTF8) (hread : State.ofPreset? text = some start) :
    files.startState a = .ok start := by
  simp only [Files.startState, hpreset, hfile, Entry.text?_file_toUTF8, hread]

theorem startState_of_rearranged (h : a.Rearranged b) (files : Files) :
    files.startState b = files.startState a := by
  rw [h.same]
  rfl

/-- Names are given in any order and as often as one likes. If the file to start from cannot be
    read, none of this helps. Otherwise another order leads to the same state except for what
    becomes of the exams. All orders lead to one state exactly if the order does not matter to the
    exams, and from a consistent state it does not. -/
theorem filterState_rearranged (files : Files) (a : FilterArguments) :
    (∀ e, files.startState a = .error e → ∀ b, a.Rearranged b → files.filterState b = .error e) ∧
      ∀ start, files.startState a = .ok start →
        files.filterState a = .ok (a.state start) ∧
        (∀ b, a.Rearranged b → ∃ bac evaluation,
          files.filterState b = .ok ((a.state start).withExams bac evaluation)) ∧
        ((∀ b, a.Rearranged b → files.filterState b = files.filterState a)
          ↔ a.OrderFree start) ∧
        (start.Consistent →
          ∀ b, a.Rearranged b → files.filterState b = files.filterState a) := by
  constructor
  · intro e herror b hb
    rw [Files.filterState, startState_of_rearranged hb, herror]
    rfl
  · intro start hstart
    have hok : ∀ b, a.Rearranged b → files.filterState b = .ok (b.state start) := by
      intro b hb
      rw [Files.filterState, startState_of_rearranged hb, hstart]
      rfl
    have hself : files.filterState a = .ok (a.state start) := by
      rw [Files.filterState, hstart]
      rfl
    -- Both files and start are the same for all orders, so the states tell the results apart.
    have hiff : (∀ b, a.Rearranged b → files.filterState b = files.filterState a)
        ↔ a.OrderFree start := by
      rw [← forall_state_eq_iff]
      refine forall_congr' (fun b => forall_congr' (fun hb => ?_))
      rw [hok b hb, hself, Except.ok.injEq]
    refine ⟨hself, fun b hb => ?_, hiff, fun hconsistent => ?_⟩
    · rw [hok b hb, state_of_rearranged hb]
      exact ⟨_, _, rfl⟩
    · exact hiff.mpr (orderFree_of_consistent a hconsistent)

/-- The names of a file that ticks high school for its exam stand in two orders. A file that is
    not there is missed in both. -/
theorem filterState_rearranged_bac :
    let files : Files := fun path =>
      if path = "p.json" then
        .file ("\x7b\"inBacData\":true,"
          ++ "\"levels\":\x7b\"Primar\":true,\"Liceal\":true\x7d\x7d").toUTF8
      else .missing
    let a : FilterArguments :=
      { (default : FilterArguments) with preset := some "p.json", levels := ["Primar", "Liceal"] }
    let b : FilterArguments := { a with levels := ["Liceal", "Primar", "Liceal"] }
    files.filterState b = files.filterState a ∧
      (files.filterState a).map State.source = .ok .bac ∧
      files.filterState { b with preset := some "q.json" }
        = .error (.presetUnreadable "q.json") := by
  intro files a b
  have hnames : ∀ name, name ∈ ["Liceal", "Primar", "Liceal"] ↔ name ∈ ["Primar", "Liceal"] := by
    intro name
    simp only [List.mem_cons, List.not_mem_nil, or_false]
    tauto
  let start : State := { State.initial with levels := .all ["Primar", "Liceal"], inBacData := true }
  have hstart : files.startState a = .ok start :=
    startState_of_preset rfl rfl (by decide +kernel)
  have hconsistent : start.Consistent := ⟨by decide, by decide, by decide, by decide⟩
  rcases (filterState_rearranged files a).2 start hstart with ⟨hself, _, _, hsame⟩
  -- The preset is consistent, since the level of its exam is ticked.
  refine ⟨hsame hconsistent b (Rearranged.of_levels hnames), ?_, ?_⟩
  · rw [hself]
    decide +kernel
  · exact (filterState_rearranged files { a with preset := some "q.json" }).1 _ rfl _
      (Rearranged.of_levels hnames)

/-- A file can have an exam on without its level. The exam is then lost if the level is given
    after another, and kept if it is given first. -/
theorem order_matters :
    let files : Files := fun _ =>
      .file ("\x7b\"inBacData\":true,\"levels\":\x7b\"Primar\":true\x7d\x7d").toUTF8
    let a : FilterArguments :=
      { (default : FilterArguments) with preset := some "p.json", levels := ["Primar", "Liceal"] }
    let b : FilterArguments := { a with levels := ["Liceal", "Primar"] }
    a.Rearranged b ∧ (files.filterState a).map State.source = .ok .general ∧
      (files.filterState b).map State.source = .ok .bac := by
  intro files a b
  let start : State := { State.initial with levels := .all ["Primar"], inBacData := true }
  have hstart : ∀ levels, files.startState { a with levels := levels } = .ok start :=
    fun _ => startState_of_preset rfl rfl (by decide +kernel)
  have hnames : ∀ name, name ∈ ["Liceal", "Primar"] ↔ name ∈ ["Primar", "Liceal"] := by
    intro name
    simp only [List.mem_cons, List.not_mem_nil, or_false]
    exact or_comm
  -- Ticking another level clears the flag, unless the level of the exam is ticked by then.
  refine ⟨Rearranged.of_levels hnames, ?_, ?_⟩
  · rw [Files.filterState, hstart]
    decide +kernel
  · rw [Files.filterState, hstart]
    decide +kernel

end FilterArguments

end SchoolAtlas
