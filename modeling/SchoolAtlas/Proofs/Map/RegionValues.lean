import SchoolAtlas.Map.Legend
import SchoolAtlas.Map.RegionValues
import SchoolAtlas.Proofs.Float
import SchoolAtlas.Proofs.Query.SchoolMap
import SchoolAtlas.Proofs.Selection

/-!
# From Rows to Values

Nothing is lost and nothing is merged between the rows of an answer and the values on the map.

Values are kept under the names of regions, and of two rows of one name only the last would stay.
The rows of an answer stand for different regions, and a region is more than its name: two counties
may have a town of the same name. But an answer has regions of one level only. On the map of the
country there are no towns, and on the map of a county all towns lie in it, since a row belongs to a
school that meets all conditions of its query. So regions that are different have different names,
and every row keeps a value of its own.

A rate per capita is left out where the census knows nobody, and only there. What a rate means is
said over fractions: it is the value for each unit of people. The map computes it with
floating-point numbers by the same formula, and there it has to be said that the divisor is not
zero. It is a quotient itself, and a quotient may round to zero, but not one of two words.

## Main definitions

* `Filter.State.OneLevel`: All rows are counties, or all are towns of the county shown.
* `Census.Knows`: The people of a region that the census knows.
* `valuesIn`: The values on the map in any kind of number.
* `ShowsRates`: The values on the map are the rates of the rows.

## Theorems

* `Filter.State.oneLevel_of_regionRows`: The rows of an answer are of one level.
* `Filter.State.nodup_keys`: Rows of one level have different names.
* `perCapita_mul`: What a rate per capita means.
* `showsRates_valuesIn`: Rates are shown for the regions of which the census knows somebody.
* `normalize_faithful`: What a map shows of the rows of an answer.
-/

namespace SchoolAtlas

open SchoolAtlas.Filter (State)

namespace Filter

namespace State

variable {s : State} {r : Register} {statistic : Statistic} {rows : List RegionRow}

/-- All rows are counties on the map of the country, and all are towns of the county shown on the
    map of a county. The map is coloured by the names that regions of the level have. -/
def OneLevel (s : State) (rows : List RegionRow) : Prop :=
  (s.county = none ∧ colourProperty s = "mnemonic" ∧ ∀ row ∈ rows, row.town = none) ∨
    ∃ code, s.county = some code ∧ colourProperty s = "name" ∧
      ∀ row ∈ rows, row.county = code ∧ ∃ town, row.town = some town

/-- A row that a map query is taken over belongs to a school in the county shown. -/
theorem inScope_of_mem_rows? {schools : List SchoolRow}
    (h : (s.regionQuery statistic).rows? r = some schools) {row : SchoolRow}
    (hrow : row ∈ schools) : s.InScope row.school := by
  rw [RegionQuery.rows?] at h
  cases hleading : (s.regionQuery statistic).leading? with
  | some leading =>
      -- A map goes through its rows before the schools only if it asks nothing of the schools.
      refine Or.inl ?_
      unfold RegionQuery.leading? at hleading
      split at hleading
      · next hconditions _ =>
        have hscope := (List.append_eq_nil_iff.mp hconditions).1
        rw [List.map_eq_nil_iff, Option.toList_eq_nil_iff] at hscope
        exact hscope
      · exact absurd hleading (by simp only [reduceCtorEq, not_false_eq_true])
  | none =>
      rw [hleading] at h
      have hholds := Register.holds_of_mem_rows? h hrow
      refine holds_scope_iff.mp (List.all_eq_true.mpr (fun c hc => hholds c ?_))
      exact List.mem_append_left _ hc

/-- A row of an answer stands for the region of a school in the county shown. -/
theorem exists_school_of_answer? {answer : List RegionRow}
    (h : (s.regionQuery statistic).answer? r = some answer) {row : RegionRow}
    (hrow : row ∈ answer) : ∃ school, s.InScope school ∧ s.place school = row.place := by
  rcases Option.bind_eq_some_iff.mp h with ⟨schools, hschools, _⟩
  have hgroup := ((RegionQuery.mem_answer?_iff hschools h row).mp hrow).1
  rcases List.exists_mem_of_ne_nil _ hgroup with ⟨schoolRow, hschoolRow⟩
  rcases List.mem_filter.mp hschoolRow with ⟨hin, hplace⟩
  rw [decide_eq_true_eq, region_regionQuery] at hplace
  exact ⟨schoolRow.school, inScope_of_mem_rows? hschools hin, hplace⟩

theorem answer?_of_regionRows
    (h : r.regionRows (.regions (s.regionQuery statistic)) = .ok rows) :
    (s.regionQuery statistic).answer? r = some rows := by
  rw [Register.regionRows] at h
  split at h
  · split at h
    · next hanswer => exact hanswer.trans (congrArg some (Except.ok.inj h))
    · exact absurd h (by simp only [reduceCtorEq, not_false_eq_true])
  · exact absurd h (by simp only [reduceCtorEq, not_false_eq_true])

/-- The rows of an answer are of one level. -/
theorem oneLevel_of_regionRows
    (h : r.regionRows (.regions (s.regionQuery statistic)) = .ok rows) : s.OneLevel rows := by
  have hschool : ∀ row ∈ rows, ∃ school, s.InScope school ∧ s.place school = row.place :=
    fun row hrow => exists_school_of_answer? (answer?_of_regionRows h) hrow
  -- A map has towns in its rows exactly if a county is open, and then they are all of that
  -- county.
  cases hcounty : s.county with
  | none =>
      refine Or.inl ⟨hcounty, by rw [colourProperty, hcounty]; rfl, fun row hrow => ?_⟩
      rcases hschool row hrow with ⟨school, _, hplace⟩
      rw [place, hcounty] at hplace
      exact (congrArg Prod.snd hplace).symm
  | some code =>
      refine Or.inr ⟨code, hcounty, by rw [colourProperty, hcounty]; rfl, fun row hrow => ?_⟩
      rcases hschool row hrow with ⟨school, hscope, hplace⟩
      rw [place, hcounty] at hplace
      rw [InScope, hcounty, or_iff_right (Option.some_ne_none code), Option.some.injEq] at hscope
      exact ⟨(congrArg Prod.fst hplace).symm.trans hscope.symm, _, (congrArg Prod.snd hplace).symm⟩

/-- On one level different regions have different names. -/
theorem nodup_keys (hplaces : (rows.map RegionRow.place).Nodup) (h : s.OneLevel rows) :
    (rows.map RegionRow.key).Nodup := by
  have hinj : ∀ row ∈ rows, ∀ row' ∈ rows, row.key = row'.key → row.place = row'.place := by
    intro row hrow row' hrow' hkey
    rw [RegionRow.key, RegionRow.key] at hkey
    rw [RegionRow.place, RegionRow.place]
    rcases h with ⟨_, _, hcounties⟩ | ⟨code, _, _, htowns⟩
    · rw [hcounties row hrow, hcounties row' hrow'] at hkey ⊢
      rw [Option.getD_none, Option.getD_none] at hkey
      rw [hkey]
    · rcases htowns row hrow with ⟨hcode, town, htown⟩
      rcases htowns row' hrow' with ⟨hcode', town', htown'⟩
      rw [htown, htown', Option.getD_some, Option.getD_some] at hkey
      rw [hcode, hcode', htown, htown', hkey]
  -- Names differ where places do.
  refine List.pairwise_map.mpr ((List.pairwise_map.mp hplaces).imp_of_mem ?_)
  exact fun hrow hrow' hne hkey => hne (hinj _ hrow _ hrow' hkey)

end State

end Filter

section Rates

variable {people unit : Nat}

/-- A rate per capita, over fractions, is the value for each unit of people. -/
theorem perCapita_mul (value : Rat) (hpeople : 0 < people) (hunit : 0 < unit) :
    perCapita value people unit * people = value * unit := by
  have hp : (people : Rat) ≠ 0 := Nat.cast_ne_zero.mpr (Nat.ne_of_gt hpeople)
  have hu : (unit : Rat) ≠ 0 := Nat.cast_ne_zero.mpr (Nat.ne_of_gt hunit)
  change value / ((people : Rat) / (unit : Rat)) * people = value * unit
  field_simp

theorem unitOfPeople_pos (town : Option String) : 0 < unitOfPeople town := by
  rw [unitOfPeople]
  split <;> decide

theorem unitOfPeople_lt (town : Option String) : unitOfPeople town < 2 ^ 64 := by
  rw [unitOfPeople]
  split <;> decide

end Rates

/-- The census knows people in the region of a row: so many, counting all of them or those of
    school age. -/
def Census.Knows (c : Census) (schoolAgeOnly : Bool) (row : RegionRow) (people : Nat) : Prop :=
  0 < people ∧ ∃ population,
    (match row.town with
      | some town => c.town? row.county town
      | none => c.county? row.county) = some population ∧
    people = if schoolAgeOnly then population.schoolAge else population.total

theorem Census.denominator?_eq_some_iff {c : Census} {schoolAgeOnly : Bool} {row : RegionRow}
    {people : Nat} :
    c.denominator? schoolAgeOnly row = some people ↔ c.Knows schoolAgeOnly row people := by
  have hpopulation : (match row.town with
      | some town => c.town? row.county town
      | none => c.county? row.county) = c.population? row.county row.town := by
    cases row.town <;> rfl
  rw [Knows, hpopulation, denominator?, Option.bind_eq_some_iff]
  constructor
  -- Where nobody lives there is no denominator.
  · rintro ⟨population, hknown, hpeople⟩
    dsimp only at hpeople
    split at hpeople
    · exact absurd hpeople (by simp only [reduceCtorEq, not_false_eq_true])
    · next hzero =>
      rw [Option.some.injEq] at hpeople
      exact ⟨hpeople ▸ Nat.pos_of_ne_zero hzero, population, hknown, hpeople.symm⟩
  · rintro ⟨hpos, population, hknown, rfl⟩
    exact ⟨population, hknown, if_neg (Nat.ne_of_gt hpos)⟩

section Values

variable {α : Type} [Scalar α]

/-- The value that a row puts on the map, if it puts one there, in any kind of number that values
    can be read in. -/
def RegionRow.shownIn? (read : Amount → α) (filters : State) (census : Census) (row : RegionRow) :
    Option α :=
  if filters.perCapita then
    (census.denominator? filters.schoolAgeOnly row).map fun people =>
      perCapita (read row.value) people (unitOfPeople row.town)
  else some (read row.value)

/-- The values that rows put on the map, in any kind of number that values can be read in. -/
def valuesIn (read : Amount → α) (rows : List RegionRow) (filters : State) (census : Census) :
    NameMap α :=
  .ofList (rows.filterMap fun row =>
    (row.shownIn? read filters census).map fun value => (row.key, value))

/-- The map is drawn with floating-point numbers. -/
theorem normalize_eq (rows : List RegionRow) (filters : State) (census : Census) :
    normalize rows filters census = valuesIn Amount.toFloat rows filters census :=
  rfl

variable {read : Amount → α} {rows : List RegionRow} {s : State} {census : Census}

/-- Rows of different names put all their values on the map. -/
theorem entries_valuesIn_perm (hkeys : (rows.map RegionRow.key).Nodup) :
    (valuesIn read rows s census).entries.Perm (rows.filterMap fun row =>
      (row.shownIn? read s census).map fun value => (row.key, value)) := by
  refine NameMap.entries_ofList_perm (List.pairwise_map.mpr (List.pairwise_filterMap.mpr ?_))
  refine (List.pairwise_map.mp hkeys).imp (fun hne p hp q hq hname => hne ?_)
  rcases Option.map_eq_some_iff.mp hp with ⟨_, _, rfl⟩
  rcases Option.map_eq_some_iff.mp hq with ⟨_, _, rfl⟩
  exact hname

/-- What is found under a name is shown by a row of the name. -/
theorem get?_valuesIn_iff (hkeys : (rows.map RegionRow.key).Nodup) {name : String} {value : α} :
    (valuesIn read rows s census).get? name = some value ↔
      ∃ row ∈ rows, row.key = name ∧ row.shownIn? read s census = some value := by
  rw [NameMap.get?_eq_some_iff, (entries_valuesIn_perm hkeys).mem_iff, List.mem_filterMap]
  -- No two rows have one key, so no value takes the place of another.
  refine exists_congr (fun row => and_congr_right (fun _ => ?_))
  rw [Option.map_eq_some_iff]
  constructor
  · rintro ⟨_, hshown, heq⟩
    rw [Prod.mk.injEq] at heq
    exact ⟨heq.1, heq.2 ▸ hshown⟩
  · rintro ⟨rfl, hshown⟩
    exact ⟨value, hshown, rfl⟩

/-- The values on the map are the rates of the rows: every name is that of a row, a row has a rate
    if the census knows people in its region, and none if it does not. -/
structure ShowsRates (read : Amount → α) (s : State) (census : Census) (rows : List RegionRow)
    (values : NameMap α) : Prop where
  named : ∀ name ∈ values.names, ∃ row ∈ rows, row.key = name
  left_out : ∀ row ∈ rows, (∀ people, ¬census.Knows s.schoolAgeOnly row people) →
    row.key ∉ values.names
  rate : ∀ row ∈ rows, ∀ people, census.Knows s.schoolAgeOnly row people →
    values.get? row.key = some (perCapita (read row.value) people (unitOfPeople row.town))

/-- Rates are shown for the regions of which the census knows somebody. -/
theorem showsRates_valuesIn (hkeys : (rows.map RegionRow.key).Nodup) (hrates : s.perCapita = true) :
    ShowsRates read s census rows (valuesIn read rows s census) := by
  have hshown : ∀ row : RegionRow, row.shownIn? read s census
      = (census.denominator? s.schoolAgeOnly row).map fun people =>
        perCapita (read row.value) people (unitOfPeople row.town) :=
    fun row => if_pos hrates
  -- A key stands for one row, whose rate is the only one to look at.
  have hinj : ∀ row ∈ rows, ∀ row' ∈ rows, row'.key = row.key → row' = row :=
    fun row hrow row' hrow' hkey => List.inj_on_of_nodup_map hkeys hrow' hrow hkey
  refine ⟨fun name hname => ?_, fun row hrow hnobody hname => ?_, fun row hrow people hknown => ?_⟩
  · rcases Option.isSome_iff_exists.mp (NameMap.mem_names_iff.mp hname) with ⟨value, hvalue⟩
    rcases (get?_valuesIn_iff hkeys).mp hvalue with ⟨row, hrow, hkey, _⟩
    exact ⟨row, hrow, hkey⟩
  · rcases Option.isSome_iff_exists.mp (NameMap.mem_names_iff.mp hname) with ⟨value, hvalue⟩
    rcases (get?_valuesIn_iff hkeys).mp hvalue with ⟨row', hrow', hkey, hvalue⟩
    rw [hinj row hrow row' hrow' hkey, hshown] at hvalue
    rcases Option.map_eq_some_iff.mp hvalue with ⟨people, hpeople, _⟩
    exact hnobody people (Census.denominator?_eq_some_iff.mp hpeople)
  · refine (get?_valuesIn_iff hkeys).mpr ⟨row, hrow, rfl, ?_⟩
    rw [hshown, Census.denominator?_eq_some_iff.mpr hknown]
    rfl

end Values

/-- What a map shows of the rows of an answer. They have different names and are of one level, so
    that without rates there is one value for each row, unchanged. With rates there is one for each
    row in whose region the census knows people. Over fractions it is the value for each unit of
    them, ten thousand in a county and one thousand in a town. No divisor is zero, neither as a
    fraction nor as the floating-point number that the map is computed with. -/
theorem normalize_faithful {r : Register} {s : State} {statistic : Statistic}
    {rows : List RegionRow} (census : Census)
    (h : r.regionRows (.regions (s.regionQuery statistic)) = .ok rows) :
    (rows.map RegionRow.key).Nodup ∧ s.OneLevel rows ∧
    (s.perCapita = false →
      (normalize rows s census).entries.Perm
        (rows.map fun row => (row.key, row.value.toFloat))) ∧
    (s.perCapita = true →
      ShowsRates Amount.toFloat s census rows (normalize rows s census) ∧
      (∀ read : Amount → Rat, ShowsRates read s census rows (valuesIn read rows s census) ∧
        ∀ row ∈ rows, ∀ people, census.Knows s.schoolAgeOnly row people →
          ∀ value, (valuesIn read rows s census).get? row.key = some value →
            value * people = read row.value * (if row.town = none then 10000 else 1000)) ∧
      ∀ row ∈ rows, ∀ people, census.Knows s.schoolAgeOnly row people →
        (people : Rat) / unitOfPeople row.town ≠ 0 ∧
        (people < 2 ^ 64 →
          (Float.ofNat people / Float.ofNat (unitOfPeople row.town)).isFinite = true ∧
          (Float.ofNat people / Float.ofNat (unitOfPeople row.town) == 0.0) = false ∧
          (Float.ofNat (unitOfPeople row.town) == 0.0) = false)) := by
  have hanswer := State.answer?_of_regionRows h
  rcases Option.bind_eq_some_iff.mp hanswer with ⟨schools, hschools, _⟩
  have hlevel := State.oneLevel_of_regionRows h
  have hkeys := State.nodup_keys (RegionQuery.nodup_place hschools hanswer) hlevel
  -- Counts are passed through. Rates are shown for numbers of either kind, and divided by what is
  -- not zero.
  refine ⟨hkeys, hlevel, fun hcounts => ?_, fun hrates => ⟨showsRates_valuesIn hkeys hrates,
    fun read => ⟨showsRates_valuesIn hkeys hrates, fun row hrow people hknown value hvalue => ?_⟩,
    fun row hrow people hknown => ⟨?_, fun hword => ?_⟩⟩⟩
  · rw [normalize_eq]
    refine (entries_valuesIn_perm hkeys).trans (.of_eq ?_)
    rw [← List.filterMap_eq_map]
    refine List.filterMap_congr (fun row _ => ?_)
    rw [RegionRow.shownIn?, hcounts]
    rfl
  · rw [(showsRates_valuesIn hkeys hrates).rate row hrow people hknown, Option.some.injEq] at hvalue
    rw [← hvalue, perCapita_mul _ hknown.1 (unitOfPeople_pos _), unitOfPeople]
    cases row.town <;> rfl
  · exact div_ne_zero (Nat.cast_ne_zero.mpr (Nat.ne_of_gt hknown.1))
      (Nat.cast_ne_zero.mpr (Nat.ne_of_gt (unitOfPeople_pos _)))
  · have hquotient := Floats.finite_div_natural hknown.1 hword (unitOfPeople_pos row.town)
      (unitOfPeople_lt row.town)
    have hunit := Floats.normal_natural (unitOfPeople_pos row.town) (unitOfPeople_lt row.town)
    exact ⟨hquotient.1, hquotient.2, (Floats.finite_of_isNormal hunit).2⟩

/-- The start with rates. -/
def ratesAtStart : State := { State.initial with perCapita := true }

/-- A census of one county. -/
def censusOfCluj : Census :=
  ⟨.ofList [("CJ", ⟨⟨50000, .empty, .null, .null⟩, .empty⟩)]⟩

/-- A county with two schools and fifty thousand people has two schools for five units of people,
    and no rate if the census does not know it. -/
theorem normalize_threeSchools : ∃ rows,
    State.threeSchoolsRegister.regionRows (.regions (ratesAtStart.regionQuery .schools))
      = .ok rows ∧
    (normalize rows ratesAtStart censusOfCluj).get? "CJ"
      = some (perCapita (Float.ofInt 2) 50000 10000) ∧
    "CJ" ∉ (normalize rows ratesAtStart .empty).names := by
  rcases State.schoolMap_general State.threeSchoolsRegister_reached (s := ratesAtStart) rfl with
    ⟨hmap, _⟩
  rcases hmap (by decide) with ⟨rows, hrows, _, hmem⟩
  have hrow : ⟨"CJ", none, .count 2⟩ ∈ rows := (hmem _).mpr ⟨by decide, rfl⟩
  refine ⟨rows, hrows, ?_, ?_⟩
  · have hrates := ((normalize_faithful censusOfCluj hrows).2.2.2 rfl).1
    exact hrates.rate _ hrow 50000 ⟨by decide, _, rfl, rfl⟩
  -- Nothing is known of the county, so its row is left out.
  · have hrates := ((normalize_faithful .empty hrows).2.2.2 rfl).1
    refine hrates.left_out _ hrow (fun people hknown => ?_)
    rcases hknown with ⟨_, _, hnone, _⟩
    exact absurd hnone (by simp only [Census.county?, Census.empty, NameMap.get?_empty,
      Option.map_none, reduceCtorEq, not_false_eq_true])

end SchoolAtlas
