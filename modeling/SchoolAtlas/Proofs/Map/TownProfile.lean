import SchoolAtlas.Map.Session
import SchoolAtlas.Proofs.Map.RegionValues

/-!
# Ages of a Town

The profile of the open town, the sums of the census, and what rates are taken over.

Brackets are listed in three places: those of school age in the census, those of the coarse groups
in the profile, and those of the three school ages beside the groups. That the lists belong together
is no matter of any particular census. The coarse groups together list the eighteen brackets that a
census has, each of them once (`TownProfile.groups_perm`), so for every population they add up to
the people in these brackets, whatever other brackets its census may have and whichever it lacks.

A rate of a town looks the town up in the same place as the profile does. So it is taken over the
people that the profile shows, and there is no rate where there is no profile. The rows of an answer
are put on the map one after another, and what a row does there is said of its turn: either it
leaves the map as it is, or it puts its rate under the name of the town.

## Main definitions

* `Population.fiveYearBrackets`: The brackets that a census has.
* `TownProfile.Summarizes`: A profile and a population agree.
* `TownProfile.people`: The people in a profile that a rate is taken over.

## Theorems

* `TownProfile.groups_perm`: The coarse groups list every bracket once.
* `TownProfile.summarizes_ofPopulation`: The profile of a population agrees with it.
* `normalize_of_shown?_eq_none`: A row without a value leaves the map as it is.
* `get?_normalize_of_shown?_eq_some`: A row with a value puts it on the map.
* `Session.noRate_iff`: Which rows of the open town are left out.
* `Session.townProfile_agrees`: The profile of the open town, the census and the rates agree.
-/

namespace SchoolAtlas

open SchoolAtlas.Filter (State)

namespace Population

/-- The brackets that a census has: five years each up to 84, and all that is above. -/
def fiveYearBrackets : List String :=
  (List.range 17).map (fun k => toString (5 * k) ++ "-" ++ toString (5 * k + 4)) ++ ["85+"]

theorem nodup_fiveYearBrackets : fiveYearBrackets.Nodup := by decide +kernel

theorem inBrackets_eq_sum (p : Population) (brackets : List String) :
    p.inBrackets brackets = (brackets.map p.inBracket).sum := by
  induction brackets with
  | nil => rfl
  | cons bracket rest ih =>
      have hstep : p.inBrackets (bracket :: rest) = p.inBracket bracket + p.inBrackets rest := rfl
      rw [hstep, ih, List.map_cons, List.sum_cons]

/-- People who are counted part by part are counted in all parts together. -/
theorem inBrackets_flatten (p : Population) (parts : List (List String)) :
    (parts.map p.inBrackets).sum = p.inBrackets parts.flatten := by
  rw [inBrackets_eq_sum, List.map_flatten, List.sum_flatten, List.map_map]
  exact congrArg List.sum (List.map_congr_left fun part _ => p.inBrackets_eq_sum part)

end Population

namespace TownProfile

/-- The people in a profile that a rate is taken over: all of them, or the three school ages. -/
def people (profile : TownProfile) (schoolAgeOnly : Bool) : Nat :=
  if schoolAgeOnly then profile.primaryAge + profile.middleSchoolAge + profile.highSchoolAge
  else profile.total

/-- A profile and a population agree. -/
structure Summarizes (profile : TownProfile) (p : Population) : Prop where
  total : profile.total = p.total
  schoolAge :
    profile.primaryAge + profile.middleSchoolAge + profile.highSchoolAge = p.schoolAge
  lowerSchools :
    profile.ageGroups.lookup "5-14" = some (profile.primaryAge + profile.middleSchoolAge)
  upperSchools : profile.ageGroups.lookup "15-19" = some profile.highSchoolAge
  /-- The groups count each bracket of the census once, and nobody else. -/
  everyAge : (profile.ageGroups.map Prod.snd).sum
    = (Population.fiveYearBrackets.map fun bracket => (p.age.get? bracket).getD 0).sum

/-- The coarse groups list every bracket of the census once. -/
theorem groups_perm : (groups.map Prod.snd).flatten.Perm Population.fiveYearBrackets := by
  decide +kernel

/-- The profile of a population agrees with it. -/
theorem summarizes_ofPopulation (p : Population) : (ofPopulation p).Summarizes p where
  total := rfl
  schoolAge := by
    simp only [ofPopulation, Population.schoolAge, Population.schoolAgeBrackets,
      Population.inBrackets_eq_sum, List.map_cons, List.map_nil, List.sum_cons, List.sum_nil]
    omega
  lowerSchools := by
    have hgroup : (ofPopulation p).ageGroups.lookup "5-14"
        = some (p.inBrackets ["5-9", "10-14"]) := rfl
    rw [hgroup]
    simp only [ofPopulation, Population.inBrackets_eq_sum, List.map_cons, List.map_nil,
      List.sum_cons, List.sum_nil, Nat.add_zero]
  upperSchools := rfl
  everyAge := by
    -- The groups are the brackets in another order, each once.
    have hgroups : (ofPopulation p).ageGroups.map Prod.snd
        = (groups.map Prod.snd).map p.inBrackets := by
      simp only [ofPopulation, List.map_map]
      rfl
    rw [hgroups, p.inBrackets_flatten, p.inBrackets_eq_sum]
    exact (groups_perm.map _).sum_eq

theorem denominator_eq_people (p : Population) (schoolAgeOnly : Bool) :
    p.denominator schoolAgeOnly = (ofPopulation p).people schoolAgeOnly := by
  cases schoolAgeOnly with
  | false => rfl
  | true => exact (summarizes_ofPopulation p).schoolAge.symm

end TownProfile

section Rows

variable {filters : State} {census : Census} {row : RegionRow}

/-- Rows that come later are put into the map of those before them. -/
theorem normalize_append (rows more : List RegionRow) (filters : State) (census : Census) :
    normalize (rows ++ more) filters census
      = (normalize rows filters census).insertAll (more.filterMap fun row =>
          (row.shown? filters census).map fun value => (row.key, value)) := by
  rw [normalize, List.filterMap_append, NameMap.ofList, NameMap.insertAll, List.foldl_append]
  rfl

/-- A row without a value leaves the map as the other rows make it. -/
theorem normalize_of_shown?_eq_none (h : row.shown? filters census = none)
    (before after : List RegionRow) :
    normalize (before ++ row :: after) filters census
      = normalize (before ++ after) filters census := by
  rw [normalize_append, normalize_append, List.filterMap_cons_none (by rw [h]; rfl)]

/-- A row with a value puts it on the map, and it stays if no later row has the name. -/
theorem get?_normalize_of_shown?_eq_some {value : Float}
    (h : row.shown? filters census = some value) (before : List RegionRow)
    {after : List RegionRow} (hlast : ∀ later ∈ after, later.key ≠ row.key) :
    (normalize (before ++ row :: after) filters census).get? row.key = some value := by
  -- No row after this one has its key, so its value is the last to be put there.
  have hout : row.key ∉ (after.filterMap fun row =>
      (row.shown? filters census).map fun value => (row.key, value)).map Prod.fst := by
    intro hin
    rcases List.mem_map.mp hin with ⟨p, hp, hkey⟩
    rcases List.mem_filterMap.mp hp with ⟨later, hlater, hshown⟩
    rcases Option.map_eq_some_iff.mp hshown with ⟨_, _, rfl⟩
    exact hlast later hlater hkey
  have hstep : ∀ (m : RegionValues) (p : String × Float) (rest : List (String × Float)),
      m.insertAll (p :: rest) = (m.insert p.1 p.2).insertAll rest := fun _ _ _ => rfl
  rw [normalize_append, List.filterMap_cons_some (by rw [h]; rfl), hstep,
    NameMap.get?_insertAll_of_not_mem hout, NameMap.get?_insert, if_pos rfl]

end Rows

namespace Session

variable {session : Session} {s : State} {county town : String}

theorem townProfile?_of_openTown? (h : s.openTown? = some (county, town)) :
    session.townProfile? s = (session.census.town? county town).map TownProfile.ofPopulation := by
  rw [townProfile?, Census.profile?, h]
  rfl

/-- The rate of a row of the open town is taken over the people that its profile shows. -/
theorem shown?_openTown (h : s.openTown? = some (county, town)) (hrates : s.perCapita = true)
    (amount : Amount) :
    RegionRow.shown? s session.census ⟨county, some town, amount⟩
      = (session.townProfile? s).bind fun profile =>
          if profile.people s.schoolAgeOnly = 0 then none
          else some (amount.toFloat
            / (Float.ofNat (profile.people s.schoolAgeOnly) / Float.ofNat 1000)) := by
  rw [townProfile?_of_openTown? h, RegionRow.shown?, if_pos hrates, Census.denominator?]
  simp only [Census.population?]
  -- A town that is not in the census has no profile and no denominator.
  cases session.census.town? county town with
  | none => rfl
  | some p =>
      simp only [Option.bind_some, Option.map_some, TownProfile.denominator_eq_people]
      by_cases hnobody : (TownProfile.ofPopulation p).people s.schoolAgeOnly = 0
      · rw [if_pos hnobody, if_pos hnobody]
        rfl
      · rw [if_neg hnobody, if_neg hnobody]
        rfl

theorem townProfile?_isSome_iff (h : s.openTown? = some (county, town)) :
    (session.townProfile? s).isSome ↔
      ∃ entry, session.census.counties.get? county = some entry ∧ town ∈ entry.towns.names := by
  rw [townProfile?_of_openTown? h, Option.isSome_map, Census.town?]
  cases hcounty : session.census.counties.get? county with
  | none => simp
  | some entry => simp [NameMap.mem_names_iff]

theorem townProfile?_eq_some_iff (h : s.openTown? = some (county, town)) {profile : TownProfile} :
    session.townProfile? s = some profile ↔
      ∃ entry population, session.census.counties.get? county = some entry ∧
        entry.towns.get? town = some population ∧ profile = .ofPopulation population := by
  rw [townProfile?_of_openTown? h, Option.map_eq_some_iff, Census.town?]
  constructor
  · intro hex
    rcases hex with ⟨population, htown, rfl⟩
    -- The county is looked up first, and the town in it.
    rcases Option.bind_eq_some_iff.mp htown with ⟨entry, hentry, hpopulation⟩
    exact ⟨entry, population, hentry, hpopulation, rfl⟩
  · intro hex
    rcases hex with ⟨entry, population, hentry, hpopulation, rfl⟩
    exact ⟨population, Option.bind_eq_some_iff.mpr ⟨entry, hentry, hpopulation⟩, rfl⟩

/-- The open town has no rate: it has no profile, or nobody to take a rate over. -/
def NoRate (session : Session) (s : State) : Prop :=
  session.townProfile? s = none ∨
    ∃ profile, session.townProfile? s = some profile ∧ profile.people s.schoolAgeOnly = 0

theorem shown?_of_noRate (h : s.openTown? = some (county, town)) (hrates : s.perCapita = true)
    (hnone : session.NoRate s) (amount : Amount) :
    RegionRow.shown? s session.census ⟨county, some town, amount⟩ = none := by
  rw [shown?_openTown h hrates]
  rcases hnone with hnone | ⟨profile, hprofile, hnobody⟩
  · rw [hnone]
    rfl
  · rw [hprofile, Option.bind_some, if_pos hnobody]

theorem shown?_of_people (h : s.openTown? = some (county, town)) (hrates : s.perCapita = true)
    {profile : TownProfile} (hprofile : session.townProfile? s = some profile)
    (hpeople : profile.people s.schoolAgeOnly ≠ 0) (amount : Amount) :
    RegionRow.shown? s session.census ⟨county, some town, amount⟩
      = some (amount.toFloat
          / (Float.ofNat (profile.people s.schoolAgeOnly) / Float.ofNat 1000)) := by
  rw [shown?_openTown h hrates, hprofile, Option.bind_some, if_neg hpeople]

/-- The rows of the open town are left out exactly if it has no rate. -/
theorem noRate_iff (h : s.openTown? = some (county, town)) (hrates : s.perCapita = true)
    (amount : Amount) :
    session.NoRate s ↔ ∀ before after,
      normalize (before ++ ⟨county, some town, amount⟩ :: after) s session.census
        = normalize (before ++ after) s session.census := by
  constructor
  · exact fun hnone => normalize_of_shown?_eq_none (shown?_of_noRate h hrates hnone amount)
  · intro hsame
    cases hprofile : session.townProfile? s with
    | none => exact Or.inl hprofile
    | some profile =>
        refine Or.inr ⟨profile, hprofile, ?_⟩
        by_contra hpeople
        -- With people there is a rate, and a map of this row alone shows it.
        have hlast : ∀ later ∈ ([] : List RegionRow), later.key ≠ town :=
          fun _ hlater => absurd hlater List.not_mem_nil
        have hshown := get?_normalize_of_shown?_eq_some
          (shown?_of_people h hrates hprofile hpeople amount) [] hlast
        rw [hsame [] []] at hshown
        exact absurd hshown (by simp only [List.append_nil, normalize, List.filterMap_nil,
          NameMap.ofList, NameMap.insertAll, List.foldl_nil, NameMap.get?_empty, reduceCtorEq,
          not_false_eq_true])

/-- With a town open there is a profile exactly if the census has the town. The profile agrees with
    what the census says about ages, in eighteen different brackets, and a rate of the town is taken
    over the people that it shows. A row of the town is left out exactly if there is no profile or
    there are no such people. -/
theorem townProfile_agrees (session : Session) {s : State} {county town : String}
    (h : s.openTown? = some (county, town)) :
    ((session.townProfile? s).isSome ↔
      ∃ entry, session.census.counties.get? county = some entry ∧ town ∈ entry.towns.names) ∧
    (Population.fiveYearBrackets.Nodup ∧ Population.fiveYearBrackets.length = 18) ∧
    (∀ profile, session.townProfile? s = some profile →
      ∃ entry population, session.census.counties.get? county = some entry ∧
        entry.towns.get? town = some population ∧ profile.Summarizes population) ∧
    (s.perCapita = true → ∀ amount : Amount,
      let row : RegionRow := ⟨county, some town, amount⟩
      (session.NoRate s ↔ ∀ before after,
        normalize (before ++ row :: after) s session.census
          = normalize (before ++ after) s session.census) ∧
      ∀ profile, session.townProfile? s = some profile → profile.people s.schoolAgeOnly ≠ 0 →
        ∀ before after, (∀ later ∈ after, later.key ≠ town) →
          (normalize (before ++ row :: after) s session.census).get? town
            = some (amount.toFloat
                / (Float.ofNat (profile.people s.schoolAgeOnly) / Float.ofNat 1000))) := by
  refine ⟨townProfile?_isSome_iff h, ⟨Population.nodup_fiveYearBrackets, rfl⟩,
    fun profile hprofile => ?_, fun hrates amount => ⟨noRate_iff h hrates amount, ?_⟩⟩
  -- A profile is made from the population of the town and nothing else.
  · rcases (townProfile?_eq_some_iff h).mp hprofile with ⟨entry, population, hentry, htown, rfl⟩
    exact ⟨entry, population, hentry, htown, TownProfile.summarizes_ofPopulation population⟩
  · intro profile hprofile hpeople before after hlast
    exact get?_normalize_of_shown?_eq_some (shown?_of_people h hrates hprofile hpeople amount)
      before hlast

/-- A county with a town of eight thousand people, of which four hundred and five hundred are in
    two of the brackets of school age, a bracket that no census has, and an empty town. -/
def censusOfTurda : Census :=
  let turda : Population :=
    ⟨8000, .ofList [("5-9", 400), ("10-14", 500), ("85+", 30), ("100+", 7)], .null, .null⟩
  ⟨.ofList [("CJ", ⟨⟨50000, .empty, .null, .null⟩,
    .ofList [("Turda", turda), ("Ghost", ⟨0, .empty, .null, .null⟩)]⟩)]⟩

/-- Rates of the school-age population in an open town. -/
def ratesIn (town : String) : State :=
  { State.initial with county := some "CJ", town := some town, perCapita := true,
                       schoolAgeOnly := true }

/-- A session that paints everything in white. -/
def ofCensus (census : Census) : Session :=
  ⟨census, .default, ⟨[⟨1.0, 1.0, 1.0⟩], List.cons_ne_nil _ _⟩, .zero, .zero⟩

/-- The profile of one town shows nine hundred people of school age, over whom its rate is taken.
    That of the other shows nobody, and its row is left out. A third town has no profile. -/
theorem townProfile_agrees_turda :
    (∃ profile, (ofCensus censusOfTurda).townProfile? (ratesIn "Turda") = some profile ∧
      profile.people true = 900 ∧ (profile.ageGroups.map Prod.snd).sum = 930) ∧
    ((ofCensus censusOfTurda).townProfile? (ratesIn "Dej")).isSome = false ∧
    (normalize [⟨"CJ", some "Turda", .count 18⟩, ⟨"CJ", none, .count 2⟩] (ratesIn "Turda")
        censusOfTurda).get? "Turda"
      = some (Float.ofInt 18 / (Float.ofNat 900 / Float.ofNat 1000)) ∧
    normalize [⟨"CJ", none, .count 2⟩, ⟨"CJ", some "Ghost", .count 3⟩] (ratesIn "Ghost")
        censusOfTurda
      = normalize [⟨"CJ", none, .count 2⟩] (ratesIn "Ghost") censusOfTurda := by
  have hturda := townProfile_agrees (ofCensus censusOfTurda) (s := ratesIn "Turda") rfl
  have hdej := townProfile_agrees (ofCensus censusOfTurda) (s := ratesIn "Dej") rfl
  have hghost := townProfile_agrees (ofCensus censusOfTurda) (s := ratesIn "Ghost") rfl
  rcases Option.isSome_iff_exists.mp (hturda.1.mpr ⟨_, rfl, by decide⟩) with ⟨profile, hprofile⟩
  -- Of the brackets in the census, one is not among those of five years and does not count.
  have hpeople : profile = .ofPopulation
      ⟨8000, .ofList [("5-9", 400), ("10-14", 500), ("85+", 30), ("100+", 7)], .null, .null⟩ :=
    (Option.some.inj hprofile).symm
  refine ⟨⟨profile, hprofile, by rw [hpeople]; decide, by rw [hpeople]; decide⟩, ?_, ?_, ?_⟩
  · rw [← Bool.not_eq_true, hdej.1]
    rintro ⟨entry, hentry, htown⟩
    obtain rfl := Option.some.inj hentry
    exact absurd htown (by decide)
  · have hrate := (hturda.2.2.2 rfl (.count 18)).2 profile hprofile (by rw [hpeople]; decide) []
      [⟨"CJ", none, .count 2⟩] (by decide)
    rw [hpeople] at hrate
    exact hrate
  · have hnobody : (ofCensus censusOfTurda).NoRate (ratesIn "Ghost") := Or.inr ⟨_, rfl, by decide⟩
    exact (hghost.2.2.2 rfl (.count 3)).1.mp hnobody [⟨"CJ", none, .count 2⟩] []

end Session

end SchoolAtlas
