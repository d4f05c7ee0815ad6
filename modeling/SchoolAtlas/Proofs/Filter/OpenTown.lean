import Mathlib.Data.List.Induction
import SchoolAtlas.Proofs.Filter.Independence

/-!
# How a Town Comes to Be Open

What a run of clicks tells about the town that is open at its end.

A state says which town is open and not how it came about. The run says it: at some point the town
was picked while its county was shown, and nothing has taken it back since. A town is taken back by
another pick, which may be of no town at all, and by a change of the county. Picking the same county
again is no change, and a pick that is ignored, in the country or in the capital, is none either.

Both directions are an induction from the end of the run. One more click either is the pick itself
or has to leave alone what was there (`place_apply_iff`), and the history of the longer run divides
in the same way (`pickedAndKept_concat`). The first of these needs that a town is only open in a
county that has towns, because otherwise a pick could be ignored while a town is open.

## Main definitions

* `Filter.State.KeepsCounty`: No update of a run changes the county.
* `Filter.State.PickedAndKept`: A run picks a town and keeps to it.

## Theorems

* `Filter.State.place_apply_iff`: When a town is open after one more click.
* `Filter.State.pickedAndKept_concat`: A history with one more click.
* `Filter.State.open_iff_pickedAndKept`: A town is open exactly if it was picked and kept.
* `Filter.State.town_of_county_left`: A town is not carried into another county.
* `Filter.State.openTown_history`: What the open town tells about a run.
-/

namespace SchoolAtlas

namespace Filter

namespace State

variable {s : State} {u : Update} {county town : String} {updates : List Update}

/-- No update of a run changes the county. -/
def KeepsCounty (s : State) : List Update → Prop
  | [] => True
  | u :: rest => (s.apply u).county = s.county ∧ (s.apply u).KeepsCounty rest

/-- A run picks a town while its county is shown, and keeps to it: from then on the county does
    not change, and no other town is picked. -/
def PickedAndKept (s : State) (county town : String) (updates : List Update) : Prop :=
  ∃ before after, updates = before ++ .town (some town) :: after ∧
    (s.applyAll before).county = some county ∧ county ≠ Catalogue.capital ∧
    ((s.applyAll before).apply (.town (some town))).KeepsCounty after ∧
    ∀ name, .town name ∈ after → name = some town

theorem keepsCounty_append (s : State) (updates more : List Update) :
    s.KeepsCounty (updates ++ more)
      ↔ s.KeepsCounty updates ∧ (s.applyAll updates).KeepsCounty more := by
  induction updates generalizing s with
  | nil => exact ⟨fun h => ⟨trivial, h⟩, And.right⟩
  | cons u rest ih =>
      rw [List.cons_append, KeepsCounty, KeepsCounty, ih, and_assoc]
      rfl

theorem townInCounty_of_town (h : s.town = none) : s.TownInCounty := by
  intro htown
  rw [h] at htown
  exact absurd htown Bool.false_ne_true

theorem townInCounty_applyAll (h : s.TownInCounty) (updates : List Update) :
    (s.applyAll updates).TownInCounty :=
  applyAll_of_apply (P := TownInCounty) (fun _ u hs => townInCounty_apply hs u) h updates

/-- Updates that are not about the place leave it alone. -/
theorem place_apply_of_ne (s : State) (h : u.group ≠ .place) :
    (s.apply u).county = s.county ∧ (s.apply u).town = s.town :=
  Prod.mk.inj (part_apply_of_ne s u h.symm)

theorem county_pickTown (s : State) (name : Option String) :
    (s.pickTown name).county = s.county := by
  rcases pickTown_frame s name with ⟨town, hframe⟩
  rw [hframe]

/-- A town is open after a pick exactly if it was picked in a county that has towns, or was open and
    not another one was picked. -/
theorem town_pickTown_iff (h : s.TownInCounty) (hcounty : s.county = some county)
    (name : Option String) :
    (s.pickTown name).town = some town ↔
      name = some town ∧ county ≠ Catalogue.capital ∨ s.town = some town ∧ name = some town := by
  cases name with
  | none => simp only [pickTown, reduceCtorEq, false_and, and_false, or_false]
  | some other =>
      have hpick : s.pickTown (some other)
          = if county = Catalogue.capital then s else { s with town := some other } := by
        simp only [pickTown, hcounty]
      rw [hpick]
      by_cases hcapital : county = Catalogue.capital
      · -- The pick is ignored, and no town was open before it.
        have hnone : s.town ≠ some town := by
          intro htown
          rcases h (Option.isSome_of_eq_some htown) with ⟨c, hc, hne⟩
          exact hne (Option.some.inj (hc.symm.trans hcounty) ▸ hcapital)
        simp only [hcapital, if_true, hnone, ne_eq, not_true_eq_false, and_false, false_and,
          or_false]
      · simp only [hcapital, if_false, ne_eq, not_false_eq_true, and_true,
          or_iff_left_of_imp And.right]

theorem place_apply_iff_of_ne (s : State) (h : u.group ≠ .place) :
    (s.apply u).county = some county ∧ (s.apply u).town = some town ↔
      u = .town (some town) ∧ s.county = some county ∧ county ≠ Catalogue.capital ∨
      (s.county = some county ∧ s.town = some town) ∧ (s.apply u).county = s.county ∧
        ∀ name, u = .town name → name = some town := by
  have hpick : ∀ name, u ≠ .town name := fun name heq => h (heq ▸ rfl)
  rcases place_apply_of_ne s h with ⟨hcounty, htown⟩
  simp only [hcounty, htown, hpick, false_and, false_or, false_implies, implies_true, and_true]

/-- A town is open after one more click exactly if the click picks it, or if it was open and the
    click neither changes the county nor picks anything else. -/
theorem place_apply_iff (h : s.TownInCounty) (u : Update) :
    (s.apply u).county = some county ∧ (s.apply u).town = some town ↔
      u = .town (some town) ∧ s.county = some county ∧ county ≠ Catalogue.capital ∨
      (s.county = some county ∧ s.town = some town) ∧ (s.apply u).county = s.county ∧
        ∀ name, u = .town name → name = some town := by
  cases u with
  | county code =>
      simp only [apply, pickCounty, reduceCtorEq, false_and, false_or, false_implies,
        implies_true, and_true]
      by_cases hcode : s.county = code
      · simp only [hcode, if_true, and_true]
      · -- The town is closed with the county that it belongs to.
        simp only [hcode, if_false, reduceCtorEq, and_false, false_iff, not_and]
        exact fun _ heq => hcode heq.symm
  | town name =>
      simp only [apply, county_pickTown, Update.town.injEq, true_and]
      by_cases hcounty : s.county = some county
      · rw [town_pickTown_iff h hcounty]
        simp only [hcounty, true_and, forall_eq']
      · simp only [hcounty, false_and, and_false, or_self]
  | _ =>
      refine place_apply_iff_of_ne s ?_
      simp only [Update.group, ne_eq, reduceCtorEq, not_false_eq_true]

/-- One more click is the pick itself, or it has to leave alone what was picked before. -/
theorem pickedAndKept_concat (s : State) (updates : List Update) (u : Update) :
    s.PickedAndKept county town (updates ++ [u]) ↔
      u = .town (some town) ∧ (s.applyAll updates).county = some county ∧
          county ≠ Catalogue.capital ∨
      s.PickedAndKept county town updates ∧
        ((s.applyAll updates).apply u).county = (s.applyAll updates).county ∧
        ∀ name, u = .town name → name = some town := by
  constructor
  · rintro ⟨before, after, hupdates, hcounty, hcapital, hkeeps, hpicks⟩
    -- The town was picked by the last update, or before it.
    rcases List.eq_nil_or_concat after with rfl | ⟨kept, last, rfl⟩
    · rcases List.append_inj' hupdates rfl with ⟨rfl, hlast⟩
      exact Or.inl ⟨List.head_eq_of_cons_eq hlast, hcounty, hcapital⟩
    · rw [List.concat_eq_append] at hupdates hkeeps hpicks
      rw [← List.cons_append, ← List.append_assoc] at hupdates
      rcases List.append_inj' hupdates rfl with ⟨rfl, hlast⟩
      obtain rfl := List.head_eq_of_cons_eq hlast
      rw [keepsCounty_append] at hkeeps
      refine Or.inr ⟨⟨before, kept, rfl, hcounty, hcapital, hkeeps.1, fun name hname => ?_⟩, ?_,
        fun name hname => ?_⟩
      · exact hpicks name (List.mem_append_left _ hname)
      · rw [applyAll_append]
        exact hkeeps.2.1
      · exact hpicks name (List.mem_append_right _ (hname ▸ List.mem_singleton_self _))
  · rintro (⟨rfl, hcounty, hcapital⟩ | ⟨⟨before, kept, rfl, hcounty, hcapital, hkeeps, hpicks⟩,
      hkeep, hpick⟩)
    -- A town that has just been picked has not been left.
    · exact ⟨updates, [], rfl, hcounty, hcapital, trivial,
        fun name hname => absurd hname List.not_mem_nil⟩
    · refine ⟨before, kept ++ [u], by rw [List.append_assoc, List.cons_append], hcounty, hcapital,
        ?_, fun name hname => ?_⟩
      · rw [applyAll_append] at hkeep
        exact (keepsCounty_append _ _ _).mpr ⟨hkeeps, hkeep, trivial⟩
      · rcases List.mem_append.mp hname with hkept | hlast
        · exact hpicks name hkept
        · exact hpick name (List.mem_singleton.mp hlast).symm

/-- If no town is open at the start, then one is open at the end exactly if it was picked and
    kept. -/
theorem open_iff_pickedAndKept (h : s.town = none) (updates : List Update) :
    (s.applyAll updates).county = some county ∧ (s.applyAll updates).town = some town ↔
      s.PickedAndKept county town updates := by
  -- The induction is from the end of the run, since the pick that counts is the last.
  induction updates using List.reverseRecOn with
  | nil =>
      constructor
      · exact fun hopen => absurd (h.symm.trans hopen.2) (Option.some_ne_none town).symm
      · rintro ⟨before, after, hnil, _⟩
        exact absurd hnil.symm (List.append_ne_nil_of_right_ne_nil _ (List.cons_ne_nil _ _))
  | append_singleton rest u ih =>
      have hrest := townInCounty_applyAll (townInCounty_of_town h) rest
      have hlast : s.applyAll (rest ++ [u]) = (s.applyAll rest).apply u :=
        applyAll_append s rest [u]
      rw [pickedAndKept_concat, hlast, place_apply_iff hrest, ih]

/-- Without a town to begin with, and without picking one, none is open. -/
theorem town_applyAll_eq_none (h : s.town = none)
    (hpicks : ∀ name, Update.town (some name) ∉ updates) : (s.applyAll updates).town = none := by
  refine Option.eq_none_iff_forall_ne_some.mpr (fun town htown => ?_)
  have hstate := townInCounty_applyAll (townInCounty_of_town h) updates
  rcases hstate (Option.isSome_of_eq_some htown) with ⟨county, hcounty, _⟩
  rcases (open_iff_pickedAndKept h updates).mp ⟨hcounty, htown⟩ with ⟨before, after, rfl, _⟩
  exact hpicks town (List.mem_append_right _ List.mem_cons_self)

/-- Once its county is left a town is closed, and it stays so until one is picked again, also if
    its county is shown again. -/
theorem town_of_county_left {code : Option String} (h : s.county ≠ code)
    (hpicks : ∀ name, Update.town (some name) ∉ updates) :
    (s.applyAll (.county code :: updates)).town = none := by
  have hclosed : (s.apply (.county code)).town = none := by
    rw [apply, pickCounty, if_neg h]
  exact town_applyAll_eq_none (s := s.apply (.county code)) hclosed hpicks

/-- What changes the town is a pick, or a change of the county, which closes it. -/
theorem town_apply_ne (h : (s.apply u).town ≠ s.town) :
    (∃ name, u = .town name) ∨ (s.apply u).county ≠ s.county ∧ (s.apply u).town = none := by
  cases u with
  | county code =>
      by_cases hcode : s.county = code
      · exact absurd (by rw [apply, pickCounty, if_pos hcode]) h
      · exact Or.inr ⟨fun heq => hcode heq.symm, by rw [apply, pickCounty, if_neg hcode]⟩
  | town name => exact Or.inl ⟨name, rfl⟩
  | _ =>
      refine absurd (And.right (place_apply_of_ne s ?_)) h
      simp only [Update.group, ne_eq, reduceCtorEq, not_false_eq_true]

/-- A town is open at the end of a run from the start exactly if it was picked while its county was
    shown, and since then the county has not changed and nothing else was picked. A town is never
    carried into another county or back, and nothing but a pick or another county has an effect
    on it. -/
theorem openTown_history :
    (∀ (updates : List Update) (county town : String),
      (initial.applyAll updates).county = some county ∧ (initial.applyAll updates).town = some town
        ↔ initial.PickedAndKept county town updates) ∧
    (∀ (before after : List Update) (code : Option String),
      (initial.applyAll before).county ≠ code → (∀ name, Update.town (some name) ∉ after) →
        (initial.applyAll (before ++ .county code :: after)).town = none) ∧
    ∀ (s : State) (u : Update), (s.apply u).town ≠ s.town →
      (∃ name, u = .town name) ∨ (s.apply u).county ≠ s.county ∧ (s.apply u).town = none := by
  refine ⟨fun updates _ _ => open_iff_pickedAndKept rfl updates,
    fun before after code hleft hpicks => ?_, fun _ _ => town_apply_ne⟩
  -- The change of county closes the town, and none is picked after that.
  rw [applyAll_append]
  exact town_of_county_left hleft hpicks

/-- A town is picked, its county is picked once more, and another source is. Then the county is
    left, which closes the town, and it is not open when the county is shown again. -/
theorem openTown_history_left :
    let clicks : List Update :=
      [.county (some "CJ"), .town (some "Turda"), .county (some "CJ"), .source .bac]
    let s : State := initial.applyAll clicks
    initial.PickedAndKept "CJ" "Turda" clicks ∧
      (initial.applyAll (clicks ++ [.county (some "AB"), .county (some "CJ")])).town = none ∧
      (s.apply (.county (some "AB"))).town ≠ s.town ∧
      ((∃ name, Update.county (some "AB") = .town name) ∨
        (s.apply (.county (some "AB"))).county ≠ s.county ∧
          (s.apply (.county (some "AB"))).town = none) := by
  intro clicks s
  -- Coming back to the county picks no town in it.
  have hpicks : ∀ name, Update.town (some name) ∉ [Update.county (some "CJ")] := by
    intro name hname
    exact Update.noConfusion (List.mem_singleton.mp hname)
  have hne : (s.apply (.county (some "AB"))).town ≠ s.town := by decide
  exact ⟨(openTown_history.1 clicks "CJ" "Turda").mp (by decide),
    openTown_history.2.1 clicks _ (some "AB") (by decide) hpicks, hne,
    openTown_history.2.2 s _ hne⟩

end State

end Filter

end SchoolAtlas
