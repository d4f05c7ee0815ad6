import Mathlib.Data.List.Nodup
import SchoolAtlas.Selection

/-!
# What a Selection Restricts To

Selections seen through their ticks alone.

A selection is stored as a map in the order of its names, and `selected` and
`restriction?` go through that map. What they mean does not depend on the order:
a name is among the selected ones if it is ticked, and there is a restriction if
some listed name is ticked and some listed name is not. The second half is worth
spelling out, because it speaks of listed names only. A name that is not listed
is not ticked either, and yet it does not make a restriction.

## Theorems

* `NameMap.get?_eq_some_iff`: A value is found exactly if it is stored.
* `NameMap.names_ordered`: The names stand in strictly increasing order.
* `NameMap.mem_names_ofList`: The names of a map are those that were put in.
* `NameMap.ext_get?`: A map is decided by what is found in it.
* `NameMap.get?_insertAll`: A map keeps what was put in last.
* `NameMap.entries_ofList_perm`: Entries of different names are all kept.
* `NameMap.ofList_entries`: A map is put together again from its entries.
* `NameMap.insertAll_congr`: Order and repetitions of entries do not matter.
* `Selection.mem_selected_iff`: The selected names are the ticked ones.
* `Selection.restriction?_eq_none_iff`: When there is no restriction.
* `Selection.restriction?_eq_some_iff`: When there is one, and which.
* `Selection.selected_eq_iff`: The list of ticked names says which names are ticked, no more.
-/

namespace SchoolAtlas

namespace NameMap

variable {α : Type u}

/-- In a list of entries with increasing names, a value is found under a name exactly
    if there is such an entry. -/
theorem find?_eq_some_iff {l : List (String × α)} (h : l.Pairwise (fun p q => p.1 < q.1))
    {name : String} {value : α} : find? name l = some value ↔ (name, value) ∈ l := by
  induction l with
  | nil => simp only [find?, reduceCtorEq, List.not_mem_nil]
  | cons p rest ih =>
      rcases p with ⟨k, v⟩
      rcases List.pairwise_cons.mp h with ⟨hlt, hrest⟩
      rw [find?, List.mem_cons, Prod.mk.injEq]
      by_cases hk : k = name
      · rw [if_pos hk, Option.some.injEq]
        constructor
        · exact fun hv => Or.inl ⟨hk.symm, hv.symm⟩
        · intro hor
          rcases hor with ⟨_, hv⟩ | hmem
          · exact hv.symm
          · -- A later entry has a greater name.
            exact absurd (hk ▸ hlt _ hmem) (String.lt_irrefl name)
      · rw [if_neg hk, ih hrest]
        exact ⟨Or.inr, fun hor => hor.resolve_left (fun heq => hk heq.1.symm)⟩

theorem get?_eq_some_iff {m : NameMap α} {name : String} {value : α} :
    m.get? name = some value ↔ (name, value) ∈ m.entries :=
  find?_eq_some_iff m.ordered

theorem names_ordered (m : NameMap α) : m.names.Pairwise (· < ·) :=
  List.pairwise_map.mpr m.ordered

theorem nodup_names (m : NameMap α) : m.names.Nodup := by
  refine m.names_ordered.imp (fun hlt heq => ?_)
  exact String.lt_irrefl _ (heq ▸ hlt)

/-- Inserting entries adds their names to those that are there. -/
theorem mem_names_insertAll {m : NameMap α} {entries : List (String × α)} {name : String} :
    name ∈ (m.insertAll entries).names ↔ name ∈ entries.map Prod.fst ∨ name ∈ m.names := by
  induction entries generalizing m with
  | nil => simp only [insertAll, List.foldl_nil, List.map_nil, List.not_mem_nil, false_or]
  | cons p rest ih =>
      have hstep : m.insertAll (p :: rest) = (m.insert p.1 p.2).insertAll rest := rfl
      -- One entry adds its own name and takes none away.
      have hone : name ∈ (m.insert p.1 p.2).names ↔ name = p.1 ∨ name ∈ m.names := by
        rw [mem_names_iff, mem_names_iff, get?_insert]
        by_cases h : p.1 = name
        · simp only [h, if_true, Option.isSome_some, true_or]
        · rw [if_neg h, or_iff_right (fun e => h e.symm)]
      rw [hstep, ih, hone, List.map_cons, List.mem_cons, or_left_comm, or_assoc]

theorem mem_names_ofList {entries : List (String × α)} {name : String} :
    name ∈ (ofList entries).names ↔ name ∈ entries.map Prod.fst := by
  have hempty : name ∉ (empty : NameMap α).names := List.not_mem_nil
  rw [ofList, mem_names_insertAll, or_iff_left hempty]

theorem nodup_entries (m : NameMap α) : m.entries.Nodup := by
  refine m.ordered.imp (fun hlt heq => ?_)
  exact String.lt_irrefl _ (heq ▸ hlt)

/-- Entries in the order of their names are decided by which entries they are, and so a map is
    decided by what is found in it. -/
theorem ext_get? {m n : NameMap α} (h : ∀ name, m.get? name = n.get? name) : m = n := by
  have hmem : ∀ p, p ∈ m.entries ↔ p ∈ n.entries := by
    intro p
    rw [← get?_eq_some_iff, ← get?_eq_some_iff, h]
  have hperm := (List.perm_ext_iff_of_nodup m.nodup_entries n.nodup_entries).mpr hmem
  exact ext (hperm.eq_of_pairwise
    (fun _ _ _ _ hlt hgt => absurd (String.lt_trans hlt hgt) (String.lt_irrefl _))
    m.ordered n.ordered)

theorem find?_map {β : Type v} (f : String → α → β) (l : List (String × α)) (name : String) :
    find? name (l.map (fun p => (p.1, f p.1 p.2))) = (find? name l).map (f name) := by
  induction l with
  | nil => rfl
  | cons p rest ih =>
      rw [List.map_cons, find?, find?]
      by_cases hp : p.1 = name
      · rw [if_pos hp, if_pos hp, Option.map_some, hp]
      · rw [if_neg hp, if_neg hp, ih]

/-- What is found when the values are changed is what was found, changed. -/
theorem get?_map {β : Type v} (f : String → α → β) (m : NameMap α) (name : String) :
    (m.map f).get? name = (m.get? name).map (f name) :=
  find?_map f m.entries name

/-- A map keeps under a name what was put there last, or else what it had. -/
theorem get?_insertAll (m : NameMap α) (entries : List (String × α)) (name : String) :
    (m.insertAll entries).get? name = (entries.reverse.lookup name).or (m.get? name) := by
  induction entries generalizing m with
  | nil => rfl
  | cons p rest ih =>
      have hstep : m.insertAll (p :: rest) = (m.insert p.1 p.2).insertAll rest := rfl
      -- The first entry is the last to be asked: all that come after it go before.
      have hone : (m.insert p.1 p.2).get? name = ([p].lookup name).or (m.get? name) := by
        rw [get?_insert, List.lookup_cons, List.lookup_nil]
        by_cases hp : p.1 = name
        · rw [if_pos hp, hp, BEq.rfl]
          rfl
        · rw [if_neg hp, beq_eq_false_iff_ne.mpr (Ne.symm hp)]
          rfl
      rw [hstep, ih, hone, List.reverse_cons, List.lookup_append, Option.or_assoc]

/-- A name that is not among the entries inserted keeps its value. -/
theorem get?_insertAll_of_not_mem {m : NameMap α} {entries : List (String × α)} {name : String}
    (h : name ∉ entries.map Prod.fst) : (m.insertAll entries).get? name = m.get? name := by
  have hnone : entries.reverse.lookup name = none := by
    refine List.lookup_eq_none_iff.mpr (fun p hp => bne_iff_ne.mpr (fun heq => h ?_))
    exact heq ▸ List.mem_map_of_mem (List.mem_reverse.mp hp)
  rw [get?_insertAll, hnone, Option.none_or]

/-- A name that is inserted has the value it was inserted with, if there is only one. -/
theorem get?_insertAll_of_mem {m : NameMap α} {entries : List (String × α)} {name : String}
    {value : α} (hin : (name, value) ∈ entries)
    (hone : ∀ other, (name, other) ∈ entries → other = value) :
    (m.insertAll entries).get? name = some value := by
  have hsome : (entries.reverse.lookup name).isSome :=
    List.lookup_isSome_iff.mpr ⟨_, List.mem_reverse.mpr hin, BEq.rfl⟩
  rcases Option.isSome_iff_exists.mp hsome with ⟨last, hlast⟩
  -- The last entry of the name has the value, as all of them do.
  rcases List.lookup_eq_some_iff.mp hlast with ⟨_, _, hsplit, _⟩
  have hmem : (name, last) ∈ entries.reverse := by
    rw [hsplit]
    exact List.mem_append_right _ List.mem_cons_self
  rw [get?_insertAll, hlast, Option.some_or, hone last (List.mem_reverse.mp hmem)]

/-- What is found after an insertion of several entries depends on which entries they are, if no
    name is inserted with two values. Neither their order nor repetitions matter. -/
theorem insertAll_congr (m : NameMap α) {entries entries' : List (String × α)}
    (hsame : ∀ p, p ∈ entries ↔ p ∈ entries')
    (hone : ∀ name value other, (name, value) ∈ entries → (name, other) ∈ entries →
      other = value) : m.insertAll entries = m.insertAll entries' := by
  refine ext_get? (fun name => ?_)
  -- A name has one value in all its entries, so their order does not matter.
  by_cases hin : name ∈ entries.map Prod.fst
  · rcases List.mem_map.mp hin with ⟨⟨_, value⟩, hentry, rfl⟩
    rw [get?_insertAll_of_mem hentry (fun other hother => hone _ _ _ hentry hother),
      get?_insertAll_of_mem ((hsame _).mp hentry)
        (fun other hother => hone _ _ _ hentry ((hsame _).mpr hother))]
  · have hin' : name ∉ entries'.map Prod.fst := by
      intro hmem
      rcases List.mem_map.mp hmem with ⟨p, hentry, rfl⟩
      exact hin (List.mem_map.mpr ⟨p, (hsame p).mpr hentry, rfl⟩)
    rw [get?_insertAll_of_not_mem hin, get?_insertAll_of_not_mem hin']

/-- A map that is put together from entries of different names has just these entries. -/
theorem entries_ofList_perm {entries : List (String × α)} (h : (entries.map Prod.fst).Nodup) :
    (ofList entries).entries.Perm entries := by
  have hfound : ∀ p ∈ entries, (ofList entries).get? p.1 = some p.2 := by
    intro p hp
    refine get?_insertAll_of_mem hp (fun other hother => ?_)
    exact congrArg Prod.snd (List.inj_on_of_nodup_map h hother hp rfl)
  refine (List.perm_ext_iff_of_nodup (nodup_entries _) (List.Nodup.of_map _ h)).mpr (fun p => ?_)
  rw [← get?_eq_some_iff]
  refine ⟨fun hget => ?_, hfound p⟩
  -- What is found under a name was put in under it, and nothing else was.
  have hname := mem_names_ofList.mp (mem_names_iff.mpr (Option.isSome_of_eq_some hget))
  rcases List.mem_map.mp hname with ⟨q, hq, hkey⟩
  rw [← hkey, hfound q hq, Option.some.injEq] at hget
  exact Prod.ext hkey hget ▸ hq

/-- A map is put together again from its entries. -/
theorem ofList_entries (m : NameMap α) : ofList m.entries = m := by
  refine ext_get? (fun name => ?_)
  -- The entries of a map have names of their own, so each is found again.
  cases hget : m.get? name with
  | none =>
      have hout : name ∉ m.entries.map Prod.fst := by
        intro hin
        rcases List.mem_map.mp hin with ⟨⟨_, value⟩, hentry, rfl⟩
        rw [get?_eq_some_iff.mpr hentry] at hget
        exact absurd hget (Option.some_ne_none value)
      rw [ofList, get?_insertAll_of_not_mem hout]
      rfl
  | some value =>
      have hentry := get?_eq_some_iff.mp hget
      refine get?_insertAll_of_mem hentry (fun other hother => ?_)
      exact Option.some.inj ((get?_eq_some_iff.mpr hother).symm.trans hget)

end NameMap

namespace Selection

variable {s t : Selection}

theorem isSelected_iff {name : String} :
    s.isSelected name = true ↔ (name, true) ∈ s.ticks.entries := by
  rw [← NameMap.get?_eq_some_iff, isSelected]
  cases s.ticks.get? name with
  | none => simp only [Option.getD_none, Bool.false_eq_true, reduceCtorEq]
  | some ticked => simp only [Option.getD_some, Option.some.injEq]

theorem mem_selected_iff {name : String} : name ∈ s.selected ↔ s.isSelected name = true := by
  rw [isSelected_iff, selected, List.mem_map]
  constructor
  · intro hex
    rcases hex with ⟨⟨k, ticked⟩, hentry, rfl⟩
    rcases List.mem_filter.mp hentry with ⟨hin, hticked⟩
    exact (show ticked = true from hticked) ▸ hin
  · exact fun hin => ⟨(name, true), List.mem_filter.mpr ⟨hin, rfl⟩, rfl⟩

theorem isSelected_of_mem {name : String} {ticked : Bool}
    (h : (name, ticked) ∈ s.ticks.entries) : s.isSelected name = ticked := by
  rw [isSelected, NameMap.get?_eq_some_iff.mpr h, Option.getD_some]

theorem mem_names_of_isSelected {name : String} (h : s.isSelected name = true) : name ∈ s.names :=
  List.mem_map.mpr ⟨_, isSelected_iff.mp h, rfl⟩

theorem isUnrestricted_iff : s.isUnrestricted = true ↔ s.selected = [] := by
  rw [isUnrestricted, Bool.not_eq_true', List.any_eq_false, List.eq_nil_iff_forall_not_mem]
  constructor
  · intro hnone name hname
    exact hnone true (List.mem_map.mpr ⟨_, isSelected_iff.mp (mem_selected_iff.mp hname), rfl⟩)
      rfl
  · intro hnone ticked hticked htrue
    rcases List.mem_map.mp hticked with ⟨⟨name, value⟩, hentry, rfl⟩
    refine hnone name (mem_selected_iff.mpr ?_)
    rw [isSelected_of_mem hentry]
    exact htrue

/-- All listed names are ticked exactly if some name is listed and none is listed
    without a tick. -/
theorem isAll_iff :
    s.isAll = true ↔ s.names ≠ [] ∧ ∀ name ∈ s.names, s.isSelected name = true := by
  rw [isAll, Bool.and_eq_true, Bool.not_eq_true', List.all_eq_true, NameMap.isEmpty]
  -- An entry is a name with a tick, and the name has no other.
  have hnames : s.ticks.entries.isEmpty = false ↔ s.names ≠ [] := by
    rw [← Bool.not_eq_true, List.isEmpty_iff, names, NameMap.names, ne_eq, List.map_eq_nil_iff]
  rw [hnames]
  refine and_congr_right (fun _ => ?_)
  constructor
  · intro hall name hname
    rcases List.mem_map.mp hname with ⟨⟨k, ticked⟩, hentry, rfl⟩
    rw [isSelected_of_mem hentry]
    exact hall ticked (List.mem_map.mpr ⟨_, hentry, rfl⟩)
  · intro hall ticked hticked
    rcases List.mem_map.mp hticked with ⟨⟨name, value⟩, hentry, rfl⟩
    have hname := hall name (List.mem_map.mpr ⟨_, hentry, rfl⟩)
    rw [isSelected_of_mem hentry] at hname
    exact hname

/-- There is a restriction exactly if some name is ticked and some listed name is not.
    It is then to the ticked names. -/
theorem restriction?_eq_some_iff {picked : List String} :
    s.restriction? = some picked ↔
      s.selected ≠ [] ∧ (∃ name ∈ s.names, s.isSelected name = false) ∧ picked = s.selected := by
  -- A ticked name is a listed one, so the menu is not empty.
  have hlisted : s.selected ≠ [] → s.names ≠ [] := by
    intro hne hnames
    rcases List.exists_mem_of_ne_nil _ hne with ⟨name, hname⟩
    have hin := mem_names_of_isSelected (mem_selected_iff.mp hname)
    rw [hnames] at hin
    exact List.not_mem_nil hin
  -- In a menu with names, not to have all ticked is to list one without a tick.
  have hleft : s.names ≠ [] → (¬ s.isAll = true ↔ ∃ name ∈ s.names, s.isSelected name = false) := by
    intro hne
    rw [isAll_iff]
    constructor
    · intro hnot
      by_contra hno
      refine hnot ⟨hne, fun name hname => ?_⟩
      by_contra hunticked
      exact hno ⟨name, hname, Bool.eq_false_iff.mpr hunticked⟩
    · intro hex hex'
      rcases hex with ⟨name, hname, hunticked⟩
      rcases hex' with ⟨_, hall⟩
      rw [hall name hname] at hunticked
      exact absurd hunticked (by simp only [Bool.true_eq_false, not_false_eq_true])
  rw [restriction?]
  by_cases hun : s.isUnrestricted = true
  · rw [if_pos (by rw [hun, Bool.true_or])]
    simp only [reduceCtorEq, isUnrestricted_iff.mp hun, ne_eq, not_true_eq_false, false_and]
  · have hne : s.selected ≠ [] := fun h => hun (isUnrestricted_iff.mpr h)
    rw [Bool.eq_false_iff.mpr hun, Bool.false_or, ← hleft (hlisted hne)]
    by_cases hall : s.isAll = true
    · rw [if_pos hall]
      simp only [reduceCtorEq, hall, not_true_eq_false, false_and, and_false]
    · rw [if_neg hall, Option.some.injEq]
      exact ⟨fun h => ⟨hne, hall, h.symm⟩, fun h => h.2.2.symm⟩

/-- There is no restriction exactly if no name is ticked, or no listed name is unticked. -/
theorem restriction?_eq_none_iff :
    s.restriction? = none ↔
      s.selected = [] ∨ ¬∃ name ∈ s.names, s.isSelected name = false := by
  rw [Option.eq_none_iff_forall_ne_some]
  constructor
  · intro hnone
    by_cases hne : s.selected = []
    · exact Or.inl hne
    · exact Or.inr (fun hleft => hnone _ (restriction?_eq_some_iff.mpr ⟨hne, hleft, rfl⟩))
  · intro hor picked hsome
    rcases restriction?_eq_some_iff.mp hsome with ⟨hne, hleft, _⟩
    -- Nothing is asked for if nothing is ticked, and also if everything is.
    rcases hor with hnil | hnot
    · exact hne hnil
    · exact hnot hleft

theorem selected_ordered (s : Selection) : s.selected.Pairwise (· < ·) :=
  List.pairwise_map.mpr (s.ticks.ordered.filter _)

/-- Names in increasing order are decided by which names they are. -/
theorem eq_of_ordered {names names' : List String} (h : names.Pairwise (· < ·))
    (h' : names'.Pairwise (· < ·)) (hmem : ∀ name, name ∈ names ↔ name ∈ names') :
    names = names' := by
  have hne : ∀ {a b : String}, a < b → a ≠ b :=
    fun hlt heq => String.lt_irrefl _ (heq ▸ hlt)
  have hdistinct : ∀ {l : List String}, l.Pairwise (· < ·) → l.Nodup := fun hl => hl.imp hne
  have hperm := (List.perm_ext_iff_of_nodup (hdistinct h) (hdistinct h')).mpr hmem
  exact hperm.eq_of_pairwise
    (fun _ _ _ _ hlt hgt => absurd (String.lt_trans hlt hgt) (String.lt_irrefl _)) h h'

/-- The names that are ticked decide their list. -/
theorem selected_eq_iff :
    s.selected = t.selected ↔ ∀ name, s.isSelected name = t.isSelected name := by
  constructor
  · intro h name
    rw [Bool.eq_iff_iff, ← mem_selected_iff, ← mem_selected_iff, h]
  · intro h
    refine eq_of_ordered (selected_ordered s) (selected_ordered t) (fun name => ?_)
    rw [mem_selected_iff, mem_selected_iff, h]

theorem restriction?_ordered {picked : List String} (h : s.restriction? = some picked) :
    picked.Pairwise (· < ·) := by
  rw [(restriction?_eq_some_iff.mp h).2.2]
  exact selected_ordered s

end Selection

end SchoolAtlas
