import SchoolAtlas.Filter.Preset
import SchoolAtlas.Proofs.Json.Rereading
import SchoolAtlas.Proofs.Selection
import SchoolAtlas.Proofs.Text.ByteOrder

/-!
# Selections After Clicks

What a menu says after any number of clicks.

Of all that was ever put under a name a map keeps what was put there last
(`NameMap.get?_insertAll`), and that is the whole theory of clicks. A menu starts as a map that
entries were put in, be they the names of a list, which may repeat names, or the members of a stored
object, which may repeat them with other ticks. Clicks put in more. So a name is ticked as it was
clicked last, or else as it was at the start.

The order of the clicks has one trace only, which of two clicks on the same name came last. All else
that a selection is asked for is decided by what it holds, since its names stand in one order. It is
that of their bytes, in which a query lists the names it is restricted to.

## Main definitions

* `Selection.ofEntries`: The selection that entries make.
* `Selection.stored`: Entries as they are stored.
* `Selection.TellsTicks`: What a selection says of its ticks.

## Theorems

* `Selection.ofDocument?_eq_some_iff`: The documents that are stored selections.
* `Selection.tellsTicks`: The ticked names in order, and the restriction to them.
* `Selection.ticks_clicks`: Clicks put in their ticks.
* `Selection.faithful_clicks`: What a selection says after any number of clicks.
-/

namespace SchoolAtlas

open Json (Document)

namespace Selection

section Start

/-- The selection that entries make, of which the last one of each name stays. -/
def ofEntries (entries : List (String × Bool)) : Selection := ⟨.ofList entries⟩

theorem isSelected_ofEntries (entries : List (String × Bool)) (name : String) :
    (ofEntries entries).isSelected name = (entries.reverse.lookup name).getD false := by
  rw [isSelected, ofEntries, NameMap.ofList, NameMap.get?_insertAll, NameMap.get?_empty,
    Option.or_none]

theorem mem_names_ofEntries {entries : List (String × Bool)} {name : String} :
    name ∈ (ofEntries entries).names ↔ name ∈ entries.map Prod.fst :=
  NameMap.mem_names_ofList

/-- Names that are listed make entries, one for each time that a name is listed. -/
theorem isSelected_ofNames (names : List String) (ticked : String → Bool) (name : String) :
    (ofNames names ticked).isSelected name = (names.contains name && ticked name) := by
  refine (isSelected_ofEntries _ name).trans ?_
  rw [← List.map_reverse]
  -- A name may be repeated, but it has the same tick each time.
  by_cases hin : name ∈ names
  · rw [List.lookup_graph ticked (List.mem_reverse.mpr hin), List.contains_iff_mem.mpr hin]
    rfl
  · have hnone : (names.reverse.map fun n => (n, ticked n)).lookup name = none := by
      refine List.lookup_eq_none_iff.mpr (fun p hp => ?_)
      rcases List.mem_map.mp hp with ⟨n, hn, rfl⟩
      exact bne_iff_ne.mpr (fun heq => hin (heq ▸ List.mem_reverse.mp hn))
    rw [hnone, List.contains_eq_mem, decide_eq_false hin]
    rfl

theorem mem_names_ofNames {names : List String} {ticked : String → Bool} {name : String} :
    name ∈ (ofNames names ticked).names ↔ name ∈ names := by
  refine NameMap.mem_names_ofList.trans ?_
  rw [List.map_map]
  exact Iff.of_eq (congrArg (name ∈ ·) (List.map_id names))

/-- Entries as they are stored: an object with a member for each of them. -/
def stored (entries : List (String × Bool)) : Document :=
  .object (entries.map fun p => Document.member (p.1, .bool p.2))

theorem readMember?_bool?_eq_some_iff (m : Option String × Document) (p : String × Bool) :
    Document.readMember? Document.bool? m = some p ↔ m = Document.member (p.1, .bool p.2) := by
  rcases m with ⟨name, value⟩
  rcases p with ⟨name', ticked⟩
  cases name with
  | none => simp [Document.readMember?, Document.member]
  | some name => cases value <;> simp [Document.readMember?, Document.member, Document.bool?]

/-- A document is a stored selection if it is an object of readable names with truth values. -/
theorem ofDocument?_eq_some_iff {document : Document} {s : Selection} :
    ofDocument? document = some s ↔
      ∃ entries, document = stored entries ∧ s = ofEntries entries := by
  cases document with
  | object members =>
      rw [ofDocument?, Document.entries?, Option.map_map, Option.map_eq_some_iff]
      simp only [Lists.mapM_eq_some_iff_eq_map readMember?_bool?_eq_some_iff, stored,
        Document.object.injEq]
      exact exists_congr (fun entries => and_congr_right (fun _ => eq_comm))
  | _ => simp [ofDocument?, Document.entries?, stored]

/-- A text is read as a selection if it is that of a stored one. -/
theorem ofJson?_eq_some_iff {text : String} {s : Selection} :
    ofJson? text = some s ↔
      ∃ entries, Document.ofText? text = some (stored entries) ∧ s = ofEntries entries := by
  rw [ofJson?, Option.bind_eq_some_iff]
  constructor
  · rintro ⟨document, htext, hread⟩
    rcases ofDocument?_eq_some_iff.mp hread with ⟨entries, rfl, hs⟩
    exact ⟨entries, htext, hs⟩
  · rintro ⟨entries, htext, hs⟩
    exact ⟨_, htext, ofDocument?_eq_some_iff.mpr ⟨entries, rfl, hs⟩⟩

end Start

/-- What a selection says of its ticks. The listed names and the ticked ones stand in the order of
    their bytes, each of them once, and the ticked names are what the selection restricts to unless
    no listed name is ticked or all of them are. -/
structure TellsTicks (s : Selection) : Prop where
  names_increasing : (s.names.map Text.bytes).Pairwise (· < ·)
  selected_increasing : (s.selected.map Text.bytes).Pairwise (· < ·)
  mem_selected_iff : ∀ name, name ∈ s.selected ↔ s.isSelected name = true
  selected_listed : ∀ name ∈ s.selected, name ∈ s.names
  restriction?_eq : s.restriction? =
    if (∀ name ∈ s.names, s.isSelected name = false) ∨ ∀ name ∈ s.names, s.isSelected name = true
    then none else some s.selected

/-- Names in increasing order are so by their bytes. -/
theorem increasing_bytes {names : List String} (h : names.Pairwise (· < ·)) :
    (names.map Text.bytes).Pairwise (· < ·) :=
  List.pairwise_map.mpr (h.imp Text.bytes_lt_iff.mpr)

/-- No name is ticked if no listed name is. -/
theorem selected_eq_nil_iff {s : Selection} :
    s.selected = [] ↔ ∀ name ∈ s.names, s.isSelected name = false := by
  rw [List.eq_nil_iff_forall_not_mem]
  constructor
  · intro hnone name _
    exact Bool.eq_false_iff.mpr (fun hticked => hnone name (mem_selected_iff.mpr hticked))
  · intro hnone name hname
    have hticked := mem_selected_iff.mp hname
    rw [hnone name (mem_names_of_isSelected hticked)] at hticked
    exact Bool.noConfusion hticked

/-- A selection restricts to the ticked names, unless these are none or all of the listed ones. -/
theorem restriction?_eq (s : Selection) :
    s.restriction? =
      if (∀ name ∈ s.names, s.isSelected name = false) ∨ ∀ name ∈ s.names, s.isSelected name = true
      then none else some s.selected := by
  -- Nothing is asked for in two cases: no name is ticked, or every one is.
  have hnone : s.restriction? = none ↔
      (∀ name ∈ s.names, s.isSelected name = false) ∨
        ∀ name ∈ s.names, s.isSelected name = true := by
    rw [restriction?_eq_none_iff, selected_eq_nil_iff]
    simp only [not_exists, not_and, Bool.not_eq_false]
  split
  · next hall => exact hnone.mpr hall
  · next hsome =>
    rcases Option.ne_none_iff_exists'.mp (mt hnone.mp hsome) with ⟨picked, hpicked⟩
    rw [hpicked, (restriction?_eq_some_iff.mp hpicked).2.2]

theorem tellsTicks (s : Selection) : s.TellsTicks where
  names_increasing := increasing_bytes s.ticks.names_ordered
  selected_increasing := increasing_bytes s.selected_ordered
  mem_selected_iff := fun _ => mem_selected_iff
  selected_listed := fun _ h => mem_names_of_isSelected (mem_selected_iff.mp h)
  restriction?_eq := restriction?_eq s

section Clicks

variable (start : Selection) (clicks : List (String × Bool))

/-- Clicks put in their ticks one after the other. -/
theorem ticks_clicks :
    (clicks.foldl (fun s click => s.set click.1 click.2) start).ticks
      = start.ticks.insertAll clicks := by
  induction clicks generalizing start with
  | nil => rfl
  | cons click rest ih => exact ih (start.set click.1 click.2)

/-- A name is ticked as it was clicked last, or else as at the start. -/
theorem isSelected_clicks (name : String) :
    (clicks.foldl (fun s click => s.set click.1 click.2) start).isSelected name
      = (clicks.reverse.lookup name).getD (start.isSelected name) := by
  rw [isSelected, ticks_clicks, NameMap.get?_insertAll, Option.getD_or, isSelected]

/-- The listed names are those of the start and those that were clicked. -/
theorem mem_names_clicks {name : String} :
    name ∈ (clicks.foldl (fun s click => s.set click.1 click.2) start).names ↔
      name ∈ start.names ∨ name ∈ clicks.map Prod.fst := by
  rw [names, ticks_clicks, NameMap.mem_names_insertAll, or_comm]
  rfl

end Clicks

/-- What a selection says after any number of clicks. It may have started from a list of names,
    which may repeat them, and is then ticked where the names were to be, or from a stored object,
    of which the last member of a name counts. A name is ticked as it was clicked last, or else as
    at the start, and no name gets lost. What is asked of a selection is told by its ticks, in one
    order: selections with the same ticks list the same names as ticked, and clicks that end alike
    for each name make the same selection, whatever the order they were made in. -/
theorem faithful_clicks :
    (∀ (names : List String) (ticked : String → Bool) (name : String),
      (ofNames names ticked).isSelected name = (names.contains name && ticked name) ∧
      (name ∈ (ofNames names ticked).names ↔ name ∈ names)) ∧
    (∀ (text : String) (s : Selection), ofJson? text = some s ↔
      ∃ entries, Document.ofText? text = some (stored entries) ∧ s = ofEntries entries) ∧
    (∀ (entries : List (String × Bool)) (name : String),
      (ofEntries entries).isSelected name = (entries.reverse.lookup name).getD false ∧
      (name ∈ (ofEntries entries).names ↔ name ∈ entries.map Prod.fst)) ∧
    (∀ (start : Selection) (clicks : List (String × Bool)),
      let s := clicks.foldl (fun s click => s.set click.1 click.2) start
      s.TellsTicks ∧
      (∀ name, s.isSelected name = (clicks.reverse.lookup name).getD (start.isSelected name)) ∧
      ∀ name, name ∈ s.names ↔ name ∈ start.names ∨ name ∈ clicks.map Prod.fst) ∧
    (∀ s t : Selection, s.selected = t.selected ↔ ∀ name, s.isSelected name = t.isSelected name) ∧
    ∀ (start : Selection) (clicks clicks' : List (String × Bool)),
      (∀ name, clicks.reverse.lookup name = clicks'.reverse.lookup name) →
      clicks.foldl (fun s click => s.set click.1 click.2) start
        = clicks'.foldl (fun s click => s.set click.1 click.2) start := by
  refine ⟨fun names ticked name => ⟨isSelected_ofNames names ticked name, mem_names_ofNames⟩,
    fun _ _ => ofJson?_eq_some_iff,
    fun entries name => ⟨isSelected_ofEntries entries name, mem_names_ofEntries⟩,
    fun start clicks => ⟨tellsTicks _, isSelected_clicks start clicks,
      fun _ => mem_names_clicks start clicks⟩,
    fun _ _ => selected_eq_iff, fun start clicks clicks' hlast => ?_⟩
  -- Only the last click on a name is left in the end.
  have hticks : start.ticks.insertAll clicks = start.ticks.insertAll clicks' :=
    NameMap.ext_get? (fun name => by
      rw [NameMap.get?_insertAll, NameMap.get?_insertAll, hlast])
  rw [← ticks_clicks, ← ticks_clicks] at hticks
  exact congrArg Selection.mk hticks

/-- A stored object that names a language twice, and the same clicks in two orders. -/
theorem faithful_clicks_rromani :
    let text := "\x7b\"rromani\":true, \"maghiară\":false, \"rromani\":false\x7d"
    let clicks := [("română", true), ("maghiară", true), ("română", false)]
    let clicks' := [("română", true), ("română", false), ("maghiară", true)]
    ∃ start entries, ofJson? text = some start ∧
      Document.ofText? text = some (stored entries) ∧ start = ofEntries entries ∧
      start.isSelected "rromani" = false ∧
      let s := clicks.foldl (fun s click => s.set click.1 click.2) start
      s.isSelected "română" = false ∧ "română" ∈ s.names ∧ s.restriction? = some ["maghiară"] ∧
      s = clicks'.foldl (fun s click => s.set click.1 click.2) start := by
  intro text clicks clicks'
  let start := ofEntries [("maghiară", false), ("rromani", false)]
  have htext : ofJson? text = some start := by decide +kernel
  rcases faithful_clicks with ⟨-, hread, hstart, hclicks, -, hlast⟩
  rcases (hread text start).mp htext with ⟨entries, hentries, hmade⟩
  rcases hclicks start clicks with ⟨htells, hticked, hnames⟩
  refine ⟨start, entries, htext, hentries, hmade, (hstart _ "rromani").1,
    hticked "română", (hnames "română").mpr (Or.inr (by decide)),
    htells.restriction?_eq.trans (by decide +kernel),
    hlast start clicks clicks' (fun name => ?_)⟩
  -- The clicks on the one language come before and after those on the other.
  by_cases hname : name = "română"
  · rw [hname]
    rfl
  · have hother : (name == "română") = false := beq_eq_false_iff_ne.mpr hname
    simp only [clicks, clicks', List.reverse_cons, List.reverse_nil, List.nil_append,
      List.cons_append, List.lookup_cons, hother]

end Selection

end SchoolAtlas
