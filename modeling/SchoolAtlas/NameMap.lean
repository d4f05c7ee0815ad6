/-!
# Maps Keyed by Names

Finite maps from names to values, kept in one canonical form.

Almost everything the atlas keeps is keyed by a name: ticks by the name of a
level or a language, populations by the code of a county, colours by the
region they paint. All of these are shown in the order of their names, so the
order belongs to the type: a `NameMap` is the list of its entries with strictly
increasing names. Two maps with the same entries are therefore equal as
values, whatever the order in which the entries were put in, and a name occurs
at most once.

Names are ordered by their characters, which is also the order of their UTF-8
bytes: the encoding keeps the order of code points.

## Main definitions

* `NameMap`: Entries in strictly increasing order of their names.
* `NameMap.get?`: The value under a name.
* `NameMap.insert`: Puts a value under a name, in place of an older one.
* `NameMap.ofList`: Inserts the entries of a list one after another.
* `NameMap.map`: Changes the values and keeps the names.

## Theorems

* `NameMap.ext`: Maps with the same entries are equal.
* `NameMap.get?_insert`: What a map holds after an insertion.
* `NameMap.mem_names_iff`: The names are those under which a value is found.
-/

namespace SchoolAtlas

/-- A finite map from names to values. The entries stand in strictly increasing
    order of their names, so a map has one form only. -/
structure NameMap (α : Type u) where
  entries : List (String × α)
  ordered : entries.Pairwise (fun p q => p.1 < q.1)

namespace NameMap

variable {α : Type u} {β : Type v}

/-- Maps with the same entries are equal. -/
@[ext]
theorem ext {m n : NameMap α} (h : m.entries = n.entries) : m = n := by
  cases m
  cases n
  simp only at h
  subst h
  rfl

instance [DecidableEq α] : DecidableEq (NameMap α) := fun m n =>
  if h : m.entries = n.entries then .isTrue (ext h)
  else .isFalse (fun e => h (congrArg entries e))

instance [Repr α] : Repr (NameMap α) := ⟨fun m p => reprPrec m.entries p⟩

/-- The map without entries. -/
def empty : NameMap α := ⟨[], .nil⟩

instance : Inhabited (NameMap α) := ⟨empty⟩

/-- The first value stored under a name in a list of entries. -/
def find? (name : String) : List (String × α) → Option α
  | [] => none
  | (k, v) :: rest => if k = name then some v else find? name rest

/-- The value stored under a name. -/
def get? (m : NameMap α) (name : String) : Option α := find? name m.entries

/-- The names, in increasing order. -/
def names (m : NameMap α) : List String := m.entries.map Prod.fst

/-- The values, in the order of their names. -/
def values (m : NameMap α) : List α := m.entries.map Prod.snd

/-- The number of entries. -/
def size (m : NameMap α) : Nat := m.entries.length

/-- Whether there are no entries. -/
def isEmpty (m : NameMap α) : Bool := m.entries.isEmpty

/-- Puts an entry at its place in an ordered list, in place of an entry of the
    same name. -/
def place (name : String) (value : α) : List (String × α) → List (String × α)
  | [] => [(name, value)]
  | (k, v) :: rest =>
    if name < k then (name, value) :: (k, v) :: rest
    else if name = k then (name, value) :: rest
    else (k, v) :: place name value rest

/-- Every entry after placing is the new one or an old one. -/
theorem eq_or_mem_of_mem_place {name : String} {value : α} {l : List (String × α)}
    {p : String × α} (h : p ∈ place name value l) : p = (name, value) ∨ p ∈ l := by
  induction l with
  | nil => exact .inl (List.mem_singleton.mp h)
  | cons q rest ih =>
    obtain ⟨k, v⟩ := q
    simp only [place] at h
    split at h
    · exact (List.mem_cons.mp h)
    · split at h
      · rcases List.mem_cons.mp h with h | h
        · exact .inl h
        · exact .inr (List.mem_cons_of_mem _ h)
      · rcases List.mem_cons.mp h with h | h
        · exact .inr (h ▸ List.mem_cons_self)
        · rcases ih h with h | h
          · exact .inl h
          · exact .inr (List.mem_cons_of_mem _ h)

/-- A name that is neither below nor equal to another lies above it. -/
theorem lt_of_not_lt_of_ne {a b : String} (h : ¬a < b) (hne : a ≠ b) : b < a := by
  refine String.not_le.mp (fun hle => hne ?_)
  exact String.le_antisymm hle (String.not_lt.mp h)

/-- Placing an entry keeps the names strictly increasing. -/
theorem place_ordered {name : String} {value : α} {l : List (String × α)}
    (h : l.Pairwise (fun p q => p.1 < q.1)) :
    (place name value l).Pairwise (fun p q => p.1 < q.1) := by
  induction l with
  | nil => exact List.pairwise_singleton _ _
  | cons q rest ih =>
    obtain ⟨k, v⟩ := q
    have hrest := List.pairwise_cons.mp h
    simp only [place]
    split
    · next hlt =>
      refine List.pairwise_cons.mpr ⟨fun p hp => ?_, h⟩
      rcases List.mem_cons.mp hp with hp | hp
      · exact hp ▸ hlt
      · exact String.lt_trans hlt (hrest.1 p hp)
    · next hlt =>
      split
      · next heq =>
        refine List.pairwise_cons.mpr ⟨fun p hp => ?_, hrest.2⟩
        exact heq ▸ hrest.1 p hp
      · next hne =>
        refine List.pairwise_cons.mpr ⟨fun p hp => ?_, ih hrest.2⟩
        rcases eq_or_mem_of_mem_place hp with hp | hp
        · exact hp ▸ lt_of_not_lt_of_ne hlt hne
        · exact hrest.1 p hp

/-- Puts a value under a name. An older value under that name is replaced. -/
def insert (m : NameMap α) (name : String) (value : α) : NameMap α :=
  ⟨place name value m.entries, place_ordered m.ordered⟩

/-- Inserts the entries of a list, first to last, so that the last entry of a
    name is the one that stays. -/
def insertAll (m : NameMap α) (entries : List (String × α)) : NameMap α :=
  entries.foldl (fun m p => m.insert p.1 p.2) m

/-- The map holding the entries of a list, the last one of each name. -/
def ofList (entries : List (String × α)) : NameMap α := empty.insertAll entries

/-- Changes the values, each with a view of its name. -/
def map (f : String → α → β) (m : NameMap α) : NameMap β :=
  ⟨m.entries.map (fun p => (p.1, f p.1 p.2)),
    List.pairwise_map.mpr m.ordered⟩

/-- Searching after placing finds the new value under its own name and the old
    ones elsewhere. -/
theorem find?_place (name : String) (value : α) (l : List (String × α)) (x : String) :
    find? x (place name value l) = if name = x then some value else find? x l := by
  induction l with
  | nil => rfl
  | cons q rest ih =>
    obtain ⟨k, v⟩ := q
    simp only [place]
    split
    · rfl
    · split
      · next heq => subst heq; by_cases h : name = x <;> simp [find?, h]
      · next hne =>
        simp only [find?, ih]
        by_cases h : k = x
        · have : name ≠ x := fun e => hne (e.trans h.symm)
          simp [h, this]
        · simp [h]

/-- What a map holds after an insertion. -/
@[simp]
theorem get?_insert (m : NameMap α) (name : String) (value : α) (x : String) :
    (m.insert name value).get? x = if name = x then some value else m.get? x :=
  find?_place name value m.entries x

/-- Nothing is found in the empty map. -/
@[simp]
theorem get?_empty (x : String) : (empty : NameMap α).get? x = none := rfl

/-- A search in a list of entries fails exactly for the names that no entry has. -/
theorem find?_isSome_iff {l : List (String × α)} {x : String} :
    (find? x l).isSome ↔ x ∈ l.map Prod.fst := by
  induction l with
  | nil => simp [find?]
  | cons q rest ih =>
    obtain ⟨k, v⟩ := q
    by_cases h : k = x
    · simp [find?, h]
    · simp only [find?, h, if_false, ih, List.map_cons, List.mem_cons]
      exact ⟨.inr, fun e => e.resolve_left (fun e => h e.symm)⟩

/-- The names of a map are those under which a value is found. -/
theorem mem_names_iff {m : NameMap α} {x : String} : x ∈ m.names ↔ (m.get? x).isSome :=
  find?_isSome_iff.symm

end NameMap

end SchoolAtlas
