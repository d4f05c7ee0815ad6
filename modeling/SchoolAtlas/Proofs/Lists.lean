import Mathlib.Data.List.Basic

/-!
# Lists Behind Answers

The few facts about lists that every answer rests on.

An answer is put together by going through keys that occur once each and
computing a value for each of them, any of which may fail. Two things are
needed for that. Removing repetitions leaves every element exactly once, so a
list without repetitions is left as it is. And a computation over a list
succeeds exactly if it does for each element, with the elements' values as its
own.

An answer also goes through a table once for each key and takes the rows of that
key. If the keys are different, no row is met twice, and what is met is the part
of the table that belongs to some key, in another order.

## Theorems

* `Lists.nodup_eraseDups`: Removing repetitions leaves none.
* `Lists.eraseDups_of_nodup`: A list without repetitions stays as it is.
* `Lists.eraseDups_map_const`: Repetitions of one value collapse into it.
* `Lists.mapM_eq_some_iff`: A computation over a list succeeds exactly if it does
  for each element.
* `Lists.mapM_eq_some_iff_eq_map`: A computation that can be undone.
* `Lists.filter_key_eq`: Keys that are different single out entries.
* `Lists.lookup_filterMap`: The value that was computed for a key.
* `Lists.filter_append_filter_perm`: Two parts that do not overlap.
* `Lists.flatMap_filter_perm_of_exclusive`, `Lists.flatMap_filter_perm`: A table gone
  through key by key.
* `Lists.filter_flatMap_of_forall`: A condition that is the same for all that comes
  of an element.
* `Lists.toList_append_inj`: Two optional elements that can be told apart.
* `Options.none_or_some`: Two computations that fail together.
-/

namespace SchoolAtlas

namespace Lists

variable {α : Type u} {β : Type v}

theorem nodup_eraseDups [BEq α] [LawfulBEq α] (l : List α) : l.eraseDups.Nodup := by
  match l with
  | [] => exact List.nodup_nil
  | a :: rest =>
      rw [List.eraseDups_cons, List.nodup_cons]
      refine ⟨fun hmem => ?_, nodup_eraseDups _⟩
      -- The head was filtered out of the rest before the rest was looked at.
      have hkept := (List.mem_filter.mp (List.mem_eraseDups.mp hmem)).2
      simp only [BEq.rfl, Bool.not_true, Bool.false_eq_true] at hkept
termination_by l.length
decreasing_by exact Nat.lt_succ_of_le (List.length_filter_le _ _)

theorem eraseDups_of_nodup [BEq α] [LawfulBEq α] {l : List α} (h : l.Nodup) :
    l.eraseDups = l := by
  induction l with
  | nil => exact List.eraseDups_nil
  | cons a rest ih =>
      rcases List.nodup_cons.mp h with ⟨hnot, hrest⟩
      -- Nothing in the rest equals the head, so nothing is taken out of it.
      have hkeep : rest.filter (fun b => !b == a) = rest := by
        refine List.filter_eq_self.mpr (fun b hb => ?_)
        have hne : b ≠ a := fun e => hnot (e ▸ hb)
        simp only [beq_eq_false_iff_ne.mpr hne, Bool.not_false]
      rw [List.eraseDups_cons, hkeep, ih hrest]

theorem eraseDups_map_const [BEq β] [LawfulBEq β] (l : List α) (b : β) :
    (l.map (fun _ => b)).eraseDups = if l.isEmpty then [] else [b] := by
  cases l with
  | nil => exact List.eraseDups_nil
  | cons a rest =>
      -- All that follows the first value equals it and goes.
      have hnone : (rest.map (fun _ => b)).filter (fun c => !c == b) = [] := by
        refine List.filter_eq_nil_iff.mpr (fun c hc => ?_)
        rcases List.mem_map.mp hc with ⟨_, _, rfl⟩
        simp only [BEq.rfl, Bool.not_true, Bool.false_eq_true, not_false_eq_true]
      rw [List.map_cons, List.eraseDups_cons, hnone, List.eraseDups_nil]
      rfl

/-- Whether a list is empty shows in its length. -/
theorem isEmpty_congr {l : List α} {l' : List β} (h : l.length = l'.length) :
    l.isEmpty = l'.isEmpty := by
  rw [Bool.eq_iff_iff, List.isEmpty_iff_length_eq_zero, List.isEmpty_iff_length_eq_zero, h]

/-- A computation over a list succeeds exactly if it does for each element, and
    its value then lists the values of the elements. -/
theorem mapM_eq_some_iff {f : α → Option β} {l : List α} {values : List β} :
    l.mapM f = some values ↔ (∀ a ∈ l, (f a).isSome) ∧ values = l.filterMap f := by
  induction l generalizing values with
  | nil =>
      simp only [List.mapM_nil, Option.pure_def, Option.some.injEq, List.not_mem_nil,
        false_implies, implies_true, List.filterMap_nil, true_and, eq_comm]
  | cons a rest ih =>
      rw [List.mapM_cons, List.forall_mem_cons]
      -- One failure is a failure of the whole, whatever the rest would give.
      cases ha : f a with
      | none =>
          simp only [Option.bind_eq_bind, Option.bind_none, reduceCtorEq, Option.isSome_none,
            Bool.false_eq_true, false_and]
      | some b =>
          rw [List.filterMap_cons_some ha]
          simp only [Option.bind_eq_bind, Option.bind_some, Option.pure_def,
            Option.bind_eq_some_iff, ih, Option.some.injEq, Option.isSome_some, true_and]
          constructor
          · intro hex
            rcases hex with ⟨_, ⟨hall, rfl⟩, rfl⟩
            exact ⟨hall, rfl⟩
          · intro hex
            rcases hex with ⟨hall, rfl⟩
            exact ⟨_, ⟨hall, rfl⟩, rfl⟩

theorem mapM_eq_some_of_forall {f : α → Option β} {g : α → β} {l : List α}
    (h : ∀ a ∈ l, f a = some (g a)) : l.mapM f = some (l.map g) := by
  refine mapM_eq_some_iff.mpr ⟨fun a ha => by rw [h a ha]; rfl, ?_⟩
  rw [List.filterMap_congr h, List.filterMap_eq_map']

/-- A computation whose values tell what they were computed from succeeds for what they tell. -/
theorem mapM_eq_some_iff_eq_map {f : α → Option β} {g : β → α}
    (h : ∀ a b, f a = some b ↔ a = g b) {l : List α} {values : List β} :
    l.mapM f = some values ↔ l = values.map g := by
  constructor
  · intro hvalues
    induction l generalizing values with
    | nil =>
        rw [List.mapM_nil, Option.pure_def, Option.some.injEq] at hvalues
        rw [← hvalues, List.map_nil]
    | cons a rest ih =>
        rw [List.mapM_cons, Option.bind_eq_bind, Option.bind_eq_some_iff] at hvalues
        -- The first element has a value, and so has each of the others.
        rcases hvalues with ⟨b, hb, hrest⟩
        rw [Option.bind_eq_bind, Option.bind_eq_some_iff] at hrest
        rcases hrest with ⟨more, hmore, hcons⟩
        rw [Option.pure_def, Option.some.injEq] at hcons
        rw [← hcons, List.map_cons, ← (h a b).mp hb, ← ih hmore]
  · rintro rfl
    have hone : ∀ b ∈ values, (f ∘ g) b = some (id b) := fun b _ => (h (g b) b).mpr rfl
    rw [List.mapM_map, mapM_eq_some_of_forall hone, List.map_id]

/-- Among entries with different keys, only one has the key that it has. -/
theorem filter_key_eq {κ : Type w} [BEq κ] [LawfulBEq κ] {l : List (κ × α)}
    (h : (l.map Prod.fst).Nodup) {p : κ × α} (hp : p ∈ l) :
    l.filter (fun q => q.1 == p.1) = [p] := by
  induction l with
  | nil => exact absurd hp List.not_mem_nil
  | cons q rest ih =>
      rw [List.map_cons, List.nodup_cons] at h
      -- The pair is the first one or comes later, and the key is in one place only.
      rcases List.mem_cons.mp hp with rfl | hin
      · have hnone : rest.filter (fun q => q.1 == p.1) = [] := by
          refine List.filter_eq_nil_iff.mpr (fun q hq hkey => h.1 ?_)
          exact eq_of_beq hkey ▸ List.mem_map_of_mem hq
        rw [List.filter_cons, if_pos BEq.rfl, hnone]
      · have hkey : (q.1 == p.1) = false :=
          beq_eq_false_iff_ne.mpr (fun heq => h.1 (heq ▸ List.mem_map_of_mem hin))
        rw [List.filter_cons, hkey, if_neg Bool.false_ne_true, ih h.2 hin]

/-- Among keys with their values, a key has the value that was computed for it. -/
theorem lookup_filterMap {κ : Type w} [BEq κ] [LawfulBEq κ] (keys : List κ) (f : κ → Option β)
    (key : κ) :
    (keys.filterMap (fun k => (f k).map (fun b => (k, b)))).lookup key
      = if keys.contains key then f key else none := by
  induction keys with
  | nil => rfl
  | cons k rest ih =>
      by_cases hk : k = key
      · subst hk
        rw [List.contains_cons, BEq.rfl, Bool.true_or, if_pos rfl]
        cases hf : f k with
        | none =>
            -- A key without a value has none later on either.
            rw [List.filterMap_cons_none (by rw [hf]; rfl), ih, hf, ite_self]
        | some b => rw [List.filterMap_cons_some (by rw [hf]; rfl), List.lookup_cons, BEq.rfl]
      · have hne : (key == k) = false := beq_eq_false_iff_ne.mpr (Ne.symm hk)
        rw [List.contains_cons, hne, Bool.false_or, ← ih]
        cases hf : f k with
        | none => rw [List.filterMap_cons_none (by rw [hf]; rfl)]
        | some b => rw [List.filterMap_cons_some (by rw [hf]; rfl), List.lookup_cons, hne]

/-- Two parts of a list that do not overlap are together the part that lies in either. -/
theorem filter_append_filter_perm {p q : α → Bool} (l : List α)
    (h : ∀ a ∈ l, p a = true → q a = false) :
    (l.filter p ++ l.filter q).Perm (l.filter (fun a => p a || q a)) := by
  have hp : (l.filter (fun a => p a || q a)).filter p = l.filter p := by
    rw [List.filter_filter]
    refine List.filter_congr (fun a _ => ?_)
    cases p a <;> rfl
  -- What lies in either part and not in the first lies in the second.
  have hq : (l.filter (fun a => p a || q a)).filter (fun a => !p a) = l.filter q := by
    rw [List.filter_filter]
    refine List.filter_congr (fun a ha => ?_)
    cases hpa : p a with
    | false => rw [Bool.not_false, Bool.true_and, Bool.false_or]
    | true => rw [h a ha hpa, Bool.not_true, Bool.false_and]
  rw [← hp, ← hq]
  exact List.filter_append_perm p _

/-- Going through a list once for each of several different keys meets the elements of
    these keys, each once, if no element belongs to two of them. -/
theorem flatMap_filter_perm_of_exclusive {κ : Type w} {keys : List κ} (h : keys.Nodup)
    (l : List α) (p : κ → α → Bool)
    (hp : ∀ a ∈ l, ∀ k k', p k a = true → p k' a = true → k = k') :
    (keys.flatMap (fun k => l.filter (p k))).Perm (l.filter (fun a => keys.any (p · a))) := by
  induction keys with
  | nil => simp only [List.flatMap_nil, List.any_nil, List.filter_false, List.Perm.refl]
  | cons k rest ih =>
      rcases List.nodup_cons.mp h with ⟨hnot, hrest⟩
      rw [List.flatMap_cons]
      refine ((ih hrest).append_left _).trans ?_
      -- No element of the first key belongs to one of the others.
      refine filter_append_filter_perm l (fun a ha hk => ?_)
      rw [List.any_eq_false]
      intro k' hk' hother
      exact hnot (hp a ha k k' hk hother ▸ hk')

/-- For a key that is computed from the element these are the elements whose key is among
    them. -/
theorem flatMap_filter_perm {κ : Type w} [DecidableEq κ] {keys : List κ} (h : keys.Nodup)
    (l : List α) (f : α → κ) :
    (keys.flatMap (fun k => l.filter (fun a => f a = k))).Perm
      (l.filter (fun a => f a ∈ keys)) := by
  refine (flatMap_filter_perm_of_exclusive h l (fun k a => f a = k) (fun a _ k k' hk hk' =>
    (of_decide_eq_true hk).symm.trans (of_decide_eq_true hk'))).trans (.of_eq ?_)
  refine List.filter_congr (fun a _ => ?_)
  rw [Bool.eq_iff_iff, List.any_eq_true, decide_eq_true_eq]
  simp only [decide_eq_true_eq, exists_eq_right']

theorem filter_flatMap_of_forall {p : β → Bool} {q : α → Bool} {g : α → List β} {l : List α}
    (h : ∀ a ∈ l, ∀ b ∈ g a, p b = q a) : (l.flatMap g).filter p = (l.filter q).flatMap g := by
  induction l with
  | nil => rfl
  | cons a rest ih =>
      rcases List.forall_mem_cons.mp h with ⟨ha, hrest⟩
      rw [List.flatMap_cons, List.filter_append, ih hrest, List.filter_cons]
      cases hq : q a with
      | true =>
          rw [if_pos rfl, List.flatMap_cons, List.filter_eq_self.mpr (fun b hb => ?_)]
          rw [ha b hb, hq]
      | false =>
          -- Nothing that comes of the element passes.
          have hnone : (g a).filter p = [] := by
            refine List.filter_eq_nil_iff.mpr (fun b hb => ?_)
            rw [ha b hb, hq]
            exact Bool.false_ne_true
          rw [hnone, List.nil_append, if_neg Bool.false_ne_true]

theorem toList_inj {a b : Option α} (h : a.toList = b.toList) : a = b := by
  have hhead := congrArg List.head? h
  cases a <;> cases b <;> simp only [Option.toList_none, Option.toList_some, List.head?_nil,
    List.head?_cons, reduceCtorEq] at hhead ⊢
  exact hhead

/-- Two optional elements one after the other can be told apart if they are of different
    kinds. -/
theorem toList_append_inj {a a' b b' : Option α} (h : ∀ x ∈ a, ∀ y ∈ b', x ≠ y)
    (h' : ∀ x ∈ a', ∀ y ∈ b, x ≠ y) (heq : a.toList ++ b.toList = a'.toList ++ b'.toList) :
    a = a' ∧ b = b' := by
  -- If only one of the first parts is there, it is equal to a second part, which is ruled out.
  cases a with
  | none =>
      cases a' with
      | none => exact ⟨rfl, toList_inj heq⟩
      | some x =>
          cases b with
          | none => exact absurd heq.symm (List.cons_ne_nil _ _)
          | some y => exact absurd (List.cons.inj heq).1.symm (h' x rfl y rfl)
  | some x =>
      cases a' with
      | none =>
          cases b' with
          | none => exact absurd heq (List.cons_ne_nil _ _)
          | some y => exact absurd (List.cons.inj heq).1 (h x rfl y rfl)
      | some x' =>
          rcases List.cons.inj heq with ⟨rfl, hrest⟩
          exact ⟨rfl, toList_inj hrest⟩

end Lists

namespace Options

variable {α β γ : Type} {a : Option α} {b : Option β}

/-- Optional values with the same image are both missing or have the same image. -/
theorem none_or_some_of_map {f : α → γ} {g : β → γ} (h : a.map f = b.map g) :
    (a = none ∧ b = none) ∨ ∃ x y, a = some x ∧ b = some y ∧ f x = g y := by
  cases a with
  | none => exact Or.inl ⟨rfl, Option.map_eq_none_iff.mp h.symm⟩
  | some x =>
      rcases Option.map_eq_some_iff.mp h.symm with ⟨y, rfl, hy⟩
      exact Or.inr ⟨x, y, rfl, rfl, hy.symm⟩

theorem none_or_some (h : a.isSome = b.isSome) :
    (a = none ∧ b = none) ∨ ∃ x y, a = some x ∧ b = some y := by
  cases a with
  | none => exact Or.inl ⟨rfl, Option.isNone_iff_eq_none.mp (Option.isSome_eq_false_iff.mp h.symm)⟩
  | some x =>
      rcases Option.isSome_iff_exists.mp h.symm with ⟨y, rfl⟩
      exact Or.inr ⟨x, y, rfl, rfl⟩

end Options

end SchoolAtlas
