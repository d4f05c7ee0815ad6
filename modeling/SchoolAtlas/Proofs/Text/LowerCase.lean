import Mathlib.Data.List.Basic
import SchoolAtlas.Proofs.Text.Trim
import SchoolAtlas.Text.LowerCase

/-!
# Where Small Letters Come From

Reading the table of capital letters backwards.

To know that a text in lower case has no character of some kind one has to know which characters
such a character could be the small form of. Going through all characters is out of the question,
but going through the table is not: in each run there is at most one capital with a given small
letter, and it lies at the distance of the run. `Text.capitalsOf` lists these, so that for one
character the question is decided by looking at its list.

The few small forms that are not in the table are always the same four characters.

White space has no case. It is no small letter and has none, so a text begins or ends with a blank
exactly if its lower-case form does.

## Main definitions

* `Text.capitalsOf`: The capitals with a given small letter.
* `Text.specialForms`: The small forms that are not in the table.
* `Text.blankCodes`: The codes of white space.

## Theorems

* `Text.mem_capitalsOf`: A small letter that is not the character itself.
* `Text.exists_of_mem_lowerCase`: Where the characters of a text in lower case come from.
* `Text.lowerCase_ne_empty`: Nothing gets lost entirely.
* `Text.isBlank_of_mem_smallForm`: White space has no case.
* `Text.startsBlank_lowerCase_iff`, `Text.endsBlank_of_lowerCase`: Blanks at the ends of a text.
-/

namespace SchoolAtlas

namespace Text

/-- The capitals with a given small letter: at most one in each run. -/
def capitalsOf (small : Char) : List Char :=
  capitals.filterMap fun run =>
    let capital := Char.ofNat ((small.toNat : Int) - run.2.2.2).toNat
    if inRun run capital then some capital else none

/-- A code belongs to the character made from it, unless no character has it. -/
theorem toNat_ofNat_eq_or (n : Nat) : (Char.ofNat n).toNat = n ∨ (Char.ofNat n).toNat = 0 := by
  by_cases hvalid : n.isValidChar
  · rw [Char.ofNat, dif_pos hvalid]
    exact Or.inl rfl
  · rw [Char.ofNat, dif_neg hvalid]
    exact Or.inr rfl

/-- A small letter is the character itself or belongs to a capital in the table. The character
    with code zero is left out, since codes that no character has turn into it. -/
theorem mem_capitalsOf {c small : Char} (h : smallLetter c = small) (hzero : small.toNat ≠ 0) :
    c = small ∨ c ∈ capitalsOf small := by
  rw [smallLetter] at h
  split at h
  · next first last step distance hfind =>
    have hcode : small.toNat = (c.toNat + distance).toNat :=
      (toNat_ofNat_eq_or _).elim (fun heq => h ▸ heq) (fun heq => absurd (h ▸ heq) hzero)
    -- The distance of the run leads back from the small letter.
    have hback : Char.ofNat ((small.toNat : Int) - distance).toNat = c := by
      rw [show ((small.toNat : Int) - distance).toNat = c.toNat by omega, Char.ofNat_toNat]
    refine Or.inr (List.mem_filterMap.mpr ⟨_, List.mem_of_find?_eq_some hfind, ?_⟩)
    have hrun := List.find?_some hfind
    simp only [hback, hrun, if_true]
  · exact Or.inl h

/-- The small forms that are not in the table. -/
def specialForms : List Char := ['ς', 'σ', 'i', Char.ofNat 0x307]

theorem mem_smallForm {before after : List Char} {c d : Char} (h : d ∈ smallForm before c after) :
    d ∈ specialForms ∨ d = smallLetter c := by
  rw [smallForm] at h
  split at h
  · refine Or.inl ?_
    rw [List.mem_singleton.mp h, smallSigma]
    split <;> decide
  · split at h
    · refine Or.inl ?_
      rcases List.mem_pair.mp h with rfl | rfl <;> decide
    · exact Or.inr (List.mem_singleton.mp h)

theorem exists_of_mem_smallForms {before cs : List Char} {d : Char}
    (h : d ∈ smallForms before cs) : d ∈ specialForms ∨ ∃ c ∈ cs, d = smallLetter c := by
  induction cs generalizing before with
  | nil => exact absurd h List.not_mem_nil
  | cons c rest ih =>
      rw [smallForms, List.mem_append] at h
      rcases h with hfirst | hrest
      · exact (mem_smallForm hfirst).imp id (fun hd => ⟨c, List.mem_cons_self, hd⟩)
      · exact (ih hrest).imp id (fun ⟨c', hc', hd⟩ => ⟨c', List.mem_cons_of_mem _ hc', hd⟩)

/-- A character of a text in lower case is one of the special forms or the small letter of a
    character of the text. -/
theorem exists_of_mem_lowerCase {s : String} {d : Char} (h : d ∈ (lowerCase s).toList) :
    d ∈ specialForms ∨ ∃ c ∈ s.toList, d = smallLetter c := by
  rw [lowerCase, String.toList_ofList] at h
  exact exists_of_mem_smallForms h

theorem smallForm_ne_nil (before : List Char) (c : Char) (after : List Char) :
    smallForm before c after ≠ [] := by
  rw [smallForm]
  split
  · exact List.cons_ne_nil _ _
  · split <;> exact List.cons_ne_nil _ _

/-- A text that is not empty has a lower-case form that is not empty either. -/
theorem lowerCase_ne_empty {s : String} (h : s ≠ "") : lowerCase s ≠ "" := by
  intro hempty
  have hlist : smallForms [] s.toList = [] := by
    rw [← String.toList_ofList (l := smallForms [] s.toList)]
    exact congrArg String.toList hempty
  cases hs : s.toList with
  | nil => exact h (String.toList_eq_nil_iff.mp hs)
  | cons c rest =>
      rw [hs, smallForms, List.append_eq_nil_iff] at hlist
      exact smallForm_ne_nil _ _ _ hlist.1

/-- The codes of white space. -/
def blankCodes : List Nat :=
  [0x9, 0xA, 0xB, 0xC, 0xD, 0x20, 0x85, 0xA0, 0x1680, 0x2000, 0x2001, 0x2002, 0x2003, 0x2004,
    0x2005, 0x2006, 0x2007, 0x2008, 0x2009, 0x200A, 0x2028, 0x2029, 0x202F, 0x205F, 0x3000]

theorem mem_blankCodes {c : Char} (h : isBlank c = true) : c.toNat ∈ blankCodes := by
  simp only [isBlank, Bool.or_eq_true, Bool.and_eq_true, decide_eq_true_eq] at h
  simp only [blankCodes, List.mem_cons, List.not_mem_nil, or_false]
  omega

/-- White space is no small letter and has none. -/
theorem isBlank_smallLetter (c : Char) : isBlank (smallLetter c) = isBlank c := by
  -- A blank has no capitals and is no capital, which is checked for each of them.
  have hblanks : blankCodes.all (fun code => smallLetter (Char.ofNat code) = Char.ofNat code ∧
      (Char.ofNat code).toNat ≠ 0 ∧ capitalsOf (Char.ofNat code) = []) = true := by decide +kernel
  have hblank : ∀ d, isBlank d = true →
      smallLetter d = d ∧ d.toNat ≠ 0 ∧ capitalsOf d = [] := by
    intro d hd
    have hcode := of_decide_eq_true (List.all_eq_true.mp hblanks _ (mem_blankCodes hd))
    rwa [Char.ofNat_toNat] at hcode
  rw [Bool.eq_iff_iff]
  constructor
  · intro hsmall
    rcases hblank _ hsmall with ⟨_, hzero, hnone⟩
    rcases mem_capitalsOf rfl hzero with hsame | hcapital
    · exact hsame ▸ hsmall
    · rw [hnone] at hcapital
      exact absurd hcapital List.not_mem_nil
  · exact fun hc => (hblank c hc).1.symm ▸ hc

/-- White space has no case. -/
theorem isBlank_of_mem_smallForm {before after : List Char} {c d : Char}
    (h : d ∈ smallForm before c after) : isBlank d = isBlank c := by
  rw [smallForm] at h
  split at h
  · next hsigma =>
    rw [List.mem_singleton.mp h, smallSigma, hsigma]
    split <;> decide
  · split at h
    · next hdotted =>
      rcases List.mem_pair.mp h with rfl | rfl <;> rw [hdotted] <;> decide
    · rw [List.mem_singleton.mp h, isBlank_smallLetter]

theorem head?_smallForms (before : List Char) (c : Char) (rest : List Char) :
    (smallForms before (c :: rest)).head? = (smallForm before c rest).head? := by
  rw [smallForms, List.head?_append_of_ne_nil _ (smallForm_ne_nil _ _ _)]

/-- The last character in lower case comes from the last character. -/
theorem isBlank_of_mem_getLast?_smallForms {before cs : List Char} {d : Char}
    (h : d ∈ (smallForms before cs).getLast?) : ∃ c ∈ cs.getLast?, isBlank d = isBlank c := by
  induction cs generalizing before with
  | nil => exact absurd h (by simp only [smallForms, List.getLast?_nil, Option.not_mem_none,
      not_false_eq_true])
  | cons c rest ih =>
      -- The last character comes from the last letter, since every letter has a small form.
      cases rest with
      | nil =>
          rw [smallForms, smallForms, List.append_nil] at h
          exact ⟨c, rfl, isBlank_of_mem_smallForm (List.mem_of_mem_getLast? h)⟩
      | cons next rest =>
          have hne : smallForms (c :: before) (next :: rest) ≠ [] := by
            rw [smallForms]
            exact List.append_ne_nil_of_left_ne_nil (smallForm_ne_nil _ _ _) _
          rw [smallForms, List.getLast?_append_of_ne_nil _ hne] at h
          rw [List.getLast?_cons_cons]
          exact ih h

theorem startsBlank_lowerCase_iff (s : String) : StartsBlank (lowerCase s) ↔ StartsBlank s := by
  rw [StartsBlank, StartsBlank, lowerCase, String.toList_ofList]
  cases s.toList with
  | nil => rfl
  | cons c rest =>
      rw [head?_smallForms]
      -- A small form may have several characters, which are blank if the letter is.
      cases hform : smallForm [] c rest with
      | nil => exact absurd hform (smallForm_ne_nil _ _ _)
      | cons d more =>
          have hd : isBlank d = isBlank c :=
            isBlank_of_mem_smallForm (hform ▸ List.mem_cons_self)
          simp only [List.head?_cons, Option.mem_def, Option.some.injEq, exists_eq_left', hd]

theorem endsBlank_of_lowerCase {s : String} (h : EndsBlank (lowerCase s)) : EndsBlank s := by
  rcases h with ⟨d, hlast, hblank⟩
  rw [lowerCase, String.toList_ofList] at hlast
  rcases isBlank_of_mem_getLast?_smallForms hlast with ⟨c, hc, hsame⟩
  exact ⟨c, hc, hsame ▸ hblank⟩

end Text

end SchoolAtlas
