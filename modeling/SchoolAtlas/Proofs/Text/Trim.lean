import Mathlib.Data.List.DropRight
import SchoolAtlas.Text.Blank

/-!
# What Trimming Leaves

A text without white space at its ends, and when trimming has nothing to do.

Trimming takes blanks off one end and then off the other. What is left neither begins nor ends with
a blank, and a text that does neither is left as it is. So trimming twice is trimming once. It takes
everything away only if there is nothing but blanks.

## Main definitions

* `Text.StartsBlank`, `Text.EndsBlank`: A text begins or ends with white space.

## Theorems

* `Text.trim_eq_self_iff`: When trimming leaves a text as it is.
* `Text.trim_trim`: Trimming twice is trimming once.
* `Text.mem_trim`: Trimming only takes characters away.
* `Text.trim_ne_empty`: A text that ends with something keeps it.
-/

namespace SchoolAtlas

namespace Text

variable {s : String}

/-- A text begins with white space. -/
def StartsBlank (s : String) : Prop := ∃ c ∈ s.toList.head?, isBlank c = true

/-- A text ends with white space. -/
def EndsBlank (s : String) : Prop := ∃ c ∈ s.toList.getLast?, isBlank c = true

instance (s : String) : Decidable (StartsBlank s) :=
  decidable_of_iff (s.toList.head?.any isBlank = true)
    (Option.any_eq_true isBlank s.toList.head?)

theorem toList_trim (s : String) :
    (trim s).toList = (s.toList.dropWhile isBlank).rdropWhile isBlank := by
  rw [trim, String.toList_ofList]
  rfl

theorem not_endsBlank_trim (s : String) : ¬EndsBlank (trim s) := by
  rintro ⟨c, hlast, hblank⟩
  rw [trim, String.toList_ofList, trimChars, List.getLast?_reverse] at hlast
  have hhead := List.head?_dropWhile_not isBlank (s.toList.dropWhile isBlank).reverse
  rw [Option.mem_def.mp hlast] at hhead
  exact Bool.noConfusion (hblank.symm.trans hhead)

theorem not_startsBlank_trim (s : String) : ¬StartsBlank (trim s) := by
  rintro ⟨c, hfirst, hblank⟩
  rw [toList_trim] at hfirst
  -- What is taken off the end leaves the beginning as it is.
  rcases List.rdropWhile_prefix isBlank (s.toList.dropWhile isBlank) with ⟨rest, hrest⟩
  have hhead := List.head?_dropWhile_not isBlank s.toList
  rw [← hrest, List.head?_append, Option.mem_def.mp hfirst] at hhead
  exact Bool.noConfusion (hblank.symm.trans hhead)

/-- Trimming leaves a text as it is exactly if it neither begins nor ends with a blank. -/
theorem trim_eq_self_iff : trim s = s ↔ ¬StartsBlank s ∧ ¬EndsBlank s := by
  constructor
  · intro h
    exact ⟨h ▸ not_startsBlank_trim s, h ▸ not_endsBlank_trim s⟩
  · rintro ⟨hstart, hend⟩
    -- Without a blank at an end, nothing is dropped there.
    have hfirst : s.toList.dropWhile isBlank = s.toList := by
      cases hs : s.toList with
      | nil => rfl
      | cons c rest =>
          refine List.dropWhile_cons_of_neg (fun hblank => hstart ⟨c, ?_, hblank⟩)
          rw [hs, List.head?_cons, Option.mem_some]
    have hlast : s.toList.rdropWhile isBlank = s.toList := by
      refine List.rdropWhile_eq_self_iff.mpr (fun hne hblank => hend ⟨_, ?_, hblank⟩)
      exact List.getLast?_eq_getLast_of_ne_nil hne
    rw [← String.toList_inj, toList_trim, hfirst, hlast]

theorem trim_trim (s : String) : trim (trim s) = trim s :=
  trim_eq_self_iff.mpr ⟨not_startsBlank_trim s, not_endsBlank_trim s⟩

/-- Trimming only takes characters away. -/
theorem mem_trim {c : Char} (h : c ∈ (trim s).toList) : c ∈ s.toList := by
  rw [toList_trim] at h
  exact (List.dropWhile_sublist _).subset ((List.rdropWhile_prefix isBlank _).subset h)

/-- A text that does not end with a blank is not trimmed to nothing. -/
theorem trim_ne_empty (h : s ≠ "") (hend : ¬EndsBlank s) : trim s ≠ "" := by
  intro hempty
  have hall : ∀ c ∈ s.toList, isBlank c = true := by
    have hnil := congrArg String.toList hempty
    rw [toList_trim] at hnil
    have hrest := List.rdropWhile_eq_nil_iff.mp hnil
    -- What is left after the blanks at the beginning would begin with something else.
    have hfirst : s.toList.dropWhile isBlank = [] := by
      by_contra hne
      have hhead := List.head_dropWhile_not isBlank hne
      exact Bool.noConfusion ((hrest _ (List.head_mem hne)).symm.trans hhead)
    exact List.dropWhile_eq_nil_iff.mp hfirst
  have hne : s.toList ≠ [] := fun hnil => h (String.toList_eq_nil_iff.mp hnil)
  exact hend ⟨_, List.getLast?_eq_getLast_of_ne_nil hne, hall _ (List.getLast_mem hne)⟩

end Text

end SchoolAtlas
