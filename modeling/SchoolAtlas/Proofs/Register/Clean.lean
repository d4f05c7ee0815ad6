import SchoolAtlas.Proofs.Text.LowerCase
import SchoolAtlas.Register.Clean

/-!
# What Cleaning Leaves

Cleaned texts have no letters with a cedilla, and cleaned languages are not in the long form.

The order of the steps matters. Letters are replaced first, then the word for language is cut off,
and then what is left is put in lower case. Neither of the later steps may bring back what an
earlier one took away. Cutting only takes characters away. Lower case puts other characters in
their place, and here the table of capitals has the last word: it makes a letter with a cedilla only
from another one, and it never makes a capital, so that the word for language does not come back
from a language that is called after it twice.

## Main definitions

* `Clean.Spelled`: A text is spelled without cedillas.
* `Clean.LongForm`: A language is in the long form.

## Theorems

* `Clean.language_cases`: What becomes of a language.
* `Clean.spelled_diacritics`, `Clean.spelled_language`: Cleaning leaves no cedillas.
* `Clean.not_longForm_language`: Cleaning leaves no long forms.
* `Clean.language_ne_empty`: Cleaning leaves something of a language.
-/

namespace SchoolAtlas

namespace Clean

/-- The letters with a cedilla. -/
def cedillas : List Char := ['ş', 'Ş', 'ţ', 'Ţ']

/-- A text is spelled without cedillas. -/
def Spelled (s : String) : Prop := ∀ c ∈ s.toList, c ∉ cedillas

instance (s : String) : Decidable (Spelled s) := List.decidableBAll (· ∉ cedillas) s.toList

/-- A language is in the long form. -/
def LongForm (s : String) : Prop := languageWord <+: s.toList

instance (s : String) : Decidable (LongForm s) :=
  inferInstanceAs (Decidable (languageWord <+: s.toList))

theorem letter_not_mem_cedillas (c : Char) : letter c ∉ cedillas := by
  rw [letter]
  split_ifs with hs hS ht hT
  · decide
  · decide
  · decide
  · decide
  · simp only [cedillas, List.mem_cons, List.not_mem_nil, or_false, not_or]
    exact ⟨hs, hS, ht, hT⟩

theorem eq_of_letter_eq_space {c : Char} (h : letter c = ' ') : c = ' ' := by
  rw [letter] at h
  split_ifs at h
  all_goals first | exact h | exact absurd h (by decide)

theorem toList_diacritics (s : String) : (diacritics s).toList = s.toList.map letter := by
  rw [diacritics, String.toList_map]

theorem spelled_diacritics (s : String) : Spelled (diacritics s) := by
  intro c hc
  rw [toList_diacritics] at hc
  rcases List.mem_map.mp hc with ⟨original, _, rfl⟩
  exact letter_not_mem_cedillas original

theorem diacritics_ne_empty {s : String} (h : s ≠ "") : diacritics s ≠ "" := by
  intro hempty
  have hlist := congrArg String.toList hempty
  rw [toList_diacritics] at hlist
  exact h (String.toList_eq_nil_iff.mp (List.map_eq_nil_iff.mp hlist))

theorem after?_eq_some_iff {start text rest : List Char} :
    after? start text = some rest ↔ text = start ++ rest := by
  induction start generalizing text with
  | nil => rw [after?, Option.some.injEq, List.nil_append]
  | cons c start ih =>
      cases text with
      | nil => simp only [after?, reduceCtorEq, List.cons_append]
      | cons d text =>
          rw [after?, List.cons_append, List.cons.injEq]
          by_cases hcd : c = d
          · rw [if_pos hcd, ih, and_iff_right hcd.symm]
          · rw [if_neg hcd]
            simp only [reduceCtorEq, false_iff, not_and]
            exact fun hdc => absurd hdc.symm hcd

/-- A language in the long form is cut down to what follows the word and put in lower case, and
    any other is left as it is spelled. -/
theorem language_cases (s : String) :
    (∃ name, (diacritics s).toList = languageWord ++ name ∧
        language s = Text.lowerCase (String.ofList name)) ∨
      ¬LongForm (diacritics s) ∧ language s = diacritics s := by
  cases hafter : after? languageWord (diacritics s).toList with
  | some name =>
      refine Or.inl ⟨name, after?_eq_some_iff.mp hafter, ?_⟩
      simp only [language, hafter]
  | none =>
      refine Or.inr ⟨?_, by simp only [language, hafter]⟩
      rintro ⟨rest, hrest⟩
      rw [after?_eq_some_iff.mpr hrest.symm] at hafter
      exact absurd hafter (Option.some_ne_none _)

/-- Only capitals with a cedilla have small letters with one. -/
theorem mem_cedillas_of_smallLetter {c : Char} (h : Text.smallLetter c ∈ cedillas) :
    c ∈ cedillas := by
  have hcapitals : cedillas.all (fun small => small.toNat ≠ 0 ∧
      (Text.capitalsOf small).all (cedillas.contains ·)) = true := by decide +kernel
  have hsmall := of_decide_eq_true (List.all_eq_true.mp hcapitals _ h)
  rcases Text.mem_capitalsOf rfl hsmall.1 with hsame | hcapital
  · exact hsame ▸ h
  · exact List.contains_iff_mem.mp (List.all_eq_true.mp hsmall.2 c hcapital)

theorem spelled_lowerCase {s : String} (h : Spelled s) : Spelled (Text.lowerCase s) := by
  intro d hd hcedilla
  have hspecial : Text.specialForms.all (!cedillas.contains ·) = true := by decide
  rcases Text.exists_of_mem_lowerCase hd with hform | ⟨c, hc, rfl⟩
  · have hnot := List.all_eq_true.mp hspecial d hform
    rw [List.contains_iff_mem.mpr hcedilla] at hnot
    exact absurd hnot Bool.false_ne_true
  · exact h c hc (mem_cedillas_of_smallLetter hcedilla)

/-- No small letter is the capital that the word for language begins with. -/
theorem smallLetter_ne_L (c : Char) : Text.smallLetter c ≠ 'L' := by
  intro h
  have hnone : Text.capitalsOf 'L' = [] := by decide +kernel
  have hL : Text.smallLetter 'L' ≠ 'L' := by decide +kernel
  rcases Text.mem_capitalsOf h (by decide) with rfl | hcapital
  · exact hL h
  · rw [hnone] at hcapital
    exact absurd hcapital List.not_mem_nil

theorem not_mem_lowerCase_L (s : String) : 'L' ∉ (Text.lowerCase s).toList := by
  intro hL
  rcases Text.exists_of_mem_lowerCase hL with hform | ⟨c, _, hc⟩
  · exact absurd hform (by decide)
  · exact smallLetter_ne_L c hc.symm

theorem not_longForm_lowerCase (s : String) : ¬LongForm (Text.lowerCase s) := by
  rintro ⟨rest, hrest⟩
  refine not_mem_lowerCase_L s ?_
  rw [← hrest]
  exact List.mem_append_left _ (by decide)

theorem spelled_language (s : String) : Spelled (language s) := by
  have hspelled := spelled_diacritics s
  rcases language_cases s with ⟨name, hname, hlanguage⟩ | ⟨_, hlanguage⟩
  · rw [hlanguage]
    refine spelled_lowerCase (fun c hc => hspelled c ?_)
    rw [String.toList_ofList] at hc
    rw [hname]
    exact List.mem_append_right _ hc
  · rw [hlanguage]
    exact hspelled

theorem not_longForm_language (s : String) : ¬LongForm (language s) := by
  rcases language_cases s with ⟨name, _, hlanguage⟩ | ⟨hshort, hlanguage⟩
  · rw [hlanguage]
    exact not_longForm_lowerCase _
  · rw [hlanguage]
    exact hshort

example : language "Limba Limba Maghiară" = "limba maghiară" := by decide +kernel

/-- A language that does not end with white space is more than the word for language. -/
theorem language_ne_empty {s : String} (h : s ≠ "") (hend : ¬Text.EndsBlank s) :
    language s ≠ "" := by
  rcases language_cases s with ⟨name, hname, hlanguage⟩ | ⟨_, hlanguage⟩
  · rw [hlanguage]
    refine Text.lowerCase_ne_empty (fun hempty => hend ?_)
    have hnil : name = [] := by
      rw [← String.toList_ofList (l := name), hempty]
      rfl
    -- The word alone ends with a space, and a space is not the replacement of any letter.
    have hlast : (s.toList.getLast?).map letter = some ' ' := by
      rw [← List.getLast?_map, ← toList_diacritics, hname, hnil]
      rfl
    rcases Option.map_eq_some_iff.mp hlast with ⟨c, hc, hletter⟩
    exact ⟨c, hc, eq_of_letter_eq_space hletter ▸ rfl⟩
  · rw [hlanguage]
    exact diacritics_ne_empty h

end Clean

end SchoolAtlas
