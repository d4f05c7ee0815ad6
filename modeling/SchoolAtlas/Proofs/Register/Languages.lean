import SchoolAtlas.Proofs.Register.Clean

/-!
# Stored Languages

What is stored for a language, and what is stored for that in turn.

A field is trimmed before it is cleaned, and this is where cleaning falls short of a normal form.
The word for language is cut off together with the one blank that belongs to it. If there are more
blanks after the word, they come to stand at the beginning of what is stored, and nothing trims it
again. Read back as a field it is trimmed, and so it is not what was stored.

This is all that can go wrong. What is stored has no letter left that would be replaced and no word
that would be cut off, and trimming does not bring such a word to the front
(`not_longForm_trim_language`): either the text was put in lower case, and then the word is not in
it, or it was not, and then there is nothing to trim. So a stored language is read back as itself
without blanks at its ends, and as itself exactly if it was not written with more blanks than one.
The second reading finds nothing to do.

## Main definitions

* `Clean.storedText?`: What is stored for a field that may be empty.
* `Clean.storedLanguage?`: What is stored for a field that is a language.
* `Clean.WideForm`: The long form with more than one blank after its word.

## Theorems

* `Clean.language_eq_self`: When cleaning leaves a language as it is.
* `Clean.startsBlank_language_iff`: When what is stored begins with a blank.
* `Clean.storedLanguage?_of_stored`: What is stored for a language that was stored.
* `Clean.storedLanguage?_eq_self_iff`: When it is the same.
-/

namespace SchoolAtlas

namespace Clean

open Text (isBlank trim StartsBlank EndsBlank)

variable {s x y : String}

/-- What is stored for a field that may be empty. -/
def storedText? (field : String) : Option String :=
  if (trim field).isEmpty then none else some (trim field)

/-- What is stored for a field that is a language. An empty one is none. -/
def storedLanguage? (field : String) : Option String := (storedText? field).map language

/-- A language is in the long form with more than one blank after the word. -/
def WideForm (s : String) : Prop :=
  ∃ c rest, s.toList = languageWord ++ c :: rest ∧ isBlank c = true

theorem storedText?_eq_some_iff : storedText? x = some y ↔ trim x ≠ "" ∧ y = trim x := by
  rw [storedText?]
  split
  · next hempty =>
    simp only [String.isEmpty_iff.mp hempty, reduceCtorEq, ne_eq, not_true_eq_false, false_and]
  · next hempty =>
    rw [Option.some.injEq, eq_comm, ne_eq, ← String.isEmpty_iff, and_iff_right hempty]

theorem storedLanguage?_eq_some_iff :
    storedLanguage? x = some y ↔ trim x ≠ "" ∧ y = language (trim x) := by
  rw [storedLanguage?, Option.map_eq_some_iff]
  constructor
  · rintro ⟨text, htext, rfl⟩
    rcases storedText?_eq_some_iff.mp htext with ⟨hne, rfl⟩
    exact ⟨hne, rfl⟩
  · rintro ⟨hne, rfl⟩
    exact ⟨_, storedText?_eq_some_iff.mpr ⟨hne, rfl⟩, rfl⟩

theorem isBlank_letter (c : Char) : isBlank (letter c) = isBlank c := by
  rw [letter]
  split_ifs with hs hS ht hT
  · rw [hs]; decide
  · rw [hS]; decide
  · rw [ht]; decide
  · rw [hT]; decide
  · rfl

theorem startsBlank_diacritics_iff (s : String) : StartsBlank (diacritics s) ↔ StartsBlank s := by
  rw [StartsBlank, StartsBlank, toList_diacritics, List.head?_map]
  simp only [Option.mem_def, Option.map_eq_some_iff, exists_exists_and_eq_and, isBlank_letter]

theorem endsBlank_diacritics_iff (s : String) : EndsBlank (diacritics s) ↔ EndsBlank s := by
  rw [EndsBlank, EndsBlank, toList_diacritics, List.getLast?_map]
  simp only [Option.mem_def, Option.map_eq_some_iff, exists_exists_and_eq_and, isBlank_letter]

/-- Replacing letters leaves nothing to trim. -/
theorem trim_diacritics (h : trim s = s) : trim (diacritics s) = diacritics s := by
  rw [Text.trim_eq_self_iff, startsBlank_diacritics_iff, endsBlank_diacritics_iff]
  exact Text.trim_eq_self_iff.mp h

/-- Only letters with a cedilla are replaced, and they are replaced by others. -/
theorem letter_eq_self_or (c : Char) : letter c = c ∨ letter c ∈ ['ș', 'Ș', 'ț', 'Ț'] := by
  rw [letter]
  split_ifs
  · exact Or.inr (by decide)
  · exact Or.inr (by decide)
  · exact Or.inr (by decide)
  · exact Or.inr (by decide)
  · exact Or.inl rfl

theorem map_letter_eq_self {cs : List Char} (h : ∀ c ∈ cs, letter c = c) : cs.map letter = cs :=
  (List.map_congr_left h).trans (List.map_id cs)

theorem diacritics_eq_self (h : Spelled s) : diacritics s = s := by
  rw [← String.toList_inj, toList_diacritics]
  refine map_letter_eq_self (fun c hc => ?_)
  have hnot := h c hc
  simp only [cedillas, List.mem_cons, List.not_mem_nil, or_false, not_or] at hnot
  rw [letter, if_neg hnot.1, if_neg hnot.2.1, if_neg hnot.2.2.1, if_neg hnot.2.2.2]

/-- A language without cedillas that is not in the long form is clean. -/
theorem language_eq_self (h : Spelled s) (hshort : ¬LongForm s) : language s = s := by
  rcases language_cases s with ⟨name, hname, _⟩ | ⟨_, hlanguage⟩
  · rw [diacritics_eq_self h] at hname
    exact absurd ⟨name, hname.symm⟩ hshort
  · rw [hlanguage, diacritics_eq_self h]

/-- Replacing letters neither makes the word for language nor unmakes it. -/
theorem toList_diacritics_eq_iff {name : List Char} :
    (diacritics s).toList = languageWord ++ name ↔
      ∃ rest, s.toList = languageWord ++ rest ∧ name = rest.map letter := by
  have hword : languageWord.all (fun c => c ∉ ['ș', 'Ș', 'ț', 'Ț']) = true := by decide
  rw [toList_diacritics]
  constructor
  · intro h
    rcases List.map_eq_append_iff.mp h with ⟨word, rest, hs, hmap, hrest⟩
    -- No letter of the word stands for one with a cedilla.
    have hsame : ∀ c ∈ word, letter c = c := by
      intro c hc
      have hnot := List.all_eq_true.mp hword (letter c) (hmap ▸ List.mem_map_of_mem hc)
      exact (letter_eq_self_or c).resolve_right (of_decide_eq_true hnot)
    rw [map_letter_eq_self hsame] at hmap
    exact ⟨rest, hmap ▸ hs, hrest.symm⟩
  · rintro ⟨rest, hs, rfl⟩
    rw [hs, List.map_append]
    rfl

/-- What is stored begins with a blank exactly if more than one stood after the word that was cut
    off. -/
theorem startsBlank_language_iff (h : trim s = s) : StartsBlank (language s) ↔ WideForm s := by
  rcases language_cases s with ⟨name, hname, hlanguage⟩ | ⟨hshort, hlanguage⟩
  · rcases toList_diacritics_eq_iff.mp hname with ⟨rest, hs, rfl⟩
    rw [hlanguage, Text.startsBlank_lowerCase_iff, StartsBlank, String.toList_ofList, WideForm, hs]
    -- The word takes one blank with it, so a second one is left at the front.
    cases rest with
    | nil => simp
    | cons c rest =>
        simp [isBlank_letter]
  · have hstart := (Text.trim_eq_self_iff.mp h).1
    rw [hlanguage, startsBlank_diacritics_iff]
    refine ⟨fun hblank => absurd hblank hstart, ?_⟩
    rintro ⟨c, rest, hs, _⟩
    exact absurd ⟨_, (toList_diacritics_eq_iff.mpr ⟨_, hs, rfl⟩).symm⟩ hshort

theorem not_endsBlank_language (h : trim s = s) : ¬EndsBlank (language s) := by
  have hend : ¬EndsBlank (diacritics s) :=
    fun hblank => (Text.trim_eq_self_iff.mp h).2 ((endsBlank_diacritics_iff s).mp hblank)
  rcases language_cases s with ⟨name, hname, hlanguage⟩ | ⟨_, hlanguage⟩
  · rw [hlanguage]
    intro hblank
    -- A blank at the end would have been there before the word was taken off.
    rcases Text.endsBlank_of_lowerCase hblank with ⟨c, hlast, hc⟩
    rw [String.toList_ofList] at hlast
    refine hend ⟨c, ?_, hc⟩
    rw [hname]
    exact List.mem_getLast?_append_of_mem_getLast? hlast
  · rw [hlanguage]
    exact hend

/-- What is stored is what is left of it by trimming exactly if the field was not in the long form
    with more than one blank. -/
theorem trim_language_eq_self_iff (h : trim s = s) :
    trim (language s) = language s ↔ ¬WideForm s := by
  rw [Text.trim_eq_self_iff, startsBlank_language_iff h, and_iff_left (not_endsBlank_language h)]

/-- Trimming what is stored does not bring the word for language to the front. -/
theorem not_longForm_trim_language (h : trim s = s) : ¬LongForm (trim (language s)) := by
  rcases language_cases s with ⟨name, _, hlanguage⟩ | ⟨hshort, hlanguage⟩
  · -- What is in lower case has no capital, and least of all this one.
    rw [hlanguage]
    rintro ⟨rest, hrest⟩
    refine not_mem_lowerCase_L (String.ofList name) (Text.mem_trim ?_)
    rw [← hrest]
    exact List.mem_append_left _ (by decide)
  · rw [hlanguage, trim_diacritics h]
    exact hshort

/-- What is stored for a language that was stored is what is left of it by trimming. -/
theorem storedLanguage?_of_stored (h : storedLanguage? x = some y) :
    storedLanguage? y = some (trim y) := by
  rcases storedLanguage?_eq_some_iff.mp h with ⟨hne, rfl⟩
  have htrim := Text.trim_trim x
  refine storedLanguage?_eq_some_iff.mpr ⟨?_, (language_eq_self (fun c hc => ?_) ?_).symm⟩
  · exact Text.trim_ne_empty
      (language_ne_empty hne (Text.not_endsBlank_trim x)) (not_endsBlank_language htrim)
  · exact spelled_language _ c (Text.mem_trim hc)
  · exact not_longForm_trim_language htrim

/-- What was stored for a field, and is written as one, is stored again without blanks at its
    ends. -/
theorem storedLanguage?_getD (x : String) :
    storedLanguage? ((storedLanguage? x).getD "") = (storedLanguage? x).map trim := by
  cases h : storedLanguage? x with
  | none => rfl
  | some y => exact storedLanguage?_of_stored h

/-- A stored language is read back as it is exactly if it was not written with more than one blank
    after the word. -/
theorem storedLanguage?_eq_self_iff (h : storedLanguage? x = some y) :
    storedLanguage? y = some y ↔ ¬WideForm (trim x) := by
  rw [storedLanguage?_of_stored h, Option.some.injEq]
  rcases storedLanguage?_eq_some_iff.mp h with ⟨_, rfl⟩
  exact trim_language_eq_self_iff (Text.trim_trim x)

end Clean

end SchoolAtlas
