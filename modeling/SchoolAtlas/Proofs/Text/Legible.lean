import Mathlib.Data.List.Basic

/-!
# Reading Texts Back

When what was written can be read off the front of a text.

Texts are put together by writing one thing after another, and nothing marks where one thing
ends and the next begins. Whether the parts can still be told apart depends on what is
written. `Legible` says that they can: if a text begins with one thing and with another, the
two are the same as far as one wants to know, and so is what follows. It is stated with
whatever follows, because only then does it say something about a part in the middle.

Fixed words are legible if none of them begins another, which is a matter of looking at them
(`legible_of_apart`). What is written after a word that is the same in both texts is read by
leaving the word out. A list is written with a separator in front of each of its members, and
it is legible if its members are and if what follows the list does not look like one more
(`Legible.following`).

## Main definitions

* `Text.apart`: Two texts of which neither begins the other.
* `Text.Legible`: What is written can be read off the front of a text.
* `Text.following`: Texts with a separator in front of each.
* `Text.Opens`: A text begins with one of several marks.

## Theorems

* `Text.append_ne_append`: Texts that begin apart are different.
* `Text.legible_of_starts`, `Text.legible_of_apart`: Words that are apart can be read.
* `Text.Legible.following`: Lists can be read.
-/

namespace SchoolAtlas

namespace Text

/-- Neither of two texts begins with the other. -/
def apart (s t : String) : Bool :=
  !s.toList.isPrefixOf t.toList && !t.toList.isPrefixOf s.toList

/-- Texts that begin apart are different, however they go on. -/
theorem append_ne_append {s t : String} (h : apart s t = true) (rest rest' : String) :
    s ++ rest ≠ t ++ rest' := by
  intro heq
  rw [apart, Bool.and_eq_true, Bool.not_eq_true', Bool.not_eq_true'] at h
  have hlists : s.toList ++ rest.toList = t.toList ++ rest'.toList := by
    rw [← String.toList_append, heq, String.toList_append]
  -- The shorter one of two beginnings of a text begins the longer one.
  rcases List.append_eq_append_iff.mp hlists with ⟨more, ht, _⟩ | ⟨more, hs, _⟩
  · have hbegins : s.toList.isPrefixOf t.toList = true :=
      List.isPrefixOf_iff_prefix.mpr ⟨more, ht.symm⟩
    rw [hbegins] at h
    exact Bool.noConfusion h.1
  · have hbegins : t.toList.isPrefixOf s.toList = true :=
      List.isPrefixOf_iff_prefix.mpr ⟨more, hs.symm⟩
    rw [hbegins] at h
    exact Bool.noConfusion h.2

/-- What is written can be read off the front of a text, as far as it is to be seen: things of
    one kind that begin a text look the same, and the same follows them. -/
def Legible {α : Type u} {β : Type v} (kind : α → Prop) (write : α → String) (seen : α → β) :
    Prop :=
  ∀ ⦃a b : α⦄, kind a → kind b → ∀ ⦃rest rest' : String⦄,
    write a ++ rest = write b ++ rest' → seen a = seen b ∧ rest = rest'

variable {α : Type u} {β : Type v} {kind : α → Prop} {write : α → String} {seen : α → β}

/-- Texts that begin with words that are apart can be read. -/
theorem legible_of_starts (start : α → String) (hstart : ∀ a, ∃ more, write a = start a ++ more)
    (h : ∀ a, kind a → ∀ b, kind b → a = b ∨ apart (start a) (start b) = true) :
    Legible kind write id := by
  intro a b ha hb rest rest' heq
  rcases h a ha b hb with rfl | hapart
  · exact ⟨rfl, (String.append_right_inj _).mp heq⟩
  · rcases hstart a with ⟨more, hmore⟩
    rcases hstart b with ⟨more', hmore'⟩
    rw [hmore, hmore', String.append_assoc, String.append_assoc] at heq
    exact absurd heq (append_ne_append hapart _ _)

/-- Words that are apart can be read. -/
theorem legible_of_apart
    (h : ∀ a, kind a → ∀ b, kind b → a = b ∨ apart (write a) (write b) = true) :
    Legible kind write id :=
  legible_of_starts write (fun _ => ⟨"", String.append_empty.symm⟩) h

/-- Texts one after another, with a separator in front of each. -/
def following (separator : String) (texts : List String) : String :=
  texts.foldr (fun text rest => separator ++ (text ++ rest)) ""

theorem following_nil (separator : String) : following separator [] = "" := rfl

theorem following_cons (separator text : String) (texts : List String) :
    following separator (text :: texts) = separator ++ (text ++ following separator texts) := rfl

theorem following_append (separator : String) (texts texts' : List String) :
    following separator (texts ++ texts')
      = following separator texts ++ following separator texts' := by
  induction texts with
  | nil => exact (String.empty_append).symm
  | cons text rest ih =>
      rw [List.cons_append, following_cons, ih, following_cons, String.append_assoc,
        String.append_assoc]

/-- A list that is not empty is its first text and what follows it. -/
theorem intercalate_cons (separator text : String) (texts : List String) :
    separator.intercalate (text :: texts) = text ++ following separator texts := by
  induction texts generalizing text with
  | nil => rw [String.intercalate_singleton, following_nil, String.append_empty]
  | cons next rest ih =>
      rw [String.intercalate_cons_cons, ih, following_cons, String.append_assoc]

/-- Lists can be read if their members can and what follows them does not look like one more
    member. -/
theorem Legible.following (h : Legible kind write seen) (separator : String) {as bs : List α}
    (has : ∀ a ∈ as, kind a) (hbs : ∀ b ∈ bs, kind b) {rest rest' : String}
    (hrest : ∀ a, kind a → ∀ more, rest ≠ separator ++ (write a ++ more))
    (hrest' : ∀ a, kind a → ∀ more, rest' ≠ separator ++ (write a ++ more))
    (heq : Text.following separator (as.map write) ++ rest
      = Text.following separator (bs.map write) ++ rest') :
    as.map seen = bs.map seen ∧ rest = rest' := by
  have hempty : ∀ text : String, Text.following separator [] ++ text = text :=
    fun _ => String.empty_append
  induction as generalizing bs with
  | nil =>
      cases bs with
      | nil => exact ⟨rfl, by rw [List.map_nil, hempty, hempty] at heq; exact heq⟩
      | cons b others =>
          rw [List.map_nil, hempty, List.map_cons, following_cons, String.append_assoc,
            String.append_assoc] at heq
          exact absurd heq (hrest b (hbs b List.mem_cons_self) _)
  | cons a others ih =>
      rcases List.forall_mem_cons.mp has with ⟨ha, hothers⟩
      cases bs with
      | nil =>
          rw [List.map_nil, hempty, List.map_cons, following_cons, String.append_assoc,
            String.append_assoc] at heq
          exact absurd heq.symm (hrest' a ha _)
      | cons b others' =>
          rcases List.forall_mem_cons.mp hbs with ⟨hb, hothers'⟩
          simp only [List.map_cons, following_cons, String.append_assoc,
            String.append_right_inj] at heq
          -- The first members are read, and the others follow them.
          rcases h ha hb heq with ⟨hseen, hfollow⟩
          rcases ih hothers hothers' hfollow with ⟨hall, hsame⟩
          exact ⟨by rw [List.map_cons, List.map_cons, hseen, hall], hsame⟩

/-- A text begins with one of several marks. -/
def Opens (marks : List String) (text : String) : Prop :=
  ∃ mark ∈ marks, ∃ more, text = mark ++ more

theorem opens_append {marks : List String} {mark : String} (h : mark ∈ marks) (more : String) :
    Opens marks (mark ++ more) := ⟨mark, h, more, rfl⟩

theorem Opens.mono {marks marks' : List String} {text : String} (h : Opens marks text)
    (hsub : marks ⊆ marks') : Opens marks' text := by
  rcases h with ⟨mark, hmark, more, htext⟩
  exact ⟨mark, hsub hmark, more, htext⟩

/-- A text that begins with a mark does not begin with what is apart from all marks. -/
theorem Opens.ne_append {marks : List String} {text start : String} (h : Opens marks text)
    (hapart : marks.all (apart start) = true) (more : String) : text ≠ start ++ more := by
  rcases h with ⟨mark, hmark, rest, rfl⟩
  exact (append_ne_append (List.all_eq_true.mp hapart mark hmark) more rest).symm

end Text

end SchoolAtlas
