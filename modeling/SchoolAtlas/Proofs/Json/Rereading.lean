import Mathlib.Data.List.Forall2
import SchoolAtlas.Json.Record
import SchoolAtlas.Proofs.Lists
import SchoolAtlas.Proofs.Selection
import SchoolAtlas.Proofs.Text.Legible

/-!
# Reading What Was Written

The written form of a value, taken off the front of a text.

A writer escapes what a string may not contain, and a reader takes a string apart into parts
before it joins them again, because two escaped units may make one character. For one character
the two meet in the middle: one part is taken for it, and the part stands for it
(`Document.takeParts?_escape`). Which part it is does not matter any further, so the lemma only
says that there is one.

For values the statement has to hold in the middle of a text, and it has to come with enough steps
for the reader. `Rereads` says both: whatever follows, and with as many steps as the written form
has characters. The bound is generous and easy to keep: a member of an object is longer than its
value, and shorter than the object. There is no theorem about all values at once, since numbers
would need one of their own; there is one about each other kind that is stored, and they are put
together as the values are.

The second half is about records. Of an object whose names are different, the fields that are
written are found and the others are not mentioned (`Document.fields?_filter`).

## Main definitions

* `Json.Rereads`: The written form of a value is read as a document.
* `Json.MemberRereads`: A member is read under its name.
* `Json.Document.StandsFor`: A part of a string stands for a character.

## Theorems

* `Json.Document.takeString?_escape`: A string is read as it was.
* `Json.Rereads.object`: An object is read if its members are.
* `Json.Rereads.ofText?_compact`: A value that can be read is what its text says.
* `Json.Document.entries?_ofMap`: A map is read from its object.
* `Json.Document.fields?_filter`: Fields are read from an object that has some of them.
-/

namespace SchoolAtlas

namespace Json

namespace Document

/-- A part of a string stands for a character if the two are joined to the same text. -/
def StandsFor (p : Part) (c : Char) : Prop :=
  ∀ joined more, joinParts? joined (p :: more) = joinParts? (c :: joined) more

theorem standsFor_char (c : Char) : StandsFor (.char c) c := by
  intro joined more
  rw [joinParts?]

/-- A unit that is no half of a pair stands for its own character, whatever follows it. -/
theorem standsFor_unit {n : Nat} (h : n < 0xD800) : StandsFor (.unit n) (Char.ofNat n) := by
  have hhigh : isHighHalf n = false := by
    rw [isHighHalf, decide_eq_false (Nat.not_le.mpr h), Bool.false_and]
  have hlow : isLowHalf n = false := by
    rw [isLowHalf, decide_eq_false (by omega), Bool.false_and]
  intro joined more
  -- A unit that is no half of a pair stands alone, whatever comes after it.
  cases more with
  | nil => simp only [joinParts?, hhigh, hlow, Bool.or_self, Bool.false_eq_true, if_false]
  | cons next rest =>
      cases next with
      | char c => simp only [joinParts?, hhigh, hlow, Bool.or_self, Bool.false_eq_true, if_false]
      | unit low => simp only [joinParts?, hhigh, hlow, Bool.false_eq_true, if_false]

theorem hexNumber?_hexByte : ∀ n < 32, hexNumber? ('0' :: '0' :: hexByte n) = some n := by decide

/-- However a character is written, one part is taken for it, and the part stands for it. -/
theorem takeParts?_escape (c : Char) : ∃ p, StandsFor p c ∧ ∀ taken rest,
    takeParts? taken (escape c ++ rest) = takeParts? (p :: taken) rest := by
  rw [escape]
  -- Each case is one branch of the escaping: seven short forms, one with four digits, and none.
  split_ifs with hquote hback hnewline hreturn htab hbackspace hfeed hcontrol
  · exact ⟨.char c, standsFor_char c, fun _ _ => by subst hquote; rfl⟩
  · exact ⟨.char c, standsFor_char c, fun _ _ => by subst hback; rfl⟩
  · exact ⟨.char c, standsFor_char c, fun _ _ => by subst hnewline; rfl⟩
  · exact ⟨.char c, standsFor_char c, fun _ _ => by subst hreturn; rfl⟩
  · exact ⟨.char c, standsFor_char c, fun _ _ => by subst htab; rfl⟩
  · have hc : c = Char.ofNat 8 := by rw [← hbackspace, Char.ofNat_toNat]
    exact ⟨.char c, standsFor_char c, fun _ _ => by subst hc; rfl⟩
  · have hc : c = Char.ofNat 12 := by rw [← hfeed, Char.ofNat_toNat]
    exact ⟨.char c, standsFor_char c, fun _ _ => by subst hc; rfl⟩
  · refine ⟨.unit c.toNat, ?_, fun taken rest => ?_⟩
    · have hunit := standsFor_unit (n := c.toNat) (Nat.lt_trans hcontrol (by decide))
      rwa [Char.ofNat_toNat] at hunit
    · have hread := hexNumber?_hexByte c.toNat hcontrol
      rw [hexByte] at hread ⊢
      simp only [List.cons_append, List.nil_append, takeParts?, hread]
  · refine ⟨.char c, standsFor_char c, fun taken rest => ?_⟩
    rw [List.singleton_append, takeParts?, if_neg hcontrol]
    · exact hquote
    · exact fun _ _ _ _ _ heq _ => hback heq
    · exact fun _ _ heq _ => hback heq

/-- The parts taken for the characters of a string are joined to it. -/
theorem takeParts?_flatMap_escape (cs : List Char) (taken : List Part) (rest : List Char) :
    ∃ parts,
      takeParts? taken (cs.flatMap escape ++ '"' :: rest) = some (taken.reverse ++ parts, rest) ∧
        ∀ joined, joinParts? joined parts = some (joined.reverse ++ cs) := by
  induction cs generalizing taken with
  | nil => exact ⟨[], by rw [List.append_nil]; rfl, fun joined => by rw [List.append_nil]; rfl⟩
  | cons c cs ih =>
      -- A character is one part, and joining the parts gives it back before all that follow.
      rcases takeParts?_escape c with ⟨p, hp, htake⟩
      rcases ih (p :: taken) with ⟨parts, hparts, hjoin⟩
      refine ⟨p :: parts, ?_, fun joined => ?_⟩
      · rw [List.flatMap_cons, List.append_assoc, htake, hparts, List.reverse_cons,
          List.append_assoc, List.singleton_append]
      · rw [hp, hjoin, List.reverse_cons, List.append_assoc, List.singleton_append]

/-- A string is read as it was. -/
theorem takeString?_escape (s : String) (rest : List Char) :
    takeString? (s.toList.flatMap escape ++ '"' :: rest) = some (some s, rest) := by
  rcases takeParts?_flatMap_escape s.toList [] rest with ⟨parts, hparts, hjoin⟩
  rw [takeString?, hparts]
  simp only [List.reverse_nil, List.nil_append, Option.map_some, hjoin, String.ofList_toList]

/-- A member whose name can be read. -/
def member (f : String × Document) : Option String × Document := (some f.1, f.2)

/-- A text or nothing. -/
def optional : Option String → Document
  | some s => string (some s)
  | none => null

/-- An object with one member for each entry of a map. -/
def ofMap (g : α → Document) (m : NameMap α) : Document :=
  object ((m.entries.map (fun p => (p.1, g p.2))).map member)

end Document

/-- Whatever follows it, the written form of a value is taken off a text as a document. It takes
    no more steps than the written form has characters, and one. -/
def Rereads (v : Json) (d : Document) : Prop :=
  ∀ steps rest, v.compact.length ≤ steps →
    Document.takeValue? (steps + 1) (v.compact.toList ++ rest) = some (d, rest)

theorem toList_quote (s : String) (rest : List Char) :
    (quote s).toList ++ rest = '"' :: (s.toList.flatMap escape ++ '"' :: rest) := by
  rw [quote, String.toList_ofList, List.cons_append, List.cons_append, List.append_assoc,
    List.singleton_append]

/-- The written form of a member. -/
def memberText (m : String × Json) : String := quote m.1 ++ ":" ++ m.2.compact

theorem compactMembers_eq_map (members : List (String × Json)) :
    compactMembers members = members.map memberText := by
  induction members with
  | nil => rfl
  | cons m rest ih =>
      rw [compactMembers, ih, List.map_cons]
      rfl

/-- A member is written with a name and a colon before its value. -/
theorem length_memberText (m : String × Json) :
    m.2.compact.length + 2 ≤ (memberText m).length := by
  have hquote : 1 ≤ (quote m.1).length := by
    rw [quote, String.length_ofList]
    exact Nat.le_add_left 1 _
  have hcolon : (":" : String).length = 1 := rfl
  rw [memberText, String.length_append, String.length_append, hcolon]
  omega

/-- A member is read under its name. -/
structure MemberRereads (m : String × Json) (f : String × Document) : Prop where
  name_eq : m.1 = f.1
  value : m.2.Rereads f.2

theorem toList_memberText (m : String × Json) (text : List Char) :
    (memberText m).toList ++ text
      = '"' :: (m.1.toList.flatMap escape ++ '"' :: ':' :: (m.2.compact.toList ++ text)) := by
  rw [memberText, String.toList_append, String.toList_append, List.append_assoc,
    List.append_assoc, toList_quote]
  rfl

/-- One member is taken off a text, and what follows it decides how to go on. -/
theorem takeMembers?_memberText {m : String × Json} {f : String × Document}
    (h : MemberRereads m f) (taken : List (Option String × Document)) {steps : Nat}
    (text : List Char) (hsteps : (memberText m).length ≤ steps) :
    Document.takeMembers? steps taken ((memberText m).toList ++ text)
      = match Document.skipBlanks text with
        | ',' :: rest => Document.takeMembers? (steps - 1) (Document.member f :: taken) rest
        | '\x7d' :: rest => some (.object (Document.member f :: taken).reverse, rest)
        | _ => none := by
  have hlength := length_memberText m
  -- One step is for the member, and the value has one of its own at least.
  rcases Nat.exists_eq_add_of_le' (show 2 ≤ steps by omega) with ⟨fewer, rfl⟩
  have hvalue := h.value fewer text (by omega)
  have hquote : ∀ rest, Document.skipBlanks ('"' :: rest) = '"' :: rest := fun _ => rfl
  have hcolon : ∀ rest, Document.skipBlanks (':' :: rest) = ':' :: rest := fun _ => rfl
  rw [toList_memberText, Document.takeMembers?, hquote, Document.member, ← h.name_eq]
  simp only [Document.takeString?_escape, hcolon, hvalue]
  rfl

/-- The members of an object are taken off a text one after the other. -/
theorem takeMembers?_following {members : List (String × Json)}
    {fields : List (String × Document)} (h : List.Forall₂ MemberRereads members fields)
    {m : String × Json} {f : String × Document} (hm : MemberRereads m f)
    (taken : List (Option String × Document)) (steps : Nat) (rest : List Char)
    (hsteps : (memberText m ++ Text.following "," (members.map memberText)).length ≤ steps) :
    Document.takeMembers? steps taken
        ((memberText m).toList
          ++ ((Text.following "," (members.map memberText)).toList ++ '\x7d' :: rest))
      = some (.object (taken.reverse ++ (f :: fields).map Document.member), rest) := by
  induction h generalizing m f taken steps with
  | nil =>
      have hbrace : Document.skipBlanks ("".toList ++ '\x7d' :: rest) = '\x7d' :: rest := rfl
      rw [List.map_nil, Text.following_nil, String.append_empty] at hsteps
      rw [List.map_nil, Text.following_nil, takeMembers?_memberText hm taken _ hsteps]
      simp only [hbrace, List.reverse_cons, List.map_singleton]
  | @cons m' f' members fields hm' _ ih =>
      have hcomma : ("," : String).length = 1 := rfl
      rw [List.map_cons, Text.following_cons, String.length_append, String.length_append, hcomma]
        at hsteps
      have hskip : ∀ more, Document.skipBlanks (",".toList ++ more) = ',' :: more := fun _ => rfl
      -- What follows the comma begins with the next member.
      have hmore := ih hm' (Document.member f :: taken) (steps - 1) (by omega)
      rw [List.map_cons, Text.following_cons, String.toList_append, String.toList_append,
        List.append_assoc, List.append_assoc, takeMembers?_memberText hm taken _ (by omega)]
      simp only [hskip, hmore, List.reverse_cons, List.append_assoc, List.singleton_append,
        List.map_cons]

namespace Rereads

theorem null : Rereads .null .null := fun _ _ _ => rfl

theorem bool (b : Bool) : Rereads (.bool b) (.bool b) := by
  intro steps rest _
  cases b <;> rfl

theorem string (s : String) : Rereads (.string s) (.string (some s)) := by
  intro steps rest _
  have hvalue : Document.takeValue? (steps + 1) ((Json.string s).compact.toList ++ rest)
      = (Document.takeString? (s.toList.flatMap escape ++ '"' :: rest)).map
          (fun read => (.string read.1, read.2)) := by
    rw [compact, toList_quote]
    rfl
  rw [hvalue, Document.takeString?_escape]
  rfl

/-- An object is read as the object of what is read of its members. -/
theorem object {members : List (String × Json)} {fields : List (String × Document)}
    (h : List.Forall₂ MemberRereads members fields) :
    Rereads (.object members) (.object (fields.map Document.member)) := by
  intro steps rest hsteps
  rw [compact, compactMembers_eq_map, String.length_append, String.length_append] at hsteps
  rw [compact, compactMembers_eq_map, String.toList_append, String.toList_append,
    List.append_assoc, List.append_assoc]
  cases h with
  | nil => rfl
  -- The opening brace is one step, and the members have the others.
  | @cons m f members fields hm hmembers =>
      have hopen : ∀ text, Document.takeValue? (steps + 1) ("\x7b".toList ++ '"' :: text)
          = Document.takeMembers? steps [] ('"' :: text) := fun _ => rfl
      rw [List.map_cons, Text.intercalate_cons] at hsteps ⊢
      rw [String.toList_append, List.append_assoc, toList_memberText, hopen, ← toList_memberText]
      exact takeMembers?_following hmembers hm [] steps rest (by omega)

/-- Members with the same names are read if their values are. -/
theorem zip {names : List String} {values : List Json} {read : List Document}
    (h : List.Forall₂ Rereads values read) :
    List.Forall₂ MemberRereads (names.zip values) (names.zip read) := by
  induction h generalizing names with
  | nil => simp only [List.zip_nil_right, List.Forall₂.nil]
  | cons hv _ ih =>
      cases names with
      | nil => exact .nil
      | cons name rest => exact .cons ⟨rfl, hv⟩ ih

/-- A text or nothing. -/
theorem ofText? (text : Option String) : Rereads (.ofText? text) (.optional text) := by
  cases text with
  | none => exact null
  | some s => exact string s

/-- The object of a map is read as the object of what is read of its values. -/
theorem ofMap {f : α → Json} {g : α → Document} (h : ∀ a, Rereads (f a) (g a)) (m : NameMap α) :
    Rereads (.ofMap f m) (.ofMap g m) := by
  rw [Json.ofMap, Document.ofMap]
  refine object ?_
  rw [List.forall₂_map_left_iff, List.forall₂_map_right_iff, List.forall₂_same]
  exact fun p _ => ⟨rfl, h p.2⟩

/-- A value that can be read is what its text says. -/
theorem ofText?_compact (h : Rereads v d) : Document.ofText? v.compact = some d := by
  have hread := h (2 * v.compact.toList.length + 1) [] (by rw [String.length_toList]; omega)
  rw [List.append_nil] at hread
  rw [Document.ofText?]
  simp only [hread]
  rfl

end Rereads

namespace Document

/-- A map is read from the object that is written for it. -/
theorem entries?_ofMap {read : Document → Option α} {g : α → Document}
    (h : ∀ a, read (g a) = some a) (m : NameMap α) : entries? read (.ofMap g m) = some m := by
  have hmembers : (m.entries.map (fun p => member (p.1, g p.2))).mapM (readMember? read)
      = some m.entries := by
    rw [List.mapM_map, Lists.mapM_eq_some_of_forall (g := id), List.map_id]
    intro p _
    rw [Function.comp_apply, readMember?, member, h]
    rfl
  rw [ofMap, entries?, List.map_map, Function.comp_def, hmembers, Option.map_some,
    NameMap.ofList_entries]

/-- Of a record from which some fields are left out, the others are read as they are written. -/
theorem fields?_filter {fields : List (String × Document)} (h : (fields.map Prod.fst).Nodup)
    (kept : String → Bool) :
    fields? (fields.map Prod.fst) (.object ((fields.filter (kept ·.1)).map member))
      = some (fields.map (fun f => if kept f.1 then .written f.2 else .unmentioned)) := by
  have hnamed : ((fields.filter (kept ·.1)).map member).all (fun m => m.1.isSome) = true := by
    rw [List.all_map]
    exact List.all_eq_true.mpr (fun _ _ => rfl)
  rw [fields?, if_pos hnamed, List.mapM_map]
  refine Lists.mapM_eq_some_of_forall (fun f hf => ?_)
  -- A field that was dropped is not mentioned, and no other has its name.
  have hvalues : valuesOf f.1 ((fields.filter (kept ·.1)).map member)
      = if kept f.1 then [f.2] else [] := by
    have hkey : (fun m => m.1 == some f.1) ∘ member = fun g => g.1 == f.1 := rfl
    rw [valuesOf, List.filter_map, hkey, List.filter_comm, Lists.filter_key_eq h hf, List.map_map]
    cases hkept : kept f.1 with
    | false => rw [List.filter_singleton, hkept]; rfl
    | true => rw [List.filter_singleton, hkept]; rfl
  rw [Function.comp_apply, member?, hvalues]
  cases kept f.1 <;> rfl

end Document

end Json

end SchoolAtlas
