import Mathlib.Data.List.Basic
import SchoolAtlas.Csv.Row
import SchoolAtlas.Proofs.Lists
import SchoolAtlas.Proofs.Text.Trim

/-!
# Writing Tables

How records are written so that they are read again.

A field stands in quotes if it holds a character that would otherwise end it or open quotes, and a
quote within it is written twice. Other fields may be quoted as well, and it makes no difference to
what is read which of them are. Fields are separated by commas, and a line end closes a record.

The reader is followed field by field. Wherever a field starts it has nothing unfinished, and once
the character after the field is taken it has the text of the field, quoted or not
(`Reader.run_writtenField`). A record that consists of a single empty field is an empty line, and
that is no record.

What is read is the text of each field without blanks at its ends. If the header is made of the
names that are asked for, a record with a field for each of them says just these texts. A number in
such a field is read from its digits.

## Main definitions

* `Csv.needsQuotes`: A character that a field can hold in quotes only.
* `Csv.writtenField`, `Csv.writtenRecord`, `Csv.written`: Fields, records and tables as they are
  written.
* `Csv.IsRecord`: A record that a line can hold.

## Theorems

* `Csv.Reader.run_writtenField`: A field is read as it was written.
* `Csv.Reader.run_writtenRecord`: A record is.
* `Csv.table_written`: A table is, up to blanks at the ends of its fields.
* `Csv.cells?_self`: What a record says below a header of the names that are asked for.
* `Csv.integer?_toString`: A whole number is read from its digits.
-/

namespace SchoolAtlas

namespace Csv

/-- Whether a field can hold a character only in quotes: it would end the field or open quotes, or
    could be taken for the mark at the start of a text. -/
def needsQuotes (c : Char) : Bool :=
  c = ',' || c = '"' || Reader.isLineEnd c || c.toNat = 0xFEFF

/-- Characters between quotes. A quote is written twice. -/
def doubled : List Char → List Char
  | [] => []
  | c :: rest => if c = '"' then '"' :: '"' :: doubled rest else c :: doubled rest

/-- A field as it is written. It is quoted where it has to be, and where one likes. -/
def writtenField (quote : String → Bool) (text : String) : List Char :=
  if quote text || text.toList.any needsQuotes then '"' :: (doubled text.toList ++ ['"'])
  else text.toList

/-- A record as it is written, on a line of its own. -/
def writtenRecord (quote : String → Bool) : List String → List Char
  | [] => ['\n']
  | [text] => writtenField quote text ++ ['\n']
  | text :: next :: rest => writtenField quote text ++ ',' :: writtenRecord quote (next :: rest)

/-- Records as they are written, one after another. -/
def written (quote : String → Bool) (records : List (List String)) : String :=
  String.ofList (records.flatMap (writtenRecord quote))

/-- What a line can hold: at least one field, and not a single one without text. -/
def IsRecord (fields : List String) : Prop := fields ≠ [] ∧ fields ≠ [""]

theorem isRecord_of_length {fields : List String} (h : 1 < fields.length) : IsRecord fields := by
  constructor
  · rintro rfl
    exact absurd h (by decide)
  · rintro rfl
    exact absurd h (by decide)

namespace Reader

variable {r : Reader} {quote : String → Bool} {text : String}

/-- Between quotes characters are taken as they are, and doubled quotes as one. -/
theorem run_doubled (cs field : List Char) (record : List String) (records : List (List String)) :
    (Reader.mk .quoted field record records).run (doubled cs)
      = ⟨.quoted, cs.reverse ++ field, record, records⟩ := by
  induction cs generalizing field with
  | nil => rfl
  | cons c rest ih =>
      rw [doubled, List.reverse_cons, List.append_assoc]
      -- A quote is written twice, and the two are read as one.
      split
      · next hquote =>
        subst hquote
        exact ih ('"' :: field)
      · next hquote =>
        have hstep : (Reader.mk .quoted field record records).step c
            = ⟨.quoted, c :: field, record, records⟩ := by
          rw [step]
          exact if_neg hquote
        exact (congrArg (run · (doubled rest)) hstep).trans (ih (c :: field))

/-- What a character is not if it needs no quotes. -/
theorem of_needsQuotes_false {c : Char} (h : needsQuotes c = false) :
    c ≠ ',' ∧ c ≠ '"' ∧ isLineEnd c = false := by
  simp only [needsQuotes, Bool.or_eq_false_iff, decide_eq_false_iff_not] at h
  exact ⟨h.1.1.1, h.1.1.2, h.1.2⟩

theorem stepPlain_of_plain {c : Char} (h : needsQuotes c = false) :
    r.stepPlain c = r.push c .plain := by
  rcases of_needsQuotes_false h with ⟨hcomma, _, hline⟩
  rw [stepPlain, if_neg hcomma, if_neg (Bool.eq_false_iff.mp hline)]

/-- Outside of quotes characters are taken as they are. -/
theorem run_plain {cs : List Char} (h : ∀ c ∈ cs, needsQuotes c = false) (field : List Char)
    (record : List String) (records : List (List String)) :
    (Reader.mk .plain field record records).run cs
      = ⟨.plain, cs.reverse ++ field, record, records⟩ := by
  -- The induction carries what has been read of the field.
  induction cs generalizing field with
  | nil => rfl
  | cons c rest ih =>
      have hstep : (Reader.mk .plain field record records).step c
          = ⟨.plain, c :: field, record, records⟩ :=
        stepPlain_of_plain (h c List.mem_cons_self)
      rw [List.reverse_cons, List.append_assoc]
      exact (congrArg (run · rest) hstep).trans
        (ih (fun d hd => h d (List.mem_cons_of_mem _ hd)) (c :: field))

/-- A field can start anywhere between two records, and after a comma. -/
theorem step_opening {place : Place} (hplace : place = .recordStart ∨ place = .fieldStart)
    {c : Char} (hline : place = .recordStart → isLineEnd c = false) (record : List String)
    (records : List (List String)) : (Reader.mk place [] record records).step c
      = (Reader.mk place [] record records).stepFirst c := by
  rcases hplace with rfl | rfl
  · rw [step]
    exact if_neg (Bool.eq_false_iff.mp (hline rfl))
  · rfl

/-- Wherever a field starts, it is read as it was written, and the character after it is taken as
    one outside of quotes. Only before a record must there be something to read. -/
theorem run_writtenField {place : Place} (hplace : place = .recordStart ∨ place = .fieldStart)
    {sep : Char} (hsep : sep ≠ '"')
    (hline : place = .recordStart → text = "" → isLineEnd sep = false) (record : List String)
    (records : List (List String)) :
    (Reader.mk place [] record records).run (writtenField quote text ++ [sep])
      = (Reader.mk .plain text.toList.reverse record records).stepPlain sep := by
  rw [run_append, writtenField]
  -- In quotes, the field ends at the closing quote, and what comes next has to separate it.
  split
  · have hopen : (Reader.mk place [] record records).step '"'
        = ⟨.quoted, [], record, records⟩ :=
      step_opening hplace (fun _ => rfl) record records
    have hclose : (Reader.mk .quoteSeen text.toList.reverse record records).step sep
        = (Reader.mk .plain text.toList.reverse record records).stepPlain sep := by
      rw [step]
      exact if_neg hsep
    rw [← List.cons_append, run_append]
    change (((Reader.mk place [] record records).step '"').run (doubled text.toList)
      |>.run ['"']).run [sep] = _
    rw [hopen, run_doubled, List.append_nil]
    exact hclose
  · next hbare =>
    have hplain : ∀ c ∈ text.toList, needsQuotes c = false := by
      intro c hc
      by_contra hneeds
      refine hbare (Bool.or_eq_true_iff.mpr (Or.inr (List.any_eq_true.mpr ⟨c, hc, ?_⟩)))
      exact Bool.not_eq_false _ ▸ hneeds
    cases hcs : text.toList with
    -- An empty field is over before it has begun.
    | nil =>
        have hstep := step_opening hplace
          (fun hstart => hline hstart (String.toList_eq_nil_iff.mp hcs)) record records
        exact hstep.trans (if_neg hsep)
    | cons c rest =>
        rw [hcs, List.forall_mem_cons] at hplain
        have hfirst : (Reader.mk place [] record records).step c
            = ⟨.plain, [c], record, records⟩ := by
          rw [step_opening hplace (fun _ => (of_needsQuotes_false hplain.1).2.2), stepFirst,
            if_neg (of_needsQuotes_false hplain.1).2.1]
          exact stepPlain_of_plain hplain.1
        change (((Reader.mk place [] record records).step c).run rest).run [sep] = _
        rw [hfirst, run_plain hplain.2, ← List.reverse_cons]
        rfl

/-- A record is read as it was written. -/
theorem run_writtenRecord {place : Place} (hplace : place = .recordStart ∨ place = .fieldStart)
    {fields : List String} (hfields : fields ≠ [])
    (hline : place = .recordStart → fields ≠ [""]) (before : List String)
    (records : List (List String)) :
    (Reader.mk place [] before records).run (writtenRecord quote fields)
      = ⟨.recordStart, [], [], (before.reverse ++ fields) :: records⟩ := by
  -- The induction is over the fields to come, and carries those before, the last one first.
  induction fields generalizing place before with
  | nil => exact absurd rfl hfields
  | cons text rest ih =>
      cases rest with
      | nil =>
          rw [writtenRecord, run_writtenField hplace (by decide)
            (fun hstart hempty => absurd (congrArg ([·]) hempty) (hline hstart))]
          change closeRecord _ = _
          rw [closeRecord, closedRecord, List.reverse_reverse, String.ofList_toList,
            List.reverse_cons]
      | cons next rest =>
          rw [writtenRecord, ← List.singleton_append, ← List.append_assoc, run_append,
            run_writtenField hplace (by decide) (fun _ _ => rfl)]
          change (closeField _).run _ = _
          rw [closeField, closedRecord, List.reverse_reverse, String.ofList_toList,
            ih (Or.inr rfl) (List.cons_ne_nil next rest)
              (fun hstart => absurd hstart (by simp only [reduceCtorEq, not_false_eq_true])),
            List.reverse_cons, List.append_assoc, List.singleton_append]

/-- Records are read as they were written. -/
theorem run_written {all : List (List String)} (hall : ∀ fields ∈ all, IsRecord fields)
    (records : List (List String)) :
    (Reader.mk .recordStart [] [] records).run (all.flatMap (writtenRecord quote))
      = ⟨.recordStart, [], [], all.reverse ++ records⟩ := by
  induction all generalizing records with
  | nil => rfl
  | cons fields rest ih =>
      -- Every record ends its line, so the next one starts on a line of its own.
      rcases hall fields List.mem_cons_self with ⟨hne, hempty⟩
      rw [List.flatMap_cons, run_append, run_writtenRecord (Or.inl rfl) hne (fun _ => hempty),
        ih (fun other hother => hall other (List.mem_cons_of_mem _ hother)), List.reverse_cons,
        List.append_assoc]
      rfl

end Reader

variable {quote : String → Bool}

/-- What is written never begins with the mark that tells the encoding of a text. -/
theorem withoutMark_writtenField (text : String) {sep : Char} (hsep : sep.toNat ≠ 0xFEFF)
    (rest : List Char) : withoutMark (writtenField quote text ++ sep :: rest)
      = writtenField quote text ++ sep :: rest := by
  rw [writtenField]
  split
  · rfl
  · next hbare =>
    -- A field that starts with the mark would have been put in quotes.
    cases hcs : text.toList with
    | nil => exact if_neg hsep
    | cons c cs =>
        refine if_neg (fun hmark => hbare ?_)
        rw [hcs, List.any_cons, needsQuotes, decide_eq_true hmark]
        simp only [Bool.or_true, Bool.true_or]

theorem withoutMark_flatMap (all : List (List String)) :
    withoutMark (all.flatMap (writtenRecord quote)) = all.flatMap (writtenRecord quote) := by
  cases all with
  | nil => rfl
  | cons fields rest =>
      rw [List.flatMap_cons]
      -- What comes first is the first field of the first record, and a separator follows it.
      cases fields with
      | nil => rfl
      | cons text fields =>
          cases fields with
          | nil =>
              rw [writtenRecord, List.append_assoc]
              exact withoutMark_writtenField text (by decide) _
          | cons next fields =>
              rw [writtenRecord, List.append_assoc, List.cons_append]
              exact withoutMark_writtenField text (by decide) _

/-- A table is read as it was written, up to blanks at the ends of its fields. -/
theorem table_written {header : List String} {below : List (List String)}
    (h : ∀ fields ∈ header :: below, IsRecord fields) :
    table (written quote (header :: below))
      = ⟨header.map Text.trim, below.map (·.map Text.trim)⟩ := by
  have hread : records (written quote (header :: below))
      = (header :: below).map (·.map Text.trim) := by
    rw [records, written, String.toList_ofList, withoutMark_flatMap, Reader.start,
      Reader.run_written h, List.append_nil, Reader.finish, List.reverse_reverse]
  rw [table, hread]
  rfl

-- A comma and a quote are written in quotes, and an empty field is not.
example : written (fun _ => false) [["name", "town"], ["\"A\", B", ""]]
    = "name,town\n\"\"\"A\"\", B\",\n" := by decide +kernel

theorem columns_eq_zip {names record : List String} (h : record.length = names.length) :
    columns names record = names.zip (record.map .present) := by
  induction names generalizing record with
  | nil => rfl
  | cons name names ih =>
      cases record with
      | nil => exact absurd h (by simp)
      | cons text texts =>
          rw [columns, ih (Nat.succ.inj h)]
          rfl

/-- Below a header that is made of the names that are asked for, a record says what its fields
    are. -/
theorem cells?_self {names record : List String} (hnodup : names.Nodup)
    (h : record.length = names.length) :
    cells? names names record = some (record.map .present) := by
  have hlength : names.length = (record.map Cell.present).length := by
    rw [List.length_map, h]
  have hfst : (columns names record).map Prod.fst = names := by
    rw [columns_eq_zip h, List.map_fst_zip (Nat.le_of_eq hlength)]
  have hsnd : (columns names record).map Prod.snd = record.map .present := by
    rw [columns_eq_zip h, List.map_snd_zip (Nat.le_of_eq hlength.symm)]
  have hknown : (columns names record).all
      (fun c => names.contains c.1 || c.2 != .beyondEnd) = true := by
    refine List.all_eq_true.mpr (fun c hc => Bool.or_eq_true_iff.mpr (Or.inl ?_))
    rw [List.contains_iff_mem, ← hfst]
    exact List.mem_map_of_mem hc
  -- No two columns share a name, so a name finds its own cell.
  have hcell : ∀ c ∈ columns names record, cell? (columns names record) c.1 = some c.2 := by
    intro c hc
    have hone : (columns names record).filter (fun d => d.1 = c.1) = [c] :=
      Lists.filter_key_eq (hfst.symm ▸ hnodup) hc
    rw [cell?, hone]
  rw [cells?, if_pos hknown]
  calc
    names.mapM (cell? (columns names record))
    _ = ((columns names record).map Prod.fst).mapM (cell? (columns names record)) := by rw [hfst]
    _ = (columns names record).mapM (fun c => cell? (columns names record) c.1) := List.mapM_map
    _ = some ((columns names record).map Prod.snd) := Lists.mapM_eq_some_of_forall hcell
    _ = some (record.map .present) := by rw [hsnd]

section Numbers

variable {c : Char} {n : Int}

theorem range_of_isDigit (h : c.isDigit = true) : '0' ≤ c ∧ c ≤ '9' := by
  rw [Char.isDigit, Bool.and_eq_true, decide_eq_true_eq, decide_eq_true_eq] at h
  exact h

theorem digit?_of_isDigit (h : c.isDigit = true) : digit? 10 c = some (c.toNat - '0'.toNat) := by
  rcases range_of_isDigit h with ⟨hlow, hhigh⟩
  have hlt : c.toNat - '0'.toNat < 10 := by
    have hle : c.toNat ≤ '9'.toNat := hhigh
    have hnine : '9'.toNat = '0'.toNat + 9 := rfl
    omega
  rw [digit?, decide_eq_true hlow, decide_eq_true hhigh, Bool.and_self, if_pos rfl, if_pos hlt]

theorem isBlank_of_isDigit (h : c.isDigit = true) : Text.isBlank c = false := by
  have hlow : 48 ≤ c.toNat := (range_of_isDigit h).1
  have hhigh : c.toNat ≤ 57 := (range_of_isDigit h).2
  simp only [Text.isBlank, Bool.or_eq_false_iff, Bool.and_eq_false_iff, decide_eq_false_iff_not]
  omega

theorem isDigit_of_mem_toDigits {k : Nat} (h : c ∈ Nat.toDigits 10 k) : c.isDigit = true :=
  Nat.isDigit_of_mem_toDigits (by decide) (by decide) h

theorem toList_toString_natCast (k : Nat) : (toString (k : Int)).toList = Nat.toDigits 10 k :=
  Nat.toList_repr

/-- Digits are read one by one, the first first. -/
theorem foldlM_digit? {cs : List Char} (h : ∀ c ∈ cs, c.isDigit = true) (k : Nat) :
    cs.foldlM (fun k c => (digit? 10 c).map (10 * k + ·)) k = some (Nat.ofDigitChars 10 cs k) := by
  induction cs generalizing k with
  | nil => rfl
  | cons c rest ih =>
      rw [List.forall_mem_cons] at h
      rw [List.foldlM_cons, digit?_of_isDigit h.1, Nat.ofDigitChars_cons]
      exact ih h.2 _

theorem signed?_toDigits (k : Nat) : signed? 10 (Nat.toDigits 10 k) = some (k : Int) := by
  -- A number that is not negative is written without a sign.
  have hsign : Numeral.takeSign (Nat.toDigits 10 k) = (false, Nat.toDigits 10 k) := by
    unfold Numeral.takeSign
    split
    · next heq =>
      exact absurd (isDigit_of_mem_toDigits (heq ▸ List.mem_cons_self)) (by decide)
    · next heq =>
      exact absurd (isDigit_of_mem_toDigits (heq ▸ List.mem_cons_self)) (by decide)
    · rfl
  have hne : (Nat.toDigits 10 k).isEmpty = false :=
    List.isEmpty_eq_false_iff.mpr Nat.toDigits_ne_nil
  have hvalue : Nat.ofDigitChars 10 (Nat.toDigits 10 k) 0 = k :=
    Nat.ofDigitChars_toDigits (by decide) (by decide)
  simp only [signed?, hsign, hne, foldlM_digit? (fun _ => isDigit_of_mem_toDigits), hvalue]
  rfl

/-- A whole number of 64 bits that is not negative is read from its digits. -/
theorem integer?_toString (h : 0 ≤ n) (hmax : n ≤ Int64.maxValue.toInt) :
    integer? (toString n) = some n := by
  rcases Int.eq_ofNat_of_zero_le h with ⟨k, rfl⟩
  have hmin : Int64.minValue.toInt ≤ (k : Int) := Int.le_trans (by decide) h
  rw [integer?, toList_toString_natCast]
  split
  · -- The second digit is no letter.
    next heq =>
    have hletter := isDigit_of_mem_toDigits (heq ▸ List.mem_cons_of_mem _ List.mem_cons_self)
    exact absurd hletter (by decide)
  · rw [signed?_toDigits, Option.filter_some,
      if_pos (by simp only [hmin, hmax, decide_true, Bool.and_self])]

theorem trim_toString (h : 0 ≤ n) : Text.trim (toString n) = toString n := by
  rcases Int.eq_ofNat_of_zero_le h with ⟨k, rfl⟩
  rw [Text.trim_eq_self_iff, Text.StartsBlank, Text.EndsBlank, toList_toString_natCast]
  constructor
  · rintro ⟨c, hc, hblank⟩
    have hdigit := isBlank_of_isDigit (isDigit_of_mem_toDigits (List.mem_of_head? hc))
    exact Bool.noConfusion (hblank.symm.trans hdigit)
  · rintro ⟨c, hc, hblank⟩
    have hdigit := isBlank_of_isDigit (isDigit_of_mem_toDigits (List.mem_of_getLast? hc))
    exact Bool.noConfusion (hblank.symm.trans hdigit)

end Numbers

end Csv

end SchoolAtlas
