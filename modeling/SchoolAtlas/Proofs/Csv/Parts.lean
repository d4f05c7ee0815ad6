import Mathlib.Data.List.Basic
import SchoolAtlas.Csv

/-!
# Tables in Parts

What a table says if it is cut between two records.

The reader takes one character at a time, so a text in two parts is read part by part. That
alone does not make the parts independent: the second is read by a machine that is wherever the
first has left it, perhaps within quotes. Between two records there is nothing left to remember.
The machine then differs from one that has not read anything by the records it has put aside, and
these it never looks at again (`Reader.step_behind`). So what comes after such a point is read as
if it stood alone.

A header is a first record with nothing after it. A table can be cut below its header wherever a
record ends, and each part read under the same header, which is how a large export is split into
files.

The mark that tells the encoding of a text belongs to the text as a whole. Below a header it is a
character like any other.

## Main definitions

* `Csv.Reader.behind`: The machine with more records put aside.
* `Csv.EndsRecord`: A text ends where a record does.
* `Csv.rows`: The records of a text that stands below a header.
* `Csv.IsHeader`: A text is a header and nothing else.

## Theorems

* `Csv.Reader.step_behind`: Records that were put aside are never looked at again.
* `Csv.Reader.Settled.step`: Between two records nothing is unfinished.
* `Csv.rows_append`: A text that is cut between two records is read part by part.
* `Csv.table_of_isHeader`: The table of a header and the text below it.
-/

namespace SchoolAtlas

namespace Csv

namespace Reader

/-- The machine with more records put aside before those it has read. -/
def behind (r : Reader) (earlier : List (List String)) : Reader :=
  { r with records := r.records ++ earlier }

/-- Between two records nothing is unfinished. -/
def Settled (r : Reader) : Prop := r.place = .recordStart → r.field = [] ∧ r.record = []

variable {r : Reader} {earlier : List (List String)}

theorem stepPlain_behind (c : Char) : (r.behind earlier).stepPlain c
    = (r.stepPlain c).behind earlier := by
  simp only [stepPlain]
  split
  · rfl
  · split
    · rfl
    · rfl

theorem stepFirst_behind (c : Char) : (r.behind earlier).stepFirst c
    = (r.stepFirst c).behind earlier := by
  simp only [stepFirst]
  split
  · rfl
  · exact stepPlain_behind c

/-- Records that were put aside are never looked at again. -/
theorem step_behind (c : Char) : (r.behind earlier).step c = (r.step c).behind earlier := by
  rcases r with ⟨place, field, record, records⟩
  -- What a character does depends on the place and the record, not on the records before it.
  cases place with
  | recordStart =>
      change (if isLineEnd c then _ else _) = (if isLineEnd c then _ else _ : Reader).behind earlier
      split
      · rfl
      · exact stepFirst_behind c
  | fieldStart => exact stepFirst_behind c
  | plain => exact stepPlain_behind c
  | quoted =>
      change (if c = '"' then _ else _) = (if c = '"' then _ else _ : Reader).behind earlier
      split <;> rfl
  | quoteSeen =>
      change (if c = '"' then _ else _) = (if c = '"' then _ else _ : Reader).behind earlier
      split
      · rfl
      · exact stepPlain_behind c

theorem run_behind (text : List Char) : (r.behind earlier).run text
    = (r.run text).behind earlier := by
  induction text generalizing r with
  | nil => rfl
  | cons c rest ih =>
      have hrun : ∀ start : Reader, start.run (c :: rest) = (start.step c).run rest := fun _ => rfl
      rw [hrun, hrun, step_behind, ih]

/-- The records that were put aside come first in the end. -/
theorem finish_behind : (r.behind earlier).finish = earlier.reverse ++ r.finish := by
  rcases r with ⟨place, field, record, records⟩
  cases place with
  | recordStart => exact List.reverse_append
  | fieldStart => exact @List.reverse_append _ (_ :: records) earlier
  | plain => exact @List.reverse_append _ (_ :: records) earlier
  | quoted => exact @List.reverse_append _ (_ :: records) earlier
  | quoteSeen => exact @List.reverse_append _ (_ :: records) earlier

/-- A record that is closed leaves nothing behind. -/
theorem settled_closeRecord : r.closeRecord.Settled := fun _ => ⟨rfl, rfl⟩

/-- Of a machine that is within a record nothing is asked. -/
theorem settled_of_ne (h : r.place ≠ .recordStart) : r.Settled := fun hplace => absurd hplace h

theorem settled_stepPlain (c : Char) : (r.stepPlain c).Settled := by
  rw [stepPlain]
  split
  · exact settled_of_ne (by simp only [closeField, ne_eq, reduceCtorEq, not_false_eq_true])
  · split
    · exact settled_closeRecord
    · exact settled_of_ne (by simp only [push, ne_eq, reduceCtorEq, not_false_eq_true])

theorem settled_stepFirst (c : Char) : (r.stepFirst c).Settled := by
  rw [stepFirst]
  split
  · exact settled_of_ne (by simp only [ne_eq, reduceCtorEq, not_false_eq_true])
  · exact settled_stepPlain c

/-- Between two records nothing is unfinished, whatever is read. -/
theorem Settled.step (h : r.Settled) (c : Char) : (r.step c).Settled := by
  rw [Reader.step]
  -- At the start of a record nothing may be left over. Every other place is settled.
  split
  · split
    · exact h
    · exact settled_stepFirst c
  · exact settled_stepFirst c
  · exact settled_stepPlain c
  · split
    · exact settled_of_ne (by simp only [ne_eq, reduceCtorEq, not_false_eq_true])
    · exact settled_of_ne (by simp only [push, ne_eq, reduceCtorEq, not_false_eq_true])
  · split
    · exact settled_of_ne (by simp only [push, ne_eq, reduceCtorEq, not_false_eq_true])
    · exact settled_stepPlain c

theorem Settled.run (h : r.Settled) (text : List Char) : (r.run text).Settled := by
  induction text generalizing r with
  | nil => exact h
  | cons c rest ih => exact ih (h.step c)

/-- Between two records the machine is one that has not read anything, but for the records it has
    put aside. -/
theorem Settled.eq_behind (h : r.Settled) (hplace : r.place = .recordStart) :
    r = start.behind r.records := by
  rcases r with ⟨place, field, record, records⟩
  rcases h hplace with ⟨rfl, rfl⟩
  cases hplace
  rfl

end Reader

/-- A text ends where a record does. -/
def EndsRecord (text : List Char) : Prop := (Reader.start.run text).place = .recordStart

instance (text : List Char) : Decidable (EndsRecord text) := inferInstanceAs (Decidable (_ = _))

/-- The records of a text that stands below a header, with every field trimmed. -/
def rows (text : List Char) : List (List String) :=
  (Reader.start.run text).finish.map (·.map Text.trim)

/-- A text is a header and nothing else: one record, and it is complete. -/
def IsHeader (text : String) : Prop :=
  EndsRecord (withoutMark text.toList) ∧ (rows (withoutMark text.toList)).length = 1

instance (text : String) : Decidable (IsHeader text) := inferInstanceAs (Decidable (_ ∧ _))

/-- What comes after the end of a record is read as if it stood alone. -/
theorem run_append_of_endsRecord {first : List Char} (h : EndsRecord first) (rest : List Char) :
    Reader.start.run (first ++ rest)
      = (Reader.start.run rest).behind (Reader.start.run first).records := by
  have hsettled : (Reader.start.run first).Settled :=
    Reader.Settled.run (fun _ => ⟨rfl, rfl⟩) first
  rw [Reader.run_append, hsettled.eq_behind h, Reader.run_behind]
  rfl

/-- A text that is cut between two records is read part by part. -/
theorem rows_append {first : List Char} (h : EndsRecord first) (rest : List Char) :
    rows (first ++ rest) = rows first ++ rows rest := by
  -- The first part ends with a record, so nothing of it is still open.
  have hfirst : (Reader.start.run first).finish = (Reader.start.run first).records.reverse := by
    rw [Reader.finish, h]
  rw [rows, rows, run_append_of_endsRecord h, Reader.finish_behind, List.map_append, ← hfirst]
  rfl

theorem EndsRecord.append {first rest : List Char} (h : EndsRecord first)
    (hrest : EndsRecord rest) : EndsRecord (first ++ rest) := by
  rw [EndsRecord, run_append_of_endsRecord h]
  exact hrest

/-- The mark can only be at the start. -/
theorem withoutMark_append {first : List Char} (h : first ≠ []) (rest : List Char) :
    withoutMark (first ++ rest) = withoutMark first ++ rest := by
  cases first with
  | nil => exact absurd rfl h
  | cons c tail =>
      rw [List.cons_append, withoutMark, withoutMark]
      split <;> rfl

/-- The table of a header and the text below it. -/
theorem table_of_isHeader {head : String} (h : IsHeader head) (body : String) :
    table (head ++ body) = ⟨(table head).header, rows body.toList⟩ := by
  rcases h with ⟨hends, hsingle⟩
  have hne : head.toList ≠ [] := fun hnil => by
    rw [hnil] at hsingle
    exact absurd hsingle (by decide)
  rcases List.length_eq_one_iff.mp hsingle with ⟨header, hheader⟩
  have hhead : records head = [header] := hheader
  -- The header ends its record, so what comes after it is read as if it stood alone.
  have hbody : records (head ++ body) = header :: rows body.toList := by
    rw [records, String.toList_append, withoutMark_append hne]
    exact (rows_append hends _).trans (congrArg (· ++ _) hheader)
  rw [table, table, hbody, hhead]

end Csv

end SchoolAtlas
