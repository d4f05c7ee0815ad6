import Mathlib.Data.List.Basic
import Mathlib.Data.String.Basic

/-!
# The Order of Bytes

Texts are ordered by their bytes, whichever way one looks at them.

Names are compared in two places. A database compares the bytes that a text is stored as,
one after another, and here a `String` is compared by its characters. Both come to the same
because of how characters are encoded: a greater character is stored as greater bytes, and
the difference shows before either of the two encodings ends. So whatever stands behind two
different characters has no say any more, and equal ones are passed over on both sides.

## Main definitions

* `Text.bytes`: The bytes of a text.

## Theorems

* `Text.encoding_lt`: Different characters decide the order of all that starts with them.
* `Text.bytes_lt_iff`: The order of texts is the order of their bytes.
* `Text.bytes_le_iff`: The same where texts may be equal.
-/

namespace SchoolAtlas

namespace Text

/-- The bytes that a text is stored as. -/
def bytes (s : String) : List UInt8 := s.toUTF8.data.toList

/-- They are those of its characters, one character after another. -/
theorem bytes_eq_flatMap (s : String) : bytes s = s.toList.flatMap String.utf8EncodeChar := by
  have h : (String.ofList s.toList).toByteArray = s.toList.utf8Encode :=
    String.toByteArray_ofList
  rw [String.ofList_toList] at h
  rw [bytes, String.toUTF8_eq_toByteArray, h, List.utf8Encode, List.toList_data_toByteArray]

/-- The order of two bytes that are written as numbers. -/
theorem byte_lt_iff {m n : Nat} (hm : m < 256) (hn : n < 256) :
    UInt8.ofNat m < UInt8.ofNat n ↔ m < n := by
  rw [UInt8.lt_iff_toNat_lt, UInt8.toNat_ofNat', UInt8.toNat_ofNat', Nat.mod_eq_of_lt hm,
    Nat.mod_eq_of_lt hn]

theorem byte_eq_iff {m n : Nat} (hm : m < 256) (hn : n < 256) :
    UInt8.ofNat m = UInt8.ofNat n ↔ m = n := by
  rw [← UInt8.toNat_inj, UInt8.toNat_ofNat', UInt8.toNat_ofNat', Nat.mod_eq_of_lt hm,
    Nat.mod_eq_of_lt hn]

/-- The encodings of different characters decide, whatever stands behind them. -/
theorem encoding_lt {c d : Char} (h : c < d) (u v : List UInt8) :
    String.utf8EncodeChar c ++ u < String.utf8EncodeChar d ++ v := by
  have hlt : c.val.toNat < d.val.toNat := h
  have hd : d.val.toNat < 0x110000 := d.valid.elim (fun h => by omega) (fun h => by omega)
  unfold String.utf8EncodeChar
  generalize c.val.toNat = m at hlt
  generalize d.val.toNat = n at hlt hd
  -- The digits of a code point in base 64, each found from the one before.
  have hdigits : ∀ k : Nat, k / 4096 = k / 64 / 64 ∧ k / 262144 = k / 4096 / 64 := fun k =>
    ⟨(Nat.div_div_eq_div_mul k 64 64).symm, (Nat.div_div_eq_div_mul k 4096 64).symm⟩
  have hdm := hdigits m
  have hdn := hdigits n
  -- The highest digit is small enough to be stored as it is.
  have hm : m / 262144 % 8 = m / 262144 := Nat.mod_eq_of_lt (by omega)
  have hn : n / 262144 % 8 = n / 262144 := Nat.mod_eq_of_lt (by omega)
  simp only [hm, hn]
  -- Of two encodings of one length the first digit that differs decides, and of two lengths
  -- the first byte does.
  split_ifs <;> simp only [List.cons_append, List.nil_append, List.cons_lt_cons_iff] <;>
    simp (disch := omega) only [byte_lt_iff, byte_eq_iff] <;> omega

/-- A text that is less is stored as bytes that are less. -/
theorem flatMap_lt {cs ds : List Char} (h : cs < ds) :
    cs.flatMap String.utf8EncodeChar < ds.flatMap String.utf8EncodeChar := by
  induction cs generalizing ds with
  | nil =>
      cases ds with
      | nil => exact absurd h (List.lt_irrefl [])
      | cons d ds =>
          -- No character is stored as nothing.
          have hpos : 0 < (String.utf8EncodeChar d).length := by
            rw [String.length_utf8EncodeChar]
            exact Char.utf8Size_pos d
          rcases List.exists_cons_of_length_pos hpos with ⟨byte, rest, hbyte⟩
          rw [List.flatMap_nil, List.flatMap_cons, hbyte, List.cons_append]
          exact List.nil_lt_cons byte _
  | cons c cs ih =>
      cases ds with
      | nil => exact absurd h (List.not_lt_nil _)
      | cons d ds =>
          rw [List.flatMap_cons, List.flatMap_cons]
          rcases List.cons_lt_cons_iff.mp h with hlt | ⟨rfl, hlt⟩
          · exact encoding_lt hlt _ _
          · exact List.append_left_lt (ih hlt)

/-- Texts are ordered like their bytes. -/
theorem bytes_lt_iff {s t : String} : bytes s < bytes t ↔ s < t := by
  have hlt : ∀ {s t : String}, s < t → bytes s < bytes t := by
    intro s t h
    rw [bytes_eq_flatMap, bytes_eq_flatMap]
    exact flatMap_lt (String.lt_iff.mp h)
  refine ⟨fun h => ?_, hlt⟩
  -- Of two texts one is less unless they are equal, and their bytes say which.
  rcases lt_trichotomy s t with hst | rfl | hts
  · exact hst
  · exact absurd h (List.lt_irrefl _)
  · exact absurd h (List.lt_asymm (hlt hts))

theorem bytes_le_iff {s t : String} : bytes s ≤ bytes t ↔ s ≤ t := by
  rw [← String.not_lt, ← bytes_lt_iff]
  exact Iff.rfl

end Text

end SchoolAtlas
