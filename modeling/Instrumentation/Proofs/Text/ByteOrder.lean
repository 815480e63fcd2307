import Mathlib.Data.String.Basic

namespace Instrumentation

/-! Texts are ordered by their code points. UTF-8 was made so that this is the order of
their bytes as well: the encodings of two characters part at a byte that both of them have,
and the lesser character has the lesser one there. -/

namespace Text

def utf8Bytes (text : String) : List UInt8 :=
  text.toUTF8.data.toList

theorem utf8Bytes_eq (text : String) :
    utf8Bytes text = text.toList.flatMap String.utf8EncodeChar := by
  rw [utf8Bytes, String.toUTF8, ← String.utf8Encode_toList, List.utf8Encode,
    List.toList_data_toByteArray]

theorem bytes_lt_cons {byte other : Nat} {bytes others : List UInt8} (bound : other < 256)
    (le : byte ≤ other) (parts : byte = other → bytes < others) :
    UInt8.ofNat byte :: bytes < UInt8.ofNat other :: others := by
  rw [List.cons_lt_cons_iff]
  rcases Nat.eq_or_lt_of_le le with same | less
  · exact .inr ⟨congrArg UInt8.ofNat same, parts same⟩
  · exact .inl ((UInt8.ofNat_lt_iff_lt (Nat.lt_trans less bound) bound).2 less)

/-- The bytes of the lesser of two characters come first, whatever follows them. -/
theorem encodings_lt {left right : Char} (less : left < right) (bytes others : List UInt8) :
    String.utf8EncodeChar left ++ bytes < String.utf8EncodeChar right ++ others := by
  have codes : left.val.toNat < right.val.toNat := less
  have bound : right.val.toNat < 1114112 := by
    rcases right.valid with low | ⟨-, high⟩
    · omega
    · exact high
  rw [String.utf8EncodeChar, String.utf8EncodeChar]
  generalize left.val.toNat = code at codes ⊢
  generalize right.val.toNat = other at codes bound ⊢
  -- Encodings of different lengths part at their first bytes, and those of one length where
  -- the codes have their first different digits.
  repeat' split
  all_goals first
    | omega
    | (repeat' refine bytes_lt_cons (by omega) (by omega) fun _ => ?_); omega

theorem flatMap_lt {left right : List Char} (less : left < right) :
    left.flatMap String.utf8EncodeChar < right.flatMap String.utf8EncodeChar := by
  induction less with
  | @nil first rest =>
      rw [List.flatMap_nil, List.flatMap_cons]
      cases bytes : String.utf8EncodeChar first with
      | nil =>
          have size := String.length_utf8EncodeChar first
          rw [bytes] at size
          exact absurd size.symm first.utf8Size_pos.ne'
      | cons => exact List.nil_lt_cons ..
  | rel less =>
      rw [List.flatMap_cons, List.flatMap_cons]
      exact encodings_lt less _ _
  | cons less induction =>
      rw [List.flatMap_cons, List.flatMap_cons]
      exact List.append_left_lt induction

theorem lt_iff_utf8Bytes_lt (left right : String) :
    left < right ↔ utf8Bytes left < utf8Bytes right := by
  have preserves {left right : String} (less : left < right) :
      utf8Bytes left < utf8Bytes right := by
    rw [utf8Bytes_eq, utf8Bytes_eq]
    exact flatMap_lt (String.lt_iff_toList_lt.1 less)
  refine ⟨preserves, fun less => ?_⟩
  rcases lt_trichotomy left right with before | rfl | behind
  · exact before
  · exact absurd less (List.lt_irrefl _)
  · exact absurd (preserves behind) (List.lt_asymm less)

end Text

end Instrumentation
