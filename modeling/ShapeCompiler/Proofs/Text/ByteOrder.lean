import ShapeCompiler.Text.Cut

/-! The bytes of texts. A text is read back from its bytes, and the order of texts is the order of their
bytes: a lesser character has a lesser encoding, whatever comes after it, since no encoding is the start of
another. -/

namespace ShapeCompiler.Text

theorem bytes_eq_flatMap (text : String) :
    bytes text = text.toList.flatMap String.utf8EncodeChar := by
  have encoded : text.toByteArray = text.toList.utf8Encode := by
    rw [← String.toByteArray_ofList, String.ofList_toList]
  rw [bytes, String.toUTF8, encoded]
  simp [List.utf8Encode]

theorem cons_ofNat_lt {left right : Nat} (leftBound : left < 256) (rightBound : right < 256)
    (rest others : List UInt8) :
    UInt8.ofNat left :: rest < UInt8.ofNat right :: others ↔
      left < right ∨ left = right ∧ rest < others := by
  rw [List.cons_lt_cons_iff, UInt8.lt_iff_toNat_lt, ← UInt8.toNat_inj, UInt8.toNat_ofNat',
    UInt8.toNat_ofNat', Nat.mod_eq_of_lt leftBound, Nat.mod_eq_of_lt rightBound]

theorem digits_le {left right : Nat} (notGreater : left ≤ right) :
    left / 64 < right / 64 ∨ left / 64 = right / 64 ∧ left % 64 ≤ right % 64 := by
  omega

theorem encoded_lt {c d : Char} (less : c < d) (rest others : List UInt8) :
    String.utf8EncodeChar c ++ rest < String.utf8EncodeChar d ++ others := by
  have below : c.val.toNat < d.val.toNat := less
  have bound : d.val.toNat < 1114112 := by
    have valid := d.valid
    omega
  simp only [String.utf8EncodeChar]
  generalize c.val.toNat = code at below
  generalize d.val.toNat = other at below bound
  have fourth := digits_le (Nat.le_of_lt below)
  have third := digits_le (Nat.div_le_div_right (c := 64) (Nat.le_of_lt below))
  have second := digits_le (Nat.div_le_div_right (c := 4096) (Nat.le_of_lt below))
  rw [Nat.div_div_eq_div_mul, Nat.div_div_eq_div_mul] at second third
  have codeFirst : code / 262144 % 8 = code / 262144 := Nat.mod_eq_of_lt (by omega)
  have otherFirst : other / 262144 % 8 = other / 262144 := Nat.mod_eq_of_lt (by omega)
  rw [codeFirst, otherFirst]
  -- One case for each pair of lengths; a greater character has no shorter encoding.
  repeat' split
  all_goals try omega
  all_goals
    simp (disch := omega) only [List.cons_append, List.nil_append, cons_ofNat_lt]
    omega

theorem encoded_ne_nil (c : Char) : String.utf8EncodeChar c ≠ [] := by
  intro empty
  have counted := congrArg List.length empty
  rw [String.length_utf8EncodeChar] at counted
  exact absurd counted (Nat.ne_of_gt c.utf8Size_pos)

theorem flatMap_encoded_lt {left right : List Char} (less : left < right) :
    left.flatMap String.utf8EncodeChar < right.flatMap String.utf8EncodeChar := by
  induction less with
  | @nil d right =>
      obtain ⟨first, others, encoded⟩ := List.exists_cons_of_ne_nil (encoded_ne_nil d)
      rw [List.flatMap_nil, List.flatMap_cons, encoded]
      exact List.nil_lt_cons _ _
  | rel less => exact encoded_lt less _ _
  | cons _ ih => exact List.append_left_lt ih

theorem bytes_lt_iff {left right : String} : bytes left < bytes right ↔ left < right := by
  rw [bytes_eq_flatMap, bytes_eq_flatMap, String.lt_iff]
  constructor
  · intro less
    rcases Std.Trichotomous.rel_or_eq_or_rel_swap (r := (· < · : List Char → List Char → Prop))
      (a := left.toList) (b := right.toList) with before | same | after
    · exact before
    · exact absurd less (same ▸ List.lt_irrefl _)
    · exact absurd less (List.lt_asymm (flatMap_encoded_lt after))
  · exact flatMap_encoded_lt

end ShapeCompiler.Text
