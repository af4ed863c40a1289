import ShapeCompiler.Text.Characters

/-! Letters, digits and marks. The case tables give no mark of ASCII for a letter. -/

namespace ShapeCompiler.Text

def isLetterlike (c : Char) : Bool :=
  !isAscii c || c.isAlphanum

theorem isLetterlike_of_isAlphanumeric {c : Char} (letter : isAlphanumeric c = true) :
    isLetterlike c = true := by
  unfold isAlphanumeric at letter
  unfold isLetterlike
  split at letter
  · rw [letter, Bool.or_true]
  · rename_i high
    rw [Bool.not_eq_true] at high
    rw [high]
    rfl

theorem isAlphanum_of_isLetterlike {c : Char} (ascii : isAscii c = true)
    (letterlike : isLetterlike c = true) : c.isAlphanum = true := by
  unfold isLetterlike at letterlike
  rwa [ascii] at letterlike

theorem of_isAscii (property : Char → Prop) (each : ∀ code < 128, property (Char.ofNat code))
    {c : Char} (ascii : isAscii c = true) : property c := by
  have own := each c.toNat (by simpa [isAscii] using ascii)
  rwa [Char.ofNat_toNat] at own

theorem isAscii_of_isAlphanum {c : Char} (letter : c.isAlphanum = true) : isAscii c = true := by
  have within {last : UInt32} (small : last.toNat < 128) (below : c.val ≤ last) : isAscii c = true :=
    decide_eq_true (Nat.lt_of_le_of_lt (UInt32.le_iff_toNat_le.mp below) small)
  rcases (Bool.or_eq_true _ _).mp letter with alphabetic | digit
  · rcases (Bool.or_eq_true _ _).mp alphabetic with capital | lower
    · exact within (by decide) (of_decide_eq_true capital).2
    · exact within (by decide) (of_decide_eq_true ((Bool.and_eq_true _ _).mp lower).2)
  · exact within (by decide) (of_decide_eq_true ((Bool.and_eq_true _ _).mp digit).2)

theorem isAlphanumeric_of_isAlphanum {c : Char} (letter : c.isAlphanum = true) :
    isAlphanumeric c = true := by
  rwa [isAlphanumeric, if_pos (isAscii_of_isAlphanum letter)]

theorem isLetterlike_ofNat {code : Nat} (valid : code.isValidChar) (high : 128 ≤ code) :
    isLetterlike (Char.ofNat code) = true := by
  have codes : (Char.ofNat code).toNat = code := by
    rw [Char.ofNat, dif_pos valid]
    rfl
  have above : isAscii (Char.ofNat code) = false := by
    rw [isAscii, codes]
    exact decide_eq_false (by omega)
  rw [isLetterlike, above]
  rfl

def Shift.staysLetterlike (shift : Shift) : Bool :=
  let last := shift.target + (shift.run.last - shift.run.first)
  128 ≤ shift.target && (last < 0xd800 || (0xdfff < shift.target && last < 0x110000)) ||
    shift.run.last ≤ shift.run.first && isLetterlike (Char.ofNat shift.target)

theorem isLetterlike_apply? {shift : Shift} (stays : shift.staysLetterlike = true) {code : Nat}
    {c : Char} (applied : shift.apply? code = some c) : isLetterlike c = true := by
  unfold Shift.apply? at applied
  split at applied
  · rename_i inside
    cases applied
    simp only [Run.contains, Bool.and_eq_true, decide_eq_true_eq] at inside
    simp only [Shift.staysLetterlike, Bool.or_eq_true, Bool.and_eq_true, decide_eq_true_eq] at stays
    rcases stays with ⟨high, valid⟩ | ⟨single, letterlike⟩
    · refine isLetterlike_ofNat ?_ (by omega)
      simp only [Nat.isValidChar]
      omega
    · have only : code - shift.run.first = 0 := by omega
      rwa [only, Nat.add_zero]
  · cases applied

theorem isLetterlike_shifted {shifts : List Shift}
    (stay : ∀ shift ∈ shifts, shift.staysLetterlike = true) {c : Char}
    (letterlike : isLetterlike c = true) : isLetterlike (shifted shifts c) = true := by
  unfold shifted
  cases found : shifts.findSome? fun shift => shift.apply? c.toNat with
  | none => exact letterlike
  | some d =>
      obtain ⟨shift, listed, applied⟩ := List.exists_of_findSome?_eq_some found
      exact isLetterlike_apply? (stay shift listed) applied

theorem uppercaseShifts_stay : ∀ shift ∈ uppercaseShifts, shift.staysLetterlike = true := by
  decide +kernel

theorem lowercaseShifts_stay : ∀ shift ∈ lowercaseShifts, shift.staysLetterlike = true := by
  decide +kernel

theorem uppercaseSequences_letterlike :
    ∀ entry ∈ uppercaseSequences, ∀ code ∈ entry.2, isLetterlike (Char.ofNat code) = true := by
  decide +kernel

theorem isLetterlike_of_mem_uppercase {c d : Char} (letterlike : isLetterlike c = true)
    (member : d ∈ uppercase c) : isLetterlike d = true := by
  unfold uppercase at member
  split at member
  · rename_i ascii
    rw [List.mem_singleton.mp member]
    exact of_isAscii (fun c => isLetterlike c = true → isLetterlike c.toUpper = true) (by decide) ascii
      letterlike
  · split at member
    · rename_i entry found
      obtain ⟨code, inside, rfl⟩ := List.mem_map.mp member
      exact uppercaseSequences_letterlike entry (List.mem_of_find?_eq_some found) code inside
    · rw [List.mem_singleton.mp member]
      exact isLetterlike_shifted uppercaseShifts_stay letterlike

theorem isLetterlike_of_mem_lowercase {c d : Char} (capital : isUppercase c = true)
    (member : d ∈ lowercase c) : isLetterlike d = true := by
  unfold lowercase at member
  split at member
  · rename_i ascii
    rw [List.mem_singleton.mp member]
    exact of_isAscii (fun c => isUppercase c = true → isLetterlike c.toLower = true) (by decide) ascii
      capital
  · rename_i high
    split at member
    · have letterlike : ['i', '\u0307'].all isLetterlike = true := by decide
      exact List.all_eq_true.mp letterlike d member
    · rw [List.mem_singleton.mp member]
      refine isLetterlike_shifted lowercaseShifts_stay ?_
      rw [Bool.not_eq_true] at high
      rw [isLetterlike, high]
      rfl

end ShapeCompiler.Text
