import Mathlib.Data.Nat.Digits.Defs
import ShapeCompiler.Model.Attribute

/-! The texts that count as truth values, and those that count as numbers. -/

namespace ShapeCompiler.Model

def IsTruth (text : String) : Prop :=
  Text.trim text ∈ ["true", "1", "false", "0"]

theorem readTruth?_eq_none {text : String} : readTruth? text = none ↔ ¬ IsTruth text := by
  unfold readTruth? IsTruth
  dsimp only
  split
  · rename_i yes
    simp only [Bool.or_eq_true, decide_eq_true_eq] at yes
    rcases yes with same | same <;> simp [same]
  · rename_i notYes
    simp only [Bool.or_eq_true, decide_eq_true_eq, not_or] at notYes
    split
    · rename_i no
      simp only [Bool.or_eq_true, decide_eq_true_eq] at no
      rcases no with same | same <;> simp [same]
    · rename_i notNo
      simp only [Bool.or_eq_true, decide_eq_true_eq, not_or] at notNo
      simp [notYes, notNo]

def numberOf (digits : List Char) : Nat :=
  Nat.ofDigits 10 (digits.reverse.map fun digit => digit.toNat - '0'.toNat)

structure Denotes (text : String) (digits : List Char) : Prop where
  spelled : (Text.trim text).toList = digits ∨ (Text.trim text).toList = '+' :: digits
  filled : digits ≠ []
  decimal : ∀ digit ∈ digits, digit.isDigit = true

def IsCount (text : String) : Prop :=
  ∃ digits, Denotes text digits ∧ numberOf digits ≤ largestCount

def numberFrom (count : Nat) (digits : List Char) : Nat :=
  digits.foldl (fun value digit => value * 10 + (digit.toNat - '0'.toNat)) count

theorem numberFrom_zero (digits : List Char) : numberFrom 0 digits = numberOf digits := by
  rw [numberFrom, numberOf, Nat.ofDigits_eq_foldr, List.foldr_map, ← List.foldl_eq_foldr_reverse]
  congr 1
  funext value digit
  simp only [Nat.cast_id]
  omega

theorem le_numberFrom (digits : List Char) (count : Nat) : count ≤ numberFrom count digits := by
  induction digits generalizing count with
  | nil => exact Nat.le_refl count
  | cons digit rest ih =>
      have further := ih (count * 10 + (digit.toNat - '0'.toNat))
      change count ≤ numberFrom (count * 10 + (digit.toNat - '0'.toNat)) rest
      omega

theorem appendDigit?_eq_some {count longer : Nat} {digit : Char} :
    appendDigit? count digit = some longer ↔ digit.isDigit = true ∧
      count * 10 + (digit.toNat - '0'.toNat) = longer ∧ longer ≤ largestCount := by
  unfold appendDigit?
  split
  · rename_i decimal
    dsimp only
    split
    · rename_i fits
      rw [Option.some.injEq]
      refine ⟨fun same => ⟨decimal, same, same ▸ fits⟩, fun made => made.2.1⟩
    · rename_i large
      refine iff_of_false nofun ?_
      rintro ⟨-, rfl, fits⟩
      exact large fits
  · rename_i other
    exact iff_of_false nofun fun made => other made.1

theorem countFrom?_eq_some {digits : List Char} {count value : Nat} (fits : count ≤ largestCount) :
    countFrom? count digits = some value ↔
      (∀ digit ∈ digits, digit.isDigit = true) ∧ numberFrom count digits = value ∧
        value ≤ largestCount := by
  induction digits generalizing count with
  | nil =>
      rw [countFrom?, Option.some.injEq]
      refine ⟨fun same => ⟨nofun, same, same ▸ fits⟩, fun made => made.2.1⟩
  | cons digit rest ih =>
      rw [countFrom?, Option.bind_eq_some_iff, List.forall_mem_cons]
      constructor
      · rintro ⟨longer, appended, reads⟩
        obtain ⟨decimal, rfl, below⟩ := appendDigit?_eq_some.mp appended
        obtain ⟨others, made, bounded⟩ := (ih below).mp reads
        exact ⟨⟨decimal, others⟩, made, bounded⟩
      · rintro ⟨⟨decimal, others⟩, made, bounded⟩
        have below : count * 10 + (digit.toNat - '0'.toNat) ≤ largestCount := by
          have grown := le_numberFrom rest (count * 10 + (digit.toNat - '0'.toNat))
          exact (grown.trans_eq made).trans bounded
        exact ⟨_, appendDigit?_eq_some.mpr ⟨decimal, rfl, below⟩,
          (ih below).mpr ⟨others, made, bounded⟩⟩

theorem exists_unsigned (text : String) : ∃ digits,
    ((Text.trim text).toList = digits ∧ digits.head? ≠ some '+' ∨
      (Text.trim text).toList = '+' :: digits) ∧
    readCount? text = if digits.isEmpty then none else countFrom? 0 digits := by
  unfold readCount?
  dsimp only
  split
  · rename_i digits signed
    exact ⟨digits, Or.inr signed, rfl⟩
  · rename_i unsigned
    refine ⟨_, Or.inl ⟨rfl, ?_⟩, rfl⟩
    intro first
    obtain ⟨digits, spelled⟩ := List.head?_eq_some_iff.mp first
    exact unsigned digits spelled

theorem readCount?_eq_some {text : String} {count : Nat} :
    readCount? text = some count ↔
      ∃ digits, Denotes text digits ∧ numberOf digits = count ∧ count ≤ largestCount := by
  obtain ⟨digits, spelled, reads⟩ := exists_unsigned text
  have only (other : List Char) (denotes : Denotes text other) : other = digits := by
    have signless : other.head? ≠ some '+' := by
      intro first
      exact absurd (denotes.decimal '+' (List.mem_of_head? first)) (by decide)
    rcases spelled with ⟨own, bare⟩ | signed <;> rcases denotes.spelled with same | same
    · rw [← same, own]
    · rw [own] at same
      rw [same] at bare
      exact absurd rfl bare
    · rw [← same, signed] at signless
      exact absurd rfl signless
    · exact (List.cons.inj (same.symm.trans signed)).2
  rw [reads]
  constructor
  · intro found
    split at found
    · cases found
    · rename_i filled
      obtain ⟨decimal, made, fits⟩ := (countFrom?_eq_some (Nat.zero_le _)).mp found
      rw [numberFrom_zero] at made
      rw [List.isEmpty_iff] at filled
      exact ⟨digits, ⟨spelled.imp_left And.left, filled, decimal⟩, made, fits⟩
  · rintro ⟨other, denotes, made, fits⟩
    obtain rfl := only other denotes
    rw [if_neg (by simpa using denotes.filled)]
    rw [← numberFrom_zero] at made
    exact (countFrom?_eq_some (Nat.zero_le _)).mpr ⟨denotes.decimal, made, fits⟩

theorem readCount?_eq_none {text : String} : readCount? text = none ↔ ¬ IsCount text := by
  rw [Option.eq_none_iff_forall_ne_some]
  constructor
  · rintro none ⟨digits, denotes, fits⟩
    exact none _ (readCount?_eq_some.mpr ⟨digits, denotes, rfl, fits⟩)
  · intro other count found
    obtain ⟨digits, denotes, rfl, fits⟩ := readCount?_eq_some.mp found
    exact other ⟨digits, denotes, fits⟩

end ShapeCompiler.Model
