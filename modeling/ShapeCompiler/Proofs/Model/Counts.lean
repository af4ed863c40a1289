import ShapeCompiler.Proofs.Model.Values
import ShapeCompiler.Proofs.Text.Cuts
import ShapeCompiler.Proofs.Text.Letters

/-! Counts are read exactly. A literal whose text is a number within white space gives this number if it fits
64 bits, and every other value is a fault that names it. -/

namespace ShapeCompiler.Model

open Rdf (Graph Term)

/-- A text is a number in decimal digits, one or more, perhaps with a plus sign before them and with white
space around. -/
inductive Spells (text : String) : Nat → Prop where
  | within {before sign digits behind : List Char}
      (split : text.toList = before ++ (sign ++ digits) ++ behind)
      (blankBefore : ∀ c ∈ before, Text.isBlank c = true)
      (blankBehind : ∀ c ∈ behind, Text.isBlank c = true)
      (signed : sign = [] ∨ sign = ['+'])
      (filled : digits ≠ [])
      (decimal : ∀ digit ∈ digits, digit.isDigit = true) :
      Spells text (numberOf digits)

theorem isBlank_of_isDigit {c : Char} (decimal : c.isDigit = true) : Text.isBlank c = false := by
  have ascii := Text.isAscii_of_isAlphanum ((Bool.or_eq_true _ _).mpr (Or.inr decimal))
  exact Text.of_isAscii (fun c => c.isDigit = true → Text.isBlank c = false) (by decide) ascii decimal

theorem isTrimmed_of_digits {text : String} {before sign digits behind : List Char}
    (split : text.toList = before ++ (sign ++ digits) ++ behind)
    (blankBefore : ∀ c ∈ before, Text.isBlank c = true)
    (blankBehind : ∀ c ∈ behind, Text.isBlank c = true) (signed : sign = [] ∨ sign = ['+'])
    (decimal : ∀ digit ∈ digits, digit.isDigit = true) :
    Text.IsTrimmed text.toList (sign ++ digits) := by
  have visible : ∀ c ∈ sign ++ digits, Text.isBlank c = false := by
    intro c member
    rcases List.mem_append.mp member with inSign | inDigits
    · rcases signed with rfl | rfl
      · cases inSign
      · rw [List.mem_singleton.mp inSign]
        decide
    · exact isBlank_of_isDigit (decimal c inDigits)
  exact ⟨⟨before, behind, split, blankBefore, blankBehind⟩,
    fun c first => visible c (List.mem_of_head? first),
    fun c last => visible c (List.mem_of_getLast? last)⟩

theorem exists_denotes_iff {text : String} {count : Nat} :
    (∃ digits, Denotes text digits ∧ numberOf digits = count) ↔ Spells text count := by
  constructor
  · rintro ⟨digits, denotes, rfl⟩
    obtain ⟨before, behind, split, blankBefore, blankBehind⟩ := (Text.isTrimmed_trim text).split
    rcases denotes.spelled with bare | signed
    · rw [bare] at split
      exact @Spells.within text before [] digits behind split blankBefore blankBehind (Or.inl rfl)
        denotes.filled denotes.decimal
    · rw [signed] at split
      exact @Spells.within text before ['+'] digits behind split blankBefore blankBehind (Or.inr rfl)
        denotes.filled denotes.decimal
  · rintro ⟨split, blankBefore, blankBehind, signed, filled, decimal⟩
    rename_i digits _
    have trimmed := Text.toList_trim_eq_iff.mpr
      (isTrimmed_of_digits split blankBefore blankBehind signed decimal)
    refine ⟨digits, ⟨?_, filled, decimal⟩, rfl⟩
    rcases signed with rfl | rfl
    · exact Or.inl trimmed
    · exact Or.inr trimmed

theorem readCount?_eq_some_iff_spells {text : String} {count : Nat} :
    readCount? text = some count ↔ Spells text count ∧ count ≤ 18446744073709551615 := by
  rw [readCount?_eq_some, ← exists_denotes_iff]
  constructor
  · rintro ⟨digits, denotes, made, fits⟩
    exact ⟨⟨digits, denotes, made⟩, fits⟩
  · rintro ⟨⟨digits, denotes, made⟩, fits⟩
    exact ⟨digits, denotes, made, fits⟩

section

variable {α : Type} {read : String → Option α} {graph : Graph} {subject : Term} {predicate : String}

theorem bind_literalValue?_eq_some {value : Term} {result : α} :
    value.literalValue?.bind read = some result ↔
      ∃ parts, value = .literal parts ∧ read parts.value = some result := by
  cases value <;> simp [Term.literalValue?, Term.literal?]

theorem readValue?_eq_none_iff :
    readValue? read graph subject predicate = .ok none ↔ graph.value? subject predicate = none := by
  unfold readValue?
  split
  · rename_i absent
    simp [absent]
  · rename_i value carried
    rw [carried]
    split <;> simp

theorem readValue?_eq_some_iff {result : α} :
    readValue? read graph subject predicate = .ok (some result) ↔
      ∃ parts, graph.value? subject predicate = some (.literal parts) ∧
        read parts.value = some result := by
  unfold readValue?
  split
  · rename_i absent
    simp [absent]
  · rename_i value carried
    simp only [carried, Option.some.injEq, ← bind_literalValue?_eq_some]
    split
    · rename_i found reads
      simp [reads]
    · rename_i refused
      simp [refused]

theorem readValue?_eq_error_iff {fault : BuildError} :
    readValue? read graph subject predicate = .error fault ↔
      ∃ value, graph.value? subject predicate = some value ∧
        invalidLiteral subject predicate value = fault ∧
        ∀ parts, value = .literal parts → read parts.value = none := by
  unfold readValue?
  split
  · rename_i absent
    simp [absent]
  · rename_i value carried
    have refuses : value.literalValue?.bind read = none ↔
        ∀ parts, value = .literal parts → read parts.value = none := by
      cases value <;> simp [Term.literalValue?, Term.literal?]
    simp only [carried, Option.some.injEq, exists_eq_left', ← refuses]
    split
    · rename_i found reads
      simp [reads]
    · rename_i refused
      simp [refused]

end

/-- A count is given exactly for a literal that spells it and if it fits 64 bits, nothing is given exactly
where there is no value, and every other value is a fault that names it. -/
theorem counts_exact (graph : Graph) (subject : Term) (predicate : String) :
    (∀ count, count? graph subject predicate = .ok (some count) ↔
      ∃ parts, graph.value? subject predicate = some (.literal parts) ∧
        Spells parts.value count ∧ count ≤ 18446744073709551615) ∧
    (count? graph subject predicate = .ok none ↔ graph.value? subject predicate = none) ∧
    ∀ fault, count? graph subject predicate = .error fault ↔
      ∃ value, graph.value? subject predicate = some value ∧
        .invalidLiteral subject.name predicate value.name = fault ∧
        ∀ parts count, value = .literal parts → Spells parts.value count →
          18446744073709551615 < count := by
  refine ⟨?_, readValue?_eq_none_iff, ?_⟩
  · intro count
    simp only [count?, readValue?_eq_some_iff, readCount?_eq_some_iff_spells]
  · intro fault
    rw [count?, readValue?_eq_error_iff]
    refine exists_congr fun value => and_congr_right fun _ => and_congr_right fun _ => ?_
    constructor
    · intro refused parts count literal spells
      by_contra fits
      have reads := readCount?_eq_some_iff_spells.mpr ⟨spells, Nat.le_of_not_lt fits⟩
      rw [refused parts literal] at reads
      cases reads
    · intro large parts literal
      refine Option.eq_none_iff_forall_ne_some.mpr fun count reads => ?_
      obtain ⟨spells, fits⟩ := readCount?_eq_some_iff_spells.mp reads
      exact absurd fits (Nat.not_le.mpr (large parts count literal spells))

def limitGraph : Graph :=
  .ofList [
    ⟨.blank "shape", Rdf.Vocabulary.shMinCount, .plain "\t+0018446744073709551615 "⟩,
    ⟨.blank "shape", Rdf.Vocabulary.shMaxCount, .plain "18446744073709551616"⟩]

theorem counts_exact_limit :
    Spells "\t+0018446744073709551615 " 18446744073709551615 ∧
      count? limitGraph (.blank "shape") Rdf.Vocabulary.shMinCount =
        .ok (some 18446744073709551615) ∧
      ∀ count, Spells "18446744073709551616" count → 18446744073709551615 < count := by
  have greatest : Spells "\t+0018446744073709551615 " 18446744073709551615 :=
    @Spells.within _ ['\t'] ['+'] "0018446744073709551615".toList [' '] (by decide)
      (List.all_eq_true.mp (by decide)) (List.all_eq_true.mp (by decide)) (Or.inr rfl) (by decide)
      (List.all_eq_true.mp (by decide))
  obtain ⟨given, _, _⟩ := counts_exact limitGraph (.blank "shape") Rdf.Vocabulary.shMinCount
  obtain ⟨_, _, refused⟩ := counts_exact limitGraph (.blank "shape") Rdf.Vocabulary.shMaxCount
  refine ⟨greatest, (given _).mpr ⟨⟨_, none, none⟩, by decide, greatest, Nat.le_refl _⟩, ?_⟩
  have fails : count? limitGraph (.blank "shape") Rdf.Vocabulary.shMaxCount =
      .error (.invalidLiteral "_:shape" Rdf.Vocabulary.shMaxCount "18446744073709551616") := by
    decide
  obtain ⟨value, carried, -, large⟩ := (refused _).mp fails
  have literal : limitGraph.value? (.blank "shape") Rdf.Vocabulary.shMaxCount =
      some (.plain "18446744073709551616") := by decide
  rw [literal, Option.some.injEq] at carried
  intro count spells
  exact large _ count carried.symm spells

end ShapeCompiler.Model
