import ShapeCompiler.Proofs.Text.ByteOrder
import ShapeCompiler.Rdf.Term

/-! The order of terms is the order of their kinds and then that of their parts, one after the other. -/

namespace ShapeCompiler.Rdf

open Text (bytes bytes_lt_iff)

inductive PartPrecedes : Option String → Option String → Prop where
  | missing (part : String) : PartPrecedes none (some part)
  | present {left right : String} (less : bytes left < bytes right) :
      PartPrecedes (some left) (some right)

theorem partPrecedes_some_iff {left right : String} :
    PartPrecedes (some left) (some right) ↔ left < right := by
  rw [← bytes_lt_iff]
  constructor
  · intro precedes
    cases precedes with
    | present less => exact less
  · exact .present

inductive Literal.Precedes (left right : Literal) : Prop where
  | value (less : bytes left.value < bytes right.value)
  | datatype (values : left.value = right.value) (less : PartPrecedes left.datatype right.datatype)
  | language (values : left.value = right.value) (datatypes : left.datatype = right.datatype)
      (less : PartPrecedes left.language right.language)

namespace Term

/-- IRIs come before blank nodes and these before literals. Terms of one kind are ordered by the bytes of
their parts. -/
inductive Precedes : Term → Term → Prop where
  | iris {left right : String} (less : bytes left < bytes right) : Precedes (iri left) (iri right)
  | iriBlank (value label : String) : Precedes (iri value) (blank label)
  | iriLiteral (value : String) (parts : Literal) : Precedes (iri value) (literal parts)
  | blanks {left right : String} (less : bytes left < bytes right) :
      Precedes (blank left) (blank right)
  | blankLiteral (label : String) (parts : Literal) : Precedes (blank label) (literal parts)
  | literals {left right : Literal} (less : left.Precedes right) :
      Precedes (literal left) (literal right)

theorem lt_iff_orderKey {left right : Term} : left < right ↔ left.orderKey < right.orderKey :=
  Iff.rfl

theorem optionKey_append_lt_iff {left right : Option String} {rest others : List String} :
    optionKey left ++ rest < optionKey right ++ others ↔
      PartPrecedes left right ∨ left = right ∧ rest < others := by
  -- the mark of a part that is missing is the smaller one
  have marked (part : String) (rest others : List String) :
      optionKey none ++ rest < optionKey (some part) ++ others :=
    List.cons_lt_cons_iff.mpr (Or.inl (by decide))
  cases left with
  | none =>
      cases right with
      | none =>
          have never : ¬ PartPrecedes none none := nofun
          simp [optionKey, never]
      | some part => exact iff_of_true (marked part rest others) (Or.inl (.missing part))
  | some part =>
      cases right with
      | none =>
          refine iff_of_false (List.lt_asymm (marked part others rest)) ?_
          rintro (precedes | ⟨same, -⟩)
          · cases precedes
          · cases same
      | some other => simp [optionKey, List.cons_lt_cons_iff, partPrecedes_some_iff]

theorem iri_lt_iff {left right : String} : iri left < iri right ↔ left < right := by
  simp [lt_iff_orderKey, orderKey, List.cons_lt_cons_iff]

theorem blank_lt_iff {left right : String} : blank left < blank right ↔ left < right := by
  simp [lt_iff_orderKey, orderKey, List.cons_lt_cons_iff]

theorem literal_lt_iff {left right : Literal} :
    literal left < literal right ↔ left.Precedes right := by
  have keys : literal left < literal right ↔ left.value < right.value ∨
      left.value = right.value ∧ (PartPrecedes left.datatype right.datatype ∨
        left.datatype = right.datatype ∧ PartPrecedes left.language right.language) := by
    have last : optionKey left.language < optionKey right.language ↔
        PartPrecedes left.language right.language := by
      simpa using @optionKey_append_lt_iff left.language right.language [] []
    simp [lt_iff_orderKey, orderKey, List.cons_lt_cons_iff, optionKey_append_lt_iff, last]
  rw [keys, ← bytes_lt_iff]
  constructor
  · rintro (less | ⟨values, less | ⟨datatypes, less⟩⟩)
    · exact .value less
    · exact .datatype values less
    · exact .language values datatypes less
  · rintro (less | ⟨values, less⟩ | ⟨values, datatypes, less⟩)
    · exact Or.inl less
    · exact Or.inr ⟨values, Or.inl less⟩
    · exact Or.inr ⟨values, Or.inr ⟨datatypes, less⟩⟩

theorem lt_of_kind {left right : Term} {kind other : String} {parts others : List String}
    (leftKey : left.orderKey = kind :: parts) (rightKey : right.orderKey = other :: others)
    (less : kind < other) : left < right := by
  rw [lt_iff_orderKey, leftKey, rightKey]
  exact List.cons_lt_cons_iff.mpr (Or.inl less)

theorem iri_lt_blank (value label : String) : iri value < blank label :=
  lt_of_kind rfl rfl (by decide : "0" < "1")

theorem iri_lt_literal (value : String) (parts : Literal) : iri value < literal parts :=
  lt_of_kind rfl rfl (by decide : "0" < "2")

theorem blank_lt_literal (label : String) (parts : Literal) : blank label < literal parts :=
  lt_of_kind rfl rfl (by decide : "1" < "2")

theorem lt_iff_precedes {left right : Term} : left < right ↔ left.Precedes right := by
  cases left with
  | iri value =>
      cases right with
      | iri other =>
          rw [iri_lt_iff, ← bytes_lt_iff]
          exact ⟨.iris, fun | .iris less => less⟩
      | blank label => exact iff_of_true (iri_lt_blank value label) (.iriBlank value label)
      | literal parts => exact iff_of_true (iri_lt_literal value parts) (.iriLiteral value parts)
  | blank label =>
      cases right with
      | iri value => exact iff_of_false (List.lt_asymm (iri_lt_blank value label)) nofun
      | blank other =>
          rw [blank_lt_iff, ← bytes_lt_iff]
          exact ⟨.blanks, fun | .blanks less => less⟩
      | literal parts =>
          exact iff_of_true (blank_lt_literal label parts) (.blankLiteral label parts)
  | literal parts =>
      cases right with
      | iri value => exact iff_of_false (List.lt_asymm (iri_lt_literal value parts)) nofun
      | blank label => exact iff_of_false (List.lt_asymm (blank_lt_literal label parts)) nofun
      | literal others =>
          rw [literal_lt_iff]
          exact ⟨.literals, fun | .literals less => less⟩

end Term

end ShapeCompiler.Rdf
