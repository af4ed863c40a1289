import ShapeCompiler.Text.Characters

/-! RDF terms: IRIs, blank nodes and literals, with their order and their texts. -/

namespace ShapeCompiler.Rdf

structure Literal where
  value : String
  datatype : Option String
  language : Option String
deriving DecidableEq, Inhabited

/-- A blank node is known by its label, without the leading underscore and colon. -/
inductive Term where
  | iri (value : String)
  | blank (label : String)
  | literal (parts : Literal)
deriving DecidableEq

namespace Term

instance : Inhabited Term := ⟨iri ""⟩

def plain (value : String) : Term :=
  literal ⟨value, none, none⟩

def iri? : Term → Option String
  | iri value => some value
  | _ => none

def literal? : Term → Option Literal
  | literal parts => some parts
  | _ => none

def literalValue? (term : Term) : Option String :=
  term.literal?.map Literal.value

/-- The text by which messages name a term: an IRI or a lexical value as it stands. -/
def name : Term → String
  | iri value => value
  | blank label => "_:" ++ label
  | literal parts => parts.value

def display : Term → String
  | iri value => "<" ++ value ++ ">"
  | blank label => "_:" ++ label
  | literal ⟨value, _, some language⟩ => Text.quote value ++ "@" ++ language
  | literal ⟨value, some datatype, none⟩ => Text.quote value ++ "^^<" ++ datatype ++ ">"
  | literal ⟨value, none, none⟩ => Text.quote value

def optionKey : Option String → List String
  | none => ["0"]
  | some part => ["1", part]

/-- Terms are ordered by kind first, IRIs before blank nodes before literals, then by their
parts. -/
def orderKey : Term → List String
  | iri value => ["0", value]
  | blank label => ["1", label]
  | literal ⟨value, datatype, language⟩ => "2" :: value :: optionKey datatype ++ optionKey language

instance : LT Term := ⟨fun left right => left.orderKey < right.orderKey⟩

instance : DecidableLT Term := fun left right =>
  inferInstanceAs (Decidable (left.orderKey < right.orderKey))

theorem optionKey_append_inj {left right : Option String} {rest others : List String}
    (same : optionKey left ++ rest = optionKey right ++ others) : left = right ∧ rest = others := by
  cases left <;> cases right <;> simp_all [optionKey]

theorem orderKey_inj {left right : Term} (same : left.orderKey = right.orderKey) :
    left = right := by
  cases left with
  | iri value => cases right <;> simp_all [orderKey]
  | blank label => cases right <;> simp_all [orderKey]
  | literal parts =>
      cases right with
      | iri value => simp [orderKey] at same
      | blank label => simp [orderKey] at same
      | literal others =>
          obtain ⟨value, datatype, language⟩ := parts
          obtain ⟨otherValue, otherDatatype, otherLanguage⟩ := others
          simp only [orderKey, List.cons_append, List.cons.injEq, true_and] at same
          obtain ⟨values, tails⟩ := same
          obtain ⟨datatypes, languages⟩ := optionKey_append_inj tails
          have ends : optionKey language ++ [] = optionKey otherLanguage ++ [] := by
            rw [languages]
          rw [values, datatypes, (optionKey_append_inj ends).1]

instance : Trans (· < · : Term → Term → Prop) (· < · : Term → Term → Prop)
    (· < · : Term → Term → Prop) where
  trans first second := List.lt_trans first second

instance : Std.Irrefl (· < · : Term → Term → Prop) where
  irrefl term := List.lt_irrefl term.orderKey

instance : Std.Trichotomous (· < · : Term → Term → Prop) where
  trichotomous left right notLess notGreater :=
    orderKey_inj (Std.Trichotomous.trichotomous (r := (· < · : List String → List String → Prop))
      left.orderKey right.orderKey notLess notGreater)

end Term

end ShapeCompiler.Rdf
