import ShapeCompiler.Context.Compaction

/-! A resolver: context documents, those of higher priority first, and the vocabularies in force.
It answers six questions, expansion and compaction of plain terms, of node identifiers and of
vocabulary terms. No question fails: a name to which nothing applies is its own answer. -/

namespace ShapeCompiler.Context

/-- The vocabularies are in the order in which they came into force. -/
structure Resolver where
  documents : List Document
  vocabularies : List String

namespace Resolver

/-- Documents that say nothing are left out. -/
def ofDocuments (documents : List Document) : Resolver :=
  ⟨documents.filter fun document => !document.isEmpty, []⟩

def documentsOfJson : List Json → Except Fault (List Document)
  | [] => .ok []
  | value :: values =>
      match Document.ofJson value with
      | .error fault => .error fault
      | .ok document => (documentsOfJson values).map (document :: ·)

def ofJson (values : List Json) : Except Fault Resolver :=
  (documentsOfJson values).map ofDocuments

def isInert (vocabulary : Option String) : Bool :=
  vocabulary.getD "" == ""

def push (resolver : Resolver) (vocabulary : Option String) : Resolver :=
  if isInert vocabulary then resolver
  else { resolver with vocabularies := resolver.vocabularies ++ [vocabulary.getD ""] }

def pop (resolver : Resolver) : Resolver :=
  { resolver with vocabularies := resolver.vocabularies.dropLast }

def currentVocabulary? (resolver : Resolver) : Option String :=
  resolver.vocabularies.getLast?

def expandIri (resolver : Resolver) (name : String) : String :=
  expand resolver.documents .none name

def expandId (resolver : Resolver) (name : String) : String :=
  expand resolver.documents ⟨true, false⟩ name

def nestedFor? (resolver : Resolver) (vocabulary : String) (definition : Definition Document) :
    Option Document :=
  match definition.nested with
  | some nested =>
      if definition.type = some .vocab && resolver.expandIri definition.id = vocabulary then
        some nested
      else none
  | none => none

/-- The nested documents of the vocabularies in force, the most recent first; of one vocabulary, those
declared last come first. -/
def scopedDocuments (resolver : Resolver) : List Document :=
  (resolver.vocabularies.flatMap fun vocabulary =>
    resolver.documents.flatMap fun document =>
      document.terms.filterMap fun term => resolver.nestedFor? vocabulary term.2).reverse

def expandVocab (resolver : Resolver) (name : String) : String :=
  expand (resolver.scopedDocuments ++ resolver.documents) ⟨true, true⟩ name

def compactIri (resolver : Resolver) (iri : String) : String :=
  (compact? [] resolver.documents .none iri).getD iri

def compactId (resolver : Resolver) (iri : String) : String :=
  (compact? [] resolver.documents ⟨true, false⟩ iri).getD iri

def compactVocab (resolver : Resolver) (iri : String) : String :=
  (compact? resolver.scopedDocuments resolver.documents ⟨false, true⟩ iri).getD
    (resolver.compactId iri)

end Resolver

inductive Operation where
  | expandIri
  | expandId
  | expandVocab
  | compactIri
  | compactId
  | compactVocab
deriving DecidableEq

def Operation.isExpansion : Operation → Bool
  | expandIri | expandId | expandVocab => true
  | _ => false

def Operation.isScoped : Operation → Bool
  | expandVocab | compactVocab => true
  | _ => false

def Resolver.answer (resolver : Resolver) : Operation → String → String
  | .expandIri => resolver.expandIri
  | .expandId => resolver.expandId
  | .expandVocab => resolver.expandVocab
  | .compactIri => resolver.compactIri
  | .compactId => resolver.compactId
  | .compactVocab => resolver.compactVocab

end ShapeCompiler.Context
