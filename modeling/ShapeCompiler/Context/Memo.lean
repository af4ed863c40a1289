import ShapeCompiler.Context.Resolver

/-! Answers that are kept and given again to the same question. The scope of a question about a
vocabulary term is the vocabularies in force joined by spaces; other questions have none. Questions that
come up on the way to an answer are kept with their answers as well. -/

namespace ShapeCompiler.Context

structure Question where
  operation : Operation
  scope : String
  input : String
deriving DecidableEq

structure Memo where
  expanded : List (Question × String)
  compacted : List (Question × String)

namespace Memo

def empty : Memo := ⟨[], []⟩

def find? (memo : Memo) (question : Question) : Option String :=
  if question.operation.isExpansion then memo.expanded.lookup question
  else memo.compacted.lookup question

def insert (memo : Memo) (question : Question) (answer : String) : Memo :=
  if question.operation.isExpansion then
    { memo with expanded := (question, answer) :: memo.expanded }
  else { memo with compacted := (question, answer) :: memo.compacted }

theorem find?_empty (question : Question) : empty.find? question = none := by
  simp [find?, empty]

theorem find?_insert_self (memo : Memo) (question : Question) (answer : String) :
    (memo.insert question answer).find? question = some answer := by
  unfold find? insert
  split <;> simp

theorem find?_insert_ne {question other : Question} (different : other ≠ question) (memo : Memo)
    (answer : String) : (memo.insert question answer).find? other = memo.find? other := by
  have unequal : (other == question) = false := by simpa using different
  unfold find? insert
  split <;> split <;> simp [List.lookup_cons, unequal]

end Memo

namespace Resolver

def scope (resolver : Resolver) (operation : Operation) : String :=
  if operation.isScoped then " ".intercalate resolver.vocabularies else ""

def question (resolver : Resolver) (operation : Operation) (input : String) : Question :=
  ⟨operation, resolver.scope operation, input⟩

end Resolver

/-- The answer kept for a question, or else the one that `work` finds, which is kept. -/
def remember (question : Question) (work : StateM Memo String) : StateM Memo String := do
  match (← get).find? question with
  | some answer => return answer
  | none =>
      let answer ← work
      modify fun memo => memo.insert question answer
      return answer

/-! The operations of a resolver with a memo. -/

namespace Remembered

def expandIri (resolver : Resolver) (name : String) : StateM Memo String :=
  remember (resolver.question .expandIri name) (return resolver.expandIri name)

def expandId (resolver : Resolver) (name : String) : StateM Memo String :=
  remember (resolver.question .expandId name) (return resolver.expandId name)

def nestedFor? (resolver : Resolver) (vocabulary : String) (definition : Definition Document) :
    StateM Memo (Option Document) :=
  match definition.nested with
  | some nested =>
      if definition.type = some .vocab then do
        let expanded ← expandIri resolver definition.id
        return if expanded = vocabulary then some nested else none
      else return none
  | none => return none

/-- Every nested document that is found goes before those found earlier. -/
def scopedDocuments (resolver : Resolver) : StateM Memo (List Document) :=
  resolver.vocabularies.foldlM (fun found vocabulary =>
    resolver.documents.foldlM (fun found document =>
      document.terms.foldlM (fun found term => do
        let nested ← nestedFor? resolver vocabulary term.2
        return nested.toList ++ found) found) found) []

def expandVocab (resolver : Resolver) (name : String) : StateM Memo String :=
  remember (resolver.question .expandVocab name) do
    let nested ← scopedDocuments resolver
    return expand (nested ++ resolver.documents) ⟨true, true⟩ name

def compactIri (resolver : Resolver) (iri : String) : StateM Memo String :=
  remember (resolver.question .compactIri iri) (return resolver.compactIri iri)

def compactId (resolver : Resolver) (iri : String) : StateM Memo String :=
  remember (resolver.question .compactId iri) (return resolver.compactId iri)

def compactVocab (resolver : Resolver) (iri : String) : StateM Memo String :=
  remember (resolver.question .compactVocab iri) do
    let nested ← scopedDocuments resolver
    match compact? nested resolver.documents ⟨false, true⟩ iri with
    | some form => return form
    | none => compactId resolver iri

def answer (resolver : Resolver) : Operation → String → StateM Memo String
  | .expandIri => expandIri resolver
  | .expandId => expandId resolver
  | .expandVocab => expandVocab resolver
  | .compactIri => compactIri resolver
  | .compactId => compactId resolver
  | .compactVocab => compactVocab resolver

end Remembered

end ShapeCompiler.Context
