import ShapeCompiler.Proofs.Context.Agreement
import ShapeCompiler.Proofs.Context.RoundTrip

/-! Nested documents apply only while the vocabulary of their term is in force. What else is nested in
the documents of a resolver, or in a nested document, does not show: without it every question has the
same answer. -/

namespace ShapeCompiler.Context

namespace Document

def withNested (nested : Definition Document → Option Document) (document : Document) : Document :=
  .mk document.base document.vocab
    (document.terms.map fun term => (term.1, { term.2 with nested := nested term.2 }))

def bare (document : Document) : Document :=
  document.withNested fun _ => none

theorem isEmpty_withNested (nested : Definition Document → Option Document) (document : Document) :
    (document.withNested nested).isEmpty = document.isEmpty := by
  simp [isEmpty, withNested, base, vocab, terms]

end Document

theorem agree_withNested (nested : Definition Document → Option Document)
    (documents : List Document) : Agree (documents.map (Document.withNested nested)) documents := by
  constructor
  · intro name
    rw [definition?, definition?, List.findSome?_map, List.map_findSome?, List.map_findSome?]
    congr 1
    funext document
    have found := Keyed.find?_map name
      (fun definition => { definition with nested := nested definition }) document.terms
    simp only [Function.comp_apply, Document.withNested, Document.terms] at found ⊢
    rw [found, Option.map_map]
    rfl
  · rw [List.findSome?_map]
    rfl
  · rw [List.findSome?_map]
    rfl

theorem agree_bare (documents : List Document) : Agree (documents.map Document.bare) documents :=
  agree_withNested (fun _ => none) documents

theorem Agree.termForm_eq {left right : List Document} (agree : Agree left right) (iri : String)
    (term : String × Definition Document) : termForm left iri term = termForm right iri term := by
  simp only [termForm, agree.expandTerm_eq]

theorem termForms_withNested (all : List Document) (iri : String)
    (nested : Definition Document → Option Document) (document : Document) :
    termForms all iri (document.withNested nested) = termForms all iri document :=
  List.flatMap_map _ _ _

theorem compact?_withNested (within outside : Definition Document → Option Document)
    (nested documents : List Document) (defaults : Defaults) (iri : String) :
    compact? (nested.map (Document.withNested within)) (documents.map (Document.withNested outside))
      defaults iri = compact? nested documents defaults iri := by
  have agree := (agree_withNested within nested).append (agree_withNested outside documents)
  have forms : directForms (nested.map (Document.withNested within))
      (documents.map (Document.withNested outside)) defaults =
        directForms nested documents defaults := by
    funext iri
    have terms (document : Document) := congrArg document.terms.flatMap
      (funext (agree.termForm_eq iri))
    simp only [directForms, List.flatMap_map, termForms_withNested]
    simp only [termForms, terms, vocabForms, agree.expandTerm_eq]
    rfl
  simp only [compact?, forms, agree.expand_eq]

namespace Resolver

def isActive (resolver : Resolver) (definition : Definition Document) : Bool :=
  definition.type = some .vocab && resolver.vocabularies.contains (resolver.expandIri definition.id)

def inScope? (resolver : Resolver) (definition : Definition Document) : Option Document :=
  if resolver.isActive definition then definition.nested.map Document.bare else none

/-- The resolver with only those documents nested in its own that are in scope. -/
def visible (resolver : Resolver) : Resolver :=
  { resolver with documents := resolver.documents.map (Document.withNested resolver.inScope?) }

theorem agree_visible (resolver : Resolver) :
    Agree resolver.visible.documents resolver.documents :=
  agree_withNested resolver.inScope? resolver.documents

theorem nestedFor?_visible (resolver : Resolver) {vocabulary : String}
    (inForce : vocabulary ∈ resolver.vocabularies) (definition : Definition Document) :
    resolver.visible.nestedFor? vocabulary
        { definition with nested := resolver.inScope? definition } =
      (resolver.nestedFor? vocabulary definition).map Document.bare := by
  have sameIri : resolver.visible.expandIri definition.id = resolver.expandIri definition.id :=
    resolver.agree_visible.expand_eq .none definition.id
  unfold nestedFor? inScope?
  simp only [sameIri]
  cases definition.nested with
  | none => simp
  | some nested =>
      by_cases applies : definition.type = some .vocab ∧ resolver.expandIri definition.id = vocabulary
      · have active : resolver.isActive definition = true := by
          simp [isActive, applies.1, applies.2, inForce]
        simp [active, applies.1, applies.2]
      · cases resolver.isActive definition with
        | true => simp [applies]
        | false => simp [applies]

theorem scopedDocuments_visible (resolver : Resolver) :
    resolver.visible.scopedDocuments = resolver.scopedDocuments.map Document.bare := by
  simp only [scopedDocuments, List.map_reverse, List.map_flatMap, List.map_filterMap]
  congr 1
  refine List.flatMap_congr fun vocabulary inForce => ?_
  refine (List.flatMap_map _ _ _).trans (List.flatMap_congr fun document _ => ?_)
  refine List.filterMap_map.trans (List.filterMap_congr fun term _ => ?_)
  exact resolver.nestedFor?_visible inForce term.2

theorem answer_visible (resolver : Resolver) (operation : Operation) (input : String) :
    resolver.visible.answer operation input = resolver.answer operation input := by
  have agree := resolver.agree_visible
  have compacted (nested : List Document) (defaults : Defaults) :
      compact? (nested.map Document.bare) resolver.visible.documents defaults input =
        compact? nested resolver.documents defaults input :=
    compact?_withNested (fun _ => none) resolver.inScope? nested resolver.documents defaults input
  have identified : resolver.visible.compactId input = resolver.compactId input :=
    congrArg (Option.getD · input) (compacted [] ⟨true, false⟩)
  cases operation with
  | expandIri => exact agree.expand_eq .none input
  | expandId => exact agree.expand_eq ⟨true, false⟩ input
  | expandVocab =>
      simp only [answer, expandVocab, scopedDocuments_visible]
      exact ((agree_bare resolver.scopedDocuments).append agree).expand_eq ⟨true, true⟩ input
  | compactIri => exact congrArg (Option.getD · input) (compacted [] .none)
  | compactId => exact identified
  | compactVocab =>
      simp only [answer, compactVocab, scopedDocuments_visible, compacted, identified]

end Resolver

/-! Resolvers that differ in nested documents that are not in scope. -/

theorem vocabularies_pushes (session : Session) (vocabularies : List (Option String)) :
    (session.run (vocabularies.map .push)).2.resolver.vocabularies =
      session.resolver.vocabularies ++
        (vocabularies.filter fun vocabulary => !Resolver.isInert vocabulary).map (·.getD "") := by
  induction vocabularies generalizing session with
  | nil => simp [Session.run]
  | cons vocabulary rest ih =>
      rw [List.map_cons, Session.run, ih]
      cases inert : Resolver.isInert vocabulary with
      | true => simp [Session.step, Session.push, Resolver.push, inert]
      | false => simp [Session.step, Session.push, Resolver.push, inert]

theorem vocabularies_resolverUnder (documents others : List Document)
    (vocabularies : List (Option String)) (vocabulary : Option String) :
    (resolverUnder documents vocabularies vocabulary).vocabularies =
      (resolverUnder others vocabularies vocabulary).vocabularies := by
  have stack (documents : List Document) : (underVocabularies documents vocabularies).resolver.vocabularies =
      [] ++ (vocabularies.filter fun vocabulary => !Resolver.isInert vocabulary).map (·.getD "") :=
    vocabularies_pushes (Session.ofResolver (Resolver.ofDocuments documents)) vocabularies
  unfold resolverUnder Resolver.push
  split
  · rw [stack documents, stack others]
  · simp only [stack documents, stack others]

theorem documents_resolverUnder (documents : List Document) (vocabularies : List (Option String))
    (vocabulary : Option String) :
    (resolverUnder documents vocabularies vocabulary).documents =
      documents.filter fun document => !document.isEmpty :=
  (Session.documents_push _ vocabulary).trans
    (faithful_underVocabularies documents vocabularies fun _ => False).owned

theorem answer_underVocabularies (documents : List Document) (vocabularies : List (Option String))
    (operation : Operation) (input : String) (vocabulary : Option String) :
    ((underVocabularies documents vocabularies).ask operation input vocabulary).1 =
      (resolverUnder documents vocabularies vocabulary).answer operation input :=
  (faithful_underVocabularies documents vocabularies
    (· = (resolverUnder documents vocabularies vocabulary).vocabularies)).answer operation input
      vocabulary fun _ => rfl

theorem filter_isEmpty_withNested (nested : Definition Document → Option Document)
    (documents : List Document) :
    (documents.filter fun document => !document.isEmpty).map (Document.withNested nested) =
      (documents.map (Document.withNested nested)).filter fun document => !document.isEmpty := by
  rw [List.filter_map]
  congr 2
  funext document
  simp [Document.isEmpty_withNested]

/-- Two lists of documents that differ only in nested documents that are not in scope, be it for want of
the type or of the vocabulary, and in what is nested in nested documents, give the same answers to all
questions under these vocabularies. -/
theorem answers_isolated {lefts rights : List Document} {vocabularies : List (Option String)}
    {vocabulary : Option String}
    (same : lefts.map (Document.withNested (resolverUnder lefts vocabularies vocabulary).inScope?) =
      rights.map (Document.withNested (resolverUnder rights vocabularies vocabulary).inScope?))
    (operation : Operation) (input : String) :
    ((underVocabularies lefts vocabularies).ask operation input vocabulary).1 =
      ((underVocabularies rights vocabularies).ask operation input vocabulary).1 := by
  have visible : (resolverUnder lefts vocabularies vocabulary).visible =
      (resolverUnder rights vocabularies vocabulary).visible := by
    unfold Resolver.visible
    rw [Resolver.mk.injEq]
    refine ⟨?_, vocabularies_resolverUnder lefts rights vocabularies vocabulary⟩
    rw [documents_resolverUnder, documents_resolverUnder, filter_isEmpty_withNested,
      filter_isEmpty_withNested, same]
  rw [answer_underVocabularies, answer_underVocabularies, ← Resolver.answer_visible, visible,
    Resolver.answer_visible]

def isolatedDocument (inner idle : Option Document) : Document :=
  .mk none none
    [("plain", ⟨"http://a/", none, idle⟩),
      ("terms", ⟨"http://a/", some .vocab,
        some (.mk none (some "http://a/b/") [("name", ⟨"http://a/c", some .vocab, inner⟩)])⟩),
      ("unused", ⟨"http://c/", some .vocab, idle⟩)]

theorem visible_isolatedDocument (inner idle : Option Document)
    (active : (isolatedDocument inner idle).terms.map (fun term =>
      (resolverUnder [isolatedDocument inner idle] [some "http://a/"] none).isActive term.2) =
        [false, true, false]) :
    [isolatedDocument inner idle].map (Document.withNested
        (resolverUnder [isolatedDocument inner idle] [some "http://a/"] none).inScope?) =
      [isolatedDocument none none] := by
  generalize resolverUnder [isolatedDocument inner idle] [some "http://a/"] none = resolver at active ⊢
  simp only [isolatedDocument, Document.terms, List.map_cons, List.map_nil, List.cons.injEq] at active
  obtain ⟨plain, terms, unused, -⟩ := active
  simp [isolatedDocument, Document.withNested, Document.terms, Document.base, Document.vocab,
    Resolver.inScope?, Document.bare, plain, terms, unused]

theorem answers_isolated_terms :
    [isolatedDocument none none].map (Document.withNested
        (resolverUnder [isolatedDocument none none] [some "http://a/"] none).inScope?) =
      [isolatedDocument (some lendingDocument) (some lendingDocument)].map (Document.withNested
        (resolverUnder [isolatedDocument (some lendingDocument) (some lendingDocument)]
          [some "http://a/"] none).inScope?) ∧
    ((underVocabularies [isolatedDocument none none] [some "http://a/"]).ask .expandVocab "other"
        none).1 = "http://a/b/other" ∧
    ((underVocabularies [isolatedDocument (some lendingDocument) (some lendingDocument)]
        [some "http://a/"]).ask .expandVocab "other" none).1 = "http://a/b/other" := by
  have without := visible_isolatedDocument none none (by decide +kernel)
  have within := visible_isolatedDocument (some lendingDocument) (some lendingDocument)
    (by decide +kernel)
  have same := without.trans within.symm
  have asked : ((underVocabularies [isolatedDocument none none] [some "http://a/"]).ask .expandVocab
      "other" none).1 = "http://a/b/other" := by decide +kernel
  exact ⟨same, asked, (answers_isolated same .expandVocab "other").symm.trans asked⟩

end ShapeCompiler.Context
