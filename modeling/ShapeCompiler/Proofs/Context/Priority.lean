import ShapeCompiler.Proofs.Context.Isolation

/-! In which order nested documents are consulted. The vocabulary that came into force last comes first.
Of one vocabulary, however, the document of the lowest priority comes first: the definition of a name is
the one that the last document gives it, and the first where no other gives it another. -/

namespace ShapeCompiler.Context

theorem findSome?_flatMap {α β γ : Type} (pieces : α → List β) (pick : β → Option γ)
    (items : List α) :
    (items.flatMap pieces).findSome? pick =
      items.findSome? fun item => (pieces item).findSome? pick := by
  induction items with
  | nil => rfl
  | cons item rest ih =>
      rw [List.flatMap_cons, List.findSome?_append, ih, List.findSome?_cons]
      cases (pieces item).findSome? pick <;> rfl

theorem findSome?_getLast?_eq_head?_iff {α β : Type} (pieces : α → List β) (items : List α) :
    items.findSome? (fun item => (pieces item).getLast?) =
        items.findSome? (fun item => (pieces item).head?) ↔
      ∀ item, items.find? (fun item => !(pieces item).isEmpty) = some item →
        (pieces item).getLast? = (pieces item).head? := by
  induction items with
  | nil => simp
  | cons item rest ih =>
      rw [List.findSome?_cons, List.findSome?_cons, List.find?_cons]
      cases piece : pieces item with
      | nil => simpa using ih
      | cons first others =>
          have ends : ∃ last, (first :: others).getLast? = some last :=
            ⟨_, List.getLast?_eq_some_getLast (List.cons_ne_nil first others)⟩
          obtain ⟨last, found⟩ := ends
          simp [found, piece]

namespace Resolver

def nestedIn (resolver : Resolver) (vocabulary : String) (document : Document) : List Document :=
  (document.terms.filterMap fun term => resolver.nestedFor? vocabulary term.2).reverse

def given (resolver : Resolver) (vocabulary name : String) : List (Definition Document) :=
  resolver.documents.filterMap fun document =>
    definition? (resolver.nestedIn vocabulary document) name

theorem scopedDocuments_eq (resolver : Resolver) :
    resolver.scopedDocuments =
      resolver.vocabularies.reverse.flatMap fun vocabulary =>
        resolver.documents.reverse.flatMap (resolver.nestedIn vocabulary) := by
  rw [scopedDocuments, List.reverse_flatMap]
  refine List.flatMap_congr fun vocabulary _ => ?_
  exact List.reverse_flatMap

theorem definition?_scopedDocuments (resolver : Resolver) (name : String) :
    definition? resolver.scopedDocuments name =
      resolver.vocabularies.reverse.findSome? fun vocabulary =>
        (resolver.given vocabulary name).getLast? := by
  simp only [scopedDocuments_eq, definition?, findSome?_flatMap, given, List.getLast?_filterMap]

/-- A name has the definition that the first document with one gives it under the vocabulary that came
into force last among those that define it. -/
def KeepsPriority (resolver : Resolver) (name : String) : Prop :=
  definition? resolver.scopedDocuments name =
    resolver.vocabularies.reverse.findSome? fun vocabulary =>
      (resolver.given vocabulary name).head?

theorem keepsPriority_iff (resolver : Resolver) (name : String) :
    resolver.KeepsPriority name ↔
      ∀ vocabulary,
        resolver.vocabularies.reverse.find? (fun vocabulary =>
          !(resolver.given vocabulary name).isEmpty) = some vocabulary →
        (resolver.given vocabulary name).getLast? = (resolver.given vocabulary name).head? := by
  rw [KeepsPriority, definition?_scopedDocuments]
  exact findSome?_getLast?_eq_head?_iff _ _

end Resolver

/-- A vocabulary term is expanded with the nested documents of the latest vocabulary first, and of one
vocabulary with those of the last document first. So it has the definition of the last document that
gives it one; this is the first document's exactly when the two give it the same. -/
theorem scope_priority_iff (documents : List Document) (vocabularies : List (Option String))
    (vocabulary : Option String) (name : String) :
    let resolver := resolverUnder documents vocabularies vocabulary
    let latestFirst := resolver.vocabularies.reverse
    ((underVocabularies documents vocabularies).ask .expandVocab name vocabulary).1 =
        expand ((latestFirst.flatMap fun inForce =>
          resolver.documents.reverse.flatMap (resolver.nestedIn inForce)) ++ resolver.documents)
          ⟨true, true⟩ name ∧
      definition? resolver.scopedDocuments name =
        latestFirst.findSome? (fun inForce => (resolver.given inForce name).getLast?) ∧
      (resolver.KeepsPriority name ↔
        ∀ inForce, latestFirst.find? (fun inForce => !(resolver.given inForce name).isEmpty) =
            some inForce →
          (resolver.given inForce name).getLast? = (resolver.given inForce name).head?) := by
  intro resolver latestFirst
  refine ⟨?_, resolver.definition?_scopedDocuments name, resolver.keepsPriority_iff name⟩
  rw [answer_underVocabularies, Resolver.answer, Resolver.expandVocab, Resolver.scopedDocuments_eq]

def rankedDocument (term id : String) : Document :=
  .mk none none
    [(term, ⟨"http://v/", some .vocab, some (.mk none none [("name", ⟨id, none, none⟩)])⟩)]

theorem scope_priority_lost :
    ¬ (resolverUnder [rankedDocument "v" "http://first/", rankedDocument "w" "http://second/"] []
        (some "http://v/")).KeepsPriority "name" ∧
      ((underVocabularies [rankedDocument "v" "http://first/", rankedDocument "w" "http://second/"]
        []).ask .expandVocab "name" (some "http://v/")).1 = "http://second/" := by
  constructor
  · intro kept
    have ids := congrArg (Option.map Definition.id) kept
    revert ids
    decide +kernel
  · decide +kernel

end ShapeCompiler.Context
