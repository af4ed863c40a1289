import ShapeCompiler.Proofs.Context.Expanding

/-! Lists of documents that agree. An expansion asks a list of documents only for the identifier of a
name, for the first default vocabulary and for the first base: two lists with the same answers expand
every name alike, however many documents they have. -/

namespace ShapeCompiler.Context

structure Agree (left right : List Document) : Prop where
  ids : ∀ name, (definition? left name).map Definition.id = (definition? right name).map Definition.id
  vocab : left.findSome? Document.vocab = right.findSome? Document.vocab
  base : left.findSome? Document.base = right.findSome? Document.base

theorem definition?_append (documents others : List Document) (name : String) :
    definition? (documents ++ others) name =
      (definition? documents name).or (definition? others name) :=
  List.findSome?_append

theorem isDeclared_eq_isSome (documents : List Document) (name : String) :
    isDeclared documents name = (definition? documents name).isSome := by
  rw [Bool.eq_iff_iff, isDeclared_iff, Option.isSome_iff_exists]

section

variable {left right : List Document}

theorem Agree.symm (agree : Agree left right) : Agree right left :=
  ⟨fun name => (agree.ids name).symm, agree.vocab.symm, agree.base.symm⟩

theorem Agree.trans {others : List Document} (agree : Agree left right)
    (further : Agree right others) : Agree left others :=
  ⟨fun name => (agree.ids name).trans (further.ids name), agree.vocab.trans further.vocab,
    agree.base.trans further.base⟩

theorem Agree.append {others further : List Document} (agree : Agree left right)
    (rest : Agree others further) : Agree (left ++ others) (right ++ further) := by
  constructor
  · intro name
    rw [definition?_append, definition?_append, Option.map_or, Option.map_or, agree.ids name,
      rest.ids name]
  · rw [List.findSome?_append, List.findSome?_append, agree.vocab, rest.vocab]
  · rw [List.findSome?_append, List.findSome?_append, agree.base, rest.base]

theorem Agree.isDeclared_eq (agree : Agree left right) (name : String) :
    isDeclared left name = isDeclared right name := by
  have same := congrArg Option.isSome (agree.ids name)
  rw [Option.isSome_map, Option.isSome_map] at same
  rw [isDeclared_eq_isSome, isDeclared_eq_isSome, same]

theorem Agree.declaredPrefix?_eq (agree : Agree left right) (name : String) :
    declaredPrefix? left name = declaredPrefix? right name := by
  unfold declaredPrefix?
  simp only [agree.isDeclared_eq]

theorem Agree.continuation?_eq (agree : Agree left right) (name : String) :
    continuation? left name = continuation? right name := by
  have same := agree.ids name
  unfold continuation?
  rw [agree.declaredPrefix?_eq name]
  cases found : definition? left name with
  | none => cases other : definition? right name <;> simp_all
  | some definition => cases other : definition? right name <;> simp_all

theorem Agree.expandStep_eq (agree : Agree left right) (next fallback : String → String)
    (name : String) : expandStep left next fallback name = expandStep right next fallback name := by
  have same := agree.ids name
  unfold expandStep
  rw [agree.declaredPrefix?_eq name]
  cases found : definition? left name with
  | none => cases other : definition? right name <;> simp_all
  | some definition => cases other : definition? right name <;> simp_all

theorem Agree.expandTerms_eq (agree : Agree left right) (bound : Nat) (visited : List String)
    (name : String) : expandTerms left bound visited name = expandTerms right bound visited name := by
  induction bound generalizing visited name with
  | zero => rfl
  | succ bound ih =>
      have further : expandTerms left bound (name :: visited) =
          expandTerms right bound (name :: visited) := funext (ih (name :: visited))
      simp only [expandTerms, agree.expandStep_eq, further]

theorem Agree.expandTerms_continuation (agree : Agree left right) {name following : String}
    (continued : continuation? left name = some following) :
    expandTerms left (expansionBound left) [name] following =
      expandTerms right (expansionBound right) [name] following := by
  have fewerLeft := card_unmet_lt left [name]
  have fewerRight := card_unmet_lt right [name]
  have memberLeft := mem_mentioned_of_continuation? continued
  rw [agree.continuation?_eq] at continued
  have memberRight := mem_mentioned_of_continuation? continued
  calc expandTerms left (expansionBound left) [name] following
      = expandTerms left (expansionBound left + expansionBound right) [name] following :=
        expandTerms_bound_irrelevant (by omega) (by omega) memberLeft
    _ = expandTerms right (expansionBound left + expansionBound right) [name] following :=
        agree.expandTerms_eq _ _ _
    _ = expandTerms right (expansionBound right) [name] following :=
        expandTerms_bound_irrelevant (by omega) (by omega) memberRight

theorem Agree.expandStep_bounds (agree : Agree left right) (fallback : String → String)
    (name : String) :
    expandStep left (expandTerms left (expansionBound left) [name]) fallback name =
      expandStep right (expandTerms right (expansionBound right) [name]) fallback name := by
  rw [← agree.expandStep_eq]
  exact expandStep_congr (fun _ continued => agree.expandTerms_continuation continued) fallback

theorem Agree.expandTerm_eq (agree : Agree left right) (name : String) :
    expandTerm left name = expandTerm right name := by
  rw [← expand_none, ← expand_none, expand, expand, withDefaults_none, withDefaults_none]
  exact agree.expandStep_bounds id name

theorem Agree.expand_eq (agree : Agree left right) (defaults : Defaults) (name : String) :
    expand left defaults name = expand right defaults name := by
  have same : withDefaults left defaults = withDefaults right defaults := by
    funext name
    simp only [withDefaults, agree.vocab, agree.base, agree.expandTerm_eq]
  rw [expand, expand, same]
  exact agree.expandStep_bounds (withDefaults right defaults) name

end

theorem findSome?_filter_isEmpty {α : Type} (pick : Document → Option α)
    (silent : ∀ document, document.isEmpty = true → pick document = none)
    (documents : List Document) :
    (documents.filter fun document => !document.isEmpty).findSome? pick =
      documents.findSome? pick := by
  induction documents with
  | nil => rfl
  | cons document rest ih =>
      rw [List.findSome?_cons]
      cases empty : document.isEmpty with
      | true => simpa [empty, silent document empty] using ih
      | false => simp only [List.filter_cons, empty, Bool.not_false, if_true, List.findSome?_cons, ih]

theorem agree_ofDocuments (documents : List Document) :
    Agree (Resolver.ofDocuments documents).documents documents := by
  constructor
  · intro name
    congr 1
    refine findSome?_filter_isEmpty _ (fun document empty => ?_) documents
    simp only [Document.isEmpty, Bool.and_eq_true, List.isEmpty_iff] at empty
    rw [empty.2, Keyed.find?]
  · refine findSome?_filter_isEmpty _ (fun document empty => ?_) documents
    simp only [Document.isEmpty, Bool.and_eq_true, Option.isNone_iff_eq_none] at empty
    exact empty.1.2
  · refine findSome?_filter_isEmpty _ (fun document empty => ?_) documents
    simp only [Document.isEmpty, Bool.and_eq_true, Option.isNone_iff_eq_none] at empty
    exact empty.1.1

end ShapeCompiler.Context
