import ShapeCompiler.Proofs.Model.Individuals

/-! The order of triples. A model is built from the set of triples and from the order in which the
objects of one subject and one predicate come, and that order counts for most predicates only. -/

namespace ShapeCompiler.Model

open Rdf (Graph Term)

def unorderedPredicates : List String :=
  [Rdf.Vocabulary.rdfType, Rdf.Vocabulary.shNot, Rdf.Vocabulary.shHasValue]

/-- The graphs hold the same triples, and under every predicate whose order counts a subject has the
same list of objects in both. -/
structure Interleaved (left right : Graph) : Prop where
  same : ∀ triple, triple ∈ left.triples ↔ triple ∈ right.triples
  objects : ∀ subject predicate, predicate ∉ unorderedPredicates →
    left.objects subject predicate = right.objects subject predicate

section

variable {left right : Graph} (interleaved : Interleaved left right)
include interleaved

theorem Interleaved.size : left.size = right.size := by
  have rearranged := (List.perm_ext_iff_of_nodup left.distinct right.distinct).mpr interleaved.same
  exact rearranged.length_eq

theorem Interleaved.contains (subject : Term) (predicate : String) (object : Term) :
    left.contains subject predicate object = right.contains subject predicate object := by
  rw [Bool.eq_iff_iff]
  simp only [Graph.contains_iff]
  exact interleaved.same ⟨subject, predicate, object⟩

theorem Interleaved.subjects (predicate : String) (object : Term) :
    left.subjects predicate object = right.subjects predicate object := by
  apply Sorted.ofList_congr
  intro subject
  simp [interleaved.same]

theorem Interleaved.mem_objects (subject object : Term) (predicate : String) :
    object ∈ left.objects subject predicate ↔ object ∈ right.objects subject predicate :=
  Graph.mem_objects.trans ((interleaved.same _).trans Graph.mem_objects.symm)

theorem Interleaved.value? (subject : Term) {predicate : String}
    (ordered : predicate ∉ unorderedPredicates) :
    left.value? subject predicate = right.value? subject predicate := by
  unfold Graph.value?
  rw [interleaved.objects subject predicate ordered]

theorem Interleaved.listFrom (bound : Nat) (seen : List Term) (node : Term) :
    left.listFrom bound seen node = right.listFrom bound seen node := by
  induction bound generalizing seen node with
  | zero => rfl
  | succ bound ih =>
      simp only [Graph.listFrom, ih, interleaved.value? node (by decide : Rdf.Vocabulary.rdfFirst ∉ _),
        interleaved.value? node (by decide : Rdf.Vocabulary.rdfRest ∉ _)]

theorem Interleaved.list (head : Term) : left.list head = right.list head := by
  unfold Graph.list
  rw [interleaved.size, interleaved.listFrom]

theorem Interleaved.literalValue? (subject : Term) {predicate : String}
    (ordered : predicate ∉ unorderedPredicates) :
    Model.literalValue? left subject predicate = Model.literalValue? right subject predicate := by
  unfold Model.literalValue?
  rw [interleaved.value? subject ordered]

theorem Interleaved.readValue? {α : Type} (read : String → Option α) (subject : Term)
    {predicate : String} (ordered : predicate ∉ unorderedPredicates) :
    Model.readValue? read left subject predicate = Model.readValue? read right subject predicate := by
  unfold Model.readValue?
  rw [interleaved.value? subject ordered]

theorem Interleaved.nodeKind? (owner : String) (node : Term) :
    Model.nodeKind? left owner node = Model.nodeKind? right owner node := by
  unfold Model.nodeKind?
  rw [interleaved.value? node (by decide)]

theorem Interleaved.classIris : Model.classIris left = Model.classIris right := by
  unfold Model.classIris
  rw [interleaved.subjects, interleaved.subjects]

theorem Interleaved.isClass : Model.isClass left = Model.isClass right := by
  funext iri
  unfold Model.isClass
  rw [interleaved.classIris]

theorem Interleaved.parentsOf (iri : String) :
    Model.parentsOf left iri = Model.parentsOf right iri := by
  unfold Model.parentsOf
  rw [interleaved.objects _ _ (by decide), interleaved.isClass]

theorem Interleaved.superclasses (node : Term) :
    Model.superclasses left node = Model.superclasses right node := by
  unfold Model.superclasses
  rw [interleaved.objects _ _ (by decide)]

theorem Interleaved.inheritedFrom {α : Type} (look : Term → Except BuildError (Option α))
    (bound : Nat) (visited queue : List Term) :
    Model.inheritedFrom left look bound visited queue =
      Model.inheritedFrom right look bound visited queue := by
  fun_induction Model.inheritedFrom left look bound visited queue with
  | case1 => simp [Model.inheritedFrom]
  | case2 => simp [Model.inheritedFrom]
  | case3 bound visited node queue seen ih => rw [ih, Model.inheritedFrom, if_pos seen]
  | case4 bound visited node queue fresh fault looked =>
      simp [Model.inheritedFrom, fresh, looked]
  | case5 bound visited node queue fresh found looked =>
      simp [Model.inheritedFrom, fresh, looked]
  | case6 bound visited node queue fresh looked ih =>
      rw [ih, interleaved.superclasses]
      simp [Model.inheritedFrom, fresh, looked]

theorem Interleaved.inherited {α : Type} {look other : Term → Except BuildError (Option α)}
    (same : ∀ node, look node = other node) (iri : String) :
    Model.inherited left look iri = Model.inherited right other iri := by
  unfold Model.inherited
  rw [funext same, interleaved.inheritedFrom, interleaved.size]

theorem Interleaved.rangeOf (owner : String) (shape : Term) (path : String) :
    Model.rangeOf left owner shape path = Model.rangeOf right owner shape path := by
  unfold Model.rangeOf
  simp only [interleaved.isClass, interleaved.list,
    interleaved.value? shape (by decide : Rdf.Vocabulary.shClass ∉ _),
    interleaved.value? shape (by decide : Rdf.Vocabulary.shIn ∉ _),
    interleaved.value? shape (by decide : Rdf.Vocabulary.shDatatype ∉ _),
    interleaved.value? (.iri path) (by decide : Rdf.Vocabulary.rdfsRange ∉ _)]

theorem Interleaved.patternOf (owner : String) (shape : Term) (path : String) (range : Range) :
    Model.patternOf left owner shape path range = Model.patternOf right owner shape path range := by
  unfold Model.patternOf
  rw [interleaved.literalValue? shape (by decide)]

theorem Interleaved.buildProperty (resolver : Context.Resolver) (owner : String) (shape : Term)
    (path : String) :
    Model.buildProperty left resolver owner shape path =
      Model.buildProperty right resolver owner shape path := by
  unfold Model.buildProperty Model.count?
  simp only [interleaved.rangeOf, interleaved.patternOf, interleaved.contains,
    interleaved.readValue? readCount? shape (by decide : Rdf.Vocabulary.shMinCount ∉ _),
    interleaved.readValue? readCount? shape (by decide : Rdf.Vocabulary.shMaxCount ∉ _),
    interleaved.literalValue? shape (by decide : Rdf.Vocabulary.shName ∉ _),
    interleaved.literalValue? _ (by decide : Rdf.Vocabulary.rdfsComment ∉ _)]

theorem Interleaved.pathOf? (shape : Term) : Model.pathOf? left shape = Model.pathOf? right shape := by
  unfold Model.pathOf?
  rw [interleaved.value? shape (by decide)]

theorem Interleaved.buildShape (resolver : Context.Resolver) (owner : String) (shape : Term) :
    Model.buildShape left resolver owner shape = Model.buildShape right resolver owner shape := by
  unfold Model.buildShape
  simp only [interleaved.pathOf?, interleaved.buildProperty]

theorem Interleaved.buildShapes (resolver : Context.Resolver) (owner : String)
    (shapes : List Term) :
    Model.buildShapes left resolver owner shapes = Model.buildShapes right resolver owner shapes := by
  induction shapes with
  | nil => rfl
  | cons shape shapes ih => simp only [Model.buildShapes, interleaved.buildShape, ih]

theorem Interleaved.individualOf (resolver : Context.Resolver) (classIri id : String) :
    Model.individualOf left resolver classIri id = Model.individualOf right resolver classIri id := by
  unfold Model.individualOf
  rw [interleaved.literalValue? _ (by decide)]

theorem Interleaved.individualsOf (resolver : Context.Resolver) (classIri : String) :
    Model.individualsOf left resolver classIri = Model.individualsOf right resolver classIri := by
  unfold Model.individualsOf
  rw [funext (interleaved.individualOf resolver classIri), interleaved.subjects]
  simp only [interleaved.contains]

theorem Interleaved.forbidsOwnType (classIri : String) :
    Model.forbidsOwnType left classIri = Model.forbidsOwnType right classIri := by
  funext shape
  unfold Model.forbidsOwnType
  rw [interleaved.pathOf?]
  congr 1
  rw [Bool.eq_iff_iff]
  simp only [List.any_eq_true, interleaved.mem_objects, interleaved.contains]

theorem Interleaved.buildClass (resolver : Context.Resolver) (iri : String) :
    Model.buildClass left resolver iri = Model.buildClass right resolver iri := by
  have kinds := interleaved.inherited (interleaved.nodeKind? iri) iri
  have names := interleaved.inherited (fun node => congrArg Except.ok
    (interleaved.literalValue? node (by decide : Rdf.Vocabulary.idPropertyName ∉ _))) iri
  have openness := interleaved.inherited (fun node => interleaved.readValue? readTruth? node
    (by decide : Rdf.Vocabulary.isExtensible ∉ _)) iri
  unfold Model.buildClass truth?
  simp only [kinds, names, openness, interleaved.contains, interleaved.parentsOf,
    interleaved.buildShapes, interleaved.forbidsOwnType,
    interleaved.readValue? readTruth? _ (by decide : Rdf.Vocabulary.isAbstract ∉ _),
    interleaved.literalValue? _ (by decide : Rdf.Vocabulary.rdfsComment ∉ _),
    interleaved.objects _ _ (by decide : Rdf.Vocabulary.shProperty ∉ _)]

theorem Interleaved.buildClasses (resolver : Context.Resolver)
    {found other : List (String × List Individual)} {iris : List String} (distinct : iris.Nodup)
    (same : ∀ iri ∈ iris, Keyed.items iri found = Keyed.items iri other) :
    Model.buildClasses left resolver found iris = Model.buildClasses right resolver other iris := by
  induction iris generalizing found other with
  | nil => rfl
  | cons iri iris ih =>
      obtain ⟨fresh, distinct⟩ := List.nodup_cons.mp distinct
      obtain ⟨first, later⟩ := List.forall_mem_cons.mp same
      have rest (next : String) (member : next ∈ iris) :
          Keyed.items next (Keyed.erase iri found) = Keyed.items next (Keyed.erase iri other) := by
        have different : next ≠ iri := fun same => fresh (same ▸ member)
        rw [Keyed.items_erase_ne different, Keyed.items_erase_ne different, later next member]
      simp only [Model.buildClasses, interleaved.buildClass, first, ih distinct rest]

end

/-- The model, or the first fault, depends on the set of triples and on the order in which the objects
of one subject and one predicate come, and for types and exclusions not on that order either. -/
theorem build_interleaved {left right : Graph} (interleaved : Interleaved left right)
    (resolver : Context.Resolver) : build left resolver = build right resolver := by
  have found (iri : String) (declared : iri ∈ classIris right) :
      Keyed.items iri (discoverIndividuals left resolver) =
        Keyed.items iri (discoverIndividuals right resolver) := by
    rw [items_discoverIndividuals declared, items_discoverIndividuals (interleaved.classIris ▸ declared),
      interleaved.individualsOf]
  unfold build
  rw [interleaved.classIris, interleaved.buildClasses resolver (nodup_classIris right) found]

/-! Two graphs are compared at the subjects and predicates that occur in them. -/

theorem objects_eq_nil {graph : Graph} {subject : Term} {predicate : String}
    (absent : ∀ object, ⟨subject, predicate, object⟩ ∉ graph.triples) :
    graph.objects subject predicate = [] := by
  rw [List.eq_nil_iff_forall_not_mem]
  intro object member
  exact absent object (Graph.mem_objects.mp member)

theorem interleaved_iff {left right : Graph} :
    Interleaved left right ↔ left.triples.Perm right.triples ∧
      ∀ triple ∈ left.triples, triple.predicate ∉ unorderedPredicates →
        left.objects triple.subject triple.predicate =
          right.objects triple.subject triple.predicate := by
  constructor
  · intro interleaved
    refine ⟨(List.perm_ext_iff_of_nodup left.distinct right.distinct).mpr interleaved.same, ?_⟩
    intro triple _ ordered
    exact interleaved.objects triple.subject triple.predicate ordered
  · rintro ⟨rearranged, agree⟩
    refine ⟨fun triple => rearranged.mem_iff, ?_⟩
    intro subject predicate ordered
    by_cases present : ∃ object, ⟨subject, predicate, object⟩ ∈ left.triples
    · obtain ⟨object, member⟩ := present
      exact agree _ member ordered
    · have absent := not_exists.mp present
      rw [objects_eq_nil absent, objects_eq_nil]
      intro object member
      exact absent object (rearranged.mem_iff.mpr member)

instance (left right : Graph) : Decidable (Interleaved left right) :=
  decidable_of_iff _ interleaved_iff.symm

def groupedGraph : Graph :=
  .ofList [
    ⟨.iri "a", Rdf.Vocabulary.rdfType, .iri Rdf.Vocabulary.owlClass⟩,
    ⟨.iri "a", Rdf.Vocabulary.rdfType, .iri Rdf.Vocabulary.owlDeprecatedClass⟩,
    ⟨.iri "a", Rdf.Vocabulary.rdfsSubClassOf, .iri "b"⟩,
    ⟨.iri "a", Rdf.Vocabulary.shProperty, .blank "type"⟩,
    ⟨.iri "a", Rdf.Vocabulary.shProperty, .blank "size"⟩,
    ⟨.blank "type", Rdf.Vocabulary.shPath, .iri Rdf.Vocabulary.rdfType⟩,
    ⟨.blank "type", Rdf.Vocabulary.shNot, .blank "other"⟩,
    ⟨.blank "type", Rdf.Vocabulary.shNot, .blank "self"⟩,
    ⟨.blank "self", Rdf.Vocabulary.shHasValue, .iri "a"⟩,
    ⟨.blank "size", Rdf.Vocabulary.shPath, .iri "size"⟩,
    ⟨.blank "size", Rdf.Vocabulary.shDatatype, .iri Rdf.Vocabulary.xsdString⟩,
    ⟨.iri "b", Rdf.Vocabulary.rdfType, .iri Rdf.Vocabulary.owlClass⟩]

def mixedGraph : Graph :=
  .ofList [
    ⟨.blank "type", Rdf.Vocabulary.shNot, .blank "self"⟩,
    ⟨.iri "b", Rdf.Vocabulary.rdfType, .iri Rdf.Vocabulary.owlClass⟩,
    ⟨.iri "a", Rdf.Vocabulary.shProperty, .blank "type"⟩,
    ⟨.blank "size", Rdf.Vocabulary.shDatatype, .iri Rdf.Vocabulary.xsdString⟩,
    ⟨.iri "a", Rdf.Vocabulary.rdfType, .iri Rdf.Vocabulary.owlDeprecatedClass⟩,
    ⟨.blank "type", Rdf.Vocabulary.shPath, .iri Rdf.Vocabulary.rdfType⟩,
    ⟨.blank "self", Rdf.Vocabulary.shHasValue, .iri "a"⟩,
    ⟨.iri "a", Rdf.Vocabulary.rdfType, .iri Rdf.Vocabulary.owlClass⟩,
    ⟨.iri "a", Rdf.Vocabulary.shProperty, .blank "size"⟩,
    ⟨.blank "type", Rdf.Vocabulary.shNot, .blank "other"⟩,
    ⟨.iri "a", Rdf.Vocabulary.rdfsSubClassOf, .iri "b"⟩,
    ⟨.blank "size", Rdf.Vocabulary.shPath, .iri "size"⟩]

theorem build_interleaved_mixed :
    groupedGraph.triples ≠ mixedGraph.triples ∧ Interleaved groupedGraph mixedGraph ∧
      build groupedGraph (.ofDocuments []) = build mixedGraph (.ofDocuments []) := by
  have interleaved : Interleaved groupedGraph mixedGraph := by decide +kernel
  exact ⟨by decide +kernel, interleaved, build_interleaved interleaved (.ofDocuments [])⟩

end ShapeCompiler.Model
