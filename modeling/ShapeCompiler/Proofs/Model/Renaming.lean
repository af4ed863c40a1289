import ShapeCompiler.Proofs.Model.Views
import ShapeCompiler.Proofs.Rdf.Renaming

/-! Blank nodes and their labels. Building a model sees which blank nodes are the same and not what
their labels are; only the members of a closed set of values are named by labels. -/

namespace ShapeCompiler.Model

open Outcomes (Alike)
open Rdf (Graph Term)

structure Lists (graph : Graph) (shape : Term) (items : List Term) : Prop where
  noTarget : graph.value? shape Rdf.Vocabulary.shClass = none
  collection : ∃ head, graph.value? shape Rdf.Vocabulary.shIn = some head ∧
    graph.list head = .ok items

def WalkedFor (graph : Graph) (iri : String) (items : List Term) : Prop :=
  ∃ shape ∈ graph.objects (.iri iri) Rdf.Vocabulary.shProperty, ∃ path,
    pathOf? graph shape = some path ∧ path ≠ Rdf.Vocabulary.rdfType ∧ Lists graph shape items

def Walked (graph : Graph) (items : List Term) : Prop :=
  ∃ iri ∈ classIris graph, WalkedFor graph iri items

/-- Looks at the range of a collection and sees no difference once its labels are changed. -/
def View.Overlooks (view : View) (change : String → String) (items : List Term) : Prop :=
  view.see (.oneOf (Sorted.ofList ((items.map (Term.rename change)).map Term.name))) =
    view.see (.oneOf (Sorted.ofList (items.map Term.name)))

section

variable {change : String → String} (injective : Function.Injective change) (graph : Graph)
include injective

theorem literalValue?_rename (subject : Term) (predicate : String) :
    literalValue? (graph.rename change) (subject.rename change) predicate =
      literalValue? graph subject predicate := by
  unfold literalValue?
  rw [Graph.value?_rename injective]
  cases graph.value? subject predicate <;> simp

theorem literalValue?_iri_rename (iri predicate : String) :
    literalValue? (graph.rename change) (.iri iri) predicate =
      literalValue? graph (.iri iri) predicate :=
  literalValue?_rename injective graph (.iri iri) predicate

theorem contains_iri_rename (subject predicate object : String) :
    (graph.rename change).contains (.iri subject) predicate (.iri object) =
      graph.contains (.iri subject) predicate (.iri object) :=
  Graph.contains_rename injective graph (.iri subject) predicate (.iri object)

theorem objects_iri_rename (iri predicate : String) :
    (graph.rename change).objects (.iri iri) predicate =
      (graph.objects (.iri iri) predicate).map (Term.rename change) :=
  Graph.objects_rename injective graph (.iri iri) predicate

theorem readValue?_rename {α : Type} (read : String → Option α) (subject : Term)
    (predicate : String) :
    Alike Eq (readValue? read (graph.rename change) (subject.rename change) predicate)
      (readValue? read graph subject predicate) := by
  unfold readValue?
  rw [Graph.value?_rename injective]
  cases graph.value? subject predicate with
  | none => exact .ok rfl
  | some value =>
      simp only [Option.map_some, Term.literalValue?_rename]
      cases value.literalValue?.bind read with
      | none => exact .error _ _
      | some result => exact .ok rfl

theorem nodeKind?_rename (owner : String) (node : Term) :
    Alike Eq (nodeKind? (graph.rename change) owner (node.rename change))
      (nodeKind? graph owner node) := by
  unfold nodeKind?
  rw [Graph.value?_rename injective]
  cases graph.value? node Rdf.Vocabulary.shNodeKind with
  | none => exact .ok rfl
  | some value =>
      simp only [Option.map_some, Term.iri?_rename]
      cases value.iri?.bind NodeKind.ofIri? with
      | none => exact .error _ _
      | some kind => exact .ok rfl

omit injective in
theorem filterMap_filter_iri? {α : Type} {read : Term → Option α}
    (named : ∀ term, term.iri? = none → read term = none) (terms : List Term) :
    (terms.filter (·.iri?.isSome)).filterMap read = terms.filterMap read := by
  rw [List.filterMap_filter]
  refine List.filterMap_congr ?_
  intro term _
  cases known : term.iri? with
  | none => simp [named term known]
  | some iri => simp

theorem filterMap_subjects_rename {α : Type} {read other : Term → Option α}
    (named : ∀ term, term.iri? = none → read term = none ∧ other term = none)
    (same : ∀ iri, read (.iri iri) = other (.iri iri)) (predicate value : String) :
    ((graph.rename change).subjects predicate (.iri value)).filterMap read =
      (graph.subjects predicate (.iri value)).filterMap other := by
  rw [← filterMap_filter_iri? fun term unnamed => (named term unnamed).1,
    ← filterMap_filter_iri? fun term unnamed => (named term unnamed).2,
    Graph.filter_subjects_rename injective]
  refine List.filterMap_congr ?_
  intro term member
  obtain ⟨iri, rfl⟩ := Term.exists_eq_iri (List.mem_filter.mp member).2
  exact same iri

theorem classIris_rename : classIris (graph.rename change) = classIris graph := by
  unfold classIris
  rw [List.filterMap_append, List.filterMap_append,
    filterMap_subjects_rename injective graph (fun _ unnamed => ⟨unnamed, unnamed⟩) fun _ => rfl,
    filterMap_subjects_rename injective graph (fun _ unnamed => ⟨unnamed, unnamed⟩) fun _ => rfl]

theorem isClass_rename : isClass (graph.rename change) = isClass graph := by
  funext iri
  rw [isClass, classIris_rename injective]
  rfl

theorem parentsOf_rename (iri : String) :
    parentsOf (graph.rename change) iri = parentsOf graph iri := by
  unfold parentsOf
  rw [objects_iri_rename injective, isClass_rename injective, List.filterMap_map]
  congr 2
  funext term
  exact Term.iri?_rename term

theorem superclasses_rename (iri : String) :
    superclasses (graph.rename change) (.iri iri) = superclasses graph (.iri iri) := by
  unfold superclasses
  rw [objects_iri_rename injective, List.filter_map]
  have named (term : Term) : ((fun parent : Term => parent.iri?.isSome) ∘ Term.rename change) term =
      term.iri?.isSome := by
    simp
  rw [funext named]
  conv_rhs => rw [← List.map_id (List.filter _ _)]
  refine List.map_congr_left ?_
  intro term member
  obtain ⟨iri, rfl⟩ := Term.exists_eq_iri (List.mem_filter.mp member).2
  rfl

theorem inheritedFrom_rename {α : Type} {look other : Term → Except BuildError (Option α)}
    (looks : ∀ iri, Alike Eq (look (.iri iri)) (other (.iri iri))) (bound : Nat)
    (visited : List Term) {queue : List Term} (named : ∀ node ∈ queue, node.iri?.isSome) :
    Alike Eq (inheritedFrom (graph.rename change) look bound visited queue)
      (inheritedFrom graph other bound visited queue) := by
  induction bound generalizing visited queue with
  | zero => cases queue <;> exact .ok rfl
  | succ bound ih =>
      cases queue with
      | nil => exact .ok rfl
      | cons node queue =>
          -- No blank node comes into the queue, so that both queues are the same.
          obtain ⟨first, later⟩ := List.forall_mem_cons.mp named
          obtain ⟨iri, rfl⟩ := Term.exists_eq_iri first
          simp only [inheritedFrom]
          split
          · exact ih visited later
          · have alike := looks iri
            generalize look (.iri iri) = left at alike
            generalize other (.iri iri) = right at alike
            cases alike with
            | error => exact .error _ _
            | ok same =>
                subst same
                rename_i found
                cases found with
                | some found => exact .ok rfl
                | none =>
                    rw [superclasses_rename injective]
                    refine ih _ ?_
                    intro parent member
                    rcases List.mem_append.mp member with waiting | new
                    · exact later parent waiting
                    · exact (List.mem_filter.mp new).2

theorem inherited_rename {α : Type} {look other : Term → Except BuildError (Option α)}
    (looks : ∀ iri, Alike Eq (look (.iri iri)) (other (.iri iri))) (iri : String) :
    Alike Eq (inherited (graph.rename change) look iri) (inherited graph other iri) := by
  unfold inherited
  rw [Graph.size_rename injective]
  exact inheritedFrom_rename injective graph looks _ [] (by simp [Term.iri?])

theorem pathOf?_rename (shape : Term) :
    pathOf? (graph.rename change) (shape.rename change) = pathOf? graph shape := by
  unfold pathOf?
  rw [Graph.value?_rename injective]
  cases graph.value? shape Rdf.Vocabulary.shPath <;> simp

theorem rangeOf_rename (view : View) (owner : String) (shape : Term) (path : String)
    (agree : ∀ items, Lists graph shape items → view.Overlooks change items) :
    Alike (fun left right => view.see left = view.see right)
      (rangeOf (graph.rename change) owner (shape.rename change) path)
      (rangeOf graph owner shape path) := by
  have declared : (graph.rename change).value? (.iri path) Rdf.Vocabulary.rdfsRange =
      (graph.value? (.iri path) Rdf.Vocabulary.rdfsRange).map (Term.rename change) :=
    Graph.value?_rename injective graph (.iri path) _
  have named (found : Option Term) :
      (found.map (Term.rename change)).bind Term.iri? = found.bind Term.iri? := by
    cases found <;> simp
  unfold rangeOf
  simp only [Graph.value?_rename injective, isClass_rename injective, declared, named]
  cases targeted : graph.value? shape Rdf.Vocabulary.shClass with
  | some target =>
      simp only [Option.map_some, Term.iri?_rename]
      cases target.iri?.filter (isClass graph) with
      | none => exact .error _ _
      | some classIri => exact .ok rfl
  | none =>
      simp only [Option.map_none]
      cases closed : graph.value? shape Rdf.Vocabulary.shIn with
      | some head =>
          simp only [Option.map_some]
          have walk := Graph.list_rename injective graph head
          generalize (graph.rename change).list (head.rename change) = other at walk ⊢
          cases walked : graph.list head with
          | error fault =>
              rw [walked] at walk
              cases walk
              exact .error _ _
          | ok items =>
              rw [walked] at walk
              cases walk with
              | ok same =>
                  rw [same]
                  exact .ok (agree items ⟨targeted, head, closed, walked⟩)
      | none =>
          simp only [Option.map_none]
          cases (graph.value? shape Rdf.Vocabulary.shDatatype).bind Term.iri? with
          | some datatype => exact .ok rfl
          | none =>
              dsimp only
              cases (graph.value? (.iri path) Rdf.Vocabulary.rdfsRange).bind Term.iri? with
              | some range => exact .ok rfl
              | none => exact .error _ _

theorem patternOf_rename (view : View) (owner : String) (shape : Term) (path : String)
    {left right : Range} (same : view.see left = view.see right) :
    Alike Eq (patternOf (graph.rename change) owner (shape.rename change) path left)
      (patternOf graph owner shape path right) := by
  have allowed : left.allowsPattern = right.allowsPattern := by
    rw [← view.keeps left, same, view.keeps right]
  unfold patternOf
  rw [literalValue?_rename injective, allowed]
  cases literalValue? graph shape Rdf.Vocabulary.shPattern with
  | none => exact .ok rfl
  | some pattern =>
      dsimp only
      split
      · exact .ok rfl
      · exact .error _ _

theorem buildProperty_rename (view : View) (resolver : Context.Resolver) (owner : String)
    (shape : Term) (path : String)
    (agree : ∀ items, Lists graph shape items → view.Overlooks change items) :
    Alike (fun left right => view.property left = view.property right)
      (buildProperty (graph.rename change) resolver owner (shape.rename change) path)
      (buildProperty graph resolver owner shape path) := by
  unfold buildProperty
  refine (rangeOf_rename injective graph view owner shape path agree).bind ?_
  intro range otherRange ranges
  refine (patternOf_rename injective graph view owner shape path ranges).bind ?_
  rintro pattern _ rfl
  refine (readValue?_rename injective graph readCount? shape _).bind ?_
  rintro minCount _ rfl
  refine (readValue?_rename injective graph readCount? shape _).bind ?_
  rintro maxCount _ rfl
  refine .ok ?_
  simp only [View.property, literalValue?_rename injective, literalValue?_iri_rename injective,
    contains_iri_rename injective, ranges]

theorem buildShape_rename (view : View) (resolver : Context.Resolver) (owner : String)
    (shape : Term)
    (agree : ∀ path, pathOf? graph shape = some path → path ≠ Rdf.Vocabulary.rdfType →
      ∀ items, Lists graph shape items → view.Overlooks change items) :
    Alike (fun left right => left.map view.property = right.map view.property)
      (buildShape (graph.rename change) resolver owner (shape.rename change))
      (buildShape graph resolver owner shape) := by
  unfold buildShape
  rw [pathOf?_rename injective]
  cases first : pathOf? graph shape with
  | none => exact .error _ _
  | some path =>
      dsimp only
      split
      · exact .ok rfl
      · rename_i untyped
        refine (buildProperty_rename injective graph view resolver owner shape path
          (agree path first untyped)).map ?_
        intro left right same
        rw [Option.map_some, Option.map_some, same]

theorem buildShapes_rename (view : View) (resolver : Context.Resolver) (owner : String)
    (shapes : List Term)
    (agree : ∀ shape ∈ shapes, ∀ path, pathOf? graph shape = some path →
      path ≠ Rdf.Vocabulary.rdfType →
      ∀ items, Lists graph shape items → view.Overlooks change items) :
    Alike (fun left right => left.map view.property = right.map view.property)
      (buildShapes (graph.rename change) resolver owner (shapes.map (Term.rename change)))
      (buildShapes graph resolver owner shapes) := by
  induction shapes with
  | nil => exact .ok rfl
  | cons shape shapes ih =>
      obtain ⟨first, later⟩ := List.forall_mem_cons.mp agree
      refine (buildShape_rename injective graph view resolver owner shape first).bind ?_
      intro property otherProperty same
      refine (ih later).bind ?_
      intro properties otherProperties rest
      refine .ok ?_
      rw [List.map_append, List.map_append, ← Option.toList_map, ← Option.toList_map, same, rest]

theorem classesOf_rename (id : String) :
    classesOf (graph.rename change) id = classesOf graph id := by
  unfold classesOf
  rw [objects_iri_rename injective, isClass_rename injective, List.filterMap_map]
  congr 2
  funext term
  exact Term.iri?_rename term

theorem discoverIndividuals_rename (resolver : Context.Resolver) :
    discoverIndividuals (graph.rename change) resolver = discoverIndividuals graph resolver := by
  have stands (classIri id : String) :
      individualOf (graph.rename change) resolver classIri id =
        individualOf graph resolver classIri id := by
    unfold individualOf
    rw [literalValue?_iri_rename injective]
  unfold discoverIndividuals
  rw [filterMap_subjects_rename injective graph (fun _ unnamed => ⟨unnamed, unnamed⟩) fun _ => rfl,
    funext (classesOf_rename injective graph), funext fun classIri => funext (stands classIri)]

theorem forbidsOwnType_rename (classIri : String) (shape : Term) :
    forbidsOwnType (graph.rename change) classIri (shape.rename change) =
      forbidsOwnType graph classIri shape := by
  unfold forbidsOwnType
  rw [pathOf?_rename injective, Graph.objects_rename injective, List.any_map]
  congr 2
  funext other
  exact Graph.contains_rename injective graph other _ (.iri classIri)

theorem buildClass_rename (view : View) (resolver : Context.Resolver) (iri : String)
    (agree : ∀ items, WalkedFor graph iri items → view.Overlooks change items) :
    Alike (fun left right => view.modelClass left = view.modelClass right)
      (buildClass (graph.rename change) resolver iri) (buildClass graph resolver iri) := by
  have described := buildShapes_rename injective graph view resolver iri
    (graph.objects (.iri iri) Rdf.Vocabulary.shProperty)
    fun shape member path first untyped items lists =>
      agree items ⟨shape, member, path, first, untyped, lists⟩
  unfold buildClass
  refine (inherited_rename injective graph
    (fun value => nodeKind?_rename injective graph iri (.iri value)) iri).bind ?_
  rintro nodeKind _ rfl
  refine (inherited_rename injective graph
    (fun value => .ok (literalValue?_iri_rename injective graph value _)) iri).bind ?_
  rintro idProperty _ rfl
  refine (inherited_rename injective graph
    (fun value => readValue?_rename injective graph readTruth? (.iri value) _) iri).bind ?_
  rintro isExtensible _ rfl
  refine (readValue?_rename injective graph readTruth? (.iri iri) _).bind ?_
  rintro markedAbstract _ rfl
  rw [objects_iri_rename injective]
  refine described.bind ?_
  intro properties otherProperties same
  refine .ok ?_
  have excluded : ((graph.objects (.iri iri) Rdf.Vocabulary.shProperty).map
      (Term.rename change)).any (forbidsOwnType (graph.rename change) iri) =
      (graph.objects (.iri iri) Rdf.Vocabulary.shProperty).any (forbidsOwnType graph iri) := by
    rw [List.any_map]
    congr 1
    funext shape
    exact forbidsOwnType_rename injective graph iri shape
  have keeps (property : Property) : (view.property property).path = property.path := rfl
  have ordered : (Sorted.byKey Property.path properties).map view.property =
      (Sorted.byKey Property.path otherProperties).map view.property := by
    rw [← Sorted.byKey_map keeps, same, Sorted.byKey_map keeps]
  simp only [View.modelClass, ordered, excluded, parentsOf_rename injective,
    literalValue?_iri_rename injective, contains_iri_rename injective]

theorem buildClasses_rename (view : View) (resolver : Context.Resolver)
    (found : List (String × List Individual)) (iris : List String)
    (agree : ∀ iri ∈ iris, ∀ items, WalkedFor graph iri items → view.Overlooks change items) :
    Alike (fun left right => left.map view.modelClass = right.map view.modelClass)
      (buildClasses (graph.rename change) resolver found iris)
      (buildClasses graph resolver found iris) := by
  induction iris generalizing found with
  | nil => exact .ok rfl
  | cons iri iris ih =>
      obtain ⟨first, later⟩ := List.forall_mem_cons.mp agree
      refine (buildClass_rename injective graph view resolver iri first).bind ?_
      intro modelClass otherClass same
      refine (ih (Keyed.erase iri found) later).bind ?_
      intro classes otherClasses rest
      refine .ok ?_
      have given : view.modelClass { modelClass with individuals := Keyed.items iri found } =
          view.modelClass { otherClass with individuals := Keyed.items iri found } :=
        congrArg (fun seen : Class => { seen with individuals := Keyed.items iri found }) same
      rw [List.map_cons, List.map_cons, given, rest]

end

/-! Models. -/

theorem build_rename {change : String → String} (injective : Function.Injective change)
    (graph : Graph) (view : View) (resolver : Context.Resolver)
    (agree : ∀ items, Walked graph items → view.Overlooks change items) :
    Alike (fun left right => view.model left = view.model right)
      (build (graph.rename change) resolver) (build graph resolver) := by
  unfold build
  rw [classIris_rename injective, discoverIndividuals_rename injective]
  refine (buildClasses_rename injective graph view resolver _ _
    fun iri declared items walked => agree items ⟨iri, declared, walked⟩).bind ?_
  intro classes otherClasses same
  refine (dependencyOrder_alike view same).bind ?_
  intro ordered otherOrdered sameOrder
  exact .ok (congrArg Model.mk sameOrder)

theorem View.overlooks_blurred (change : String → String) (items : List Term) :
    View.blurred.Overlooks change items := rfl

theorem View.overlooks_of_named {change : String → String} {items : List Term} (view : View)
    (named : ∀ item ∈ items, item.label? = none) : view.Overlooks change items := by
  have unchanged : items.map (Term.rename change) = items := by
    conv_rhs => rw [← List.map_id items]
    refine List.map_congr_left ?_
    intro item member
    exact Term.rename_of_label? (named item member)
  rw [View.Overlooks, unchanged]

/-- The labels of blank nodes do not count, as long as different nodes have different labels: a model
is built whatever they are, and it is the same model unless they name members of a closed set. -/
theorem build_respects_renaming {graph : Graph} {change : String → String}
    (apart : ∀ left ∈ graph.labels, ∀ right ∈ graph.labels,
      change left = change right → left = right) (resolver : Context.Resolver) :
    ((∃ model, build (graph.rename change) resolver = .ok model) ↔
      ∃ model, build graph resolver = .ok model) ∧
    ((∀ items, Walked graph items → ∀ item ∈ items, item.label? = none) →
      ∀ model, build (graph.rename change) resolver = .ok model ↔
        build graph resolver = .ok model) := by
  obtain ⟨whole, injective, agree⟩ := Graph.exists_injective apart
  rw [Graph.rename_congr agree]
  constructor
  -- A blurred view is enough to tell whether there is a model, and needs nothing of the collections.
  · exact (build_rename injective graph View.blurred resolver
      fun items _ => View.overlooks_blurred whole items).exists_ok_iff
  · intro named
    have alike := build_rename injective graph View.whole resolver
      fun items walked => View.whole.overlooks_of_named (named items walked)
    simp only [View.model_whole] at alike
    exact alike.ok_iff

def labelledGraph : Graph :=
  .ofList [
    ⟨.iri "a", Rdf.Vocabulary.rdfType, .iri Rdf.Vocabulary.owlClass⟩,
    ⟨.blank "any", Rdf.Vocabulary.rdfType, .iri Rdf.Vocabulary.owlClass⟩,
    ⟨.iri "a", Rdf.Vocabulary.rdfsSubClassOf, .blank "any"⟩,
    ⟨.iri "a", Rdf.Vocabulary.shProperty, .blank "size"⟩,
    ⟨.iri "a", Rdf.Vocabulary.shProperty, .blank "type"⟩,
    ⟨.blank "size", Rdf.Vocabulary.shPath, .iri "size"⟩,
    ⟨.blank "size", Rdf.Vocabulary.shIn, .blank "items"⟩,
    ⟨.blank "items", Rdf.Vocabulary.rdfFirst, .plain "wide"⟩,
    ⟨.blank "items", Rdf.Vocabulary.rdfRest, .iri Rdf.Vocabulary.rdfNil⟩,
    ⟨.blank "type", Rdf.Vocabulary.shPath, .iri Rdf.Vocabulary.rdfType⟩,
    ⟨.blank "type", Rdf.Vocabulary.shNot, .blank "self"⟩,
    ⟨.blank "self", Rdf.Vocabulary.shHasValue, .iri "a"⟩]

def backwards (label : String) : String :=
  String.ofList label.toList.reverse

theorem build_respects_renaming_backwards :
    (∀ left ∈ labelledGraph.labels, ∀ right ∈ labelledGraph.labels,
      backwards left = backwards right → left = right) ∧
    (labelledGraph.rename backwards).triples ≠ labelledGraph.triples ∧
    (∀ items, Walked labelledGraph items → ∀ item ∈ items, item.label? = none) ∧
    ∃ model, build labelledGraph (.ofDocuments []) = .ok model ∧
      build (labelledGraph.rename backwards) (.ofDocuments []) = .ok model := by
  have apart : ∀ left ∈ labelledGraph.labels, ∀ right ∈ labelledGraph.labels,
      backwards left = backwards right → left = right := by
    decide +kernel
  have checked : ∀ iri ∈ classIris labelledGraph,
      ∀ shape ∈ labelledGraph.objects (.iri iri) Rdf.Vocabulary.shProperty,
      ∀ head ∈ labelledGraph.value? shape Rdf.Vocabulary.shIn,
      ∀ items ∈ (labelledGraph.list head).toOption, ∀ item ∈ items, item.label? = none := by
    decide +kernel
  have named : ∀ items, Walked labelledGraph items → ∀ item ∈ items, item.label? = none := by
    rintro items ⟨iri, declared, shape, member, _, _, _, _, head, closed, walked⟩
    exact checked iri declared shape member head closed items (by rw [walked]; rfl)
  have parents : (build labelledGraph (.ofDocuments [])).toOption.map (fun model =>
      model.classes.map fun modelClass => (modelClass.id, modelClass.parents)) =
      some [("a", [])] := by
    decide +kernel
  obtain ⟨model, run, _⟩ := Outcomes.exists_ok_of_looked parents
  refine ⟨apart, by decide +kernel, named, model, run, ?_⟩
  exact ((build_respects_renaming apart (.ofDocuments [])).2 named model).mpr run

end ShapeCompiler.Model
