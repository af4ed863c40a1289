import ShapeCompiler.Model.Build
import ShapeCompiler.Proofs.Model.ParentsFirst

/-! What the building of a model does when it succeeds. The classes that the graph declares are built
one by one, told their children, and put in an order in which parents come first. -/

namespace ShapeCompiler.Model

open Rdf (Graph Term)

theorem mem_classIris {graph : Graph} {iri : String} :
    iri ∈ classIris graph ↔
      ⟨.iri iri, Rdf.Vocabulary.rdfType, .iri Rdf.Vocabulary.owlClass⟩ ∈ graph.triples ∨
        ⟨.iri iri, Rdf.Vocabulary.rdfType, .iri Rdf.Vocabulary.owlDeprecatedClass⟩ ∈
          graph.triples := by
  rw [classIris, Sorted.mem_ofList, List.mem_filterMap]
  simp only [List.mem_append, Rdf.Graph.mem_subjects]
  constructor
  · rintro ⟨term, declared, named⟩
    cases term with
    | iri value =>
        cases named
        exact declared
    | blank label => cases named
    | literal parts => cases named
  · intro declared
    exact ⟨.iri iri, declared, rfl⟩

theorem nodup_classIris (graph : Graph) : (classIris graph).Nodup :=
  Sorted.nodup_ofList _

theorem nodup_filterMap_iri? {terms : List Term} (distinct : terms.Nodup) :
    (terms.filterMap Term.iri?).Nodup := by
  refine distinct.filterMap ?_
  intro left right iri leftNamed rightNamed
  cases left <;> cases right <;> cases leftNamed <;> cases rightNamed
  rfl

theorem nodup_parentsOf (graph : Graph) (iri : String) : (parentsOf graph iri).Nodup :=
  (nodup_filterMap_iri? (graph.nodup_objects _ _)).filter _

theorem parentsOf_other_class {graph : Graph} {iri parent : String}
    (direct : parent ∈ parentsOf graph iri) : parent ∈ classIris graph ∧ parent ≠ iri := by
  have kept := (List.mem_filter.mp direct).2
  simp only [isClass, Bool.and_eq_true, List.contains_iff_mem, decide_eq_true_eq] at kept
  exact ⟨kept.2, kept.1⟩

/-- Where the parts of a class come from. -/
structure BuiltClass (graph : Graph) (resolver : Context.Resolver) (iri : String)
    (modelClass : Class) : Prop where
  id : modelClass.id = iri
  parents : modelClass.parents = parentsOf graph iri
  nodeKind : ∃ kind, inherited graph (nodeKind? graph iri) iri = .ok kind ∧
    modelClass.nodeKind = kind.getD .blankNodeOrIri
  idProperty :
    inherited graph (fun node => .ok (literalValue? graph node Rdf.Vocabulary.idPropertyName)) iri =
      .ok modelClass.idProperty
  isExtensible : ∃ extensible,
    inherited graph (fun node => truth? graph node Rdf.Vocabulary.isExtensible) iri =
      .ok extensible ∧
    modelClass.isExtensible = extensible.getD false
  properties : ∃ properties,
    buildShapes graph resolver iri (graph.objects (.iri iri) Rdf.Vocabulary.shProperty) =
      .ok properties ∧
    modelClass.properties = Sorted.byKey Property.path properties
  bare : modelClass.individuals = [] ∧ modelClass.derived = []

theorem buildClass_sound {graph : Graph} {resolver : Context.Resolver} {iri : String}
    {modelClass : Class} (built : buildClass graph resolver iri = .ok modelClass) :
    BuiltClass graph resolver iri modelClass := by
  unfold buildClass at built
  obtain ⟨kind, kinds, built⟩ := Outcomes.bind_eq_ok.mp built
  obtain ⟨idProperty, named, built⟩ := Outcomes.bind_eq_ok.mp built
  obtain ⟨extensible, marked, built⟩ := Outcomes.bind_eq_ok.mp built
  obtain ⟨markedAbstract, -, built⟩ := Outcomes.bind_eq_ok.mp built
  obtain ⟨properties, described, built⟩ := Outcomes.bind_eq_ok.mp built
  cases built
  exact ⟨rfl, rfl, ⟨kind, kinds, rfl⟩, named, ⟨extensible, marked, rfl⟩,
    ⟨properties, described, rfl⟩, rfl, rfl⟩

theorem buildClasses_sound {graph : Graph} {resolver : Context.Resolver}
    {found : List (String × List Individual)} {iris : List String} (distinct : iris.Nodup)
    {classes : List Class} (built : buildClasses graph resolver found iris = .ok classes) :
    classes.map Class.id = iris ∧
      ∀ modelClass ∈ classes,
        buildClass graph resolver modelClass.id = .ok { modelClass with individuals := [] } ∧
          modelClass.individuals = Keyed.items modelClass.id found := by
  induction iris generalizing found classes with
  | nil =>
      cases built
      exact ⟨rfl, by simp⟩
  | cons iri rest ih =>
      obtain ⟨fresh, distinct⟩ := List.nodup_cons.mp distinct
      obtain ⟨first, runs, built⟩ := Outcomes.bind_eq_ok.mp built
      obtain ⟨others, run, built⟩ := Outcomes.bind_eq_ok.mp built
      cases built
      obtain ⟨ids, each⟩ := ih distinct run
      obtain rfl := (buildClass_sound runs).id
      refine ⟨congrArg (first.id :: ·) ids, ?_⟩
      intro modelClass member
      rcases List.mem_cons.mp member with rfl | later
      · refine ⟨?_, rfl⟩
        rw [← (buildClass_sound runs).bare.1]
        exact runs
      · obtain ⟨run, taken⟩ := each modelClass later
        refine ⟨run, taken.trans (Keyed.items_erase_ne ?_ found)⟩
        rintro same
        exact fresh (ids ▸ same ▸ List.mem_map_of_mem later)

def childrenOf (classes : List Class) (iri : String) : List String :=
  Sorted.byKey id (Keyed.items iri (childrenByParent classes))

theorem foldl_tellChildren {entries : List (String × List String)}
    (distinct : (entries.map Prod.fst).Nodup) (classes : List Class) :
    entries.foldl (fun classes entry => tellChildren classes entry.1 (Sorted.byKey id entry.2))
        classes =
      classes.map fun modelClass =>
        match Keyed.find? modelClass.id entries with
        | none => modelClass
        | some children => { modelClass with derived := Sorted.byKey id children } := by
  induction entries generalizing classes with
  | nil => simp [Keyed.find?]
  | cons entry rest ih =>
      obtain ⟨fresh, distinct⟩ := List.nodup_cons.mp distinct
      rw [List.foldl_cons, ih distinct, tellChildren, List.map_map]
      refine List.map_congr_left fun modelClass _ => ?_
      dsimp only [Function.comp_apply]
      by_cases same : modelClass.id = entry.1
      · -- No later entry is for the same parent.
        have gone : Keyed.find? entry.1 rest = none := by
          rwa [← Option.not_isSome_iff_eq_none, ← Keyed.contains, Keyed.contains_iff]
        rw [if_pos same]
        simp [same, gone, Keyed.find?]
      · rw [if_neg same]
        simp [Ne.symm same, Keyed.find?]

theorem withChildren_eq {classes : List Class} (bare : ∀ modelClass ∈ classes, modelClass.derived = []) :
    withChildren classes = classes.map fun modelClass =>
      { modelClass with derived := childrenOf classes modelClass.id } := by
  have distinct : ((childrenByParent classes).map Prod.fst).Nodup :=
    Sorted.nodup_of_pairwise (Keyed.increasing_distribute _ _ classes)
  rw [withChildren, foldl_tellChildren distinct]
  refine List.map_congr_left fun modelClass member => ?_
  unfold childrenOf Keyed.items
  cases Keyed.find? modelClass.id (childrenByParent classes) with
  | none =>
      dsimp only [Option.getD_none]
      rw [Sorted.byKey, List.foldr_nil, ← bare modelClass member]
  | some children => rfl

theorem map_id_withChildren (classes : List Class) :
    (withChildren classes).map Class.id = classes.map Class.id := by
  let SameIds (told : List Class) : Prop := told.map Class.id = classes.map Class.id
  refine List.foldlRecOn (motive := SameIds) (childrenByParent classes) _ rfl ?_
  intro told kept entry _
  change (tellChildren told entry.1 _).map Class.id = _
  rw [← kept, tellChildren, List.map_map]
  refine List.map_congr_left fun modelClass _ => ?_
  dsimp only [Function.comp_apply]
  split <;> rfl

/-- How a model comes from the classes that were built for it. -/
structure Built (graph : Graph) (resolver : Context.Resolver) (classes : List Class)
    (model : Model) : Prop where
  ids : classes.map Class.id = classIris graph
  each : ∀ modelClass ∈ classes,
    buildClass graph resolver modelClass.id = .ok { modelClass with individuals := [] } ∧
      modelClass.individuals = Keyed.items modelClass.id (discoverIndividuals graph resolver)
  kept : model.classes.Perm (withChildren classes)
  first : ParentsFirst [] model.classes

theorem build_sound {graph : Graph} {resolver : Context.Resolver} {model : Model}
    (built : build graph resolver = .ok model) :
    ∃ classes, Built graph resolver classes model := by
  obtain ⟨classes, runs, built⟩ := Outcomes.bind_eq_ok.mp built
  obtain ⟨ordered, run, built⟩ := Outcomes.bind_eq_ok.mp built
  cases built
  obtain ⟨ids, each⟩ := buildClasses_sound (nodup_classIris graph) runs
  have distinct : ((withChildren classes).map Class.id).Nodup := by
    rw [map_id_withChildren, ids]
    exact nodup_classIris graph
  obtain ⟨kept, first⟩ := dependencyOrder_sound
    (by simpa [Function.comp_def] using distinct) (by simp) run
  refine ⟨classes, ids, each, ?_, first⟩
  simpa [Function.comp_def] using kept

section

variable {graph : Graph} {resolver : Context.Resolver} {classes : List Class} {model : Model}

theorem Built.declared (built : Built graph resolver classes model) :
    (model.classes.map Class.id).Perm (classIris graph) := by
  have kept := built.kept.map Class.id
  rwa [map_id_withChildren, built.ids] at kept

theorem Built.distinct (built : Built graph resolver classes model) :
    (model.classes.map Class.id).Nodup :=
  built.declared.nodup_iff.mpr (nodup_classIris graph)

theorem Built.told (built : Built graph resolver classes model) :
    withChildren classes = classes.map fun modelClass =>
      { modelClass with derived := childrenOf classes modelClass.id } :=
  withChildren_eq fun modelClass before => (buildClass_sound (built.each modelClass before).1).bare.2

theorem Built.origin (built : Built graph resolver classes model) {modelClass : Class}
    (member : modelClass ∈ model.classes) :
    ∃ childless ∈ classes,
      buildClass graph resolver modelClass.id = .ok { childless with individuals := [] } ∧
      modelClass.individuals = Keyed.items modelClass.id (discoverIndividuals graph resolver) ∧
      modelClass = { childless with derived := childrenOf classes modelClass.id } := by
  have kept := built.kept.subset member
  rw [built.told] at kept
  obtain ⟨childless, before, rfl⟩ := List.mem_map.mp kept
  obtain ⟨run, taken⟩ := built.each childless before
  exact ⟨childless, before, run, taken, rfl⟩

theorem Built.parents (built : Built graph resolver classes model) {modelClass : Class}
    (member : modelClass ∈ model.classes) : modelClass.parents = parentsOf graph modelClass.id := by
  obtain ⟨childless, _, run, _, told⟩ := built.origin member
  exact (congrArg Class.parents told).trans (buildClass_sound run).parents

theorem Built.mem_ids (built : Built graph resolver classes model) {iri : String} :
    iri ∈ model.classes.map Class.id ↔ iri ∈ classIris graph :=
  built.declared.mem_iff

theorem Built.parents_known (built : Built graph resolver classes model) {modelClass : Class}
    (member : modelClass ∈ model.classes) {parent : String} (direct : parent ∈ modelClass.parents) :
    parent ≠ modelClass.id ∧ parent ∈ model.classes.map Class.id := by
  rw [built.parents member] at direct
  obtain ⟨listed, different⟩ := parentsOf_other_class direct
  exact ⟨different, built.mem_ids.mpr listed⟩

end

/-- A model holds every declared class once and no other, and every class comes after its parents, with
the parents that the graph gives it, and after all its ancestors. -/
theorem build_parents_first {graph : Graph} {resolver : Context.Resolver} {model : Model}
    (succeeds : build graph resolver = .ok model) :
    (∀ iri, iri ∈ model.classes.map Class.id ↔
      ⟨.iri iri, Rdf.Vocabulary.rdfType, .iri Rdf.Vocabulary.owlClass⟩ ∈ graph.triples ∨
        ⟨.iri iri, Rdf.Vocabulary.rdfType, .iri Rdf.Vocabulary.owlDeprecatedClass⟩ ∈
          graph.triples) ∧
    (model.classes.map Class.id).Nodup ∧
    ∀ index modelClass, model.classes[index]? = some modelClass →
      modelClass.parents = parentsOf graph modelClass.id ∧
        (∀ parent ∈ modelClass.parents, Preceded model.classes index parent) ∧
        ∀ iri, Ancestor model.classes modelClass iri → Preceded model.classes index iri := by
  obtain ⟨classes, built⟩ := build_sound succeeds
  refine ⟨?_, built.distinct, ?_⟩
  · intro iri
    rw [built.declared.mem_iff, mem_classIris]
  · intro index modelClass position
    have member := List.mem_of_getElem? position
    refine ⟨built.parents member, ?_, ?_⟩
    · intro parent direct
      exact built.first.ancestor_preceded built.distinct position (.parent direct)
    · intro iri ancestor
      exact built.first.ancestor_preceded built.distinct position ancestor

def chainGraph : Graph :=
  .ofList [
    ⟨.iri "a", Rdf.Vocabulary.rdfType, .iri Rdf.Vocabulary.owlClass⟩,
    ⟨.iri "a", Rdf.Vocabulary.rdfsSubClassOf, .iri "b"⟩,
    ⟨.iri "b", Rdf.Vocabulary.rdfType, .iri Rdf.Vocabulary.owlClass⟩,
    ⟨.iri "b", Rdf.Vocabulary.rdfsSubClassOf, .iri "c"⟩,
    ⟨.iri "c", Rdf.Vocabulary.rdfType, .iri Rdf.Vocabulary.owlDeprecatedClass⟩]

theorem build_parents_first_chain :
    ∃ model modelClass, build chainGraph (.ofDocuments []) = .ok model ∧
      model.classes[2]? = some modelClass ∧ modelClass.id = "a" ∧
      Preceded model.classes 2 "b" ∧ Preceded model.classes 2 "c" := by
  have order : (build chainGraph (.ofDocuments [])).toOption.map
      (fun model => model.classes.map Class.id) = some ["c", "b", "a"] := by
    decide +kernel
  cases succeeds : build chainGraph (.ofDocuments []) with
  | error fault => simp [succeeds, Except.toOption] at order
  | ok model =>
      simp only [succeeds, Except.toOption, Option.map_some, Option.some.injEq] at order
      obtain ⟨_, _, positions⟩ := build_parents_first succeeds
      have standing (index : Nat) (iri : String) (listed : ["c", "b", "a"][index]? = some iri) :
          ∃ modelClass, model.classes[index]? = some modelClass ∧ modelClass.id = iri := by
        rwa [← order, List.getElem?_map, Option.map_eq_some_iff] at listed
      obtain ⟨child, childStands, childId⟩ := standing 2 "a" rfl
      obtain ⟨between, betweenStands, betweenId⟩ := standing 1 "b" rfl
      obtain ⟨childParents, before, behind⟩ := positions 2 child childStands
      obtain ⟨betweenParents, _, _⟩ := positions 1 between betweenStands
      have direct : "b" ∈ child.parents := by
        rw [childParents, childId]
        decide +kernel
      have further : "c" ∈ between.parents := by
        rw [betweenParents, betweenId]
        decide +kernel
      refine ⟨model, child, rfl, childStands, childId, before "b" direct, behind "c" ?_⟩
      rw [← betweenId] at direct
      exact .further (.parent direct) (List.mem_of_getElem? betweenStands) further

end ShapeCompiler.Model
