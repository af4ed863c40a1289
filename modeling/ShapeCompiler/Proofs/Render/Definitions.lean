import Mathlib.Data.List.Dedup
import Mathlib.Data.List.Find
import ShapeCompiler.Proofs.Render.Names
import ShapeCompiler.Proofs.Render.References
import ShapeCompiler.Sorted

/-! The definitions that a schema holds. They are named for the type names of classes, and of classes
with one type name the last replaces the definitions of the others. So nothing is lost exactly where
type names are distinct. -/

namespace ShapeCompiler.Render.JsonSchema

def definitionNames (document : Json) : List String :=
  match document.member? "$defs" with
  | some (.object members) => members.map Prod.fst
  | _ => []

def typeNames (classes : List Model.Class) : List String :=
  classes.map typeName

def concreteClasses (model : Model) : List Model.Class :=
  model.classes.filter fun modelClass => !modelClass.isAbstract

def lastNamed? (name : String) (classes : List Model.Class) : Option Model.Class :=
  classes.reverse.find? fun modelClass => typeName modelClass == name

def ownNames (modelClass : Model.Class) : List String :=
  [propsName (typeName modelClass), derivedName (typeName modelClass)] ++
    if modelClass.isAbstract then [] else [typeName modelClass]

/-- A document holds what is generated from a class under the names of the class. -/
structure Holds (model : Model) (document : Json) (modelClass : Model.Class) : Prop where
  props : definition? document (propsName (typeName modelClass)) =
    some (propsSchema model modelClass)
  derived : definition? document (derivedName (typeName modelClass)) =
    some (derivedSchema model modelClass)
  instances : modelClass.isAbstract = false →
    definition? document (typeName modelClass) = some (classSchema modelClass (typeName modelClass))

/-- No class is lost: no two share a name, so that there are two definitions for each class and one more
for each with instances of its own, and those of each class are in the document. -/
structure KeepsClasses (model : Model) (document : Json) : Prop where
  apart : model.classes.Pairwise fun left right => (ownNames left).Disjoint (ownNames right)
  counted : (definitionNames document).length =
    2 * model.classes.length + (concreteClasses model).length
  each : ∀ modelClass ∈ model.classes, Holds model document modelClass

/-- Of classes with one type name the last gives the definitions, and there are no others. -/
structure KeepsLast (model : Model) (document : Json) : Prop where
  names_distinct : (definitionNames document).Nodup
  counted : (definitionNames document).length =
    2 * (typeNames model.classes).dedup.length + (typeNames (concreteClasses model)).dedup.length
  props : ∀ name, definition? document (propsName name) =
    (lastNamed? name model.classes).map (propsSchema model)
  derived : ∀ name, definition? document (derivedName name) =
    (lastNamed? name model.classes).map (derivedSchema model)
  instances : ∀ modelClass ∈ model.classes, definition? document (typeName modelClass) =
    (lastNamed? (typeName modelClass) (concreteClasses model)).map
      (classSchema · (typeName modelClass))

theorem propsName_inj {name other : String} : propsName name = propsName other ↔ name = other :=
  String.append_left_inj _

theorem derivedName_inj {name other : String} : derivedName name = derivedName other ↔ name = other :=
  String.append_left_inj _

theorem propsName_ne_derivedName (name other : String) : propsName name ≠ derivedName other := by
  intro same
  have ends := congrArg (fun text => text.toList.getLast?) same
  simp [propsName, derivedName, String.toList_append] at ends

theorem typeName_ne_append (modelClass : Model.Class) {name ending : String}
    (marked : '_' ∈ ending.toList) : typeName modelClass ≠ name ++ ending := by
  intro same
  have inside : '_' ∈ (typeName modelClass).toList := by
    rw [same, String.toList_append]
    exact List.mem_append_right _ marked
  exact underscore_not_mem_typeName modelClass inside

theorem typeName_ne_propsName (modelClass : Model.Class) (name : String) :
    typeName modelClass ≠ propsName name :=
  typeName_ne_append modelClass (by decide)

theorem typeName_ne_derivedName (modelClass : Model.Class) (name : String) :
    typeName modelClass ≠ derivedName name :=
  typeName_ne_append modelClass (by decide)

theorem mem_ownNames {modelClass : Model.Class} {name : String} :
    name ∈ ownNames modelClass ↔
      name = propsName (typeName modelClass) ∨ name = derivedName (typeName modelClass) ∨
        modelClass.isAbstract = false ∧ name = typeName modelClass := by
  unfold ownNames
  cases modelClass.isAbstract <;> simp

theorem disjoint_ownNames {left right : Model.Class} (different : typeName left ≠ typeName right) :
    (ownNames left).Disjoint (ownNames right) := by
  intro name ofLeft ofRight
  rw [mem_ownNames] at ofLeft ofRight
  rcases ofLeft with rfl | rfl | ⟨_, rfl⟩
  · rcases ofRight with props | derived | ⟨_, instances⟩
    · exact different (propsName_inj.mp props)
    · exact propsName_ne_derivedName _ _ derived
    · exact typeName_ne_propsName right _ instances.symm
  · rcases ofRight with props | derived | ⟨_, instances⟩
    · exact propsName_ne_derivedName _ _ props.symm
    · exact different (derivedName_inj.mp derived)
    · exact typeName_ne_derivedName right _ instances.symm
  · rcases ofRight with props | derived | ⟨_, instances⟩
    · exact typeName_ne_propsName left _ props
    · exact typeName_ne_derivedName left _ derived
    · exact different instances

theorem apart_iff {classes : List Model.Class} :
    classes.Pairwise (fun left right => (ownNames left).Disjoint (ownNames right)) ↔
      (typeNames classes).Nodup := by
  rw [typeNames, List.Nodup, List.pairwise_map]
  constructor
  · intro apart
    refine apart.imp ?_
    intro left right disjoint same
    have ofLeft : propsName (typeName left) ∈ ownNames left := mem_ownNames.mpr (Or.inl rfl)
    have ofRight : propsName (typeName left) ∈ ownNames right := mem_ownNames.mpr (Or.inl (same ▸ rfl))
    exact disjoint ofLeft ofRight
  · intro distinct
    exact distinct.imp disjoint_ownNames

theorem findSome?_eq_map_find? {α β : Type} (accepts : α → Bool) (change : α → β) (items : List α) :
    (items.findSome? fun item => if accepts item then some (change item) else none) =
      (items.find? accepts).map change := by
  rw [List.find?_eq_findSome?_guard, List.map_findSome?]
  congr 1
  funext item
  by_cases accepted : accepts item = true
  · simp [Option.guard, accepted]
  · simp [Option.guard, accepted]

theorem definition?_eq_findSome? (model : Model) (options : Options) (name : String) :
    definition? (schema model options) name = model.classes.reverse.findSome? fun modelClass =>
      Keyed.find? name (definitionsOf model modelClass).reverse := by
  rw [definition?_schema, Keyed.find?_ofList, definitions, List.reverse_flatMap, Keyed.find?_flatMap]
  rfl

theorem definition?_eq_lastNamed? {model : Model} (options : Options) {own name : String}
    (accepts : Model.Class → Bool) (generated : Model.Class → Json)
    (single : ∀ modelClass ∈ model.classes,
      Keyed.find? own (definitionsOf model modelClass).reverse =
        if accepts modelClass && typeName modelClass == name then some (generated modelClass)
        else none) :
    definition? (schema model options) own =
      (lastNamed? name (model.classes.filter accepts)).map generated := by
  rw [definition?_eq_findSome?, lastNamed?, ← List.filter_reverse, List.find?_filter,
    ← findSome?_eq_map_find?]
  have listed : ∀ modelClass ∈ model.classes.reverse, modelClass ∈ model.classes :=
    fun modelClass => List.mem_reverse.mp
  generalize model.classes.reverse = classes at listed
  induction classes with
  | nil => rfl
  | cons modelClass rest ih =>
      rw [List.findSome?_cons, List.findSome?_cons, single modelClass (listed _ List.mem_cons_self),
        ih fun other later => listed other (List.mem_cons_of_mem modelClass later)]
      simp

section

variable {model : Model} (linked : Model.Linked model)
include linked

theorem nameOf_of_mem {modelClass : Model.Class} (member : modelClass ∈ model.classes) :
    nameOf model modelClass.id = typeName modelClass := by
  rw [nameOf, linked.find?_reverse member]

theorem find?_reverse_definitionsOf {modelClass : Model.Class} (member : modelClass ∈ model.classes)
    (own : String) :
    Keyed.find? own (definitionsOf model modelClass).reverse =
      if modelClass.isAbstract = false ∧ typeName modelClass = own then
        some (classSchema modelClass own)
      else if derivedName (typeName modelClass) = own then some (derivedSchema model modelClass)
      else if propsName (typeName modelClass) = own then some (propsSchema model modelClass)
      else none := by
  rw [definitionsOf, nameOf_of_mem linked member]
  by_cases instances : modelClass.isAbstract = false ∧ typeName modelClass = own
  · simp [Keyed.find?_append, instances]
  · simp [Keyed.find?_append, Keyed.find?, instances]

theorem definition?_props (options : Options) (name : String) :
    definition? (schema model options) (propsName name) =
      (lastNamed? name model.classes).map (propsSchema model) := by
  rw [definition?_eq_lastNamed? options (fun _ => true) (propsSchema model), List.filter_true]
  intro modelClass member
  rw [find?_reverse_definitionsOf linked member, if_neg fun own => typeName_ne_propsName _ _ own.2,
    if_neg (propsName_ne_derivedName name _).symm]
  simp [propsName_inj]

theorem definition?_derived (options : Options) (name : String) :
    definition? (schema model options) (derivedName name) =
      (lastNamed? name model.classes).map (derivedSchema model) := by
  rw [definition?_eq_lastNamed? options (fun _ => true) (derivedSchema model), List.filter_true]
  intro modelClass member
  rw [find?_reverse_definitionsOf linked member, if_neg fun own => typeName_ne_derivedName _ _ own.2,
    if_neg (propsName_ne_derivedName _ name)]
  simp [derivedName_inj]

theorem definition?_instances (options : Options) (owner : Model.Class) :
    definition? (schema model options) (typeName owner) =
      (lastNamed? (typeName owner) (concreteClasses model)).map (classSchema · (typeName owner)) := by
  rw [concreteClasses, definition?_eq_lastNamed? options]
  intro modelClass member
  rw [find?_reverse_definitionsOf linked member, if_neg (typeName_ne_derivedName owner _).symm,
    if_neg (typeName_ne_propsName owner _).symm]
  simp

/-! How many definitions there are. -/

theorem mem_definitions_names {name : String} :
    name ∈ (definitions model).map Prod.fst ↔
      (∃ own ∈ typeNames model.classes, propsName own = name) ∨
        (∃ own ∈ typeNames model.classes, derivedName own = name) ∨
          name ∈ typeNames (concreteClasses model) := by
  constructor
  · intro listed
    obtain ⟨entry, member, rfl⟩ := List.mem_map.mp listed
    obtain ⟨modelClass, inside, own⟩ := mem_definitions.mp member
    have named := nameOf_of_mem linked inside
    have known : typeName modelClass ∈ typeNames model.classes := List.mem_map_of_mem inside
    rw [mem_definitionsOf, named] at own
    rcases own with rfl | rfl | ⟨concrete, rfl⟩
    · exact Or.inl ⟨_, known, rfl⟩
    · exact Or.inr (Or.inl ⟨_, known, rfl⟩)
    · have kept : modelClass ∈ concreteClasses model :=
        List.mem_filter.mpr ⟨inside, by simpa using concrete⟩
      exact Or.inr (Or.inr (List.mem_map_of_mem kept))
  · rintro (⟨own, known, rfl⟩ | ⟨own, known, rfl⟩ | known)
    · obtain ⟨modelClass, inside, rfl⟩ := List.mem_map.mp known
      have defined := propsName_defined inside
      rwa [nameOf_of_mem linked inside] at defined
    · obtain ⟨modelClass, inside, rfl⟩ := List.mem_map.mp known
      have defined := derivedName_defined inside
      rwa [nameOf_of_mem linked inside] at defined
    · obtain ⟨modelClass, kept, rfl⟩ := List.mem_map.mp known
      obtain ⟨inside, concrete⟩ := List.mem_filter.mp kept
      have defined := nameOf_defined inside (by simpa using concrete)
      rwa [nameOf_of_mem linked inside] at defined

omit linked in
theorem definitionNames_schema (options : Options) :
    definitionNames (schema model options) = (Keyed.ofList (definitions model)).map Prod.fst := by
  have held : (schema model options).member? "$defs" = some (Json.sorted (definitions model)) := by
    simp [schema, Json.sorted, Json.member?, Keyed.find?_ofList, Keyed.find?_append, Keyed.find?]
  rw [definitionNames, held]
  rfl

omit linked in
theorem nodup_definitionNames (options : Options) :
    (definitionNames (schema model options)).Nodup := by
  rw [definitionNames_schema]
  exact Sorted.nodup_of_pairwise (Keyed.increasing_ofList _)

omit linked in
theorem nodup_namesOfKinds :
    ((typeNames model.classes).dedup.map propsName ++
      ((typeNames model.classes).dedup.map derivedName ++
        (typeNames (concreteClasses model)).dedup)).Nodup := by
  have props := (List.nodup_dedup (typeNames model.classes)).map fun _ _ => propsName_inj.mp
  have derived := (List.nodup_dedup (typeNames model.classes)).map fun _ _ => derivedName_inj.mp
  have instances := List.nodup_dedup (typeNames (concreteClasses model))
  have plain {name : String} (listed : name ∈ (typeNames (concreteClasses model)).dedup) :
      ∃ modelClass, name = typeName modelClass := by
    obtain ⟨modelClass, _, rfl⟩ := List.mem_map.mp (List.mem_dedup.mp listed)
    exact ⟨modelClass, rfl⟩
  refine props.append (derived.append instances ?_) ?_
  · intro name ofDerived ofInstances
    obtain ⟨own, _, rfl⟩ := List.mem_map.mp ofDerived
    obtain ⟨modelClass, same⟩ := plain ofInstances
    exact typeName_ne_derivedName modelClass own same.symm
  · intro name ofProps others
    obtain ⟨own, _, rfl⟩ := List.mem_map.mp ofProps
    rcases List.mem_append.mp others with ofDerived | ofInstances
    · obtain ⟨other, _, same⟩ := List.mem_map.mp ofDerived
      exact propsName_ne_derivedName own other same.symm
    · obtain ⟨modelClass, same⟩ := plain ofInstances
      exact typeName_ne_propsName modelClass own same.symm

theorem length_definitionNames (options : Options) :
    (definitionNames (schema model options)).length =
      2 * (typeNames model.classes).dedup.length +
        (typeNames (concreteClasses model)).dedup.length := by
  have same : (definitionNames (schema model options)).Perm
      ((typeNames model.classes).dedup.map propsName ++
        ((typeNames model.classes).dedup.map derivedName ++
          (typeNames (concreteClasses model)).dedup)) := by
    refine (List.perm_ext_iff_of_nodup (nodup_definitionNames options) nodup_namesOfKinds).mpr ?_
    intro name
    rw [definitionNames_schema, ← Keyed.contains_iff, Keyed.contains_ofList,
      mem_definitions_names linked]
    simp [List.mem_append, List.mem_map]
  have counted := same.length_eq
  simp only [List.length_append, List.length_map] at counted
  omega

theorem keepsLast (options : Options) : KeepsLast model (schema model options) := by
  refine ⟨nodup_definitionNames options, length_definitionNames linked options,
    definition?_props linked options, definition?_derived linked options, ?_⟩
  intro modelClass _
  exact definition?_instances linked options modelClass

end

theorem lastNamed?_of_mem {classes : List Model.Class} (distinct : (typeNames classes).Nodup)
    {modelClass : Model.Class} (member : modelClass ∈ classes) :
    lastNamed? (typeName modelClass) classes = some modelClass := by
  unfold lastNamed?
  cases found : classes.reverse.find? fun other => typeName other == typeName modelClass with
  | none => simpa using List.find?_eq_none.mp found modelClass (List.mem_reverse.mpr member)
  | some other =>
      have same : typeName other = typeName modelClass := by simpa using List.find?_some found
      have inside : other ∈ classes := List.mem_reverse.mp (List.mem_of_find?_eq_some found)
      rw [List.inj_on_of_nodup_map distinct inside member same]

theorem KeepsLast.keepsClasses {model : Model} {document : Json} (last : KeepsLast model document)
    (distinct : (typeNames model.classes).Nodup) : KeepsClasses model document := by
  have concrete : (typeNames (concreteClasses model)).Nodup :=
    distinct.sublist (List.filter_sublist.map typeName)
  refine ⟨apart_iff.mpr distinct, ?_, ?_⟩
  · rw [last.counted, distinct.dedup, concrete.dedup, typeNames, typeNames, List.length_map,
      List.length_map]
  · intro modelClass member
    refine ⟨?_, ?_, ?_⟩
    · rw [last.props, lastNamed?_of_mem distinct member, Option.map_some]
    · rw [last.derived, lastNamed?_of_mem distinct member, Option.map_some]
    · intro instances
      have kept : modelClass ∈ concreteClasses model :=
        List.mem_filter.mpr ⟨member, by simpa using instances⟩
      rw [last.instances modelClass member, lastNamed?_of_mem concrete kept, Option.map_some]

/-- What a schema holds is given by the last class of each type name. So no class is lost exactly if no two
have one type name. -/
theorem classes_kept_iff {graph : Rdf.Graph} {resolver : Context.Resolver} {model : Model}
    (succeeds : Model.build graph resolver = .ok model) (options : Options) :
    KeepsLast model (schema model options) ∧
      (KeepsClasses model (schema model options) ↔ (model.classes.map typeName).Nodup) := by
  obtain ⟨classes, built⟩ := Model.build_sound succeeds
  have last := keepsLast built.linked options
  refine ⟨last, ?_⟩
  constructor
  · intro kept
    exact apart_iff.mp kept.apart
  · exact last.keepsClasses

theorem classes_kept_iff_chain :
    ∃ model, Model.build Model.chainGraph (.ofDocuments []) = .ok model ∧
      (model.classes.map typeName).Nodup ∧
      KeepsClasses model (schema model Options.none) := by
  have shape : (Model.build Model.chainGraph (.ofDocuments [])).toOption.map (fun model =>
      model.classes.map typeName) = some ["C", "B", "A"] := by
    decide +kernel
  obtain ⟨model, succeeds, names⟩ := Outcomes.exists_ok_of_looked shape
  have distinct : (model.classes.map typeName).Nodup := names ▸ (by decide)
  have kept := (classes_kept_iff succeeds Options.none).2.mpr distinct
  exact ⟨model, succeeds, distinct, kept⟩

def hyphenGraph : Rdf.Graph :=
  .ofList [
    ⟨.iri "http://example.org/Foo-Bar", Rdf.Vocabulary.rdfType, .iri Rdf.Vocabulary.owlClass⟩,
    ⟨.iri "http://example.org/FooBar", Rdf.Vocabulary.rdfType, .iri Rdf.Vocabulary.owlClass⟩]

/-- The names of their definitions are the same, so that three definitions are left of six. -/
theorem classes_lost_hyphen :
    ∃ model, Model.build hyphenGraph (.ofDocuments []) = .ok model ∧
      model.classes.map Model.Class.id = ["http://example.org/Foo-Bar", "http://example.org/FooBar"] ∧
      definitionNames (schema model Options.none) = ["HttpExampleOrgFooBar",
        "HttpExampleOrgFooBar_derived", "HttpExampleOrgFooBar_props"] ∧
      ¬ KeepsClasses model (schema model Options.none) := by
  have shape : (Model.build hyphenGraph (.ofDocuments [])).toOption.map (fun model =>
      (model.classes.map Model.Class.id, (concreteClasses model).length,
        definitionNames (schema model Options.none))) =
      some (["http://example.org/Foo-Bar", "http://example.org/FooBar"], 2,
        ["HttpExampleOrgFooBar", "HttpExampleOrgFooBar_derived", "HttpExampleOrgFooBar_props"]) := by
    decide +kernel
  obtain ⟨model, succeeds, shape⟩ := Outcomes.exists_ok_of_looked shape
  simp only [Prod.mk.injEq] at shape
  obtain ⟨ids, concrete, names⟩ := shape
  refine ⟨model, succeeds, ids, names, ?_⟩
  intro kept
  have counted := kept.counted
  have classes : model.classes.length = 2 := by
    have listed := congrArg List.length ids
    rwa [List.length_map] at listed
  rw [names, concrete, classes] at counted
  exact absurd counted (by decide)

end ShapeCompiler.Render.JsonSchema
