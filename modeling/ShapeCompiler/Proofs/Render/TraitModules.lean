import ShapeCompiler.Proofs.Model.WellFormed
import ShapeCompiler.Proofs.Render.DeclarationLines

/-! Modules of traits. A class is a trait or nothing but an enumeration of its individuals, and what
traits name, their supertraits, the bounds of their associated types and the enumerations of their
values, is declared in the same module. -/

namespace ShapeCompiler.Render.Traits

section

variable {model : Model} (linked : Model.Linked model)
include linked

theorem typeNameOf_of_mem {modelClass : Model.Class} (member : modelClass ∈ model.classes) :
    typeNameOf model modelClass.id = typeName modelClass := by
  rw [typeNameOf, linked.find?_reverse member]

theorem isEnumerationOnly_of_mem {modelClass : Model.Class} (member : modelClass ∈ model.classes) :
    isEnumerationOnly model modelClass.id = hasIndividualsOnly modelClass := by
  rw [isEnumerationOnly, Bool.eq_iff_iff, List.any_eq_true]
  constructor
  · rintro ⟨other, inside, accepted⟩
    obtain ⟨named, alone⟩ := by simpa using accepted
    rwa [List.inj_on_of_nodup_map linked.distinct inside member named] at alone
  · intro alone
    exact ⟨modelClass, member, by simpa using alone⟩

theorem traits_eq : traits model =
    (model.classes.filter fun modelClass => !hasIndividualsOnly modelClass).map (traitOf model) := by
  rw [traits]
  congr 1
  refine List.filter_congr ?_
  intro modelClass member
  rw [isEnumerationOnly_of_mem linked member]

theorem map_name_traits : (traits model).map Trait.name =
    (model.classes.filter fun modelClass => !hasIndividualsOnly modelClass).map typeName := by
  rw [traits_eq linked, List.map_map]
  refine List.map_congr_left fun modelClass kept => ?_
  exact typeNameOf_of_mem linked (List.mem_filter.mp kept).1

/-- A class that has properties, parents or children, or that has no individuals, is a trait. -/
theorem mem_traits {modelClass : Model.Class} (member : modelClass ∈ model.classes)
    (others : hasIndividualsOnly modelClass = false) : traitOf model modelClass ∈ traits model := by
  rw [traits_eq linked]
  exact List.mem_map.mpr ⟨modelClass, List.mem_filter.mpr ⟨member, by simpa using others⟩, rfl⟩

theorem exists_of_mem_traits {trait : Trait} (member : trait ∈ traits model) :
    ∃ modelClass ∈ model.classes, trait = traitOf model modelClass := by
  rw [traits_eq linked] at member
  obtain ⟨modelClass, kept, rfl⟩ := List.mem_map.mp member
  exact ⟨modelClass, (List.mem_filter.mp kept).1, rfl⟩

theorem supertrait_declared {trait : Trait} (member : trait ∈ traits model) {name : String}
    (named : name ∈ trait.supertraits) : ∃ other ∈ traits model, other.name = name := by
  obtain ⟨child, inside, rfl⟩ := exists_of_mem_traits linked member
  obtain ⟨iri, direct, rfl⟩ := List.mem_map.mp named
  obtain ⟨parent, known, rfl⟩ := linked.parents child inside iri direct
  -- A parent has a child, so that it is no mere enumeration.
  have told := linked.children child inside parent known direct
  have others : hasIndividualsOnly parent = false := by
    have some_child : parent.derived.isEmpty = false :=
      List.isEmpty_eq_false_iff_exists_mem.mpr ⟨child.id, told⟩
    simp [hasIndividualsOnly, some_child]
  exact ⟨traitOf model parent, mem_traits linked known others, rfl⟩

end

/-- What becomes an enumeration: the individuals of a class, or the values of a property. -/
inductive ClosedSet where
  | individuals (modelClass : Model.Class)
  | values (owner : Model.Class) (property : Model.Property) (values : List String)

def ClosedSet.name (model : Model) : ClosedSet → String
  | individuals modelClass => individualsName model modelClass
  | values owner property _ => valuesName model owner property

def ClosedSet.members : ClosedSet → List String
  | individuals modelClass => modelClass.individuals.map Model.Individual.id
  | values _ _ members => members

def closedSetsOf (modelClass : Model.Class) : List ClosedSet :=
  (if modelClass.individuals.isEmpty then [] else [.individuals modelClass]) ++
    modelClass.properties.filterMap fun property =>
      property.values?.map (.values modelClass property)

def closedSets (model : Model) : List ClosedSet :=
  model.classes.flatMap closedSetsOf

/-- An enumeration has the name of the set, and lists its members. -/
structure Enumerates (model : Model) (set : ClosedSet) (enumeration : Enumeration) : Prop where
  name : enumeration.name = set.name model
  members : enumeration.variants.map Variant.value = set.members

theorem values_distinctFrom (position : Nat) (taken : List String) (variants : List Variant) :
    (distinctFrom position taken variants).map Variant.value = variants.map Variant.value := by
  induction variants generalizing position taken with
  | nil => rfl
  | cons variant variants ih => simp [distinctFrom, ih]

theorem enumerates_individuals (model : Model) (modelClass : Model.Class) :
    List.Forall₂ (Enumerates model)
      (if modelClass.individuals.isEmpty then [] else [.individuals modelClass])
      (individualEnumeration model modelClass) := by
  unfold individualEnumeration
  split
  · exact .nil
  · refine .cons ⟨rfl, ?_⟩ .nil
    simp [distinctVariants, values_distinctFrom, ClosedSet.members, individualVariant,
      Function.comp_def]

theorem enumerates_values (model : Model) (owner : Model.Class) (properties : List Model.Property) :
    List.Forall₂ (Enumerates model)
      (properties.filterMap fun property => property.values?.map (.values owner property))
      (properties.flatMap (valueEnumeration model owner)) := by
  induction properties with
  | nil => exact .nil
  | cons property properties ih =>
      rw [List.filterMap_cons, List.flatMap_cons, valueEnumeration]
      cases property.values? with
      | none => exact ih
      | some values =>
          refine .cons ⟨rfl, ?_⟩ ih
          simp [distinctVariants, values_distinctFrom, ClosedSet.members, valueVariant,
            Function.comp_def]

theorem enumerations_pair (model : Model) :
    List.Forall₂ (Enumerates model) (closedSets model) (enumerations model) := by
  unfold closedSets enumerations
  induction model.classes with
  | nil => exact .nil
  | cons modelClass classes ih =>
      rw [List.flatMap_cons, List.flatMap_cons]
      refine List.rel_append ?_ ih
      exact List.rel_append (enumerates_individuals model modelClass)
        (enumerates_values model modelClass modelClass.properties)

theorem enumeration_declared {model : Model} {set : ClosedSet} (member : set ∈ closedSets model) :
    ∃ enumeration ∈ enumerations model, enumeration.name = set.name model := by
  obtain ⟨index, bound, rfl⟩ := List.getElem_of_mem member
  have pairs := enumerations_pair model
  have within : index < (enumerations model).length := pairs.length_eq ▸ bound
  refine ⟨(enumerations model)[index], List.getElem_mem within, ?_⟩
  exact (pairs.get bound within).name

/-! Methods and the types of their values. -/

def ValueType.Declared (model : Model) (methods : List Method) : ValueType → Prop
  | owned type =>
      (∃ primitive ∈ sizedPrimitives, type = "P::" ++ primitive.1) ∨
        ∃ enumeration ∈ enumerations model, enumeration.name = type
  | borrowed type =>
      ∃ method ∈ methods, ∃ associated,
        method.declares = some associated ∧ type = "Self::" ++ associated.name
  | unsized type => type = "P::String"

theorem primitiveType_sized {datatype : String} (sized : isUnsized datatype = false) :
    ∃ primitive ∈ sizedPrimitives, primitiveType datatype = "P::" ++ primitive.1 := by
  have other : primitiveType datatype ≠ "P::String" := by simpa [isUnsized] using sized
  have listed : ∀ type ∈ ["P::Integer", "P::NonNegativeInteger", "P::PositiveInteger", "P::Boolean",
      "P::Decimal", "P::DateTime"], ∃ primitive ∈ sizedPrimitives, type = "P::" ++ primitive.1 := by
    decide
  refine listed _ ?_
  unfold primitiveType at other ⊢
  repeat' split
  all_goals simp_all

theorem individuals_mem_closedSets {model : Model} {modelClass : Model.Class}
    (member : modelClass ∈ model.classes) (alone : hasIndividualsOnly modelClass = true) :
    .individuals modelClass ∈ closedSets model := by
  have filled : modelClass.individuals.isEmpty = false := by
    simp only [hasIndividualsOnly, Bool.and_eq_true, Bool.not_eq_true'] at alone
    exact alone.1.1.1
  refine List.mem_flatMap.mpr ⟨modelClass, member, List.mem_append_left _ ?_⟩
  simp [filled]

theorem values_mem_closedSets {model : Model} {owner : Model.Class} (member : owner ∈ model.classes)
    {property : Model.Property} (owned : property ∈ owner.properties) {values : List String}
    (closed : property.range = .oneOf values) :
    .values owner property values ∈ closedSets model := by
  refine List.mem_flatMap.mpr ⟨owner, member, List.mem_append_right _ ?_⟩
  refine List.mem_filterMap.mpr ⟨property, owned, ?_⟩
  simp [Model.Property.values?, closed]

structure Borrows (model : Model) (type : String) (associated : AssociatedType) : Prop where
  type : type = "Self::" ++ associated.name
  bound : ∃ trait ∈ traits model, trait.name = associated.bound

theorem valueType_sound {model : Model} (linked : Model.Linked model) {owner : Model.Class}
    (member : owner ∈ model.classes) {property : Model.Property}
    (owned : property ∈ owner.properties) :
    match valueType model owner property with
    | (.borrowed type, some associated) => Borrows model type associated
    | (type, associated) => associated = none ∧ type.Declared model [] := by
  unfold valueType
  cases ranged : property.range with
  | oneOf values =>
      refine ⟨rfl, Or.inr ?_⟩
      exact enumeration_declared (values_mem_closedSets member owned ranged)
  | datatype datatype =>
      dsimp only
      cases sized : isUnsized datatype with
      | true => exact ⟨rfl, eq_of_beq sized⟩
      | false => exact ⟨rfl, Or.inl (primitiveType_sized sized)⟩
  | instances target =>
      dsimp only
      cases found : model.findClass? target with
      | none => exact ⟨rfl, rfl⟩
      | some targetClass =>
          have inside : targetClass ∈ model.classes := List.mem_of_find?_eq_some found
          have named : targetClass.id = target := by simpa using List.find?_some found
          dsimp only
          rw [isEnumerationOnly_of_mem linked inside]
          cases alone : hasIndividualsOnly targetClass with
          | true =>
              refine ⟨rfl, Or.inr ?_⟩
              exact enumeration_declared (individuals_mem_closedSets inside alone)
          | false =>
              refine ⟨rfl, traitOf model targetClass, mem_traits linked inside alone, ?_⟩
              rw [← named]
              rfl

theorem methodsFrom_sound {model : Model} {owner : Model.Class} {taken declared : List String}
    {properties : List Model.Property} {method : Method}
    (member : method ∈ methodsFrom model owner taken declared properties) :
    method.property ∈ properties ∧ method.values = (valueType model owner method.property).1 ∧
      ∀ associated, method.declares = some associated →
        (valueType model owner method.property).2 = some associated := by
  induction properties generalizing taken declared with
  | nil => simp [methodsFrom] at member
  | cons property properties ih =>
      rcases List.mem_cons.mp member with same | later
      · subst same
        refine ⟨List.mem_cons_self, rfl, ?_⟩
        intro associated declares
        exact (Option.filter_eq_some_iff.mp declares).1
      · obtain ⟨owned, values, declares⟩ := ih later
        exact ⟨List.mem_cons_of_mem property owned, values, declares⟩

theorem methodsFrom_declares {model : Model} {owner : Model.Class} {taken declared : List String}
    {properties : List Model.Property} {method : Method}
    (member : method ∈ methodsFrom model owner taken declared properties)
    {associated : AssociatedType}
    (uses : (valueType model owner method.property).2 = some associated) :
    associated.name ∈ declared ∨
      ∃ other ∈ methodsFrom model owner taken declared properties, ∃ before,
        other.declares = some before ∧ before.name = associated.name := by
  induction properties generalizing taken declared with
  | nil => simp [methodsFrom] at member
  | cons property properties ih =>
      rcases List.mem_cons.mp member with same | later
      · subst same
        by_cases known : associated.name ∈ declared
        · exact Or.inl known
        · refine Or.inr ⟨_, List.mem_cons_self, associated, ?_, rfl⟩
          exact Option.filter_eq_some_iff.mpr ⟨uses, by simpa using known⟩
      · rcases ih later with known | ⟨other, inside, before, declares, same⟩
        · rcases List.mem_append.mp known with first | earlier
          · rw [Option.mem_toList, Option.map_eq_some_iff] at first
            obtain ⟨before, declares, same⟩ := first
            exact Or.inr ⟨_, List.mem_cons_self, before, declares, same⟩
          · exact Or.inl earlier
        · exact Or.inr ⟨other, List.mem_cons_of_mem _ inside, before, declares, same⟩

section

variable {model : Model} (linked : Model.Linked model)
include linked

theorem bound_declared {trait : Trait} (member : trait ∈ traits model) {method : Method}
    (has : method ∈ trait.methods) {associated : AssociatedType}
    (declares : method.declares = some associated) :
    ∃ other ∈ traits model, other.name = associated.bound := by
  obtain ⟨owner, inside, rfl⟩ := exists_of_mem_traits linked member
  obtain ⟨owned, -, only⟩ := methodsFrom_sound has
  have sound := valueType_sound linked inside owned
  have uses := only associated declares
  split at sound
  · rename_i typed
    rw [typed] at uses
    cases uses
    exact sound.bound
  · rename_i typed
    rw [typed, sound.1] at uses
    cases uses

theorem values_declared {trait : Trait} (member : trait ∈ traits model) {method : Method}
    (has : method ∈ trait.methods) : method.values.Declared model trait.methods := by
  obtain ⟨owner, inside, rfl⟩ := exists_of_mem_traits linked member
  obtain ⟨owned, values, -⟩ := methodsFrom_sound has
  have sound := valueType_sound linked inside owned
  split at sound
  · rename_i type associated typed
    have uses : (valueType model owner method.property).2 = some associated := by rw [typed]
    rcases methodsFrom_declares has uses with known | ⟨other, among, before, declares, same⟩
    · cases known
    · rw [values, typed]
      exact ⟨other, among, before, declares, same ▸ sound.type⟩
  · rename_i type associated _ typed
    rw [values, typed]
    cases type with
    | borrowed type =>
      obtain ⟨_, other, among, _⟩ := sound
      cases among
    | owned type => exact sound.2
    | unsized type => exact sound.2

end

/-- A module of traits has one trait for each class that is more than its individuals, and one
enumeration for each closed set. It declares all the traits and enumerations that its traits name. -/
structure Closed (model : Model) (entries : List Entry) : Prop where
  classes_distinct : (model.classes.map Model.Class.id).Nodup
  traits_sources : (traits model).map Trait.source =
    model.classes.filter fun modelClass => !hasIndividualsOnly modelClass
  traits_named : ∀ trait ∈ traits model, trait.name = typeName trait.source
  traits_opened : entries.filter (isLineFrom "pub trait ") =
    primitivesOpening :: (traits model).map Trait.opening
  enumerations_sources : List.Forall₂ (Enumerates model) (closedSets model) (enumerations model)
  enumerations_opened : entries.filter (isLineFrom "pub enum ") =
    (enumerations model).map Enumeration.opening
  supertraits_declared : ∀ trait ∈ traits model, ∀ name ∈ trait.supertraits,
    ∃ other ∈ traits model, other.name = name
  bounds_declared : ∀ trait ∈ traits model, ∀ method ∈ trait.methods, ∀ associated,
    method.declares = some associated → ∃ other ∈ traits model, other.name = associated.bound
  values_declared : ∀ trait ∈ traits model, ∀ method ∈ trait.methods,
    method.values.Declared model trait.methods

theorem module_closed {graph : Rdf.Graph} {resolver : Context.Resolver} {model : Model}
    (succeeds : Model.build graph resolver = .ok model) (options : Options) :
    Closed model (sourceFile model options).entries := by
  obtain ⟨classes, built⟩ := Model.build_sound succeeds
  have linked := built.linked
  have opened := (declarations model).opens_entries
  refine ⟨linked.distinct, ?_, ?_, opened.traits, enumerations_pair model, opened.enumerations,
    ?_, ?_, ?_⟩
  · rw [traits_eq linked, List.map_map]
    exact List.map_id _
  · intro trait member
    obtain ⟨modelClass, inside, rfl⟩ := exists_of_mem_traits linked member
    exact typeNameOf_of_mem linked inside
  · intro trait member name named
    exact supertrait_declared linked member named
  · intro trait member method has associated declares
    exact bound_declared linked member has declares
  · intro trait member method has
    exact values_declared linked member has

def traitGraph : Rdf.Graph :=
  .ofList [
    ⟨.iri "a", Rdf.Vocabulary.rdfType, .iri Rdf.Vocabulary.owlClass⟩,
    ⟨.iri "b", Rdf.Vocabulary.rdfType, .iri Rdf.Vocabulary.owlClass⟩,
    ⟨.iri "c", Rdf.Vocabulary.rdfType, .iri Rdf.Vocabulary.owlClass⟩,
    ⟨.iri "a", Rdf.Vocabulary.rdfsSubClassOf, .iri "b"⟩,
    ⟨.iri "c/red", Rdf.Vocabulary.rdfType, .iri Rdf.Vocabulary.owlNamedIndividual⟩,
    ⟨.iri "c/red", Rdf.Vocabulary.rdfType, .iri "c"⟩,
    ⟨.iri "a", Rdf.Vocabulary.shProperty, .blank "link"⟩,
    ⟨.blank "link", Rdf.Vocabulary.shPath, .iri "link"⟩,
    ⟨.blank "link", Rdf.Vocabulary.shClass, .iri "b"⟩,
    ⟨.iri "a", Rdf.Vocabulary.shProperty, .blank "color"⟩,
    ⟨.blank "color", Rdf.Vocabulary.shPath, .iri "color"⟩,
    ⟨.blank "color", Rdf.Vocabulary.shClass, .iri "c"⟩,
    ⟨.iri "a", Rdf.Vocabulary.shProperty, .blank "size"⟩,
    ⟨.blank "size", Rdf.Vocabulary.shPath, .iri "size"⟩,
    ⟨.blank "size", Rdf.Vocabulary.shIn, .blank "items"⟩,
    ⟨.blank "items", Rdf.Vocabulary.rdfFirst, .plain "tall"⟩,
    ⟨.blank "items", Rdf.Vocabulary.rdfRest, .iri Rdf.Vocabulary.rdfNil⟩]

theorem module_closed_colors :
    ∃ model, Model.build traitGraph (.ofDocuments []) = .ok model ∧
      (traits model).map (fun trait =>
        (trait.name, trait.supertraits, trait.methods.map Method.values)) =
        [("B", [], []), ("A", ["B"], [.owned "C", .borrowed "Self::B", .owned "ASize"])] ∧
      (enumerations model).map Enumeration.name = ["C", "ASize"] ∧
      Closed model (sourceFile model .none).entries := by
  have rendered : (Model.build traitGraph (.ofDocuments [])).toOption.map (fun model =>
      (traits model).map fun trait =>
        (trait.name, trait.supertraits, trait.methods.map Method.values)) =
      some [("B", [], []), ("A", ["B"], [.owned "C", .borrowed "Self::B", .owned "ASize"])] := by
    decide +kernel
  have listed : (Model.build traitGraph (.ofDocuments [])).toOption.map (fun model =>
      (enumerations model).map Enumeration.name) = some ["C", "ASize"] := by
    decide +kernel
  obtain ⟨model, succeeds, written⟩ := Outcomes.exists_ok_of_looked rendered
  rw [succeeds] at listed
  exact ⟨model, succeeds, written, Option.some.inj listed, module_closed succeeds .none⟩

end ShapeCompiler.Render.Traits
