import ShapeCompiler.Proofs.Model.Building
import ShapeCompiler.Proofs.Text.ByteOrder

/-! What generators may rely on in a model that was built. Names of classes lead to classes of the
model, closed sets of values are sorted, patterns stand where texts are held, and the properties of a
class are those of its shapes, one for each, in the order of their paths. -/

namespace ShapeCompiler.Model

open Rdf (Graph Term)

theorem mem_classIris_of_isClass {graph : Graph} {iri : String} (known : isClass graph iri = true) :
    iri ∈ classIris graph := by
  simpa [isClass] using known

/-- A range names a class that the graph declares, or lists its values in increasing order. -/
def Range.Sound (graph : Graph) : Range → Prop
  | .instances classIri => classIri ∈ classIris graph
  | .oneOf values => values.Pairwise (· < ·)
  | .datatype _ => True

theorem rangeOf_sound {graph : Graph} {owner : String} {shape : Term} {path : String}
    {range : Range} (found : rangeOf graph owner shape path = .ok range) : range.Sound graph := by
  unfold rangeOf at found
  split at found
  · split at found
    · rename_i classIri accepted
      cases found
      exact mem_classIris_of_isClass (Option.filter_eq_some_iff.mp accepted).2
    · cases found
  · split at found
    · split at found
      · cases found
        exact Sorted.pairwise_ofList _
      · cases found
    · split at found
      · cases found
        trivial
      · split at found
        · cases found
          split
          · rename_i known
            exact mem_classIris_of_isClass known
          · trivial
        · cases found

def HoldsTexts (range : Range) : Prop :=
  ∃ datatype, range = .datatype datatype ∧
    (datatype = Rdf.Vocabulary.xsdString ∨ datatype = Rdf.Vocabulary.xsdAnyUri ∨
      datatype = Rdf.Vocabulary.xsdDateTime ∨ datatype = Rdf.Vocabulary.xsdDateTimeStamp)

theorem Range.allowsPattern_iff {range : Range} : range.allowsPattern = true ↔ HoldsTexts range := by
  cases range with
  | instances classIri => simp [Range.allowsPattern, HoldsTexts]
  | oneOf values => simp [Range.allowsPattern, HoldsTexts]
  | datatype iri => simp [Range.allowsPattern, HoldsTexts, patternDatatypes]

theorem patternOf_sound {graph : Graph} {owner : String} {shape : Term} {path : String}
    {range : Range} {pattern : String}
    (found : patternOf graph owner shape path range = .ok (some pattern)) : HoldsTexts range := by
  unfold patternOf at found
  split at found
  · cases found
  · split at found
    · rename_i allowed
      exact Range.allowsPattern_iff.mp allowed
    · cases found

theorem buildProperty_sound {graph : Graph} {resolver : Context.Resolver} {owner : String}
    {shape : Term} {path : String} {property : Property}
    (built : buildProperty graph resolver owner shape path = .ok property) :
    property.path = path ∧ rangeOf graph owner shape path = .ok property.range ∧
      patternOf graph owner shape path property.range = .ok property.pattern := by
  unfold buildProperty at built
  obtain ⟨range, ranged, built⟩ := Outcomes.bind_eq_ok.mp built
  obtain ⟨pattern, constrained, built⟩ := Outcomes.bind_eq_ok.mp built
  obtain ⟨minCount, -, built⟩ := Outcomes.bind_eq_ok.mp built
  obtain ⟨maxCount, -, built⟩ := Outcomes.bind_eq_ok.mp built
  cases built
  exact ⟨rfl, ranged, constrained⟩

theorem pathOf?_eq_some {graph : Graph} {shape : Term} {path : String} :
    pathOf? graph shape = some path ↔
      graph.value? shape Rdf.Vocabulary.shPath = some (.iri path) := by
  unfold pathOf?
  rw [Option.bind_eq_some_iff]
  constructor
  · rintro ⟨value, found, named⟩
    cases value with
    | iri other =>
        cases named
        exact found
    | blank label => cases named
    | literal parts => cases named
  · intro found
    exact ⟨_, found, rfl⟩

/-- A property that a shape gives to a class, with the first path of the shape. -/
structure Describes (graph : Graph) (resolver : Context.Resolver) (owner : String) (shape : Term)
    (property : Property) : Prop where
  path : graph.value? shape Rdf.Vocabulary.shPath = some (.iri property.path)
  untyped : property.path ≠ Rdf.Vocabulary.rdfType
  built : buildProperty graph resolver owner shape property.path = .ok property

def isUntyped (graph : Graph) (shape : Term) : Bool :=
  graph.value? shape Rdf.Vocabulary.shPath ≠ some (.iri Rdf.Vocabulary.rdfType)

theorem buildShape_sound {graph : Graph} {resolver : Context.Resolver} {owner : String}
    {shape : Term} {described : Option Property}
    (built : buildShape graph resolver owner shape = .ok described) :
    match described with
    | none => isUntyped graph shape = false
    | some property =>
        isUntyped graph shape = true ∧ Describes graph resolver owner shape property := by
  unfold buildShape at built
  split at built
  · cases built
  · rename_i path found
    have first := pathOf?_eq_some.mp found
    split at built
    · rename_i typed
      cases built
      simp [isUntyped, first, typed]
    · rename_i untyped
      obtain ⟨property, run, rfl⟩ := Outcomes.map_eq_ok.mp built
      have named := (buildProperty_sound run).1
      subst named
      exact ⟨by simp [isUntyped, first, untyped], first, untyped, run⟩

/-- The properties of shapes pair off with the shapes that describe one. -/
structure Pairing (graph : Graph) (resolver : Context.Resolver) (owner : String)
    (shapes : List Term) (properties : List Property) (pairs : List (Term × Property)) : Prop where
  shapes : pairs.map Prod.fst = shapes.filter (isUntyped graph)
  properties : pairs.map Prod.snd = properties
  each : ∀ pair ∈ pairs, Describes graph resolver owner pair.1 pair.2

theorem buildShapes_sound {graph : Graph} {resolver : Context.Resolver} {owner : String}
    {shapes : List Term} {properties : List Property}
    (built : buildShapes graph resolver owner shapes = .ok properties) :
    ∃ pairs, Pairing graph resolver owner shapes properties pairs := by
  induction shapes generalizing properties with
  | nil =>
      cases built
      exact ⟨[], rfl, rfl, by simp⟩
  | cons shape shapes ih =>
      obtain ⟨described, first, built⟩ := Outcomes.bind_eq_ok.mp built
      obtain ⟨others, rest, built⟩ := Outcomes.bind_eq_ok.mp built
      cases built
      obtain ⟨pairs, matched⟩ := ih rest
      have sound := buildShape_sound first
      cases described with
      | none =>
          refine ⟨pairs, ?_, matched.properties, matched.each⟩
          rw [matched.shapes, List.filter_cons, if_neg (by simpa using sound)]
      | some property =>
          obtain ⟨untyped, describes⟩ := sound
          refine ⟨(shape, property) :: pairs, ?_, ?_, ?_⟩
          · rw [List.map_cons, matched.shapes, List.filter_cons, if_pos untyped]
          · rw [List.map_cons, matched.properties]
            rfl
          · exact List.forall_mem_cons.mpr ⟨describes, matched.each⟩

/-! Classes of a model. -/

def describingShapes (graph : Graph) (iri : String) : List Term :=
  (graph.objects (.iri iri) Rdf.Vocabulary.shProperty).filter (isUntyped graph)

/-- The properties of a class are those that its distinct shapes describe, one for each, in the order
of their paths, and those of one path in the order of their shapes. -/
structure PropertiesWellFormed (graph : Graph) (resolver : Context.Resolver) (modelClass : Class)
    (pairs : List (Term × Property)) : Prop where
  shapes_distinct : (describingShapes graph modelClass.id).Nodup
  shapes : pairs.map Prod.fst = describingShapes graph modelClass.id
  each : ∀ pair ∈ pairs, Describes graph resolver modelClass.id pair.1 pair.2
  kept : modelClass.properties.Perm (pairs.map Prod.snd)
  ordered : modelClass.properties.Pairwise (·.path ≤ ·.path)
  stable : ∀ path, modelClass.properties.filter (·.path = path) =
    (pairs.map Prod.snd).filter (·.path = path)
  untyped : ∀ property ∈ modelClass.properties, property.path ≠ Rdf.Vocabulary.rdfType

/-- What is taken for granted of a class of a model. -/
structure ClassWellFormed (graph : Graph) (resolver : Context.Resolver) (model : Model)
    (modelClass : Class) : Prop where
  parents_distinct : modelClass.parents.Nodup
  parents_known : ∀ parent ∈ modelClass.parents,
    parent ≠ modelClass.id ∧ parent ∈ model.classes.map Class.id
  targets_known : ∀ property ∈ modelClass.properties, ∀ target,
    property.range = .instances target → target ∈ model.classes.map Class.id
  values_increasing : ∀ property ∈ modelClass.properties, ∀ values,
    property.range = .oneOf values → values.Pairwise fun left right =>
      Text.bytes left < Text.bytes right
  patterns_on_texts : ∀ property ∈ modelClass.properties,
    property.pattern ≠ none → HoldsTexts property.range
  properties : ∃ pairs, PropertiesWellFormed graph resolver modelClass pairs

/-- Parents and targets are classes of the model, and parents know their children. -/
structure Linked (model : Model) : Prop where
  distinct : (model.classes.map Class.id).Nodup
  parents : ∀ modelClass ∈ model.classes, ∀ parent ∈ modelClass.parents,
    ∃ other ∈ model.classes, other.id = parent
  targets : ∀ modelClass ∈ model.classes, ∀ property ∈ modelClass.properties, ∀ target,
    property.range = .instances target → ∃ other ∈ model.classes, other.id = target
  children : ∀ child ∈ model.classes, ∀ parent ∈ model.classes,
    parent.id ∈ child.parents → child.id ∈ parent.derived

theorem find?_id {classes : List Class} (distinct : (classes.map Class.id).Nodup)
    {modelClass : Class} (member : modelClass ∈ classes) :
    classes.find? (fun other => other.id == modelClass.id) = some modelClass := by
  cases found : classes.find? fun other => other.id == modelClass.id with
  | none => simpa using List.find?_eq_none.mp found modelClass member
  | some other =>
      have same : other.id = modelClass.id := by simpa using List.find?_some found
      rw [List.inj_on_of_nodup_map distinct (List.mem_of_find?_eq_some found) member same]

theorem Linked.findClass? {model : Model} (linked : Linked model) {modelClass : Class}
    (member : modelClass ∈ model.classes) : model.findClass? modelClass.id = some modelClass :=
  find?_id linked.distinct member

theorem Linked.find?_reverse {model : Model} (linked : Linked model) {modelClass : Class}
    (member : modelClass ∈ model.classes) :
    model.classes.reverse.find? (fun other => other.id == modelClass.id) = some modelClass := by
  refine find?_id ?_ (List.mem_reverse.mpr member)
  rw [List.map_reverse]
  exact List.nodup_reverse.mpr linked.distinct

section

variable {graph : Graph} {resolver : Context.Resolver} {classes : List Class} {model : Model}

theorem Built.properties (built : Built graph resolver classes model) {modelClass : Class}
    (member : modelClass ∈ model.classes) :
    ∃ pairs, PropertiesWellFormed graph resolver modelClass pairs := by
  obtain ⟨childless, _, run, _, from_childless⟩ := built.origin member
  obtain ⟨properties, described, sorted⟩ := (buildClass_sound run).properties
  obtain ⟨pairs, matched⟩ := buildShapes_sound described
  have listed : modelClass.properties = Sorted.byKey Property.path (pairs.map Prod.snd) := by
    rw [from_childless, matched.properties]
    exact sorted
  have kept : modelClass.properties.Perm (pairs.map Prod.snd) :=
    listed ▸ Sorted.perm_byKey Property.path _
  refine ⟨pairs, (graph.nodup_objects _ _).filter _, matched.shapes, matched.each, kept,
    listed ▸ Sorted.pairwise_byKey Property.path _, ?_, ?_⟩
  · intro path
    rw [listed]
    exact Sorted.filter_byKey Property.path _ path
  · intro property member
    obtain ⟨pair, inside, rfl⟩ := List.mem_map.mp (kept.subset member)
    exact (matched.each pair inside).untyped

theorem Built.described (built : Built graph resolver classes model) {modelClass : Class}
    (member : modelClass ∈ model.classes) {property : Property}
    (owned : property ∈ modelClass.properties) :
    ∃ shape, Describes graph resolver modelClass.id shape property := by
  obtain ⟨pairs, matched⟩ := built.properties member
  obtain ⟨pair, inside, rfl⟩ := List.mem_map.mp (matched.kept.subset owned)
  exact ⟨pair.1, matched.each pair inside⟩

theorem Built.range_sound (built : Built graph resolver classes model) {modelClass : Class}
    (member : modelClass ∈ model.classes) {property : Property}
    (owned : property ∈ modelClass.properties) : property.range.Sound graph := by
  obtain ⟨shape, describes⟩ := built.described member owned
  exact rangeOf_sound (buildProperty_sound describes.built).2.1

theorem Built.target_known (built : Built graph resolver classes model) {modelClass : Class}
    (member : modelClass ∈ model.classes) {property : Property}
    (owned : property ∈ modelClass.properties) {target : String}
    (refers : property.range = .instances target) : target ∈ model.classes.map Class.id := by
  have sound := built.range_sound member owned
  rw [refers] at sound
  exact built.mem_ids.mpr sound

theorem Built.derived (built : Built graph resolver classes model) {modelClass : Class}
    (member : modelClass ∈ model.classes) : modelClass.derived = childrenOf classes modelClass.id := by
  obtain ⟨_, _, _, _, told⟩ := built.origin member
  exact congrArg Class.derived told

theorem Built.items_childrenByParent (built : Built graph resolver classes model) (iri : String) :
    Keyed.items iri (childrenByParent classes) =
      (classes.filter fun modelClass => modelClass.parents.contains iri).map Class.id := by
  refine Keyed.items_distribute (fun modelClass before => ?_) (fun _ => Class.id) iri
  have parents := (buildClass_sound (built.each modelClass before).1).parents
  exact parents ▸ nodup_parentsOf graph modelClass.id

theorem Built.mem_derived (built : Built graph resolver classes model) {parent : Class}
    (member : parent ∈ model.classes) {iri : String} :
    iri ∈ parent.derived ↔
      ∃ child ∈ model.classes, parent.id ∈ child.parents ∧ child.id = iri := by
  rw [built.derived member, childrenOf, Sorted.mem_byKey, built.items_childrenByParent, List.mem_map]
  constructor
  · rintro ⟨childless, kept, rfl⟩
    obtain ⟨before, direct⟩ := List.mem_filter.mp kept
    have inside := built.kept.symm.subset (built.told ▸ List.mem_map_of_mem before)
    exact ⟨_, inside, by simpa using direct, rfl⟩
  · rintro ⟨child, inside, direct, rfl⟩
    obtain ⟨childless, before, _, _, toldChild⟩ := built.origin inside
    rw [toldChild] at direct ⊢
    exact ⟨childless, List.mem_filter.mpr ⟨before, by simpa using direct⟩, rfl⟩

theorem Built.linked (built : Built graph resolver classes model) : Linked model := by
  refine ⟨built.distinct, ?_, ?_, ?_⟩
  · intro modelClass member parent direct
    exact List.mem_map.mp (built.parents_known member direct).2
  · intro modelClass member property owned target refers
    exact List.mem_map.mp (built.target_known member owned refers)
  · intro child inside parent member direct
    exact (built.mem_derived member).mpr ⟨child, inside, direct, rfl⟩

theorem Built.classWellFormed (built : Built graph resolver classes model) {modelClass : Class}
    (member : modelClass ∈ model.classes) : ClassWellFormed graph resolver model modelClass := by
  refine ⟨?_, ?_, ?_, ?_, ?_, built.properties member⟩
  · exact built.parents member ▸ nodup_parentsOf graph modelClass.id
  · intro parent direct
    exact built.parents_known member direct
  · intro property owned target refers
    exact built.target_known member owned refers
  · intro property owned values closed
    have sound := built.range_sound member owned
    rw [closed] at sound
    exact List.Pairwise.imp (fun less => Text.bytes_lt_iff.mpr less) sound
  · intro property owned constrained
    obtain ⟨shape, describes⟩ := built.described member owned
    obtain ⟨pattern, given⟩ := Option.ne_none_iff_exists'.mp constrained
    have allowed := (buildProperty_sound describes.built).2.2
    exact patternOf_sound (given ▸ allowed)

end

/-- Every class of a model that was built is well formed: its parents and the targets of its properties
are classes of the model, and its properties are those that its shapes describe. -/
theorem build_well_formed {graph : Graph} {resolver : Context.Resolver} {model : Model}
    (succeeds : build graph resolver = .ok model) :
    ∀ modelClass ∈ model.classes, ClassWellFormed graph resolver model modelClass := by
  obtain ⟨classes, built⟩ := build_sound succeeds
  intro modelClass member
  exact built.classWellFormed member

def describedGraph : Graph :=
  .ofList [
    ⟨.iri "a", Rdf.Vocabulary.rdfType, .iri Rdf.Vocabulary.owlClass⟩,
    ⟨.iri "a", Rdf.Vocabulary.rdfsSubClassOf, .iri "b"⟩,
    ⟨.iri "b", Rdf.Vocabulary.rdfType, .iri Rdf.Vocabulary.owlClass⟩,
    ⟨.iri "a", Rdf.Vocabulary.shProperty, .blank "size"⟩,
    ⟨.iri "a", Rdf.Vocabulary.shProperty, .blank "type"⟩,
    ⟨.iri "a", Rdf.Vocabulary.shProperty, .blank "link"⟩,
    ⟨.iri "a", Rdf.Vocabulary.shProperty, .blank "text"⟩,
    ⟨.blank "size", Rdf.Vocabulary.shPath, .iri "size"⟩,
    ⟨.blank "size", Rdf.Vocabulary.shIn, .blank "first"⟩,
    ⟨.blank "first", Rdf.Vocabulary.rdfFirst, .plain "wide"⟩,
    ⟨.blank "first", Rdf.Vocabulary.rdfRest, .blank "second"⟩,
    ⟨.blank "second", Rdf.Vocabulary.rdfFirst, .plain "tall"⟩,
    ⟨.blank "second", Rdf.Vocabulary.rdfRest, .iri Rdf.Vocabulary.rdfNil⟩,
    ⟨.blank "type", Rdf.Vocabulary.shPath, .iri Rdf.Vocabulary.rdfType⟩,
    ⟨.blank "link", Rdf.Vocabulary.shPath, .iri "link"⟩,
    ⟨.blank "link", Rdf.Vocabulary.shClass, .iri "b"⟩,
    ⟨.blank "text", Rdf.Vocabulary.shPath, .iri "size"⟩,
    ⟨.blank "text", Rdf.Vocabulary.shDatatype, .iri Rdf.Vocabulary.xsdString⟩,
    ⟨.blank "text", Rdf.Vocabulary.shPattern, .plain "[a-z]"⟩]

theorem build_well_formed_described :
    ∃ model, build describedGraph (.ofDocuments []) = .ok model ∧
      model.classes.map (fun modelClass => (modelClass.id, modelClass.properties.map
        fun property => (property.path, property.range))) =
        [("b", []), ("a", [("link", .instances "b"), ("size", .oneOf ["tall", "wide"]),
          ("size", .datatype Rdf.Vocabulary.xsdString)])] ∧
      ∀ modelClass ∈ model.classes,
        ClassWellFormed describedGraph (.ofDocuments []) model modelClass := by
  have described : (build describedGraph (.ofDocuments [])).toOption.map (fun model =>
      model.classes.map fun modelClass => (modelClass.id, modelClass.properties.map
        fun property => (property.path, property.range))) =
      some [("b", []), ("a", [("link", .instances "b"), ("size", .oneOf ["tall", "wide"]),
        ("size", .datatype Rdf.Vocabulary.xsdString)])] := by
    decide +kernel
  obtain ⟨model, succeeds, same⟩ := Outcomes.exists_ok_of_looked described
  exact ⟨model, succeeds, same, build_well_formed succeeds⟩

end ShapeCompiler.Model
