import Mathlib.Data.List.Dedup
import Mathlib.Data.Option.Basic
import ShapeCompiler.Proofs.Render.Definitions

/-! The definition of a class's own properties. It holds one schema under each key, so that of properties with
one compact path the last replaces the others, and a property may take the key of identifiers. The list of
what is required is not held by keys, and repeats them. So nothing is lost or repeated exactly where the
compact paths differ from each other and from the key of identifiers. -/

namespace ShapeCompiler.Keyed

theorem find?_of_nodup {α : Type} {name : String} {value : α} {entries : List (String × α)}
    (distinct : (entries.map Prod.fst).Nodup) (member : (name, value) ∈ entries) :
    find? name entries = some value := by
  induction entries with
  | nil => cases member
  | cons entry rest ih =>
      obtain ⟨fresh, others⟩ := List.nodup_cons.mp distinct
      rcases List.mem_cons.mp member with rfl | later
      · exact if_pos rfl
      · have different : entry.1 ≠ name := by
          rintro rfl
          exact fresh (List.mem_map.mpr ⟨_, later, rfl⟩)
        rw [find?, if_neg different, ih others later]

theorem find?_ofList_of_nodup {α : Type} {name : String} {value : α} {entries : List (String × α)}
    (distinct : (entries.map Prod.fst).Nodup) (member : (name, value) ∈ entries) :
    find? name (ofList entries) = some value := by
  rw [find?_ofList]
  refine find?_of_nodup ?_ (List.mem_reverse.mpr member)
  rw [List.map_reverse]
  exact List.nodup_reverse.mpr distinct

theorem length_ofList {α : Type} (entries : List (String × α)) :
    (ofList entries).length = (entries.map Prod.fst).dedup.length := by
  have same : ((ofList entries).map Prod.fst).Perm (entries.map Prod.fst).dedup := by
    refine (List.perm_ext_iff_of_nodup (Sorted.nodup_of_pairwise (increasing_ofList entries))
      (List.nodup_dedup _)).mpr ?_
    intro name
    rw [← contains_iff, contains_ofList, List.mem_dedup]
  rw [← same.length_eq, List.length_map]

theorem length_ofList_eq_iff {α : Type} {entries : List (String × α)} :
    (ofList entries).length = entries.length ↔ (entries.map Prod.fst).Nodup := by
  rw [length_ofList]
  constructor
  · intro counted
    have whole : (entries.map Prod.fst).dedup = entries.map Prod.fst := by
      refine (List.dedup_sublist _).eq_of_length ?_
      rw [counted, List.length_map]
    exact whole ▸ List.nodup_dedup _
  · intro distinct
    rw [distinct.dedup, List.length_map]

end ShapeCompiler.Keyed

namespace ShapeCompiler.Render.JsonSchema

open Model (Built describingShapes pathOf?)

def memberSchemas (schema : Json) : List (String × Json) :=
  match schema.member? "properties" with
  | some (.object members) => members
  | _ => []

def memberSchema? (schema : Json) (key : String) : Option Json :=
  Keyed.find? key (memberSchemas schema)

def textOf? : Json → Option String
  | .string text => some text
  | _ => none

def requiredNames (schema : Json) : List String :=
  match schema.member? "required" with
  | some (.array items) => items.filterMap textOf?
  | _ => []

def lastAt? (key : String) (properties : List Model.Property) : Option Model.Property :=
  properties.reverse.find? fun property => property.compactPath == key

/-- The keys that the members of a class's instances are to have. -/
def ownKeys (modelClass : Model.Class) : List String :=
  idKey modelClass :: modelClass.properties.map Model.Property.compactPath

/-- What a schema says of a class's own members: under each key it holds the schema of the last property there,
and that of identifiers only where no property has their key. -/
structure HoldsOwn (model : Model) (modelClass : Model.Class) (schema : Json) : Prop where
  members : ∀ key, memberSchema? schema key =
    ((lastAt? key modelClass.properties).map (propertySchema model)).or
      (if key = idKey modelClass then some (idSchema modelClass.nodeKind) else none)
  required : requiredNames schema =
    (if modelClass.nodeKind = .iri then [idKey modelClass] else []) ++
      (modelClass.properties.filter Model.Property.isRequired).map Model.Property.compactPath

/-- Nothing of a class's own members is lost or repeated: there is one schema for identifiers and one for each
property, each under its own key, and no key is required twice. -/
structure KeepsOwn (model : Model) (modelClass : Model.Class) (schema : Json) : Prop where
  counted : (memberSchemas schema).length = 1 + modelClass.properties.length
  identifier : memberSchema? schema (idKey modelClass) = some (idSchema modelClass.nodeKind)
  each : ∀ property ∈ modelClass.properties,
    memberSchema? schema property.compactPath = some (propertySchema model property)
  required_distinct : (requiredNames schema).Nodup

section

variable (model : Model) (modelClass : Model.Class)

def ownEntries : List (String × Json) :=
  (idKey modelClass, idSchema modelClass.nodeKind) ::
    modelClass.properties.map fun property => (property.compactPath, propertySchema model property)

theorem map_fst_ownEntries : (ownEntries model modelClass).map Prod.fst = ownKeys modelClass := by
  rw [ownEntries, ownKeys, List.map_cons, List.map_map]
  rfl

theorem memberSchemas_propsSchema :
    memberSchemas (propsSchema model modelClass) = Keyed.ofList (ownEntries model modelClass) := by
  have held : (propsSchema model modelClass).member? "properties" =
      some (Json.sorted (ownEntries model modelClass)) := by
    simp [propsSchema, Json.sorted, Json.member?, Keyed.find?_ofList, Keyed.find?_append, Keyed.find?,
      description, ownEntries]
  rw [memberSchemas, held]
  rfl

theorem requiredNames_propsSchema :
    requiredNames (propsSchema model modelClass) = requiredKeys modelClass := by
  have held : (propsSchema model modelClass).member? "required" =
      if (requiredKeys modelClass).isEmpty then none
      else some (Json.ofStrings (requiredKeys modelClass)) := by
    cases none : (requiredKeys modelClass).isEmpty <;>
      simp [propsSchema, Json.sorted, Json.member?, Keyed.find?_ofList, Keyed.find?_append, Keyed.find?,
        description, none]
  rw [requiredNames, held]
  cases none : (requiredKeys modelClass).isEmpty with
  | true => exact (List.isEmpty_iff.mp none).symm
  | false =>
      simp only [Bool.false_eq_true, if_false, Json.ofStrings, List.filterMap_map]
      exact List.filterMap_some

theorem find?_reverse_properties (key : String) (properties : List Model.Property) :
    Keyed.find? key (properties.map fun property =>
      (property.compactPath, propertySchema model property)).reverse =
        (lastAt? key properties).map (propertySchema model) := by
  rw [lastAt?, ← List.map_reverse]
  induction properties.reverse with
  | nil => rfl
  | cons property rest ih =>
      rw [List.map_cons, Keyed.find?, List.find?_cons, ih]
      by_cases same : property.compactPath = key
      · simp [same]
      · simp [same, beq_eq_false_iff_ne.mpr same]

theorem holdsOwn : HoldsOwn model modelClass (propsSchema model modelClass) := by
  refine ⟨?_, requiredNames_propsSchema model modelClass⟩
  intro key
  rw [memberSchema?, memberSchemas_propsSchema, Keyed.find?_ofList, ownEntries, List.reverse_cons,
    Keyed.find?_append, find?_reverse_properties]
  simp [Keyed.find?, eq_comm]

theorem keepsOwn_iff :
    KeepsOwn model modelClass (propsSchema model modelClass) ↔ (ownKeys modelClass).Nodup := by
  have entries : (ownEntries model modelClass).length = 1 + modelClass.properties.length := by
    rw [ownEntries, List.length_cons, List.length_map, Nat.add_comm]
  constructor
  · intro kept
    have counted := kept.counted
    rw [memberSchemas_propsSchema, ← entries] at counted
    rw [← map_fst_ownEntries model]
    exact Keyed.length_ofList_eq_iff.mp counted
  · intro distinct
    have keys : ((ownEntries model modelClass).map Prod.fst).Nodup := by
      rwa [map_fst_ownEntries]
    have held {key : String} {schema : Json} (member : (key, schema) ∈ ownEntries model modelClass) :
        memberSchema? (propsSchema model modelClass) key = some schema := by
      rw [memberSchema?, memberSchemas_propsSchema]
      exact Keyed.find?_ofList_of_nodup keys member
    refine ⟨?_, held List.mem_cons_self, ?_, ?_⟩
    · rw [memberSchemas_propsSchema, ← entries]
      exact Keyed.length_ofList_eq_iff.mpr keys
    · intro property owned
      exact held (List.mem_cons_of_mem _ (List.mem_map_of_mem owned))
    · rw [requiredNames_propsSchema, requiredKeys]
      have required : ((modelClass.properties.filter Model.Property.isRequired).map
          Model.Property.compactPath).Sublist (modelClass.properties.map Model.Property.compactPath) :=
        List.filter_sublist.map _
      split
      · exact distinct.sublist (required.cons_cons _)
      · exact (List.nodup_cons.mp distinct).2.sublist required

end

/-! Compact paths of a model that was built. -/

section

variable {graph : Rdf.Graph} {resolver : Context.Resolver} {classes : List Model.Class} {model : Model}
  (built : Built graph resolver classes model) {modelClass : Model.Class}
  (member : modelClass ∈ model.classes)
include built member

theorem compactPath_eq {property : Model.Property} (owned : property ∈ modelClass.properties) :
    property.compactPath = resolver.compactVocab property.path := by
  obtain ⟨shape, describes⟩ := built.described member owned
  have run := describes.built
  unfold Model.buildProperty at run
  obtain ⟨range, -, run⟩ := Outcomes.bind_eq_ok.mp run
  obtain ⟨pattern, -, run⟩ := Outcomes.bind_eq_ok.mp run
  obtain ⟨minCount, -, run⟩ := Outcomes.bind_eq_ok.mp run
  obtain ⟨maxCount, -, run⟩ := Outcomes.bind_eq_ok.mp run
  have same := Except.ok.inj run
  exact (congrArg Model.Property.compactPath same).symm

theorem nodup_paths_iff :
    (modelClass.properties.map Model.Property.path).Nodup ↔
      ((describingShapes graph modelClass.id).map (pathOf? graph)).Nodup := by
  obtain ⟨pairs, matched⟩ := built.properties member
  have paths : (describingShapes graph modelClass.id).map (pathOf? graph) =
      (pairs.map fun pair => pair.2.path).map some := by
    rw [← matched.shapes, List.map_map, List.map_map]
    refine List.map_congr_left ?_
    intro pair inside
    exact Model.pathOf?_eq_some.mpr (matched.each pair inside).path
  have kept := matched.kept.map Model.Property.path
  rw [List.map_map] at kept
  rw [paths, kept.nodup_iff, List.nodup_map_iff (Option.some_injective _)]
  rfl

theorem nodup_compactPaths_iff (back : ∀ property ∈ modelClass.properties,
    resolver.expandVocab property.compactPath = property.path) :
    (modelClass.properties.map Model.Property.compactPath).Nodup ↔
      ((describingShapes graph modelClass.id).map (pathOf? graph)).Nodup := by
  rw [← nodup_paths_iff built member]
  constructor
  · intro distinct
    have compacted : modelClass.properties.map Model.Property.compactPath =
        (modelClass.properties.map Model.Property.path).map resolver.compactVocab := by
      rw [List.map_map]
      exact List.map_congr_left fun property owned => compactPath_eq built member owned
    exact List.Nodup.of_map resolver.compactVocab (compacted ▸ distinct)
  · intro distinct
    have expanded : modelClass.properties.map Model.Property.path =
        (modelClass.properties.map Model.Property.compactPath).map resolver.expandVocab := by
      rw [List.map_map]
      exact List.map_congr_left fun property owned => (back property owned).symm
    exact List.Nodup.of_map resolver.expandVocab (expanded ▸ distinct)

end

/-- The definition of a class's own properties holds the last property under each key. So none of them is lost
and none required twice exactly if their compact paths differ from each other and from the key of identifiers.
Compact paths that lead back to their paths are the same only where two shapes have one path. -/
theorem own_properties_kept_iff {graph : Rdf.Graph} {resolver : Context.Resolver} {model : Model}
    (succeeds : Model.build graph resolver = .ok model) {modelClass : Model.Class}
    (member : modelClass ∈ model.classes) :
    HoldsOwn model modelClass (propsSchema model modelClass) ∧
    (KeepsOwn model modelClass (propsSchema model modelClass) ↔ (ownKeys modelClass).Nodup) ∧
    ((∀ property ∈ modelClass.properties,
        resolver.expandVocab property.compactPath = property.path) →
      ((ownKeys modelClass).Nodup ↔
        idKey modelClass ∉ modelClass.properties.map Model.Property.compactPath ∧
          ((describingShapes graph modelClass.id).map (pathOf? graph)).Nodup)) ∧
    ∀ options, definition? (schema model options) (propsName (typeName modelClass)) =
      (lastNamed? (typeName modelClass) model.classes).map (propsSchema model) := by
  obtain ⟨classes, built⟩ := Model.build_sound succeeds
  refine ⟨holdsOwn model modelClass, keepsOwn_iff model modelClass, ?_, ?_⟩
  · intro back
    rw [ownKeys, List.nodup_cons, nodup_compactPaths_iff built member back]
  · intro options
    exact definition?_props built.linked options (typeName modelClass)

def requiringGraph (key first second : String) : Rdf.Graph :=
  .ofList [
    ⟨.iri "c", Rdf.Vocabulary.rdfType, .iri Rdf.Vocabulary.owlClass⟩,
    ⟨.iri "c", Rdf.Vocabulary.shNodeKind, .iri Rdf.Vocabulary.shIri⟩,
    ⟨.iri "c", Rdf.Vocabulary.idPropertyName, .plain key⟩,
    ⟨.iri "c", Rdf.Vocabulary.shProperty, .blank "first"⟩,
    ⟨.blank "first", Rdf.Vocabulary.shPath, .iri first⟩,
    ⟨.blank "first", Rdf.Vocabulary.shDatatype, .iri Rdf.Vocabulary.xsdString⟩,
    ⟨.blank "first", Rdf.Vocabulary.shMinCount, .plain "1"⟩,
    ⟨.iri "c", Rdf.Vocabulary.shProperty, .blank "second"⟩,
    ⟨.blank "second", Rdf.Vocabulary.shPath, .iri second⟩,
    ⟨.blank "second", Rdf.Vocabulary.shDatatype, .iri Rdf.Vocabulary.xsdString⟩,
    ⟨.blank "second", Rdf.Vocabulary.shMinCount, .plain "1"⟩]

def writtenKeys (graph : Rdf.Graph) : Option (List (List String × List String)) :=
  (Model.build graph (.ofDocuments [])).toOption.map fun model =>
    model.classes.map fun modelClass =>
      (requiredNames (propsSchema model modelClass),
        (memberSchemas (propsSchema model modelClass)).map Prod.fst)

theorem own_properties_kept_iff_two :
    ∃ model, Model.build (requiringGraph "id" "p" "q") (.ofDocuments []) = .ok model ∧
      ∃ modelClass ∈ model.classes, ownKeys modelClass = ["id", "p", "q"] ∧
        (∀ property ∈ modelClass.properties,
          (Context.Resolver.ofDocuments []).expandVocab property.compactPath = property.path) ∧
        KeepsOwn model modelClass (propsSchema model modelClass) := by
  have described : (Model.build (requiringGraph "id" "p" "q") (.ofDocuments [])).toOption.map
      (fun model => model.classes.map fun modelClass => (ownKeys modelClass,
        modelClass.properties.map fun property =>
          ((Context.Resolver.ofDocuments []).expandVocab property.compactPath, property.path))) =
      some [(["id", "p", "q"], [("p", "p"), ("q", "q")])] := by
    decide +kernel
  obtain ⟨model, succeeds, modelClass, member, seen⟩ := Outcomes.exists_mem_of_looked described
  obtain ⟨keys, paths⟩ := Prod.mk.inj seen
  refine ⟨model, succeeds, modelClass, member, keys, ?_, ?_⟩
  · have back : ∀ pair ∈ modelClass.properties.map (fun property =>
        ((Context.Resolver.ofDocuments []).expandVocab property.compactPath, property.path)),
        pair.1 = pair.2 := paths ▸ (by decide)
    exact List.forall_mem_map.mp back
  · exact (own_properties_kept_iff succeeds member).2.1.mpr (keys ▸ (by decide))

/-- Two shapes with one path give one schema, and their key is required twice. A property with the key of
identifiers replaces their schema, and this key is required twice as well. -/
theorem own_properties_lost :
    writtenKeys (requiringGraph "id" "p" "p") = some [(["id", "p", "p"], ["id", "p"])] ∧
    writtenKeys (requiringGraph "p" "p" "q") = some [(["p", "p", "q"], ["p", "q"])] ∧
    ∀ graph ∈ [requiringGraph "id" "p" "p", requiringGraph "p" "p" "q"],
      ∃ model, Model.build graph (.ofDocuments []) = .ok model ∧
        ∃ modelClass ∈ model.classes, ¬ KeepsOwn model modelClass (propsSchema model modelClass) := by
  have twice : writtenKeys (requiringGraph "id" "p" "p") = some [(["id", "p", "p"], ["id", "p"])] := by
    decide +kernel
  have shared : writtenKeys (requiringGraph "p" "p" "q") = some [(["p", "p", "q"], ["p", "q"])] := by
    decide +kernel
  have lost {graph : Rdf.Graph} {required keys : List String}
      (written : writtenKeys graph = some [(required, keys)]) (repeats : ¬ required.Nodup) :
      ∃ model, Model.build graph (.ofDocuments []) = .ok model ∧
        ∃ modelClass ∈ model.classes,
          ¬ KeepsOwn model modelClass (propsSchema model modelClass) := by
    obtain ⟨model, succeeds, modelClass, member, seen⟩ := Outcomes.exists_mem_of_looked written
    obtain ⟨same, _⟩ := Prod.mk.inj seen
    refine ⟨model, succeeds, modelClass, member, ?_⟩
    intro kept
    exact repeats (same ▸ kept.required_distinct)
  refine ⟨twice, shared, ?_⟩
  intro graph listed
  rcases List.mem_pair.mp listed with rfl | rfl
  · exact lost twice (by decide)
  · exact lost shared (by decide)

end ShapeCompiler.Render.JsonSchema
