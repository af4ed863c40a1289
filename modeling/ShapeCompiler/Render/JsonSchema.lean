import ShapeCompiler.Json.Printer
import ShapeCompiler.Render.Names
import ShapeCompiler.Sorted
import ShapeCompiler.Text.Cut

/-! JSON Schemas of models. A class has a definition of its own properties, together with those of
its parents; one of all that may stand where an instance is expected; and, unless it is abstract, one
of its own instances. -/

namespace ShapeCompiler.Render.JsonSchema

def draft : String := "https://json-schema.org/draft/2020-12/schema"

/-- The type name of the class with an IRI, the last one if there are several; the local name of an
IRI without a class. -/
def nameOf (model : Model) (iri : String) : String :=
  match model.classes.reverse.find? fun modelClass => modelClass.id == iri with
  | some modelClass => typeName modelClass
  | none => Text.localName iri

def reference (definition : String) : Json :=
  .object [("$ref", .string ("#/$defs/" ++ definition))]

def propsName (name : String) : String := name ++ "_props"

def derivedName (name : String) : String := name ++ "_derived"

def whenSome {α : Type} (name : String) (toJson : α → Json) : Option α → List (String × Json)
  | some value => [(name, toJson value)]
  | none => []

def whenTrue (condition : Bool) (name : String) (value : Json) : List (String × Json) :=
  if condition then [(name, value)] else []

def description (comment : Option String) : List (String × Json) :=
  whenSome "description" (fun text => .string (Text.oneLine text)) comment

def idSchema : Model.NodeKind → Json
  | .iri => Json.sorted [("type", .string "string"), ("format", .string "iri-reference")]
  | .blankNode => Json.sorted [("type", .string "string"), ("pattern", .string "^_:")]
  | .blankNodeOrIri => Json.sorted [("type", .string "string")]

def itemMembers (model : Model) (property : Model.Property) : List (String × Json) :=
  match property.range with
  | .instances target => [("$ref", .string ("#/$defs/" ++ derivedName (nameOf model target)))]
  | .oneOf values => [("enum", Json.ofStrings values)]
  | .datatype datatype =>
      let typed := jsonType datatype
      [("type", .string typed.1)] ++ whenSome "format" .string typed.2 ++
        whenSome "pattern" .string property.pattern

def listMembers (property : Model.Property) (item : Json) : List (String × Json) :=
  [("type", .string "array"), ("items", item)] ++
    whenSome "minItems" Json.ofNat (property.minCount.filter (0 < ·)) ++
    whenSome "maxItems" Json.ofNat property.maxCount

def propertySchema (model : Model) (property : Model.Property) : Json :=
  let item := itemMembers model property
  let members := if property.isList then listMembers property (Json.sorted item) else item
  Json.sorted (members ++ description property.comment ++
    whenTrue property.deprecated "deprecated" (.bool true))

def idKey (modelClass : Model.Class) : String :=
  modelClass.idProperty.getD "@id"

def requiredKeys (modelClass : Model.Class) : List String :=
  (if modelClass.nodeKind = .iri then [idKey modelClass] else []) ++
    (modelClass.properties.filter Model.Property.isRequired).map Model.Property.compactPath

/-- The definition of a class's own properties, with references to those of its parents. -/
def propsSchema (model : Model) (modelClass : Model.Class) : Json :=
  let properties := (idKey modelClass, idSchema modelClass.nodeKind) ::
    modelClass.properties.map fun property => (property.compactPath, propertySchema model property)
  let required := requiredKeys modelClass
  Json.sorted ([("type", .string "object")] ++ description modelClass.comment ++
    whenTrue (!modelClass.parents.isEmpty) "allOf"
      (.array (modelClass.parents.map fun parent => reference (propsName (nameOf model parent)))) ++
    [("properties", Json.sorted properties)] ++
    whenTrue (!required.isEmpty) "required" (Json.ofStrings required))

/-- The classes reached from a queue along the IRIs of children, each IRI once. -/
def descendantsFrom (model : Model) : Nat → List String → List Model.Class → List Model.Class
  | _, _, [] => []
  | 0, _, _ => []
  | bound + 1, seen, next :: queue =>
      if next.id ∈ seen then descendantsFrom model bound seen queue
      else next :: descendantsFrom model bound (next.id :: seen)
        (queue ++ next.derived.filterMap model.findClass?)

/-- Every class but the first is reached by an entry in some list of children. -/
def descendantsBound (model : Model) (modelClass : Model.Class) : Nat :=
  total ((modelClass :: model.classes).map fun other => other.derived.length) + 1

def descendants (model : Model) (modelClass : Model.Class) : List Model.Class :=
  descendantsFrom model (descendantsBound model modelClass) [] [modelClass]

def concreteNames (model : Model) (modelClass : Model.Class) : List String :=
  Sorted.ofList (((descendants model modelClass).filter fun other => !other.isAbstract).map
    fun other => nameOf model other.id)

/-- The definition of all that may stand where an instance of a class is expected. -/
def derivedSchema (model : Model) (modelClass : Model.Class) : Json :=
  let choices := (concreteNames model modelClass).map reference ++
    (if modelClass.nodeKind = .blankNode then [] else [Json.sorted [("type", .string "string")]])
  match choices with
  | [] => .bool false
  | [choice] => choice
  | choices => Json.sorted [("anyOf", .array choices)]

def classSchema (modelClass : Model.Class) (name : String) : Json :=
  Json.sorted (description modelClass.comment ++
    [("allOf", .array [reference (propsName name)]),
      ("properties",
        Json.sorted [("@type", Json.sorted [("const", .string modelClass.name)])]),
      ("required", Json.ofStrings ["@type"])] ++
    whenTrue modelClass.deprecated "deprecated" (.bool true) ++
    whenTrue (!modelClass.isExtensible) "unevaluatedProperties" (.bool false))

def definitionsOf (model : Model) (modelClass : Model.Class) : List (String × Json) :=
  let name := nameOf model modelClass.id
  [(propsName name, propsSchema model modelClass),
    (derivedName name, derivedSchema model modelClass)] ++
    whenTrue (!modelClass.isAbstract) name (classSchema modelClass name)

def definitions (model : Model) : List (String × Json) :=
  model.classes.flatMap (definitionsOf model)

def instanceReferences (model : Model) : List Json :=
  (model.classes.filter fun modelClass => !modelClass.isAbstract).map fun modelClass =>
    reference (nameOf model modelClass.id)

def schema (model : Model) (options : Options) : Json :=
  let instances := instanceReferences model
  Json.sorted ([("$schema", .string draft)] ++ whenSome "$id" .string options.id ++
    whenSome "title" .string options.title ++ [("$defs", Json.sorted (definitions model))] ++
    whenTrue (!instances.isEmpty) "anyOf" (.array instances))

def render (model : Model) (options : Options) : String :=
  (schema model options).pretty ++ "\n"

end ShapeCompiler.Render.JsonSchema
