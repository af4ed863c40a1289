import ShapeCompiler.Render.TraitsText

/-! The targets for which a model is rendered. The raw one is the model itself as a JSON document, with
every field of every class in a fixed order. -/

namespace ShapeCompiler.Render

namespace Raw

def count : Option Nat → Json
  | some value => Json.ofNat value
  | none => .null

def range : Model.Range → Json
  | .instances classIri => .object [("class", .string classIri)]
  | .oneOf values => .object [("enum", Json.ofStrings values)]
  | .datatype iri => .object [("datatype", .string iri)]

def property (property : Model.Property) : Json :=
  .object [
    ("path", .string property.path),
    ("compact_path", .string property.compactPath),
    ("name", .string property.name),
    ("comment", Json.ofOption property.comment),
    ("min_count", count property.minCount),
    ("max_count", count property.maxCount),
    ("range", range property.range),
    ("pattern", Json.ofOption property.pattern),
    ("deprecated", .bool property.deprecated)]

def individual (individual : Model.Individual) : Json :=
  .object [
    ("id", .string individual.id),
    ("name", .string individual.name),
    ("compact_id", .string individual.compactId),
    ("comment", Json.ofOption individual.comment)]

def modelClass (modelClass : Model.Class) : Json :=
  .object [
    ("id", .string modelClass.id),
    ("name", .string modelClass.name),
    ("parent_ids", Json.ofStrings modelClass.parents),
    ("derived_ids", Json.ofStrings modelClass.derived),
    ("properties", .array (modelClass.properties.map property)),
    ("comment", Json.ofOption modelClass.comment),
    ("id_property", Json.ofOption modelClass.idProperty),
    ("node_kind", .string modelClass.nodeKind.name),
    ("is_extensible", .bool modelClass.isExtensible),
    ("is_abstract", .bool modelClass.isAbstract),
    ("deprecated", .bool modelClass.deprecated),
    ("named_individuals", .array (modelClass.individuals.map individual))]

def optional (name : String) : Option String → List (String × Json)
  | some value => [(name, .string value)]
  | none => []

def document (model : Model) (options : Options) : Json :=
  .object (optional "title" options.title ++ optional "id" options.id ++
    [("classes", .array (model.classes.map modelClass))])

def render (model : Model) (options : Options) : String :=
  (document model options).pretty ++ "\n"

end Raw

inductive Target where
  | raw
  | jsonSchema
  | rust
deriving DecidableEq

namespace Target

def all : List Target := [jsonSchema, raw, rust]

def name : Target → String
  | raw => "raw"
  | jsonSchema => "jsonschema"
  | rust => "rust"

def help : Target → String
  | raw => "Dump the intermediate representation as JSON"
  | jsonSchema => "JSON Schema for validating JSON-LD documents"
  | rust => "Rust traits, one per class, with enums for closed value sets"

def ofName? (name : String) : Option Target :=
  all.find? fun target => target.name == name

def render : Target → Model → Options → String
  | raw => Raw.render
  | jsonSchema => JsonSchema.render
  | rust => Traits.render

end Target

end ShapeCompiler.Render
