import ShapeCompiler.Context.Resolver
import ShapeCompiler.Model.Attribute
import ShapeCompiler.Model.Hierarchy

/-! The properties that shapes describe. The first fault of a shape ends the building. -/

namespace ShapeCompiler.Model

open Rdf (Graph Term)

/-- The values that a property shape allows: those of its class, of its list of values or of its
datatype, and failing these those of the range declared for its path. -/
def rangeOf (graph : Graph) (owner : String) (shape : Term) (path : String) :
    Except BuildError Range :=
  match graph.value? shape Rdf.Vocabulary.shClass with
  | some target =>
      match target.iri?.filter (isClass graph) with
      | some classIri => .ok (.instances classIri)
      | none => .error (.unknownClass owner path target.name)
  | none =>
      match graph.value? shape Rdf.Vocabulary.shIn with
      | some head =>
          match graph.list head with
          | .ok items => .ok (.oneOf (Sorted.ofList (items.map Term.name)))
          | .error fault => .error (.malformedList owner path fault)
      | none =>
          match (graph.value? shape Rdf.Vocabulary.shDatatype).bind Term.iri? with
          | some datatype => .ok (.datatype datatype)
          | none =>
              match (graph.value? (.iri path) Rdf.Vocabulary.rdfsRange).bind Term.iri? with
              | some range =>
                  .ok (if isClass graph range then .instances range else .datatype range)
              | none => .error (.missingRange owner path)

def patternDatatypes : List String :=
  [Rdf.Vocabulary.xsdString, Rdf.Vocabulary.xsdAnyUri, Rdf.Vocabulary.xsdDateTime,
    Rdf.Vocabulary.xsdDateTimeStamp]

def Range.allowsPattern : Range → Bool
  | .datatype iri => patternDatatypes.contains iri
  | _ => false

def Range.describe : Range → String
  | .instances classIri => "class " ++ classIri
  | .oneOf _ => "enumeration"
  | .datatype iri => iri

def patternOf (graph : Graph) (owner : String) (shape : Term) (path : String) (range : Range) :
    Except BuildError (Option String) :=
  match literalValue? graph shape Rdf.Vocabulary.shPattern with
  | none => .ok none
  | some pattern =>
      if range.allowsPattern then .ok (some pattern)
      else .error (.patternNotAllowed owner path range.describe)

def buildProperty (graph : Graph) (resolver : Context.Resolver) (owner : String) (shape : Term)
    (path : String) : Except BuildError Property := do
  let range ← rangeOf graph owner shape path
  let pattern ← patternOf graph owner shape path range
  let minCount ← count? graph shape Rdf.Vocabulary.shMinCount
  let maxCount ← count? graph shape Rdf.Vocabulary.shMaxCount
  return {
    path := path
    compactPath := resolver.compactVocab path
    name := (literalValue? graph shape Rdf.Vocabulary.shName).getD (Text.localName path)
    comment := (literalValue? graph (.iri path) Rdf.Vocabulary.rdfsComment).or
      (literalValue? graph shape Rdf.Vocabulary.rdfsComment)
    minCount := minCount
    maxCount := maxCount
    range := range
    pattern := pattern
    deprecated := graph.contains (.iri path) Rdf.Vocabulary.rdfType
      (.iri Rdf.Vocabulary.owlDeprecatedProperty) }

def pathOf? (graph : Graph) (shape : Term) : Option String :=
  (graph.value? shape Rdf.Vocabulary.shPath).bind Term.iri?

/-- The property of a shape. A shape on the type of instances describes none. -/
def buildShape (graph : Graph) (resolver : Context.Resolver) (owner : String) (shape : Term) :
    Except BuildError (Option Property) :=
  match pathOf? graph shape with
  | none => .error (.missingPath owner shape.name)
  | some path =>
      if path = Rdf.Vocabulary.rdfType then .ok none
      else (buildProperty graph resolver owner shape path).map some

def buildShapes (graph : Graph) (resolver : Context.Resolver) (owner : String) :
    List Term → Except BuildError (List Property)
  | [] => .ok []
  | shape :: shapes => do
      let property ← buildShape graph resolver owner shape
      let properties ← buildShapes graph resolver owner shapes
      return property.toList ++ properties

end ShapeCompiler.Model
