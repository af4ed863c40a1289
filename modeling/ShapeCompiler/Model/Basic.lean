import ShapeCompiler.Rdf.Vocabulary
import ShapeCompiler.Text.Cut
import ShapeCompiler.Keyed

/-! The model of a schema: its classes with their properties and named individuals, fully resolved.
In a model that was built, every class comes after all its parents. -/

namespace ShapeCompiler

inductive Model.NodeKind where
  | iri
  | blankNode
  | blankNodeOrIri
deriving DecidableEq

/-- The values that a property holds: references to instances of a class, the texts of a closed set,
or literals of a datatype. -/
inductive Model.Range where
  | instances (classIri : String)
  | oneOf (values : List String)
  | datatype (iri : String)
deriving DecidableEq

structure Model.Property where
  path : String
  compactPath : String
  name : String
  comment : Option String
  minCount : Option Nat
  maxCount : Option Nat
  range : Model.Range
  pattern : Option String
  deprecated : Bool
deriving DecidableEq

structure Model.Individual where
  id : String
  name : String
  compactId : String
  comment : Option String
deriving DecidableEq

structure Model.Class where
  id : String
  name : String
  parents : List String
  derived : List String
  properties : List Model.Property
  comment : Option String
  idProperty : Option String
  nodeKind : Model.NodeKind
  isExtensible : Bool
  isAbstract : Bool
  deprecated : Bool
  individuals : List Model.Individual
deriving DecidableEq

structure Model where
  classes : List Model.Class
deriving DecidableEq

namespace Model

instance : Inhabited NodeKind := ⟨.blankNodeOrIri⟩

namespace NodeKind

def toIri : NodeKind → String
  | iri => Rdf.Vocabulary.shIri
  | blankNode => Rdf.Vocabulary.shBlankNode
  | blankNodeOrIri => Rdf.Vocabulary.shBlankNodeOrIri

def name : NodeKind → String
  | iri => "Iri"
  | blankNode => "BlankNode"
  | blankNodeOrIri => "BlankNodeOrIri"

def all : List NodeKind := [iri, blankNode, blankNodeOrIri]

def ofIri? (value : String) : Option NodeKind :=
  all.find? fun kind => kind.toIri == value

end NodeKind

namespace Property

def classIri? (property : Property) : Option String :=
  match property.range with
  | .instances classIri => some classIri
  | _ => none

def values? (property : Property) : Option (List String) :=
  match property.range with
  | .oneOf values => some values
  | _ => none

def datatype? (property : Property) : Option String :=
  match property.range with
  | .datatype iri => some iri
  | _ => none

/-- A property holds a list of values unless it holds at most one. -/
def isList (property : Property) : Bool :=
  property.maxCount != some 1

def isRequired (property : Property) : Bool :=
  match property.minCount with
  | some count => 0 < count
  | none => false

end Property

namespace Class

def nameParts (modelClass : Class) : List String :=
  Text.colonPieces modelClass.name

def findProperty? (modelClass : Class) (path : String) : Option Property :=
  modelClass.properties.find? fun property => property.path == path

end Class

def empty : Model := ⟨[]⟩

def findClass? (model : Model) (iri : String) : Option Class :=
  model.classes.find? fun modelClass => modelClass.id == iri

def position? (model : Model) (iri : String) : Option Nat :=
  model.classes.findIdx? fun modelClass => modelClass.id == iri

def classCount (model : Model) : Nat :=
  model.classes.length

def propertyCount (model : Model) : Nat :=
  total (model.classes.map fun modelClass => modelClass.properties.length)

def individualCount (model : Model) : Nat :=
  total (model.classes.map fun modelClass => modelClass.individuals.length)

end Model

end ShapeCompiler
