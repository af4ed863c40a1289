import ShapeCompiler.Render.JsonSchema
import ShapeCompiler.Render.SourceFile
import ShapeCompiler.Text.Characters

/-! Modules of Rust traits, one trait for each class over a family of primitive types. Parents become
supertraits, and properties become methods. Closed sets of values, and the individuals of classes,
become enumerations. This module holds what is declared; its text is made of it elsewhere. -/

namespace ShapeCompiler.Render.Traits

structure Variant where
  name : String
  value : String
  comment : Option String
deriving DecidableEq

structure Enumeration where
  name : String
  comment : String
  variants : List Variant
deriving DecidableEq

/-- How a method hands out values: sized ones by value, those of other traits by reference, and those
without a fixed size by reference and one at a time. -/
inductive ValueType where
  | owned (type : String)
  | borrowed (type : String)
  | unsized (type : String)
deriving DecidableEq

structure AssociatedType where
  name : String
  bound : String
deriving DecidableEq

/-- `declares` is the associated type that is declared before the method, if it is the first to use
one. -/
structure Method where
  name : String
  property : Model.Property
  values : ValueType
  declares : Option AssociatedType
deriving DecidableEq

structure Trait where
  name : String
  source : Model.Class
  supertraits : List String
  methods : List Method
deriving DecidableEq

structure Declarations where
  enumerations : List Enumeration
  traits : List Trait
deriving DecidableEq

def typeNameOf (model : Model) (iri : String) : String :=
  match model.classes.reverse.find? fun modelClass => modelClass.id == iri with
  | some modelClass => typeName modelClass
  | none => pascalCase (Text.localName iri)

/-- A class with individuals and nothing else is an enumeration of them. -/
def hasIndividualsOnly (modelClass : Model.Class) : Bool :=
  !modelClass.individuals.isEmpty && modelClass.properties.isEmpty && modelClass.derived.isEmpty &&
    modelClass.parents.isEmpty

def isEnumerationOnly (model : Model) (iri : String) : Bool :=
  model.classes.any fun modelClass => modelClass.id == iri && hasIndividualsOnly modelClass

def individualsName (model : Model) (modelClass : Model.Class) : String :=
  let name := typeNameOf model modelClass.id
  if isEnumerationOnly model modelClass.id then name else name ++ "Individual"

def valuesName (model : Model) (owner : Model.Class) (property : Model.Property) : String :=
  typeNameOf model owner.id ++ pascalCase property.name

/-- Appends its position to the name of every variant whose name was taken before. -/
def distinctFrom (position : Nat) (taken : List String) : List Variant → List Variant
  | [] => []
  | variant :: variants =>
      let name :=
        if variant.name ∈ taken then variant.name ++ toString position else variant.name
      { variant with name := name } :: distinctFrom (position + 1) (name :: taken) variants

def distinctVariants (variants : List Variant) : List Variant :=
  distinctFrom 0 [] variants

def individualVariant (individual : Model.Individual) : Variant :=
  ⟨pascalCase individual.name, individual.id, individual.comment.map Text.oneLine⟩

def valueVariant (value : String) : Variant :=
  ⟨pascalCase (Text.localName value), value, none⟩

def individualEnumeration (model : Model) (modelClass : Model.Class) : List Enumeration :=
  if modelClass.individuals.isEmpty then []
  else [{
    name := individualsName model modelClass
    comment := "Named individuals of `" ++ modelClass.name ++ "`."
    variants := distinctVariants (modelClass.individuals.map individualVariant) }]

def valueEnumeration (model : Model) (owner : Model.Class) (property : Model.Property) :
    List Enumeration :=
  match property.values? with
  | none => []
  | some values => [{
      name := valuesName model owner property
      comment := "Values allowed for `" ++ property.compactPath ++ "` on `" ++ owner.name ++ "`."
      variants := distinctVariants (values.map valueVariant) }]

def enumerations (model : Model) : List Enumeration :=
  model.classes.flatMap fun modelClass =>
    individualEnumeration model modelClass ++
      modelClass.properties.flatMap (valueEnumeration model modelClass)

/-- The associated type for references to a class. A trait cannot use its own name for it. -/
def associatedType (ownerName targetName : String) : AssociatedType :=
  ⟨if targetName = ownerName then targetName ++ "Target" else targetName, targetName⟩

def valueType (model : Model) (owner : Model.Class) (property : Model.Property) :
    ValueType × Option AssociatedType :=
  match property.range with
  | .oneOf _ => (.owned (valuesName model owner property), none)
  | .instances target =>
      match model.findClass? target with
      | none => (.unsized "P::String", none)
      | some targetClass =>
          if isEnumerationOnly model targetClass.id then
            (.owned (individualsName model targetClass), none)
          else
            let associated := associatedType (typeNameOf model owner.id) (typeNameOf model target)
            (.borrowed ("Self::" ++ associated.name), some associated)
  | .datatype datatype =>
      if isUnsized datatype then (.unsized (primitiveType datatype), none)
      else (.owned (primitiveType datatype), none)

/-- A method is named for its property, or for the compact path where that name is taken. -/
def methodName (taken : List String) (property : Model.Property) : String :=
  let name := snakeCase property.name
  if name ∈ taken then snakeCase property.compactPath else name

def methodsFrom (model : Model) (owner : Model.Class) (taken declared : List String) :
    List Model.Property → List Method
  | [] => []
  | property :: properties =>
      let name := methodName taken property
      let typed := valueType model owner property
      let declares := typed.2.filter fun associated => !declared.contains associated.name
      { name := name, property := property, values := typed.1, declares := declares } ::
        methodsFrom model owner (name :: taken)
          ((declares.map AssociatedType.name).toList ++ declared) properties

def traitOf (model : Model) (modelClass : Model.Class) : Trait where
  name := typeNameOf model modelClass.id
  source := modelClass
  supertraits := modelClass.parents.map (typeNameOf model)
  methods := methodsFrom model modelClass [] [] modelClass.properties

def traits (model : Model) : List Trait :=
  (model.classes.filter fun modelClass => !isEnumerationOnly model modelClass.id).map
    (traitOf model)

def declarations (model : Model) : Declarations :=
  ⟨enumerations model, traits model⟩

end ShapeCompiler.Render.Traits
