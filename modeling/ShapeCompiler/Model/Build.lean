import ShapeCompiler.Model.PropertyShape

/-! Building a model from a graph of shapes. The named individuals are found first; classes are built
one by one in the order of their IRIs, each with its individuals, and the first fault ends the
building; then parents are told their children, and the classes are put in an order in which parents
come first. -/

namespace ShapeCompiler.Model

open Rdf (Graph Term)

/-- The part of an individual's IRI after the IRI of its class and the marks that follow it, else its
local name. -/
def individualName (classIri id : String) : String :=
  match Text.stripPrefix? classIri id with
  | none => Text.localName id
  | some rest =>
      if rest.toList.head?.any Text.isPathMark then
        let trimmed := rest.toList.dropWhile Text.isPathMark
        if trimmed.isEmpty then Text.localName id else String.ofList trimmed
      else Text.localName id

def individualOf (graph : Graph) (resolver : Context.Resolver) (classIri id : String) :
    Individual where
  id := id
  name := individualName classIri id
  compactId := resolver.compactId id
  comment := literalValue? graph (.iri id) Rdf.Vocabulary.rdfsComment

def classesOf (graph : Graph) (id : String) : List String :=
  ((graph.objects (.iri id) Rdf.Vocabulary.rdfType).filterMap Term.iri?).filter (isClass graph)

/-- The named individuals by the IRIs of their classes. One pass over the individuals, which come in
the order of their IRIs, puts each of them into the list of every class that it has as a type. -/
def discoverIndividuals (graph : Graph) (resolver : Context.Resolver) :
    List (String × List Individual) :=
  Keyed.distribute (classesOf graph) (individualOf graph resolver)
    ((graph.subjects Rdf.Vocabulary.rdfType (.iri Rdf.Vocabulary.owlNamedIndividual)).filterMap
      Term.iri?)

def forbidsOwnType (graph : Graph) (classIri : String) (shape : Term) : Bool :=
  pathOf? graph shape == some Rdf.Vocabulary.rdfType &&
    (graph.objects shape Rdf.Vocabulary.shNot).any fun other =>
      graph.contains other Rdf.Vocabulary.shHasValue (.iri classIri)

/-- A class before its individuals and its children are known. -/
def buildClass (graph : Graph) (resolver : Context.Resolver) (iri : String) :
    Except BuildError Class := do
  let nodeKind ← inherited graph (nodeKind? graph iri) iri
  let idProperty ← inherited graph
    (fun node => .ok (literalValue? graph node Rdf.Vocabulary.idPropertyName)) iri
  let isExtensible ← inherited graph (fun node => truth? graph node Rdf.Vocabulary.isExtensible) iri
  let markedAbstract ← truth? graph (.iri iri) Rdf.Vocabulary.isAbstract
  let shapes := graph.objects (.iri iri) Rdf.Vocabulary.shProperty
  let properties ← buildShapes graph resolver iri shapes
  return {
    id := iri
    name := resolver.compactVocab iri
    parents := parentsOf graph iri
    derived := []
    properties := Sorted.byKey Property.path properties
    comment := literalValue? graph (.iri iri) Rdf.Vocabulary.rdfsComment
    idProperty := idProperty
    nodeKind := nodeKind.getD .blankNodeOrIri
    isExtensible := isExtensible.getD false
    isAbstract := markedAbstract == some true ||
      graph.contains (.iri iri) Rdf.Vocabulary.rdfType (.iri Rdf.Vocabulary.abstractClass) ||
      shapes.any (forbidsOwnType graph iri)
    deprecated := graph.contains (.iri iri) Rdf.Vocabulary.rdfType
      (.iri Rdf.Vocabulary.owlDeprecatedClass)
    individuals := [] }

/-- Builds classes in turn. Each takes its individuals out of those that were found. -/
def buildClasses (graph : Graph) (resolver : Context.Resolver) :
    List (String × List Individual) → List String → Except BuildError (List Class)
  | _, [] => .ok []
  | found, iri :: iris => do
      let modelClass ← buildClass graph resolver iri
      let classes ← buildClasses graph resolver (Keyed.erase iri found) iris
      return { modelClass with individuals := Keyed.items iri found } :: classes

def childrenByParent (classes : List Class) : List (String × List String) :=
  Keyed.distribute Class.parents (fun _ => Class.id) classes

def tellChildren (classes : List Class) (parent : String) (children : List String) : List Class :=
  classes.map fun modelClass =>
    if modelClass.id = parent then { modelClass with derived := children } else modelClass

def withChildren (classes : List Class) : List Class :=
  (childrenByParent classes).foldl
    (fun classes entry => tellChildren classes entry.1 (Sorted.byKey id entry.2)) classes

def readyClass? (unplaced : List (String × Class)) (placed : List String) (iri : String) :
    Option Class :=
  (Keyed.find? iri unplaced).filter fun modelClass =>
    modelClass.parents.all fun parent => placed.contains parent

/-- Places the classes of a queue. The class in front is placed if its parents are, else it goes to the
back. `delayed` counts those that went to the back since one was last placed: once it is the whole
queue, the classes that wait inherit from each other. -/
def placeClasses (unplaced : List (String × Class)) (placed : List String) (delayed : Nat) :
    List String → Except BuildError (List Class)
  | [] => .ok []
  | iri :: queue =>
      match readyClass? unplaced placed iri with
      | some ready =>
          (placeClasses (Keyed.erase iri unplaced) (iri :: placed) 0 queue).map (ready :: ·)
      | none =>
          if queue.length ≤ delayed then
            .error (.inheritanceCycle (Sorted.byKey id (queue ++ [iri])))
          else placeClasses unplaced placed (delayed + 1) (queue ++ [iri])
termination_by queue => queue.length * queue.length + (queue.length - delayed)
decreasing_by
  · simp only [List.length_cons, Nat.add_mul, Nat.mul_add]
    omega
  · simp only [List.length_append, List.length_cons, List.length_nil, Nat.zero_add]
    omega

def dependencyOrder (classes : List (String × Class)) : Except BuildError (List Class) :=
  placeClasses classes [] 0 (classes.map Prod.fst)

def build (graph : Graph) (resolver : Context.Resolver) : Except BuildError Model := do
  let classes ← buildClasses graph resolver (discoverIndividuals graph resolver) (classIris graph)
  let ordered ← dependencyOrder
    ((withChildren classes).map fun modelClass => (modelClass.id, modelClass))
  return ⟨ordered⟩

end ShapeCompiler.Model
