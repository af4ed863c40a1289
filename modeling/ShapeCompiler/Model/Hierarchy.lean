import ShapeCompiler.Model.BuildError

/-! The classes that a graph declares, their superclasses, and what a class inherits from the nearest of
them. -/

namespace ShapeCompiler.Model

open Rdf (Graph Term)

def classIris (graph : Graph) : List String :=
  Sorted.ofList
    ((graph.subjects Rdf.Vocabulary.rdfType (.iri Rdf.Vocabulary.owlClass) ++
      graph.subjects Rdf.Vocabulary.rdfType (.iri Rdf.Vocabulary.owlDeprecatedClass)).filterMap
        Term.iri?)

def isClass (graph : Graph) (iri : String) : Bool :=
  (classIris graph).contains iri

/-- The other classes that a class names as its superclasses, each once, in the order of the
graph. -/
def parentsOf (graph : Graph) (iri : String) : List String :=
  ((graph.objects (.iri iri) Rdf.Vocabulary.rdfsSubClassOf).filterMap Term.iri?).filter fun parent =>
    parent ≠ iri && isClass graph parent

def superclasses (graph : Graph) (node : Term) : List Term :=
  (graph.objects node Rdf.Vocabulary.rdfsSubClassOf).filter fun parent => parent.iri?.isSome

/-- Looks at the nodes of a queue and at their superclasses behind them, each node once, until one
has what is looked for. Every node enters the queue by a triple of its own. -/
def inheritedFrom {α : Type} (graph : Graph) (look : Term → Except BuildError (Option α)) :
    Nat → List Term → List Term → Except BuildError (Option α)
  | _, _, [] => .ok none
  | 0, _, _ => .ok none
  | bound + 1, visited, node :: queue =>
      if node ∈ visited then inheritedFrom graph look bound visited queue
      else
        match look node with
        | .error fault => .error fault
        | .ok (some found) => .ok (some found)
        | .ok none =>
            inheritedFrom graph look bound (node :: visited) (queue ++ superclasses graph node)

def inherited {α : Type} (graph : Graph) (look : Term → Except BuildError (Option α))
    (iri : String) : Except BuildError (Option α) :=
  inheritedFrom graph look (graph.size + 1) [] [.iri iri]

end ShapeCompiler.Model
