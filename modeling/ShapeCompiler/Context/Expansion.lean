import ShapeCompiler.Context.Document
import ShapeCompiler.Text.Cut
import ShapeCompiler.Keyed

/-! Expansion of names to absolute IRIs over a list of documents, those of higher priority first.
A defined term stands for its identifier, which is expanded in turn; before a colon a declared name
stands for its expansion if that ends in a slash; what is left and relative takes a default. -/

namespace ShapeCompiler.Context

structure Defaults where
  base : Bool
  vocab : Bool
deriving DecidableEq

namespace Defaults

def none : Defaults := ⟨false, false⟩

end Defaults

/-- A name is relative unless something stands before its first colon. -/
def isRelative (name : String) : Bool :=
  match Text.splitAtColon? name with
  | some (before, _) => before == ""
  | none => true

def definition? (documents : List Document) (name : String) : Option (Definition Document) :=
  documents.findSome? fun document => Keyed.find? name document.terms

def isDeclared (documents : List Document) (name : String) : Bool :=
  documents.any fun document => Keyed.contains name document.terms

def declaredPrefix? (documents : List Document) (name : String) : Option (String × String) :=
  match Text.splitAtColon? name with
  | some (before, after) => if isDeclared documents before then some (before, after) else none
  | none => none

/-- One step of expansion: `next` continues with an identifier or a declared name, and `fallback`
answers where neither helps. Keywords stand for themselves. -/
def expandStep (documents : List Document) (next fallback : String → String) (name : String) :
    String :=
  if isKeyword name then name
  else match definition? documents name with
    | some definition => next definition.id
    | none =>
        match declaredPrefix? documents name with
        | some (before, after) =>
            let expanded := next before
            if Text.endsInSlash expanded then expanded ++ after else fallback name
        | none => fallback name

/-- Expansion by terms alone. A name that was met before ends the walk, so that circular definitions
come to an end. -/
def expandTerms (documents : List Document) : Nat → List String → String → String
  | 0, _, name => name
  | bound + 1, visited, name =>
      if name ∈ visited then name
      else expandStep documents (expandTerms documents bound (name :: visited)) id name

def expansionBound (documents : List Document) : Nat :=
  2 * total (documents.map fun document => document.terms.length) + 2

def expandTerm (documents : List Document) (name : String) : String :=
  expandTerms documents (expansionBound documents) [] name

def withDefaults (documents : List Document) (defaults : Defaults) (name : String) : String :=
  if !isRelative name then name
  else match (if defaults.vocab then documents.findSome? Document.vocab else none) with
    | some vocab => expandTerm documents vocab ++ name
    | none =>
        match (if defaults.base then documents.findSome? Document.base else none) with
        | some base => base ++ name
        | none => name

/-- The expansion of a name. Defaults apply to the name itself and not to the names that it leads
to. -/
def expand (documents : List Document) (defaults : Defaults) (name : String) : String :=
  expandStep documents (expandTerms documents (expansionBound documents) [name])
    (withDefaults documents defaults) name

end ShapeCompiler.Context
