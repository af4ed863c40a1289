import ShapeCompiler.Json.Canonical
import ShapeCompiler.Keyed
import ShapeCompiler.Rdf.JsonLd.Name

/-! What is in force at a place of a JSON-LD document, and what texts mean there by way of the terms, the
vocabulary and the base. -/

namespace ShapeCompiler.Rdf.JsonLd

open Json (Written)

inductive Coercion where
  | reference
  | vocabulary
  | datatype (iri : String)
  | json
  | plain
deriving DecidableEq

/-- What a context says about a term. `opens` tells whether the term may stand before the colon of an
abbreviated IRI, `reverses` whether its values link to the node instead, and `fixed` whether later
contexts have to leave it as it is. A language or a direction that is given may be none. `context` is
entered for the values of the term. -/
structure Definition where
  name : Name
  opens : Bool
  reverses : Bool
  fixed : Bool
  coercion : Option Coercion
  language : Option (Option String)
  direction : Option (Option String)
  containers : List String
  indexedBy : Option String
  nest : Option String
  context : Option Written
deriving Inhabited

def Definition.agrees (left right : Definition) : Bool :=
  left.name = right.name && left.opens == right.opens && left.reverses == right.reverses &&
    left.coercion = right.coercion && left.language = right.language &&
    left.direction = right.direction && left.containers = right.containers &&
    left.indexedBy = right.indexedBy && left.nest = right.nest &&
    left.context.map Written.canonicalText = right.context.map Written.canonicalText

structure Scope where
  base : Option Iri.Parts
  vocabulary : Option String
  language : Option String
  direction : Option String
  terms : List (String × Definition)

abbrev Lookup := String → Option (Option Definition)

namespace Scope

def documentBase : Option Iri.Parts :=
  absolute? "x-string://"

def start : Scope := ⟨documentBase, none, none, none, []⟩

def definition? (scope : Scope) (term : String) : Option Definition :=
  Keyed.find? term scope.terms

def lookup (scope : Scope) : Lookup := fun term => some (scope.definition? term)

def resolve (scope : Scope) (text : String) : Name :=
  match scope.base, reference? text with
  | some base, some reference => .iri (String.ofList (Iri.resolveKeepingDots base reference).text)
  | _, _ => .unresolved text

def abbreviation? (lookup : Lookup) (text : String) : Option (Option Name) :=
  let own := Name.ofText text
  let inFull := if own.isResolved || text = "_:" then some own else none
  match colonParts? text with
  | none => some none
  | some (first, rest) =>
      if first = "_" || Text.startsWith "//" rest then some inFull
      else do
        match ← lookup first with
        | some definition =>
            if definition.opens then return some (Name.ofText (definition.name.text ++ rest))
            else return inFull
        | none => return inFull

def longMeaning? (scope : Scope) (lookup : Lookup) (inVocabulary relative : Bool) (text : String) :
    Option Name := do
  match ← abbreviation? lookup text with
  | some name => return name
  | none =>
      match inVocabulary, scope.vocabulary with
      | true, some vocabulary => return Name.ofText (vocabulary ++ text)
      | _, _ => return if relative then scope.resolve text else .unresolved text

/-- The meaning of a text, terms being looked up by `lookup`. With `inVocabulary` the text may be a term
or continue the vocabulary, with `relative` it may be relative to the base. -/
def meaning? (scope : Scope) (lookup : Lookup) (inVocabulary relative : Bool) (text : String) :
    Option Name :=
  if isKeyword text then some (.keyword text)
  else if isKeywordLike text then some .nothing
  else do
    match ← lookup text with
    | some definition =>
        if inVocabulary || definition.name.isKeyword then return definition.name
        else scope.longMeaning? lookup inVocabulary relative text
    | none => scope.longMeaning? lookup inVocabulary relative text

def memberName (scope : Scope) (text : String) : Name :=
  (scope.meaning? scope.lookup true false text).getD .nothing

def nodeName (scope : Scope) (text : String) : Name :=
  (scope.meaning? scope.lookup false true text).getD .nothing

def typeName (scope : Scope) (text : String) : Name :=
  (scope.meaning? scope.lookup true true text).getD .nothing

end Scope

end ShapeCompiler.Rdf.JsonLd
