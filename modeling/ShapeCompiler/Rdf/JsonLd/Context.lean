import ShapeCompiler.Rdf.JsonLd.Draft
import ShapeCompiler.Rdf.JsonLd.Scope

/-! How a context of a JSON-LD document changes what is in force: it may set the base, the vocabulary, the
language and the direction, and define terms. A term may be defined by way of others of the same
context, but not by way of itself. Contexts kept elsewhere are not read. -/

namespace ShapeCompiler.Rdf.JsonLd

open Json (Written)

/-- What is in force at a place, and what is to be in force again within the next node. -/
structure Situation where
  current : Scope
  previous : Option Scope

namespace Scope

def settings : List String :=
  ["@base", "@direction", "@import", "@language", "@propagate", "@protected", "@type", "@version",
    "@vocab"]

def baseOf? (scope : Scope) : Option Written → Option (Option Iri.Parts)
  | none => some scope.base
  | some .null => some none
  | some (.string text) => do
      let reference ← reference? text
      match scope.base with
      | some base => return some (Iri.resolveKeepingDots base reference)
      | none => if reference.scheme.isSome then some (some reference) else none
  | some _ => none

def vocabularyOf? (scope : Scope) : Option Written → Option (Option String)
  | none => some scope.vocabulary
  | some .null => some none
  | some (.string text) =>
      let name := scope.typeName text
      if name.isReference then some (some name.text) else none
  | some _ => none

def settingOf? (read? : Written → Option String) (before : Option String) :
    Option Written → Option (Option String)
  | none => some before
  | some value => nullable? read? value

def isKnownVersion : Option Written → Bool
  | none => true
  | some (.number numeral) => numeral = ⟨false, ['1'], some ['1'], none⟩
  | some _ => false

def isTypeSetting : Option Written → Bool
  | none => true
  | some (.object members) =>
      decide (members.map Prod.fst).Nodup && !members.isEmpty && members.all fun member =>
        match member with
        | ("@container", .string word) => word = "@set"
        | ("@protected", .bool _) => true
        | _ => false
  | some _ => false

def coercionOf? (scope : Scope) (lookup : Lookup) (text : String) : Option Coercion := do
  match ← scope.meaning? lookup true false text with
  | .keyword "@id" => return .reference
  | .keyword "@vocab" => return .vocabulary
  | .keyword "@json" => return .json
  | .keyword "@none" => return .plain
  | .iri iri => return .datatype iri
  | _ => none

def endsInDelimiter (name : Name) : Bool :=
  match name with
  | .blank _ => true
  | .iri value =>
      value.toList.getLast?.any fun c => [':', '/', '?', '#', '[', ']', '@'].contains c
  | _ => false

def looksLikeIri (term : String) : Bool :=
  ((term.toList.drop 1).dropLast).contains ':' || term.toList.contains '/'

def ownMeaning? (scope : Scope) (lookup : Lookup) (term : String) : Option Name :=
  let known (name : Name) : Option Name := if name.isResolved then some name else none
  match colonParts? term with
  | some (first, rest) =>
      if first = "_" || Text.startsWith "//" rest then known (Name.ofText term)
      else do
        match ← lookup first with
        | none => known (Name.ofText term)
        | some definition => known (Name.ofText (definition.name.text ++ rest))
  | none => scope.vocabulary.bind fun vocabulary => known (Name.ofText (vocabulary ++ term))

/-- The meaning that a definition gives a term by the text `id`. A term that looks like an IRI has to
mean what it would mean by itself. -/
def givenMeaning? (scope : Scope) (lookup : Lookup) (term id : String) : Option Name := do
  let name ← scope.meaning? lookup true false id
  if !(name.isResolved || name.isKeyword) || name = .keyword "@context" then none
  if looksLikeIri term then
    let others : Lookup := fun other => if other = term then some none else lookup other
    if (← scope.meaning? others true false term) = name then some name else none
  else some name

def reverseOf? (scope : Scope) (lookup : Lookup) (fixed : Bool) (coercion : Option Coercion)
    (draft : Draft) (reverse : String) : Option (Option Definition) := do
  if draft.id.isSome || draft.nest.isSome then none
  if isKeywordLike reverse then return none
  let name ← scope.meaning? lookup true false reverse
  if !name.isResolved || !([[], ["@set"], ["@index"]].contains draft.containers) then none
  return some {
    name, fixed, coercion
    opens := false
    reverses := true
    language := none
    direction := none
    containers := draft.containers
    indexedBy := none
    nest := none
    context := none }

def typedCoercion? (draft : Draft) (coercion : Option Coercion) : Option (Option Coercion) :=
  if !draft.containers.contains "@type" then some coercion
  else match coercion with
    | none => some (some .reference)
    | some .reference => some (some .reference)
    | some .vocabulary => some (some .vocabulary)
    | some _ => none

/-- The definition of a term by a draft. `accepts` judges contexts for the values of the term, and `fixed`
tells whether definitions of the context are fixed unless they say otherwise. The inner option is none
for a definition that is set aside. -/
def define? (scope : Scope) (lookup : Lookup) (accepts : Written → Bool) (fixed : Bool)
    (term : String) (draft : Draft) : Option (Option Definition) := do
  let coercion ← match draft.coercion with
    | none => pure none
    | some text => (scope.coercionOf? lookup text).map some
  let fixed := draft.fixed.getD fixed
  if let some reverse := draft.reverse then
    scope.reverseOf? lookup fixed coercion draft reverse
  else
    let given := draft.id.join.filter (· ≠ term)
    if given.any fun id => isKeywordLike id && !isKeyword id then return none
    let name ←
      if draft.id = some none then pure .nothing
      else match given with
        | some id => scope.givenMeaning? lookup term id
        | none => scope.ownMeaning? lookup term
    let coercion ← typedCoercion? draft coercion
    if !draft.arrangesWell then none
    if let some index := draft.indexedBy then
      let name ← scope.meaning? lookup true false index
      if !draft.containers.contains "@index" || !name.isResolved then none
    if !draft.context.all accepts then none
    if draft.nest.any fun nest => isKeyword nest && nest ≠ "@nest" then none
    let pathLike := term.toList.contains ':' || term.toList.contains '/'
    if draft.opens.isSome && pathLike then none
    if draft.opens = some true && name.isKeyword then none
    return some {
      name, fixed, coercion
      opens := draft.opens.getD (draft.simple && given.isSome && !pathLike && endsInDelimiter name)
      reverses := false
      language := if draft.coercion.isNone then draft.language else none
      direction := if draft.coercion.isNone then draft.direction else none
      containers := draft.containers
      indexedBy := draft.indexedBy
      nest := draft.nest
      context := draft.context }

/-- Gives a term the definition that a context has for it. A fixed definition may only be said again,
unless contexts override. -/
def redefine? (overriding : Bool) (scope : Scope) (entry : String × Option Definition) :
    Option Scope :=
  match entry.2, scope.definition? entry.1 with
  | none, _ => some { scope with terms := Keyed.erase entry.1 scope.terms }
  | some definition, some before =>
      if before.fixed && !overriding then
        if definition.agrees before then some scope else none
      else some { scope with terms := Keyed.insert entry.1 definition scope.terms }
  | some definition, none =>
      some { scope with terms := Keyed.insert entry.1 definition scope.terms }

def set? (scope : Scope) (context : List (String × Written)) : Option Scope := do
  let member := fun name => Written.member? name context
  if !isKnownVersion (member "@version") || !isTypeSetting (member "@type") then none
  if (member "@import").isSome then none
  let _ ← optional? Written.bool? (member "@propagate")
  let based := { scope with base := ← scope.baseOf? (member "@base") }
  return { based with
    vocabulary := ← based.vocabularyOf? (member "@vocab")
    language := ← settingOf? Written.string? scope.language (member "@language")
    direction := ← settingOf? direction? scope.direction (member "@direction") }

mutual

def lookupIn (scope : Scope) (fixed : Bool) (context : List (String × Written)) :
    Nat → List String → Lookup
  | 0, _ => fun _ => none
  | bound + 1, begun => fun term =>
      if begun.contains term then none
      else match Written.member? term context with
        | none => scope.lookup term
        | some value => do
            let draft ← Draft.ofWritten? value
            scope.define? (scope.lookupIn fixed context bound (term :: begun))
              (fun inner => (enterWithin? bound true true ⟨scope, none⟩ inner).isSome) fixed term draft

def declare? (bound : Nat) (overriding : Bool) (before : Scope) (context : List (String × Written)) :
    Option Scope :=
  match bound with
  | 0 => none
  | bound + 1 => do
      if !decide (context.map Prod.fst).Nodup then none
      let scope ← before.set? context
      let fixed := (← optional? Written.bool? (Written.member? "@protected" context)).getD false
      let entries := context.filter fun member => !settings.contains member.1
      let declared ← entries.mapM fun (term, value) => do
        if term = "" then none
        else if isKeywordLike term then
          let _ ← Draft.ofWritten? value
          return none
        else return some (term, ← scope.lookupIn fixed context bound [] term)
      (declared.filterMap id).foldlM (redefine? overriding) scope

/-- What is in force within one of the contexts that are entered together. Null takes back all earlier
ones, which must not have fixed a term, unless contexts override. -/
def enterOne? (bound : Nat) (overriding propagates : Bool) (situation : Situation) (context : Written) :
    Option Situation :=
  match bound with
  | 0 => none
  | bound + 1 =>
      match context with
      | .null =>
          if !overriding && situation.current.terms.any fun entry => entry.2.fixed then none
          else some ⟨start, if propagates then none else situation.previous⟩
      | .object members => do
          let scope ← situation.current.declare? bound overriding members
          return { situation with current := scope }
      | _ => none

def enterWithin? (bound : Nat) (overriding propagates : Bool) (situation : Situation)
    (context : Written) : Option Situation :=
  match bound with
  | 0 => none
  | bound + 1 => do
      let propagates ← match context with
        | .object members =>
            (optional? Written.bool? (Written.member? "@propagate" members)).map
              (·.getD propagates)
        | _ => pure propagates
      let situation :=
        if propagates || situation.previous.isSome then situation
        else { situation with previous := some situation.current }
      context.itemsOrSelf.foldlM (enterOne? bound overriding propagates) situation

end

end Scope

/-- A context leads through at most four steps for each of its values. -/
def Situation.enter? (overriding propagates : Bool) (situation : Situation) (context : Written) :
    Option Situation :=
  Scope.enterWithin? (4 * context.size + 4) overriding propagates situation context

end ShapeCompiler.Rdf.JsonLd
