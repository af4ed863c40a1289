import ShapeCompiler.Rdf.JsonLd.Context
import ShapeCompiler.Rdf.JsonLd.Part

/-! The items that a JSON-LD document describes. Every object is read within the contexts that are in
force for it: those of the term that it is a value of, its own, and those of its types. -/

namespace ShapeCompiler.Rdf.JsonLd

open Json (Written)

namespace Scope

def scalar (scope : Scope) (term : Option String) (value : Written) : List Item :=
  let definition := term.bind scope.definition?
  let language := (definition.bind Definition.language).getD scope.language
  match value, definition.bind Definition.coercion with
  | .string text, some .reference => [.reference (scope.nodeName text)]
  | .string text, some .vocabulary => [.reference (scope.typeName text)]
  | value, some (.datatype iri) => ofLiteral (literalOf? (some iri) none value)
  | value, _ => ofLiteral (literalOf? none language value)

def isNamed (scope : Scope) (word : String) (member : String × Written) : Bool :=
  scope.memberName member.1 = .keyword word

/-- Whether what was left is in force again within an object: it is unless the object is a value or no more
than a reference. -/
def leaves (scope : Scope) (members : List (String × Written)) : Bool :=
  !members.any (scope.isNamed "@value") &&
    !(members.length == 1 && members.all (scope.isNamed "@id"))

end Scope

namespace Situation

def leave (situation : Situation) : Situation :=
  match situation.previous with
  | some previous => ⟨previous, none⟩
  | none => situation

def forTerm? (situation : Situation) (term : Option String) (scope : Scope) : Option Situation :=
  match (term.bind scope.definition?).bind Definition.context with
  | some context => situation.enter? true true context
  | none => some situation

def within? (situation : Situation) (members : List (String × Written)) : Option Situation :=
  match members.filter fun member => member.1 = "@context" with
  | [] => some situation
  | [(_, context)] => situation.enter? false true context
  | _ => none

def texts (value : Written) : List String :=
  value.itemsOrSelf.filterMap Written.string?

/-- What is in force within an object of some types: the contexts of these terms are entered in the order of
their names, and left again within the next node. -/
def forTypes? (situation : Situation) (members : List (String × Written)) : Option Situation :=
  let named := members.filter (situation.current.isNamed "@type")
  let types := (Sorted.byKey Prod.fst named).flatMap fun member =>
    Sorted.byKey (fun text => text) (texts member.2)
  types.foldlM (fun entered type =>
    match (situation.current.definition? type).bind Definition.context with
    | some context => entered.enter? false false context
    | none => some entered) situation

def scalarItems? (situation : Situation) (term : Option String) (value : Written) :
    Option (List Item) := do
  if term.isNone then return []
  let inner ← situation.forTerm? term situation.current
  return inner.current.scalar term value

end Situation

/-- The links that a member gives: those of the node to the items, or of the items to the node. Only nodes
link to a node. -/
def linkParts? (predicate : Name) (reverses : Bool) (items : List Item) : Option (List Part) :=
  if !reverses then some [.link predicate items]
  else if items.all Item.isNode then some [.reversed predicate items]
  else none

def spokenItems? (language : Option String) (value : Written) : Option (List Item) := do
  let items ← value.itemsOrSelf.mapM fun item =>
    match item with
    | .null => some []
    | .string text => some (ofLiteral (literalOf? none language (.string text)))
    | _ => none
  return items.flatten

def languageItems? (scope : Scope) (members : List (String × Written)) : Option (List Item) := do
  let items ← members.mapM fun (language, value) =>
    let untagged := scope.memberName language = .keyword "@none"
    spokenItems? (if untagged then none else some language) value
  return items.flatten

def indexItem? (scope : Scope) (definition : Definition) (index : String) (item : Item) :
    Option Item :=
  let named := fun word => definition.containers.contains word
  let isNone := scope.memberName index = .keyword "@none"
  let item := if named "@graph" && !item.isGraph then .graph [item] else item
  match item with
  | .node name types links reversed content included place =>
      if isNone then some item
      else if named "@index" then
        match definition.indexedBy with
        | some key =>
            if key = "@index" then
              some (.node name types links reversed content included (place.or (some index)))
            else
              let link := (scope.memberName key, scope.scalar (some key) (.string index))
              some (.node name types (link :: links) reversed content included place)
        | none => some (.node name types links reversed content included (place.or (some index)))
      else if named "@id" then
        let name := name.or (some (scope.nodeName index))
        some (.node name types links reversed content included place)
      else
        some (.node name (scope.memberName index :: types) links reversed content included place)
  | item =>
      let keyed := definition.indexedBy.any (· ≠ "@index")
      if named "@index" && keyed && !isNone then none else some item

def wordParts? (scope types : Scope) (word : String) (value : Written) : Option (List Part) :=
  match word, value with
  | "@id", .string text =>
      let name := scope.nodeName text
      some [.id (if name = .nothing then none else some name)]
  | "@id", _ => none
  | "@type", .string text => some [.singleType (types.typeName text)]
  | "@type", .array items =>
      (items.mapM Written.string?).map fun texts => [.types (texts.map types.typeName)]
  | "@type", _ => none
  | "@value", value => some [.value value]
  | "@language", value => value.string?.map fun tag => [.language tag]
  | "@direction", value => (direction? value).map fun _ => [.direction]
  | "@index", value => value.string?.map fun text => [.index text]
  | _, _ => some [.empty]

mutual

/-- The items that a value describes, `term` being the member that it is the value of; without one, scalars
are nothing. `inMap` tells that it stands in a map of the term. None if the document is malformed. -/
def items? (situation : Situation) (term : Option String) (inMap : Bool) :
    Written → Option (List Item)
  | .null => some []
  | .array values => do
      let definition := term.bind situation.current.definition?
      itemsOfAll? situation term inMap (definition.any (·.containers.contains "@list")) values
  | .object members => do
      let before := situation.current
      let situation :=
        if !inMap && before.leaves members then situation.leave else situation
      let situation ← situation.forTerm? term before
      let situation ← situation.within? members
      let types := situation.current
      let situation ← situation.forTypes? members
      ofParts? (← parts? situation types term members)
  | .bool value => situation.scalarItems? term (.bool value)
  | .number value => situation.scalarItems? term (.number value)
  | .string value => situation.scalarItems? term (.string value)
termination_by value => (sizeOf value, 0)

def itemsOfAll? (situation : Situation) (term : Option String) (inMap nested : Bool) :
    List Written → Option (List Item)
  | [] => some []
  | value :: values => do
      let items ← items? situation term inMap value
      let items := if nested && !value.isScalar && value matches .array _ then [.list items] else items
      let rest ← itemsOfAll? situation term inMap nested values
      return items ++ rest
termination_by values => (sizeOf values, 0)

/-- The parts that the members of an object give. Members say nothing if their names mean nothing, or mean no
IRI and have no colon. -/
def parts? (situation : Situation) (types : Scope) (term : Option String) :
    List (String × Written) → Option (List Part)
  | [] => some []
  | (name, value) :: members => do
      let rest ← parts? situation types term members
      let scope := situation.current
      if name = "@context" then return rest
      let own ← match scope.memberName name with
        | .nothing => pure [.empty]
        | .keyword "@graph" => (items? situation none false value).map fun items => [.content items]
        | .keyword "@included" => do
            let items ← items? situation none false value
            if items.all Item.isNode then some [.included items] else none
        | .keyword "@list" =>
            if term.isNone then pure [.empty]
            else (items? situation term false value).map fun items => [.list items]
        | .keyword "@set" => (items? situation term false value).map fun items => [.set items]
        | .keyword "@reverse" =>
            match value with
            | .object members => (reversedParts? situation members).map (.empty :: ·)
            | _ => none
        | .keyword "@nest" => do
            let inner ← situation.forTerm? (some name) scope
            (nestedParts? inner inner.current term value).map (.empty :: ·)
        | .keyword word => wordParts? scope types word value
        | .unresolved text =>
            if text.toList.contains ':' then memberParts? situation (.unresolved text) name value
            else pure [.empty]
        | predicate => memberParts? situation predicate name value
      return own ++ rest
termination_by members => (sizeOf members, 0)

def memberParts? (situation : Situation) (predicate : Name) (name : String) (value : Written) :
    Option (List Part) := do
  let definition := situation.current.definition? name
  let items ← memberItems? situation name definition value
  linkParts? predicate (definition.any Definition.reverses) items
termination_by (sizeOf value, 2)

def memberItems? (situation : Situation) (name : String) (definition : Option Definition)
    (value : Written) : Option (List Item) :=
  let has := fun word => definition.any (·.containers.contains word)
  if definition.any fun definition => definition.coercion = some .json then
    some [.value (jsonLiteral value)]
  else match value with
    | .object members =>
        if has "@language" then languageItems? situation.current members
        else if has "@index" || has "@type" || has "@id" then
          indexedItems? situation name (definition.getD default) members
        else do
          let items ← items? situation (some name) false (.object members)
          let wraps :=
            members.any (situation.current.isNamed "@set") ||
              (!items.isEmpty && !items.all Item.isList)
          let items := if has "@list" && wraps then [.list items] else items
          return if has "@graph" then items.map fun item => .graph [item] else items
    | value => do
        let items ← items? situation (some name) false value
        let items := if has "@list" && !(value matches .null) then [.list items] else items
        return if has "@graph" && !has "@id" && !has "@index" then
          items.map fun item => .graph [item] else items
termination_by (sizeOf value, 1)

def indexedItems? (situation : Situation) (name : String) (definition : Definition) :
    List (String × Written) → Option (List Item)
  | [] => some []
  | (index, value) :: members => do
      let has := fun word => definition.containers.contains word
      let outer := if has "@id" || has "@type" then situation.leave else situation
      let inner ←
        if has "@type" then outer.forTerm? (some index) outer.current else pure outer
      let items ← items? inner (some name) true value
      let items ← items.mapM (indexItem? situation.current definition index)
      let rest ← indexedItems? situation name definition members
      return items ++ rest
termination_by members => (sizeOf members, 0)

def reversedParts? (situation : Situation) : List (String × Written) → Option (List Part)
  | [] => some []
  | (name, value) :: members => do
      let rest ← reversedParts? situation members
      let own ← match situation.current.memberName name with
        | .keyword _ => none
        | .nothing => pure []
        | predicate =>
            if predicate matches .unresolved _ && !name.toList.contains ':' then pure []
            else do
              let definition := situation.current.definition? name
              let items ← memberItems? situation name definition value
              linkParts? predicate (!definition.any Definition.reverses) items
      return own ++ rest
termination_by members => (sizeOf members, 0)

def nestedParts? (situation : Situation) (types : Scope) (term : Option String) :
    Written → Option (List Part)
  | .object members =>
      if members.any (situation.current.isNamed "@value") then none
      else parts? situation types term members
  | .array values => nestedPartsOfAll? situation types term values
  | _ => none
termination_by value => (sizeOf value, 0)

def nestedPartsOfAll? (situation : Situation) (types : Scope) (term : Option String) :
    List Written → Option (List Part)
  | [] => some []
  | value :: values => do
      let parts ← nestedParts? situation types term value
      let rest ← nestedPartsOfAll? situation types term values
      return parts ++ rest
termination_by values => (sizeOf values, 0)

end

def documentItems? (document : Written) : Option (List Item) :=
  (items? ⟨.start, none⟩ none false document).map Item.distinct

end ShapeCompiler.Rdf.JsonLd
