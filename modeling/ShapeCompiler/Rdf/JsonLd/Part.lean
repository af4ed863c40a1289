import ShapeCompiler.Rdf.JsonLd.Item

/-! What the members of an object say about it, and what an object is of which some parts are known: a
value, a list, a set or a node. -/

namespace ShapeCompiler.Rdf.JsonLd

open Json (Written)

inductive Part where
  /-- The name is missing where the text is set aside. -/
  | id (name : Option Name)
  | singleType (name : Name)
  | types (names : List Name)
  | content (items : List Item)
  | included (items : List Item)
  | value (value : Written)
  | language (tag : String)
  | direction
  | index (text : String)
  | list (items : List Item)
  | set (items : List Item)
  | link (predicate : Name) (items : List Item)
  | reversed (predicate : Name) (items : List Item)
  /-- A member that says nothing, but which may not stand everywhere. -/
  | empty

namespace Part

def forbids : Part → Part → Bool
  | id (some _), id _ => true
  | content _, content _ => true
  | _, _ => false

def id? : Part → Option Name
  | id name => name
  | _ => none

def typeNames : Part → List Name
  | singleType name => [name]
  | types names => names
  | _ => []

def content? : Part → Option (List Item)
  | content items => some items
  | _ => none

def includedItems : Part → List Item
  | included items => items
  | _ => []

def value? : Part → Option Written
  | value written => some written
  | _ => none

def language? : Part → Option String
  | language tag => some tag
  | _ => none

def index? : Part → Option String
  | index text => some text
  | _ => none

def list? : Part → Option (List Item)
  | list items => some items
  | _ => none

def set? : Part → Option (List Item)
  | set items => some items
  | _ => none

def link? : Part → Option (Name × List Item)
  | link predicate items => some (predicate, items)
  | _ => none

def reversed? : Part → Option (Name × List Item)
  | reversed predicate items => some (predicate, items)
  | _ => none

def isType : Part → Bool
  | singleType _ | types _ => true
  | _ => false

def isOfValue : Part → Bool
  | value _ | language _ | direction | index _ | singleType _ | types _ => true
  | _ => false

def isOfList : Part → Bool
  | list _ | index _ => true
  | _ => false

def isOfSet : Part → Bool
  | set _ | index _ => true
  | _ => false

def isOfValueAlone : Part → Bool
  | language _ | direction => true
  | _ => false

def isEmpty : Part → Bool
  | empty => true
  | _ => false

end Part

def last? {α β : Type} (read? : α → Option β) (parts : List α) : Option β :=
  parts.reverse.findSome? read?

/-- A value with its type or its language; it has not both, its type is an IRI, and only strings have a
language. Null is no value. -/
def valueOf? (value : Written) (parts : List Part) : Option (List Item) := do
  if !parts.all Part.isOfValue then none
  let types := parts.filter Part.isType
  let language := (last? Part.language? parts).filter (· ≠ "@none")
  let spoken := language.isSome || parts.any fun part => part matches .direction
  let datatype ← match types.head? with
    | none => pure none
    | some (.singleType name) => pure (some name)
    | some _ => none
  match datatype with
  | some (.keyword "@json") => if spoken then none else return [.value (jsonLiteral value)]
  | some (.iri datatype) =>
      if !value.isScalar then none
      else match value with
        | .null => return []
        | value => if spoken then none else return ofLiteral (literalOf? (some datatype) none value)
  | some _ => none
  | none =>
      match value with
      | .null => return []
      | .string text => return ofLiteral (literalOf? none language (.string text))
      | value => if spoken || !value.isScalar then none else return ofLiteral (literalOf? none none value)

def collide : List Part → Bool
  | [] => false
  | part :: parts => parts.any part.forbids || collide parts

def nodeOf? (parts : List Part) : Option (List Item) :=
  let types := parts.flatMap Part.typeNames
  if collide parts || !types.all Name.isReference then none
  else if parts.any Part.isOfValueAlone &&
      parts.all fun part => part.isOfValueAlone || part.isEmpty then some []
  else
    some [.node (parts.findSome? Part.id?) types (parts.filterMap Part.link?)
      (parts.filterMap Part.reversed?) ((parts.findSome? Part.content?).map Item.distinct)
      (Item.distinct (parts.flatMap Part.includedItems)) (parts.findSome? Part.index?)]

/-- What an object with some parts is. Where a list, a set or a value stands, nothing may stand beside it
that belongs to nodes. -/
def ofParts? (parts : List Part) : Option (List Item) :=
  match last? Part.list? parts, last? Part.set? parts, last? Part.value? parts with
  | some items, _, _ => if parts.all Part.isOfList then some [.list items] else none
  | none, some items, _ => if parts.all Part.isOfSet then some items else none
  | none, none, some value => valueOf? value parts
  | none, none, none => nodeOf? parts

end ShapeCompiler.Rdf.JsonLd
