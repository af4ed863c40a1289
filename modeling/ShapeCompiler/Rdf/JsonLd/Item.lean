import ShapeCompiler.Json.Canonical
import ShapeCompiler.Rdf.JsonLd.Name
import ShapeCompiler.Rdf.Term
import ShapeCompiler.Rdf.Vocabulary
import ShapeCompiler.Sorted

/-! What a JSON-LD document describes: nodes with their types and their links, literals, and lists, all
names replaced by their meanings. -/

namespace ShapeCompiler.Rdf.JsonLd

open Json (Numeral Written)

/-- A node links to items, and is linked to by others. It may be a graph of items, have an index, and bring
further nodes along. -/
inductive Item where
  | value (literal : Literal)
  | list (items : List Item)
  | node (name : Option Name) (types : List Name) (links : List (Name × List Item))
      (reversed : List (Name × List Item)) (content : Option (List Item)) (included : List Item)
      (index : Option String)

namespace Item

def reference (name : Name) : Item :=
  node (if name.isReference || name.isKeyword then some name else none) [] [] [] none [] none

def graph (items : List Item) : Item :=
  node none [] [] [] (some items) [] none

def isGraph : Item → Bool
  | node _ [] [] [] (some _) [] _ => true
  | _ => false

def isNode : Item → Bool
  | node .. => true
  | _ => false

def isList : Item → Bool
  | list _ => true
  | _ => false

def textOfName : Name → String
  | .keyword text => "k" ++ text
  | .iri address => "i" ++ address
  | .blank label => "b" ++ label
  | .nothing => "n"
  | .unresolved text => "u" ++ text

def bracketed (texts : List String) : String :=
  "[" ++ ",".intercalate texts ++ "]"

def unordered (texts : List String) : String :=
  bracketed (Sorted.byKey (fun text => text) texts)

def quotedOption : Option String → String
  | some text => Text.quote text
  | none => "-"

mutual

/-- A text that two items share if they say the same. The order of links, and of the members of a graph,
says nothing. -/
def outline : Item → String
  | value literal =>
      bracketed ["v", Text.quote literal.value, quotedOption literal.datatype,
        quotedOption literal.language]
  | list items => bracketed ("l" :: outlines items)
  | node name types links reversed content included index =>
      bracketed ["n", quotedOption (name.map textOfName),
        bracketed (types.map fun name => Text.quote (textOfName name)),
        unordered (linkOutlines links), unordered (linkOutlines reversed), contentOutline content,
        unordered (outlines included), quotedOption index]

def outlines : List Item → List String
  | [] => []
  | item :: items => outline item :: outlines items

def linkOutlines : List (Name × List Item) → List String
  | [] => []
  | (name, items) :: links =>
      ((outlines items).map fun text => bracketed [Text.quote (textOfName name), text]) ++
        linkOutlines links

def contentOutline : Option (List Item) → String
  | none => "-"
  | some items => unordered (outlines items)

end

def distinctFrom (seen : List String) : List Item → List Item
  | [] => []
  | item :: items =>
      if seen.contains item.outline then distinctFrom seen items
      else item :: distinctFrom (item.outline :: seen) items

def distinct (items : List Item) : List Item :=
  distinctFrom [] items

end Item

def booleanText (value : Bool) : String :=
  if value then "true" else "false"

def doubleText (numeral : Numeral) : String :=
  String.ofList (match numeral.nearest? with
    | some value => (if value.isZero then Binary64.zero else value).canonicalText
    | none => (if numeral.negative then ['-'] else []) ++ ['i', 'n', 'f'])

/-- The lexical form of a number and the datatype that it has by itself. A number is written as a double
if it is not whole, if it is too large, or if the datatype double is asked for. -/
def numberText (datatype : Option String) (numeral : Numeral) : String × String :=
  match numeral.whole? with
  | some value =>
      if datatype = some Vocabulary.xsdDouble then (doubleText numeral, Vocabulary.xsdDouble)
      else (toString value, Vocabulary.xsdInteger)
  | none => (doubleText numeral, Vocabulary.xsdDouble)

def literalOf? (datatype language : Option String) : Written → Option Literal
  | .string text =>
      match language with
      | some tag => some ⟨text, some Vocabulary.rdfLangString, some tag⟩
      | none => some ⟨text, some (datatype.getD Vocabulary.xsdString), none⟩
  | .bool value => some ⟨booleanText value, some (datatype.getD Vocabulary.xsdBoolean), none⟩
  | .number value =>
      let (text, own) := numberText datatype value
      some ⟨text, some (datatype.getD own), none⟩
  | _ => none

def jsonLiteral (value : Written) : Literal :=
  ⟨value.canonicalText, some Vocabulary.rdfJson, none⟩

def ofLiteral (literal : Option Literal) : List Item :=
  (literal.map Item.value).toList

end ShapeCompiler.Rdf.JsonLd
