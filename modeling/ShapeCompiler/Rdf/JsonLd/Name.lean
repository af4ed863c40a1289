import ShapeCompiler.Rdf.Iri.Resolution
import ShapeCompiler.Rdf.Turtle.Names

/-! What the texts of a JSON-LD document may mean by themselves: keywords, IRIs and blank nodes. -/

namespace ShapeCompiler.Rdf.JsonLd

inductive Name where
  | keyword (text : String)
  | iri (value : String)
  | blank (label : String)
  /-- A text that is set aside. -/
  | nothing
  /-- A text that is neither an IRI nor a blank node. -/
  | unresolved (text : String)
deriving DecidableEq, Inhabited

def keywords : List String :=
  ["@base", "@container", "@context", "@direction", "@graph", "@id", "@import", "@included",
    "@index", "@json", "@language", "@list", "@nest", "@none", "@prefix", "@propagate",
    "@protected", "@reverse", "@set", "@type", "@value", "@version", "@vocab"]

def isKeyword (text : String) : Bool :=
  keywords.contains text

def isKeywordLike (text : String) : Bool :=
  match text.toList with
  | '@' :: letters => !letters.isEmpty && letters.all Char.isAlpha
  | _ => false

def reference? (text : String) : Option Iri.Parts :=
  Iri.reference? ['v'] text.toList

def absolute? (text : String) : Option Iri.Parts :=
  Iri.absolute? ['v'] text.toList

def isLabelStart (c : Char) : Bool :=
  Turtle.isNameStart c || c = ':'

def isLabel : List Char → Bool
  | c :: rest =>
      (isLabelStart c || c.isDigit) && rest.all fun c => Turtle.isNameChar c || c = ':'
  | [] => false

namespace Name

def ofText (text : String) : Name :=
  match text.toList with
  | '_' :: ':' :: label =>
      if isLabel label then .blank (String.ofList label) else .unresolved text
  | _ => if (absolute? text).isSome then .iri text else .unresolved text

def text : Name → String
  | keyword text => text
  | iri value => value
  | blank label => "_:" ++ label
  | nothing => ""
  | unresolved text => text

def isKeyword : Name → Bool
  | keyword _ => true
  | _ => false

def isResolved : Name → Bool
  | iri _ | blank _ => true
  | _ => false

def isReference : Name → Bool
  | iri _ | blank _ | unresolved _ => true
  | _ => false

end Name

/-- What stands before and after the first colon of an abbreviation. A colon at the start parts
nothing. -/
def colonParts? (text : String) : Option (String × String) :=
  match Text.splitAtColon? text with
  | some ("", _) => none
  | parts => parts

end ShapeCompiler.Rdf.JsonLd
