import ShapeCompiler.Model.Basic
import ShapeCompiler.Text.Characters

/-! Names in generated code: identifiers in snake case and in pascal case, the type names of classes,
and the types that stand for the datatypes of XML Schema. The caller may name the document itself. -/

namespace ShapeCompiler.Render

structure Options where
  title : Option String
  id : Option String

namespace Options

def none : Options := ⟨Option.none, Option.none⟩

end Options

def keywords : List String :=
  ["as", "async", "await", "box", "break", "const", "continue", "crate", "dyn", "else", "enum",
    "extern", "false", "fn", "for", "if", "impl", "in", "let", "loop", "match", "mod", "move",
    "mut", "pub", "ref", "return", "self", "static", "struct", "super", "trait", "true", "type",
    "unsafe", "use", "where", "while", "yield"]

/-- A capital starts a new word after a small letter or a digit, so that runs of capitals stay
together. -/
def startsWord (previous : Option Char) : Bool :=
  previous.any fun c => Text.isLowercase c || c.isDigit

def snakeStep (written : List Char) (previous : Option Char) (c : Char) : List Char :=
  if Text.isUppercase c then
    (Text.lowercase c).reverse ++ (if startsWord previous then '_' :: written else written)
  else if Text.isAlphanumeric c then c :: written
  else match written with
    | [] => []
    | '_' :: rest => '_' :: rest
    | other => '_' :: other

def snakeFrom (written : List Char) (previous : Option Char) : List Char → List Char
  | [] => written
  | c :: rest => snakeFrom (snakeStep written previous c) (some c) rest

def guardStart (mark : Char) : List Char → List Char
  | [] => [mark]
  | c :: rest => if c.isDigit then mark :: c :: rest else c :: rest

/-- A name in snake case. Characters that are neither letters nor digits part words, and a keyword is
followed by an underscore. -/
def snakeCase (name : String) : String :=
  let written := snakeFrom [] none name.toList
  let trimmed := (written.dropWhile (· == '_')).reverse
  let result := String.ofList (guardStart '_' trimmed)
  if keywords.contains result then result ++ "_" else result

def pascalFrom (atStart : Bool) : List Char → List Char
  | [] => []
  | c :: rest =>
      if Text.isAlphanumeric c then
        (if atStart then Text.uppercase c else [c]) ++ pascalFrom false rest
      else pascalFrom true rest

/-- A name in pascal case: its words joined, each with a capital first letter. -/
def pascalCase (name : String) : String :=
  String.ofList (guardStart 'V' (pascalFrom true name.toList))

def typeName (modelClass : Model.Class) : String :=
  String.join (modelClass.nameParts.map pascalCase)

def primitiveType (datatype : String) : String :=
  if datatype = Rdf.Vocabulary.xsdInteger then "P::Integer"
  else if datatype = Rdf.Vocabulary.xsdNonNegativeInteger then "P::NonNegativeInteger"
  else if datatype = Rdf.Vocabulary.xsdPositiveInteger then "P::PositiveInteger"
  else if datatype = Rdf.Vocabulary.xsdBoolean then "P::Boolean"
  else if datatype = Rdf.Vocabulary.xsdDecimal then "P::Decimal"
  else if datatype = Rdf.Vocabulary.xsdDateTime || datatype = Rdf.Vocabulary.xsdDateTimeStamp then
    "P::DateTime"
  else "P::String"

/-- Texts have no fixed size and are handed out by reference. -/
def isUnsized (datatype : String) : Bool :=
  primitiveType datatype == "P::String"

def jsonType (datatype : String) : String × Option String :=
  if datatype = Rdf.Vocabulary.xsdInteger || datatype = Rdf.Vocabulary.xsdNonNegativeInteger ||
      datatype = Rdf.Vocabulary.xsdPositiveInteger then ("integer", none)
  else if datatype = Rdf.Vocabulary.xsdDecimal then ("number", none)
  else if datatype = Rdf.Vocabulary.xsdBoolean then ("boolean", none)
  else if datatype = Rdf.Vocabulary.xsdDateTime || datatype = Rdf.Vocabulary.xsdDateTimeStamp then
    ("string", some "date-time")
  else if datatype = Rdf.Vocabulary.xsdAnyUri then ("string", some "uri")
  else ("string", none)

end ShapeCompiler.Render
