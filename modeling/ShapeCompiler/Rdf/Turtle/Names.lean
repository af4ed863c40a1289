import ShapeCompiler.Rdf.Iri.WellFormed

/-! The names in Turtle documents: labels of blank nodes, names of namespaces, and local names. -/

namespace ShapeCompiler.Rdf.Turtle

def isNameBase (c : Char) : Bool :=
  c.isAlpha ||
    [(0xc0, 0xd6), (0xd8, 0xf6), (0xf8, 0x2ff), (0x370, 0x37d), (0x37f, 0x1fff), (0x200c, 0x200d),
      (0x2070, 0x218f), (0x2c00, 0x2fef), (0x3001, 0xd7ff), (0xf900, 0xfdcf), (0xfdf0, 0xfffd),
      (0x10000, 0xeffff)].any fun range => Iri.isBetween range.1 range.2 c

def isNameStart (c : Char) : Bool :=
  isNameBase c || c = '_'

def isNameChar (c : Char) : Bool :=
  isNameStart c || c = '-' || c.isDigit || c = '\u00b7' || Iri.isBetween 0x300 0x36f c ||
    Iri.isBetween 0x203f 0x2040 c

/-- Whether a character may belong to a name, as far as one can tell without looking at characters
beyond ASCII. -/
def mayBeNameChar (c : Char) : Bool :=
  127 < c.toNat || c.isAlphanum || c = '_' || c = '-'

/-- The rest of the label of a blank node, or of the name of a namespace. A dot belongs to it only
if a character of a name comes next. -/
def nameRest : List Char → List Char × List Char
  | [] => ([], [])
  | c :: rest =>
      if isNameChar c || (c = '.' && rest.head?.any mayBeNameChar) then
        let read := nameRest rest
        (c :: read.1, read.2)
      else ([], c :: rest)

def readLabel? : List Char → Option (List Char × List Char)
  | c :: rest =>
      if isNameStart c || c.isDigit then
        let read := nameRest rest
        some (c :: read.1, read.2)
      else none
  | [] => none

def isLocalEscape (c : Char) : Bool :=
  ['_', '~', '.', '-', '!', '$', '&', '\'', '(', ')', '*', '+', ',', ';', '=', '/', '?', '#', '@',
    '%'].contains c

def mayContinueLocal (c : Char) : Bool :=
  mayBeNameChar c || c = ':' || c = '%' || c = '\\'

def continuesLocal (text : List Char) : Bool :=
  (text.dropWhile (· = '.')).head?.any mayContinueLocal

def localRest? (first : Bool) : Nat → List Char → Option (List Char × List Char)
  | 0, _ => none
  | _ + 1, [] => some ([], [])
  | bound + 1, c :: rest =>
      if c = '\\' then
        match rest with
        | escaped :: rest =>
            if isLocalEscape escaped then do
              let (name, rest) ← localRest? false bound rest
              return (escaped :: name, rest)
            else none
        | [] => none
      else if c = '%' then
        match rest with
        | a :: b :: rest =>
            if Iri.isHex a && Iri.isHex b then do
              let (name, rest) ← localRest? false bound rest
              return (c :: a :: b :: name, rest)
            else none
        | _ => none
      else if c = ':' || c.isDigit || isNameStart c ||
          (!first && (isNameChar c || (c = '.' && continuesLocal rest))) then do
        let (name, rest) ← localRest? false bound rest
        return (c :: name, rest)
      else some ([], c :: rest)

def readNamespace? : List Char → Option (List Char × List Char)
  | [] => none
  | c :: rest =>
      if c = ':' then some ([], c :: rest)
      else if isNameBase c then
        let read := nameRest rest
        some (c :: read.1, read.2)
      else none

end ShapeCompiler.Rdf.Turtle
