/-! Texts: their bytes, and where they are cut. Texts are cut at their ends, at marks, at white space and at
the ends of lines, and where they cease to agree. -/

namespace ShapeCompiler.Text

def bytes (text : String) : List UInt8 :=
  text.toUTF8.data.toList

def ofBytes (encoded : List UInt8) : String :=
  let starts := (List.range (encoded.length + 1)).reverse.map encoded.take
  (starts.findSome? fun start => String.fromUTF8? ⟨start.toArray⟩).getD ""

def stripPrefix? (start text : String) : Option String :=
  (start.toList.isPrefixOf? text.toList).map String.ofList

def startsWith (start text : String) : Bool :=
  start.toList.isPrefixOf text.toList

def endsInSlash (text : String) : Bool :=
  text.toList.getLast? == some '/'

def countColons (text : String) : Nat :=
  text.toList.count ':'

def splitAtColon? (text : String) : Option (String × String) :=
  match text.toList.span (· != ':') with
  | (_, []) => none
  | (before, _ :: after) => some (String.ofList before, String.ofList after)

/-- The pieces of a text between the characters that `isMark` accepts, empty ones kept; `piece` holds,
last first, the characters of the one being read. -/
def piecesFrom (isMark : Char → Bool) (piece : List Char) : List Char → List (List Char)
  | [] => [piece.reverse]
  | c :: rest =>
      if isMark c then piece.reverse :: piecesFrom isMark [] rest
      else piecesFrom isMark (c :: piece) rest

def pieces (isMark : Char → Bool) (text : List Char) : List (List Char) :=
  piecesFrom isMark [] text

def filledPieces (isMark : Char → Bool) (text : String) : List String :=
  ((pieces isMark text.toList).filter (· ≠ [])).map String.ofList

def colonPieces (text : String) : List String :=
  filledPieces (· = ':') text

def isPathMark (c : Char) : Bool :=
  c = '/' || c = '#'

/-- The part of an IRI after its last slash or number sign. -/
def localName (iri : String) : String :=
  String.ofList (iri.toList.reverse.takeWhile fun c => !isPathMark c).reverse

def placedFrom (offset : Nat) : List Char → List (Nat × Char)
  | [] => []
  | c :: rest => (offset, c) :: placedFrom (offset + c.utf8Size) rest

/-- The number of bytes of `first` before the first character that `item` does not share. -/
def sharedBytes (first item : List Char) : Nat :=
  let shared := ((placedFrom 0 first).zip item).takeWhile fun pair => pair.1.2 = pair.2
  match shared.getLast? with
  | some ((offset, c), _) => offset + c.utf8Size
  | none => 0

def commonLength (first : String) (items : List String) : Nat :=
  items.foldl (fun length item => min (sharedBytes first.toList item.toList) length)
    first.utf8ByteSize

/-- The first `length` bytes of a text, if they end neither inside a character nor behind the text. -/
def firstBytes? : List Char → Nat → Option (List Char)
  | _, 0 => some []
  | [], _ + 1 => none
  | c :: rest, length + 1 =>
      if c.utf8Size ≤ length + 1 then (firstBytes? rest (length + 1 - c.utf8Size)).map (c :: ·)
      else none

def commonPrefix? : List String → Option String
  | [] => some ""
  | first :: items => (firstBytes? first.toList (commonLength first items)).map String.ofList

def commonPrefix (items : List String) : String :=
  (commonPrefix? items).getD ""

/-- White space in the sense of the property White_Space. -/
def isBlank (c : Char) : Bool :=
  c = ' ' || ('\t' ≤ c && c ≤ '\r') || c = '\u0085' || c = '\u00a0' || c = '\u1680' ||
    ('\u2000' ≤ c && c ≤ '\u200a') || c = '\u2028' || c = '\u2029' || c = '\u202f' ||
    c = '\u205f' || c = '\u3000'

def dropBlankEnd (text : List Char) : List Char :=
  (text.reverse.dropWhile isBlank).reverse

def trimEnd (text : String) : String :=
  String.ofList (dropBlankEnd text.toList)

def trim (text : String) : String :=
  String.ofList (dropBlankEnd (text.toList.dropWhile isBlank))

def words (text : String) : List String :=
  filledPieces isBlank text

def oneLine (text : String) : String :=
  " ".intercalate (words text)

def endedLine : List Char → List Char
  | '\r' :: line => line.reverse
  | line => line.reverse

def linesFrom (line : List Char) : List Char → List (List Char)
  | [] => if line.isEmpty then [] else [line.reverse]
  | '\n' :: rest => endedLine line :: linesFrom [] rest
  | c :: rest => linesFrom (c :: line) rest

/-- The lines of a text, without their line feeds and the carriage returns before those. What follows the
last line feed is a line of its own unless it is empty. -/
def lines (text : String) : List String :=
  (linesFrom [] text.toList).map String.ofList

end ShapeCompiler.Text
