import ShapeCompiler.Rdf.Turtle.Names
import ShapeCompiler.Rdf.Turtle.Strings
import ShapeCompiler.Rdf.Vocabulary

/-! The tokens of Turtle documents. -/

namespace ShapeCompiler.Rdf.Turtle

inductive Token where
  /-- A reference between angle brackets, its escapes replaced. -/
  | reference (text : List Char)
  | prefixed (namespaceName : List Char) (localName : List Char)
  | blank (label : List Char)
  /-- A pair of brackets with nothing but space between them. -/
  | anonymous
  | text (value : List Char)
  /-- A string with a language tag behind it. -/
  | tagged (value tag : List Char)
  | number (lexical : List Char) (datatype : String)
  | truth (value : Bool)
  /-- The letter that abbreviates the type predicate. -/
  | typeWord
  /-- A word that starts a declaration; with an at sign before it, the declaration ends in a dot. -/
  | baseWord (atSign : Bool)
  | prefixWord (atSign : Bool)
  | dot
  | semicolon
  | comma
  | openBracket
  | closeBracket
  | openList
  | closeList
  | datatypeMark
  | openQuoted
  | closeQuoted
  | openRemark
  | closeRemark
deriving DecidableEq

def readPrefixed? (text : List Char) : Option (Token × List Char) :=
  match readNamespace? text with
  | some (namespaceName, ':' :: rest) =>
      (localRest? true (rest.length + 1) rest).map fun (localName, rest) =>
        (.prefixed namespaceName localName, rest)
  | _ => none

/-- A number. A dot belongs to it only if a digit or an exponent follows. -/
def readNumber? (text : List Char) : Option (Token × List Char) := do
  let (sign, rest) :=
    match text with
    | '+' :: rest => (['+'], rest)
    | '-' :: rest => (['-'], rest)
    | rest => ([], rest)
  let before := rest.takeWhile Char.isDigit
  let rest := rest.dropWhile Char.isDigit
  let (point, after, rest) :=
    match rest with
    | '.' :: c :: more =>
        if c.isDigit || c = 'e' || c = 'E' then
          (['.'], (c :: more).takeWhile Char.isDigit, (c :: more).dropWhile Char.isDigit)
        else ([], [], '.' :: c :: more)
    | rest => ([], [], rest)
  if before.isEmpty && after.isEmpty then none
  let digits := sign ++ before ++ point ++ after
  match rest with
  | mark :: more =>
      if mark = 'e' || mark = 'E' then
        let (sign, more) :=
          match more with
          | '+' :: more => (['+'], more)
          | '-' :: more => (['-'], more)
          | more => ([], more)
        let exponent := more.takeWhile Char.isDigit
        if exponent.isEmpty then none
        else some (.number (digits ++ mark :: sign ++ exponent) Vocabulary.xsdDouble,
          more.dropWhile Char.isDigit)
      else some (.number digits
        (if point.isEmpty then Vocabulary.xsdInteger else Vocabulary.xsdDecimal), rest)
  | [] => some (.number digits
      (if point.isEmpty then Vocabulary.xsdInteger else Vocabulary.xsdDecimal), [])

/-- Whether a word ends here, rather than going on or being the name of a namespace. -/
def isWordEnd (text : List Char) : Bool :=
  text.head?.all fun c => !mayBeNameChar c && c != ':'

def startsWithWord (word : String) (text : List Char) : Bool :=
  (text.take word.length).map Char.toLower = word.toList && isWordEnd (text.drop word.length)

def readWord? (text : List Char) : Option (Token × List Char) :=
  if text.take 4 = ['t', 'r', 'u', 'e'] && isWordEnd (text.drop 4) then
    some (.truth true, text.drop 4)
  else if text.take 5 = ['f', 'a', 'l', 's', 'e'] && isWordEnd (text.drop 5) then
    some (.truth false, text.drop 5)
  else if startsWithWord "base" text then some (.baseWord false, text.drop 4)
  else if startsWithWord "prefix" text then some (.prefixWord false, text.drop 6)
  else if text.take 1 = ['a'] && isWordEnd (text.drop 1) && (text.drop 1).head? != some '.' then
    some (.typeWord, text.drop 1)
  else none

def skipSpace (inComment : Bool) : List Char → List Char
  | [] => []
  | c :: rest =>
      if inComment then skipSpace (!isLineEnd c) rest
      else if c = '#' then skipSpace true rest
      else if isSpace c then skipSpace false rest
      else c :: rest

def readTag (value rest : List Char) : Token × List Char :=
  match skipSpace false rest with
  | '@' :: more =>
      let inTag := fun (c : Char) => c.isAlphanum || c = '-'
      (.tagged value (more.takeWhile inTag), more.dropWhile inTag)
  | _ => (.text value, rest)

def readMark? (text : List Char) : Option (Token × List Char) :=
  if text.take 6 = "prefix".toList then some (.prefixWord true, text.drop 6)
  else if text.take 4 = "base".toList then some (.baseWord true, text.drop 4)
  else none

def readToken? (text : List Char) : Option (Token × List Char) :=
  match text with
  | [] => none
  | '<' :: '<' :: rest => some (.openQuoted, rest)
  | '>' :: '>' :: rest => some (.closeQuoted, rest)
  | '\x7b' :: '|' :: rest => some (.openRemark, rest)
  | '|' :: '\x7d' :: rest => some (.closeRemark, rest)
  | '^' :: '^' :: rest => some (.datatypeMark, rest)
  | '_' :: ':' :: rest => (readLabel? rest).map fun (label, rest) => (.blank label, rest)
  | c :: rest =>
      if c = '<' then
        (readReference? (rest.length + 1) rest).map fun (reference, rest) =>
          (.reference reference, rest)
      else if c = '"' || c = '\'' then
        (readText? c rest).map fun (value, rest) => readTag value rest
      else if c = '[' then
        match rest.dropWhile isSpace with
        | ']' :: after => some (.anonymous, after)
        | _ => some (.openBracket, rest)
      else if c = ']' then some (.closeBracket, rest)
      else if c = '(' then some (.openList, rest)
      else if c = ')' then some (.closeList, rest)
      else if c = ';' then some (.semicolon, rest)
      else if c = ',' then some (.comma, rest)
      else if c = '@' then readMark? rest
      else if c = '.' && !rest.head?.any Char.isDigit then some (.dot, rest)
      else if c = '.' || c = '+' || c = '-' || c.isDigit then readNumber? (c :: rest)
      else (readWord? (c :: rest)).or (readPrefixed? (c :: rest))

/-- The tokens of a text, none if a part of it is no token. Every token takes up some of the text. -/
def tokensWithin? : Nat → List Char → Option (List Token)
  | 0, _ => none
  | bound + 1, text =>
      match skipSpace false text with
      | [] => some []
      | c :: rest => do
          let (token, rest) ← readToken? (c :: rest)
          let tokens ← tokensWithin? bound rest
          return token :: tokens

def tokens? (text : String) : Option (List Token) :=
  tokensWithin? (text.toList.length + 1) text.toList

end ShapeCompiler.Rdf.Turtle
