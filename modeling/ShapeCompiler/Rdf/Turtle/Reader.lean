import ShapeCompiler.Rdf.Graph
import ShapeCompiler.Rdf.Iri.Resolution
import ShapeCompiler.Rdf.LanguageTag
import ShapeCompiler.Rdf.Turtle.Token

/-! Reading Turtle documents. Nodes without a name are labelled in the order in which their brackets,
or the places of their items in a collection, are met. The statements of a bracket or a
collection come before the one that uses it. -/

namespace ShapeCompiler.Rdf.Turtle

structure Scope where
  base : Option Iri.Parts
  namespaces : List (List Char × List Char)

structure Progress where
  labels : Nat
  statements : List Statement

abbrev Node := Option Term

def digitsPadded (width n : Nat) : List Char :=
  let digits := Nat.toDigits 10 n
  List.replicate (width - digits.length) '0' ++ digits

def generatedLabel (n : Nat) : String :=
  String.ofList ("riog".toList ++ digitsPadded 8 n)

/-- A label given in a document is kept apart from those that are generated. -/
def ownLabel (label : List Char) : String :=
  let marks := label.drop 12
  if label.take 4 = "riog".toList && 12 ≤ label.length &&
      ((label.drop 4).take 8).all Char.isDigit && marks.all (· = 'd') then
    String.ofList (label ++ ['d'])
  else String.ofList label

def Progress.fresh (progress : Progress) : Term × Progress :=
  (.blank (generatedLabel (progress.labels + 1)), { progress with labels := progress.labels + 1 })

def Progress.emit (progress : Progress) (subject : Node) (predicate : String) (object : Node) :
    Progress :=
  { progress with statements := ⟨subject, some (.iri predicate), object⟩ :: progress.statements }

def futureLetters : List Char := ['v', 'V']

def readAbsolute? (text : List Char) : Option Iri.Parts :=
  Iri.absolute? futureLetters text

def Scope.resolve? (scope : Scope) (reference : List Char) : Option (List Char) :=
  match scope.base with
  | none => (readAbsolute? reference).map Iri.Parts.text
  | some base => do
      let parts ← Iri.reference? futureLetters reference
      let resolved ← Iri.resolve? base parts
      return resolved.text

def readIri? (scope : Scope) : List Token → Option (String × List Token)
  | .reference text :: rest =>
      (scope.resolve? text).map fun iri => (String.ofList iri, rest)
  | .prefixed namespaceName localName :: rest =>
      (scope.namespaces.lookup namespaceName).map fun iri =>
        (String.ofList (iri ++ localName), rest)
  | _ => none

def readVerb? (scope : Scope) : List Token → Option (String × List Token)
  | .typeWord :: rest => some (Vocabulary.rdfType, rest)
  | tokens => readIri? scope tokens

def taggedLiteral? (value tag : List Char) : Option Literal :=
  let language := String.ofList (tag.map Char.toLower)
  if LanguageTag.isValid language then
    some ⟨String.ofList value, some Vocabulary.rdfLangString, some language⟩
  else none

def readLiteral? (scope : Scope) (value : List Char) :
    List Token → Option (Literal × List Token)
  | .datatypeMark :: rest =>
      (readIri? scope rest).map fun (datatype, rest) =>
        (⟨String.ofList value, some datatype, none⟩, rest)
  | rest => some (⟨String.ofList value, some Vocabulary.xsdString, none⟩, rest)

def readTerm? (scope : Scope) : List Token → Option (Term × List Token)
  | .blank label :: rest => some (.blank (ownLabel label), rest)
  | .text value :: rest =>
      (readLiteral? scope value rest).map fun (literal, rest) => (.literal literal, rest)
  | .tagged value tag :: rest =>
      (taggedLiteral? value tag).map fun literal => (.literal literal, rest)
  | .number lexical datatype :: rest =>
      some (.literal ⟨String.ofList lexical, some datatype, none⟩, rest)
  | .truth value :: rest =>
      some (.literal ⟨if value then "true" else "false", some Vocabulary.xsdBoolean, none⟩, rest)
  | tokens => (readIri? scope tokens).map fun (iri, rest) => (.iri iri, rest)

def isResource : Term → Bool
  | .literal _ => false
  | _ => true

def readQuoted? (scope : Scope) : Nat → List Token → Progress → Option (List Token × Progress)
  | 0, _, _ => none
  | bound + 1, tokens, progress => do
      let (rest, progress) ← readPart? bound true tokens progress
      let (_, rest) ← readVerb? scope rest
      let (rest, progress) ← readPart? bound false rest progress
      match rest with
      | .closeQuoted :: rest => some (rest, progress)
      | _ => none
where
  readPart? (bound : Nat) (asSubject : Bool) (tokens : List Token) (progress : Progress) :
      Option (List Token × Progress) :=
    match tokens with
    | .openQuoted :: rest => readQuoted? scope bound rest progress
    | .anonymous :: rest => some (rest, progress.fresh.2)
    | tokens =>
        match readTerm? scope tokens with
        | some (term, rest) => if asSubject && !isResource term then none else some (rest, progress)
        | none => none

mutual

def readObject? (scope : Scope) :
    Nat → List Token → Progress → Option (Node × List Token × Progress)
  | 0, _, _ => none
  | _ + 1, .openList :: .closeList :: rest, progress =>
      some (some (.iri Vocabulary.rdfNil), rest, progress)
  | bound + 1, .openList :: rest, progress => do
      let (rest, after) ← readItems? scope bound none rest progress
      return (some progress.fresh.1, rest, after)
  | bound + 1, .openBracket :: rest, progress => do
      let (node, progress) := progress.fresh
      let (rest, progress) ← readBracket? scope bound (some node) rest progress
      return (some node, rest, progress)
  | _ + 1, .anonymous :: rest, progress =>
      some (some progress.fresh.1, rest, progress.fresh.2)
  | bound + 1, .openQuoted :: rest, progress => do
      let (rest, progress) ← readQuoted? scope bound rest progress
      return (none, rest, progress)
  | _ + 1, tokens, progress => do
      let (term, rest) ← readTerm? scope tokens
      return (some term, rest, progress)

def readItems? (scope : Scope) :
    Nat → Node → List Token → Progress → Option (List Token × Progress)
  | 0, _, _, _ => none
  | _ + 1, previous, .closeList :: rest, progress =>
      some (rest, progress.emit previous Vocabulary.rdfRest (some (.iri Vocabulary.rdfNil)))
  | bound + 1, previous, tokens, progress => do
      let (place, progress) := progress.fresh
      let progress := progress.emit previous Vocabulary.rdfRest (some place)
      let (item, rest, progress) ← readObject? scope bound tokens progress
      readItems? scope bound (some place) rest
        (progress.emit (some place) Vocabulary.rdfFirst item)

def readBracket? (scope : Scope) :
    Nat → Node → List Token → Progress → Option (List Token × Progress)
  | 0, _, _, _ => none
  | bound + 1, subject, tokens, progress => do
      let (rest, progress) ← readPredicates? scope bound subject tokens progress
      match rest with
      | .closeBracket :: rest => some (rest, progress)
      | rest => readBracket? scope bound subject rest progress

def readPredicates? (scope : Scope) :
    Nat → Node → List Token → Progress → Option (List Token × Progress)
  | 0, _, _, _ => none
  | bound + 1, subject, tokens, progress => do
      let (predicate, rest) ← readVerb? scope tokens
      let (rest, progress) ← readObjects? scope bound subject predicate rest progress
      match rest with
      | .semicolon :: rest =>
          match rest.dropWhile (· = .semicolon) with
          | [] => some ([], progress)
          | .dot :: rest => some (.dot :: rest, progress)
          | .closeBracket :: rest => some (.closeBracket :: rest, progress)
          | .closeRemark :: rest => some (.closeRemark :: rest, progress)
          | rest => readPredicates? scope bound subject rest progress
      | rest => some (rest, progress)

def readObjects? (scope : Scope) :
    Nat → Node → String → List Token → Progress → Option (List Token × Progress)
  | 0, _, _, _, _ => none
  | bound + 1, subject, predicate, tokens, progress => do
      let (object, rest, progress) ← readObject? scope bound tokens progress
      let progress := progress.emit subject predicate object
      let (rest, progress) ←
        match rest with
        | .openRemark :: rest =>
            match readPredicates? scope bound none rest progress with
            | some (.closeRemark :: rest, progress) => some (rest, progress)
            | _ => none
        | rest => some (rest, progress)
      match rest with
      | .comma :: rest => readObjects? scope bound subject predicate rest progress
      | rest => some (rest, progress)

end

/-- A statement up to its final dot. A bracket may stand alone as a statement. -/
def readTriples? (scope : Scope) (bound : Nat) (tokens : List Token) (progress : Progress) :
    Option (List Token × Progress) :=
  match tokens with
  | .openBracket :: _ => do
      let (subject, rest, progress) ← readObject? scope bound tokens progress
      match rest with
      | .dot :: rest => some (.dot :: rest, progress)
      | rest => readPredicates? scope bound subject rest progress
  | tokens => do
      let (subject, rest, progress) ← readObject? scope bound tokens progress
      if subject.all isResource then readPredicates? scope bound subject rest progress else none

def Scope.declare (scope : Scope) (namespaceName iri : List Char) : Scope :=
  { scope with namespaces := (namespaceName, iri) :: scope.namespaces }

def Scope.rebase? (scope : Scope) (reference : List Char) : Option Scope := do
  let iri ← scope.resolve? reference
  let base ← readAbsolute? iri
  return { scope with base := some base }

def closeDeclaration? (atSign : Bool) : List Token → Option (List Token)
  | .dot :: rest => if atSign then some rest else some (.dot :: rest)
  | rest => if atSign then none else some rest

def readDeclaration? (scope : Scope) (tokens : List Token) : Option (Scope × List Token) :=
  match tokens with
  | .prefixWord atSign :: .prefixed namespaceName [] :: .reference text :: rest => do
      let iri ← scope.resolve? text
      let rest ← closeDeclaration? atSign rest
      return (scope.declare namespaceName iri, rest)
  | .baseWord atSign :: .reference text :: rest => do
      let scope ← scope.rebase? text
      let rest ← closeDeclaration? atSign rest
      return (scope, rest)
  | _ => none

def isDeclaration : List Token → Bool
  | .prefixWord _ :: _ | .baseWord _ :: _ => true
  | _ => false

def Token.opens : Token → Bool
  | openBracket | openList | openQuoted => true
  | _ => false

def Token.closes : Token → Bool
  | closeBracket | closeList | closeQuoted => true
  | _ => false

/-- Whether brackets, collections and quoted triples nest at most `room` levels deep, `depth` of them
being open. -/
def isWithin (room depth : Nat) : List Token → Bool
  | [] => true
  | token :: tokens =>
      if token.opens then depth < room && isWithin room (depth + 1) tokens
      else isWithin room (if token.closes then depth - 1 else depth) tokens

def nestingLimit : Nat := 128

/-- The statements of a document; `limit` bounds their number, and `bound` the depth of each. -/
def readStatements? (bound : Nat) :
    Nat → Scope → List Token → Progress → Option Progress
  | _, _, [], progress => some progress
  | 0, _, _ :: _, _ => none
  | limit + 1, scope, tokens, progress =>
      if isDeclaration tokens then do
        let (scope, rest) ← readDeclaration? scope tokens
        readStatements? bound limit scope rest progress
      else do
        let (rest, progress) ← readTriples? scope bound tokens progress
        match rest with
        | .dot :: rest => readStatements? bound limit scope rest progress
        | _ => none

def statements? (text : String) : Option (List Statement) := do
  let tokens ← tokens? text
  if !isWithin nestingLimit 0 tokens then none
  let progress ←
    readStatements? (4 * tokens.length + 8) tokens.length ⟨none, []⟩ tokens ⟨0, []⟩
  return progress.statements.reverse

def readGraph? (text : String) : Option Graph :=
  (statements? text).map Graph.ofStatements

end ShapeCompiler.Rdf.Turtle
