import ShapeCompiler.Rdf.Turtle.Reader

/-! Reading N-Triples documents: one statement on a line, with absolute IRIs. Lines end at line feeds;
what stands behind a carriage return or a number sign is no part of the statement. -/

namespace ShapeCompiler.Rdf.NTriples

open Turtle (Node)

def skipSpace (text : List Char) : List Char :=
  text.dropWhile fun c => c = ' ' || c = '\t'

def readIri? : List Char → Option (String × List Char)
  | '<' :: rest => do
      let (iri, rest) ← Turtle.readReference? (rest.length + 1) rest
      let _ ← Turtle.readAbsolute? iri
      return (String.ofList iri, rest)
  | _ => none

def readBlank? : List Char → Option (String × List Char)
  | '_' :: ':' :: rest =>
      (Turtle.readLabel? rest).map fun (label, rest) => (String.ofList label, rest)
  | _ => none

def readLiteral? : List Char → Option (Literal × List Char)
  | '"' :: rest => do
      let (text, rest) ← Turtle.readShortText? '"' (rest.length + 1) rest
      let value := String.ofList text
      match skipSpace rest with
      | '@' :: rest =>
          let inTag := fun (c : Char) => c.isAlphanum || c = '-'
          let literal ← Turtle.taggedLiteral? text (rest.takeWhile inTag)
          return (literal, rest.dropWhile inTag)
      | '^' :: '^' :: rest =>
          (readIri? (skipSpace rest)).map fun (datatype, rest) =>
            (⟨value, some datatype, none⟩, rest)
      | rest => some (⟨value, some Vocabulary.xsdString, none⟩, rest)
  | _ => none

mutual

def readParts? (room : Nat) (text : List Char) : Option ((Node × String × Node) × List Char) := do
  let (subject, rest) ← readNode? room false text
  let (predicate, rest) ← readIri? (skipSpace rest)
  let (object, rest) ← readNode? room true (skipSpace rest)
  return ((subject, predicate, object), rest)
termination_by (room, 1)

def readNode? (room : Nat) (mayBeLiteral : Bool) (text : List Char) : Option (Node × List Char) :=
  match text with
  | '<' :: '<' :: rest =>
      match room with
      | 0 => none
      | room + 1 => do
          let (_, rest) ← readParts? room (skipSpace rest)
          match skipSpace rest with
          | '>' :: '>' :: rest => some (none, rest)
          | _ => none
  | '<' :: _ => (readIri? text).map fun (iri, rest) => (some (.iri iri), rest)
  | '_' :: _ => (readBlank? text).map fun (label, rest) => (some (.blank label), rest)
  | _ =>
      if mayBeLiteral then
        (readLiteral? text).map fun (literal, rest) => (some (.literal literal), rest)
      else none
termination_by (room, 0)

end

def isFinished (rest : List Char) : Bool :=
  (skipSpace rest).head?.all fun c => c = '#' || c = '\r'

/-- The statement on a line; the outer option is none for a malformed line, the inner one for a line
without a statement. -/
def readLine? (line : List Char) : Option (Option Statement) :=
  let text := skipSpace line
  if isFinished text then some none
  else do
    let ((subject, predicate, object), rest) ← readParts? Turtle.nestingLimit text
    match skipSpace rest with
    | '.' :: rest =>
        if isFinished rest then some (some ⟨subject, some (.iri predicate), object⟩) else none
    | _ => none

def statements? (text : String) : Option (List Statement) := do
  let lines ← (Text.pieces (· = '\n') text.toList).mapM readLine?
  return lines.filterMap id

def readGraph? (text : String) : Option Graph :=
  (statements? text).map Graph.ofStatements

end ShapeCompiler.Rdf.NTriples
