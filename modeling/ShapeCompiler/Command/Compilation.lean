import ShapeCompiler.Command.Arguments
import ShapeCompiler.Files.Tree
import ShapeCompiler.Json.Reader
import ShapeCompiler.Model.Build
import ShapeCompiler.Rdf.JsonLd.Reader
import ShapeCompiler.Rdf.NTriples

/-! From the texts of a schema and of its contexts to the model, or to the failure that is reported. What
the texts say is left to readers of documents. -/

namespace ShapeCompiler.Command

/-- What could not be done, and the causes, each of the one before it. -/
structure Failure where
  message : String
  causes : List String
deriving DecidableEq

def linesOf (text : String) : List String :=
  (Text.pieces (· = '\n') text.toList).map String.ofList

def indented (first further text : String) : List String :=
  match linesOf text with
  | [] => [first]
  | line :: lines => (first ++ line) :: lines.map (further ++ ·)

namespace Failure

def numbered (number : Nat) : List String → List String
  | [] => []
  | cause :: causes =>
      indented ("    " ++ toString number ++ ": ") "       " cause ++ numbered (number + 1) causes

def report (failure : Failure) : List String :=
  linesOf ("Error: " ++ failure.message) ++
    match failure.causes with
    | [] => []
    | [cause] => ["", "Caused by:"] ++ indented "    " "    " cause
    | causes => ["", "Caused by:"] ++ numbered 0 causes

end Failure

/-- What reads documents and arguments. A document that is malformed is read as none, and so are arguments
that are misused. -/
structure Readers where
  turtle : String → Option (List Rdf.Statement)
  nTriples : String → Option (List Rdf.Statement)
  jsonLd : String → Option (List Rdf.Statement)
  json : String → Option Json
  arguments : List String → Option Action

def ownReaders : Readers where
  turtle := Rdf.Turtle.statements?
  nTriples := Rdf.NTriples.statements?
  jsonLd := Rdf.JsonLd.statements?
  json := Json.read?
  arguments := read?

abbrev Reading := String → Except Files.Fault String

abbrev StandardInput := Except Files.Fault String

inductive Format where
  | turtle
  | nTriples
  | jsonLd
deriving DecidableEq

def Format.ofPath (path : String) : Format :=
  match Files.extension? path with
  | some "nt" => nTriples
  | some "json" | some "jsonld" => jsonLd
  | _ => turtle

def Readers.statements? (readers : Readers) : Format → String → Option (List Rdf.Statement)
  | .turtle => readers.turtle
  | .nTriples => readers.nTriples
  | .jsonLd => readers.jsonLd

def readFile (reading : Reading) (attempt path : String) : Except Failure String :=
  (reading path).mapError fun fault => ⟨attempt ++ path, [fault.message]⟩

/-- The text of a schema. The path of the standard stream names no file here. -/
def readSchema (reading : Reading) (stdin : StandardInput) (path : String) :
    Except Failure String :=
  if path = standardStream then
    stdin.mapError fun fault => ⟨"Failed to read shape graph from stdin", [fault.message]⟩
  else readFile reading "Failed to read " path

def loadGraph (readers : Readers) (reading : Reading) (stdin : StandardInput) (path : String) :
    Except Failure Rdf.Graph := do
  let text ← readSchema reading stdin path
  match readers.statements? (Format.ofPath path) text with
  | none => .error ⟨"Failed to parse " ++ path, []⟩
  | some statements => .ok (.ofStatements statements)

def loadContext (readers : Readers) (reading : Reading) (path : String) : Except Failure Json := do
  let text ← readFile reading "Failed to read context " path
  match readers.json text with
  | none => .error ⟨"Failed to parse context " ++ path, []⟩
  | some document => .ok document

def makeResolver (documents : List Json) : Except Failure Context.Resolver :=
  (Context.Resolver.ofJson documents).mapError fun fault =>
    ⟨"Invalid JSON-LD context", [fault.message]⟩

def makeModel (graph : Rdf.Graph) (resolver : Context.Resolver) : Except Failure Model :=
  (Model.build graph resolver).mapError fun fault =>
    ⟨"Failed to build model", fault.message :: fault.causes⟩

def compile (readers : Readers) (reading : Reading) (stdin : StandardInput)
    (request : GenerateRequest) : Except Failure Model := do
  let graph ← loadGraph readers reading stdin request.input
  let documents ← request.contexts.mapM (loadContext readers reading)
  let resolver ← makeResolver documents
  makeModel graph resolver

end ShapeCompiler.Command
