import ShapeCompiler.Json.Reader
import ShapeCompiler.Rdf.Graph
import ShapeCompiler.Rdf.JsonLd.Expansion
import ShapeCompiler.Rdf.LanguageTag

/-! Reading JSON-LD documents. All graphs of a document are read as one, but for those whose name means
nothing. -/

namespace ShapeCompiler.Rdf.JsonLd

/-- How many labels have been given out, and the statements read so far, last first. Within a graph whose
name means nothing none is kept. -/
structure Progress where
  labels : Nat
  statements : List Statement
  keeps : Bool

/-- The term of a name. Labels of the document are set apart from those given to nodes without a
name. -/
def Name.term? : Name → Option Term
  | iri value => some (.iri value)
  | blank label => some (.blank ("n" ++ label))
  | keyword _ | nothing | unresolved _ => none

def literalTerm? (literal : Literal) : Option Term :=
  let isWell := fun (tag : String) =>
    LanguageTag.isValid (String.ofList (tag.toList.map Char.toLower))
  if literal.language.all isWell then some (.literal literal) else none

namespace Progress

def fresh (progress : Progress) : Term × Progress :=
  (.blank ("b" ++ toString progress.labels), { progress with labels := progress.labels + 1 })

def emit (progress : Progress) (subject : Option Term) (predicate : Name) (object : Option Term) :
    Progress :=
  if progress.keeps then
    { progress with statements := ⟨subject, predicate.term?, object⟩ :: progress.statements }
  else progress

def emitTypes (progress : Progress) (subject : Option Term) (types : List Name) : Progress :=
  types.foldl (fun progress name => progress.emit subject (.iri Vocabulary.rdfType) name.term?)
    progress

end Progress

mutual

def readItem (progress : Progress) : Item → Option Term × Progress
  | .value literal => (literalTerm? literal, progress)
  | .list [] => (some (.iri Vocabulary.rdfNil), progress)
  | .list (item :: items) =>
      let (head, progress) := progress.fresh
      (some head, readCells progress head none (item :: items))
  | .node name types links reversed content included _ =>
      let (subject, progress) :=
        match name with
        | some name => (name.term?, progress)
        | none => (some progress.fresh.1, progress.fresh.2)
      let progress := readLinks (progress.emitTypes subject types) subject false links
      let progress := readLinks progress subject true reversed
      let progress := readGraph progress subject.isSome content
      (subject, readContent progress included)

/-- The cells of a list, one for each item that means something. The first of them is `cell`; `before` is the
one that came before. -/
def readCells (progress : Progress) (cell : Term) (before : Option Term) : List Item → Progress
  | [] => progress.emit before (.iri Vocabulary.rdfRest) (some (.iri Vocabulary.rdfNil))
  | item :: items =>
      let (first, progress) := readItem progress item
      match first with
      | none => readCells progress cell before items
      | some first =>
          let progress := progress.emit before (.iri Vocabulary.rdfRest) (some cell)
          let progress := progress.emit (some cell) (.iri Vocabulary.rdfFirst) (some first)
          readCells progress.fresh.2 progress.fresh.1 (some cell) items

def readObjects (progress : Progress) (node : Option Term) (reverses : Bool) (predicate : Name) :
    List Item → Progress
  | [] => progress
  | item :: items =>
      let (other, progress) := readItem progress item
      let progress :=
        if reverses then progress.emit other predicate node else progress.emit node predicate other
      readObjects progress node reverses predicate items

def readLinks (progress : Progress) (node : Option Term) (reverses : Bool) :
    List (Name × List Item) → Progress
  | [] => progress
  | (predicate, items) :: links =>
      readLinks (readObjects progress node reverses predicate items) node reverses links

def readGraph (progress : Progress) (named : Bool) : Option (List Item) → Progress
  | none => progress
  | some items =>
      let within := readContent { progress with keeps := named } items
      { within with keeps := progress.keeps }

/-- The items of a graph. Values and lists that nothing links to are left out. -/
def readContent (progress : Progress) : List Item → Progress
  | [] => progress
  | .node name types links reversed content included index :: items =>
      readContent
        (readItem progress (.node name types links reversed content included index)).2 items
  | _ :: items => readContent progress items

end

def statements? (text : String) : Option (List Statement) := do
  let document ← Json.readWritten? text
  let items ← documentItems? document
  return (readContent ⟨0, [], true⟩ items).statements.reverse

def readGraph? (text : String) : Option Graph :=
  (statements? text).map Graph.ofStatements

end ShapeCompiler.Rdf.JsonLd
