import ShapeCompiler.Context.Expansion

/-! Compaction of IRIs to the best of their short forms. A form is reached by replacing an identifier
by its term, or a leading namespace by its term and a colon, or by removing a default, and may be
shortened further in the same way. -/

namespace ShapeCompiler.Context

def compactionDepth : Nat := 8

def remainder (start text : String) : List String :=
  match Text.stripPrefix? start text with
  | some rest => if rest = "" then [] else [rest]
  | none => []

/-- The form that one term gives to an IRI. Only a term whose expansion ends in a slash may be
followed by a colon and the rest. -/
def termForm (all : List Document) (iri : String) (term : String × Definition Document) :
    List String :=
  if iri = term.2.id then [term.1]
  else match Text.stripPrefix? term.2.id iri with
    | some rest =>
        if Text.endsInSlash (expandTerm all term.2.id) then [term.1 ++ ":" ++ rest] else []
    | none => []

def termForms (all : List Document) (iri : String) (document : Document) : List String :=
  document.terms.flatMap (termForm all iri)

def vocabForms (all : List Document) (defaults : Defaults) (iri : String) (document : Document) :
    List String :=
  match (if defaults.vocab then document.vocab else none) with
  | some vocab => remainder (expandTerm all vocab) iri
  | none => []

def baseForms (defaults : Defaults) (iri : String) (document : Document) : List String :=
  match (if defaults.base then document.base else none) with
  | some base => remainder base iri
  | none => []

/-- The forms one step from an IRI. Default vocabularies count in the `nested` documents only, bases
in the others only. -/
def directForms (nested documents : List Document) (defaults : Defaults) (iri : String) :
    List String :=
  let all := nested ++ documents
  (nested.flatMap fun document => vocabForms all defaults iri document ++ termForms all iri document)
    ++ documents.flatMap fun document =>
      baseForms defaults iri document ++ termForms all iri document

/-- Adds the forms reached from `iri` to those found before. A form found before is not followed
again. -/
def collectForms (forms : String → List String) : Nat → String → List String → List String
  | 0, _, found => found
  | depth + 1, iri, found =>
      (forms iri).foldl
        (fun found form =>
          if form ∈ found then found else collectForms forms depth form (form :: found))
        found

/-- Whether one form is better than another: fewer colons, then fewer bytes, then the lesser text. -/
def isBetter (left right : String) : Bool :=
  let leftColons := Text.countColons left
  let rightColons := Text.countColons right
  if leftColons ≠ rightColons then leftColons < rightColons
  else if left.utf8ByteSize ≠ right.utf8ByteSize then left.utf8ByteSize < right.utf8ByteSize
  else left < right

def bestForm? : List String → Option String
  | [] => none
  | form :: forms =>
      some (forms.foldl (fun best form => if isBetter form best then form else best) form)

/-- The best of the forms that expand back to the IRI under the same defaults. -/
def compact? (nested documents : List Document) (defaults : Defaults) (iri : String) :
    Option String :=
  let found := collectForms (directForms nested documents defaults) compactionDepth iri []
  bestForm? (found.filter fun form => expand (nested ++ documents) defaults form = iri)

end ShapeCompiler.Context
