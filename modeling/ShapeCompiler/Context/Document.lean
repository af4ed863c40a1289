import ShapeCompiler.Json.Printer

/-! Context documents: definitions of terms with an optional base and an optional default vocabulary,
read from JSON. -/

namespace ShapeCompiler.Context

inductive TermType where
  | id
  | vocab
  | datatype (iri : String)
deriving DecidableEq

/-- What a term stands for. `Nested` is the type of documents, one of which may apply while the term
is the vocabulary in force. -/
structure Definition (Nested : Type) where
  id : String
  type : Option TermType
  nested : Option Nested

inductive Document where
  | mk (base vocab : Option String) (terms : List (String × Definition Document))

namespace Document

def base : Document → Option String
  | mk base _ _ => base

def vocab : Document → Option String
  | mk _ vocab _ => vocab

def terms : Document → List (String × Definition Document)
  | mk _ _ terms => terms

def empty : Document := mk none none []

instance : Inhabited Document := ⟨empty⟩

def isEmpty (document : Document) : Bool :=
  document.base.isNone && document.vocab.isNone && document.terms.isEmpty

end Document

inductive Fault where
  | remote (url : String)
  | notContext (value : Json)
  | notText (keyword : String) (value : Json)
  | idNotText (term : String) (value : Json)
  | typeNotText (term : String) (value : Json)
  | notDefinition (term : String) (value : Json)

def Fault.reason : Fault → String
  | remote url => "remote context " ++ url ++ " must be loaded before resolution"
  | notContext value => "expected an object, array, or null context, got " ++ value.compact
  | notText keyword value => keyword ++ " must be a string or null, got " ++ value.compact
  | idNotText term value => "@id of term '" ++ term ++ "' must be a string, got " ++ value.compact
  | typeNotText term value =>
      "@type of term '" ++ term ++ "' must be a string, got " ++ value.compact
  | notDefinition term value =>
      "definition of term '" ++ term ++ "' has unsupported shape " ++ value.compact

def Fault.message (fault : Fault) : String :=
  "invalid context: " ++ fault.reason

def TermType.ofText (text : String) : TermType :=
  if text = "@id" then .id else if text = "@vocab" then .vocab else .datatype text

def isKeyword (name : String) : Bool :=
  name.toList.head? == some '@'

def keywordText (keyword : String) : Json → Except Fault (Option String)
  | .string text => .ok (some text)
  | .null => .ok none
  | other => .error (.notText keyword other)

def definitionId (term : String) : Option Json → Except Fault (Option String)
  | some (.string id) => .ok (some id)
  | none => .ok none
  | some .null => .ok none
  | some other => .error (.idNotText term other)

def definitionType (term : String) : Option Json → Except Fault (Option TermType)
  | some (.string type) => .ok (some (TermType.ofText type))
  | none => .ok none
  | some .null => .ok none
  | some other => .error (.typeNotText term other)

/-- Enters a definition under its name; where there is none, the name is taken back. -/
def Document.define (document : Document) (name : String) :
    Option (Definition Document) → Document
  | some definition => .mk document.base document.vocab (Keyed.insert name definition document.terms)
  | none => .mk document.base document.vocab (Keyed.erase name document.terms)

def mergeMember (document : Document) (name : String) (value : Json)
    (read : Except Fault (Option (Definition Document))) : Except Fault Document :=
  if name = "@base" then
    (keywordText name value).map fun text => .mk text document.vocab document.terms
  else if name = "@vocab" then
    (keywordText name value).map fun text => .mk document.base text document.terms
  else if isKeyword name then .ok document
  else read.map (document.define name)

mutual

/-- Adds what a value says to a document. Arrays are taken in order, an object with a nested context
stands for that context alone, and later mentions of a name replace earlier ones. -/
def merge (document : Document) : Json → Except Fault Document
  | .null => .ok document
  | .array items => mergeItems document items
  | .object members =>
      match mergeWrapped document members with
      | some merged => merged
      | none => mergeMembers document members
  | .string url => .error (.remote url)
  | .bool value => .error (.notContext (.bool value))
  | .number value => .error (.notContext (.number value))

def mergeItems (document : Document) : List Json → Except Fault Document
  | [] => .ok document
  | item :: items =>
      match merge document item with
      | .ok merged => mergeItems merged items
      | .error fault => .error fault

def mergeWrapped (document : Document) : List (String × Json) → Option (Except Fault Document)
  | [] => none
  | (name, value) :: members =>
      if name = "@context" then some (merge document value) else mergeWrapped document members

def mergeMembers (document : Document) : List (String × Json) → Except Fault Document
  | [] => .ok document
  | (name, value) :: members =>
      match mergeMember document name value (definition name value) with
      | .ok merged => mergeMembers merged members
      | .error fault => .error fault

def definition (name : String) : Json → Except Fault (Option (Definition Document))
  | .null => .ok none
  | .string id => .ok (some ⟨id, none, none⟩)
  | .object members =>
      match definitionId name (Keyed.find? "@id" members) with
      | .error fault => .error fault
      | .ok none => .ok none
      | .ok (some id) =>
          match definitionType name (Keyed.find? "@type" members) with
          | .error fault => .error fault
          | .ok type =>
              match mergeWrapped .empty members with
              | none => .ok (some ⟨id, type, none⟩)
              | some (.ok nested) => .ok (some ⟨id, type, some nested⟩)
              | some (.error fault) => .error fault
  | .array items => .error (.notDefinition name (.array items))
  | .bool value => .error (.notDefinition name (.bool value))
  | .number value => .error (.notDefinition name (.number value))

end

namespace Document

def ofJson (value : Json) : Except Fault Document :=
  merge .empty value

end Document

end ShapeCompiler.Context
