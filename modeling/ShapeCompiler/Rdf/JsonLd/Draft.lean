import ShapeCompiler.Json.Written

/-! What a context writes about a term, before its names are given a meaning. -/

namespace ShapeCompiler.Rdf.JsonLd

open Json (Written)

/-- `simple` tells that the term is given a text or null alone. An identifier, a language or a direction
that is given may be null. -/
structure Draft where
  simple : Bool
  id : Option (Option String)
  coercion : Option String
  reverse : Option String
  containers : List String
  indexedBy : Option String
  nest : Option String
  context : Option Written
  language : Option (Option String)
  direction : Option (Option String)
  opens : Option Bool
  fixed : Option Bool

def optional? {α : Type} (read? : Written → Option α) : Option Written → Option (Option α)
  | none => some none
  | some value => (read? value).map some

def nullable? {α : Type} (read? : Written → Option α) : Written → Option (Option α)
  | .null => some none
  | value => (read? value).map some

def directions : List String :=
  ["ltr", "rtl"]

def direction? (value : Written) : Option String :=
  value.string?.filter directions.contains

def containerWords : List String :=
  ["@graph", "@id", "@index", "@language", "@list", "@set", "@type"]

def container? (value : Written) : Option String :=
  value.string?.filter containerWords.contains

def containers? : Written → Option (List String)
  | .null => some []
  | value => value.itemsOrSelf.mapM container?

namespace Draft

def memberNames : List String :=
  ["@container", "@context", "@direction", "@id", "@index", "@language", "@nest", "@prefix",
    "@propagate", "@protected", "@reverse", "@type"]

def ofMembers? (members : List (String × Written)) : Option Draft := do
  let names := members.map Prod.fst
  if !decide names.Nodup || !names.all memberNames.contains then none
  let member := fun name => Written.member? name members
  let _ ← optional? Written.bool? (member "@propagate")
  return {
    simple := false
    id := ← optional? (nullable? Written.string?) (member "@id")
    coercion := ← optional? Written.string? (member "@type")
    reverse := ← optional? Written.string? (member "@reverse")
    containers := (← optional? containers? (member "@container")).getD []
    indexedBy := ← optional? Written.string? (member "@index")
    nest := ← optional? Written.string? (member "@nest")
    context := member "@context"
    language := ← optional? (nullable? Written.string?) (member "@language")
    direction := ← optional? (nullable? direction?) (member "@direction")
    opens := ← optional? Written.bool? (member "@prefix")
    fixed := ← optional? Written.bool? (member "@protected") }

def ofIdentifier (id : Option String) : Draft :=
  ⟨true, some id, none, none, [], none, none, none, none, none, none, none⟩

def ofWritten? : Written → Option Draft
  | .null => some (ofIdentifier none)
  | .string id => some (ofIdentifier (some id))
  | .object members => ofMembers? members
  | _ => none

/-- The values of a term are arranged in one way, or in some that go together: in graphs that are named or
indexed, or in sets of anything but lists. -/
def arrangesWell (draft : Draft) : Bool :=
  let words := draft.containers
  let has := fun word => words.contains word
  decide words.Nodup &&
    (words.length ≤ 1 || (has "@set" && !has "@list") ||
      (words.length == 2 && has "@graph" && (has "@id" || has "@index")))

end Draft

end ShapeCompiler.Rdf.JsonLd
