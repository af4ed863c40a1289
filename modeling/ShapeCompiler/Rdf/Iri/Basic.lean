import ShapeCompiler.Text.Cut

/-! The parts of IRIs and of references to IRIs. -/

namespace ShapeCompiler.Rdf.Iri

structure Parts where
  scheme : Option (List Char)
  authority : Option (List Char)
  path : List Char
  query : Option (List Char)
  fragment : Option (List Char)

def isSchemeStart (c : Char) : Bool :=
  c.isAlpha

def isSchemeChar (c : Char) : Bool :=
  c.isAlphanum || c = '+' || c = '-' || c = '.'

def partAt (stop : Char → Bool) (text : List Char) : List Char × List Char :=
  text.span fun c => !stop c

def splitFragment (text : List Char) : List Char × Option (List Char) :=
  match partAt (· = '#') text with
  | (before, _ :: fragment) => (before, some fragment)
  | (before, []) => (before, none)

def splitQuery (text : List Char) : List Char × Option (List Char) :=
  match partAt (· = '?') text with
  | (before, _ :: query) => (before, some query)
  | (before, []) => (before, none)

/-- The scheme before a colon, if characters of a scheme are all that stands before it. -/
def splitScheme (text : List Char) : Option (List Char) × List Char :=
  match text.span isSchemeChar with
  | (first :: scheme, ':' :: rest) =>
      if isSchemeStart first then (some (first :: scheme), rest) else (none, text)
  | _ => (none, text)

def splitAuthority : List Char → Option (List Char) × List Char
  | '/' :: '/' :: rest =>
      let parts := partAt (fun c => c = '/' || c = '?' || c = '#') rest
      (some parts.1, parts.2)
  | text => (none, text)

def split (text : List Char) : Parts :=
  let (scheme, rest) := splitScheme text
  let (authority, rest) := splitAuthority rest
  let (rest, fragment) := splitFragment rest
  let (path, query) := splitQuery rest
  ⟨scheme, authority, path, query, fragment⟩

def Parts.text (parts : Parts) : List Char :=
  (match parts.scheme with
    | some scheme => scheme ++ [':']
    | none => []) ++
  (match parts.authority with
    | some authority => '/' :: '/' :: authority
    | none => []) ++
  parts.path ++
  (match parts.query with
    | some query => '?' :: query
    | none => []) ++
  (match parts.fragment with
    | some fragment => '#' :: fragment
    | none => [])

end ShapeCompiler.Rdf.Iri
