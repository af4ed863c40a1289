import ShapeCompiler.Rdf.Iri.WellFormed

/-! The resolution of references against a base, in two ways that differ where double dots lead above
the start of a path: they are dropped there, or they are kept. -/

namespace ShapeCompiler.Rdf.Iri

def directory (path : List Char) : List Char :=
  (path.reverse.dropWhile (· != '/')).reverse

/-- The directory above a directory. Above the first there is none, but where the path has to start with
a slash. -/
def above (rooted : Bool) (path : List Char) : List Char :=
  match directory path.dropLast with
  | [] => if rooted then ['/'] else []
  | path => path

def follow (rooted : Bool) (path : List Char) : List (List Char) → List Char
  | [] => path
  | segment :: segments =>
      if segment = ['.'] then follow rooted path segments
      else if segment = ['.', '.'] then follow rooted (above rooted path) segments
      else if segments.isEmpty then path ++ segment
      else follow rooted (path ++ segment ++ ['/']) segments

def Parts.directory (base : Parts) : List Char :=
  if base.authority.isSome && base.path.isEmpty then ['/'] else Iri.directory base.path

def Parts.isAmbiguous (parts : Parts) : Bool :=
  parts.authority.isNone && parts.path.take 2 = ['/', '/']

def Parts.complete (base reference : Parts) (path : List Char) : Parts :=
  let query := if reference.path.isEmpty then reference.query.or base.query else reference.query
  ⟨base.scheme, base.authority, path, query, reference.fragment⟩

/-- The IRI that a reference means relative to a base. A reference with an authority is taken as it
stands. None if the path could be taken for an authority. -/
def resolve? (base reference : Parts) : Option Parts :=
  if reference.scheme.isSome then some reference
  else if reference.authority.isSome then some { reference with scheme := base.scheme }
  else
    let rooted := base.authority.isSome
    let path :=
      match reference.path with
      | [] => base.path
      | '/' :: rest => follow rooted ['/'] (Text.pieces (· = '/') rest)
      | path => follow rooted base.directory (Text.pieces (· = '/') path)
    let resolved := base.complete reference path
    if resolved.isAmbiguous then none else some resolved

structure Trail where
  segments : List (List Char)
  ended : Bool

/-- Follows one more segment. Above its start a path without a slash there keeps double dots. -/
def Trail.step (absolute : Bool) (trail : Trail) (segment : List Char) : Trail :=
  if segment = ['.'] then { trail with ended := true }
  else if segment = ['.', '.'] then
    match trail.segments with
    | [] => if absolute then { trail with ended := true } else ⟨[segment], false⟩
    | last :: others =>
        if last = ['.', '.'] then ⟨segment :: trail.segments, false⟩ else ⟨others, true⟩
  else ⟨segment :: trail.segments, false⟩

def Trail.walk (absolute : Bool) (trail : Trail) : List (List Char) → Trail
  | [] => trail
  | [last] => if last = [] then { trail with ended := true } else trail.step absolute last
  | segment :: segments => Trail.walk absolute (trail.step absolute segment) segments

def Trail.path (absolute : Bool) (trail : Trail) : List Char :=
  let start := if absolute then ['/'] else []
  let apart := if trail.segments.getLast? = some [] then ['.', '/'] else []
  let slash :=
    if trail.ended && trail.segments.head?.any (· != ['.', '.']) then ['/'] else []
  start ++ apart ++ ['/'].intercalate trail.segments.reverse ++ slash

def segmentsOf (path : List Char) : List (List Char) :=
  Text.pieces (· = '/') (if path.head? = some '/' then path.drop 1 else path)

def isAbsolute (path : List Char) : Bool :=
  path.head? = some '/'

def settlePath (absolute : Bool) (segments : List (List Char)) : List Char :=
  (Trail.walk absolute ⟨[], false⟩ segments).path absolute

/-- The IRI that a reference means relative to a base, double dots above the start of a path being
kept. -/
def resolveKeepingDots (base reference : Parts) : Parts :=
  if reference.scheme.isSome then reference
  else if reference.authority.isSome then
    { reference with
      scheme := base.scheme
      path := settlePath (isAbsolute reference.path) (segmentsOf reference.path) }
  else
    let path :=
      if reference.path = [] then base.path
      else if isAbsolute reference.path then settlePath true (segmentsOf reference.path)
      else
        settlePath (isAbsolute base.directory)
          ((segmentsOf base.directory).dropLast ++ segmentsOf reference.path)
    base.complete reference path

end ShapeCompiler.Rdf.Iri
