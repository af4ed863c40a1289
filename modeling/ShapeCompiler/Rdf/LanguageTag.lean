import ShapeCompiler.Text.Cut

/-! Well-formed language tags: a language with optional extensions, script, region, variants,
extensions and a private part, or one of the tags that were registered before these rules. -/

namespace ShapeCompiler.Rdf.LanguageTag

/-- Where in a tag the next part stands. The parts come in this order. -/
inductive Place where
  | afterLanguage (extensions : Nat)
  | afterExtensions
  | afterScript
  | afterRegion
  | inExtension (empty : Bool)
  | inPrivate (empty : Bool)
deriving DecidableEq

def irregular : List String :=
  ["art-lojban", "cel-gaulish", "en-gb-oed", "i-ami", "i-bnn", "i-default", "i-enochian", "i-hak",
    "i-klingon", "i-lux", "i-mingo", "i-navajo", "i-pwn", "i-tao", "i-tay", "i-tsu", "no-bok",
    "no-nyn", "sgn-be-fr", "sgn-be-nl", "sgn-ch-de", "zh-guoyu", "zh-hakka", "zh-min", "zh-min-nan",
    "zh-xiang"]

def isWord (low high : Nat) (part : List Char) : Bool :=
  low ≤ part.length && part.length ≤ high && part.all Char.isAlpha

def isRegion (part : List Char) : Bool :=
  isWord 2 2 part || (part.length == 3 && part.all Char.isDigit)

def isVariant (part : List Char) : Bool :=
  5 ≤ part.length || (part.length == 4 && part.head?.any Char.isDigit)

def step? (place : Place) (part : List Char) : Option Place :=
  if part.isEmpty || 8 < part.length || !part.all Char.isAlphanum then none
  else match place with
    | .inPrivate _ => some (.inPrivate false)
    | .inExtension empty =>
        if part.length == 1 then
          if empty then none
          else if part == ['x'] then some (.inPrivate true)
          else some (.inExtension true)
        else some (.inExtension false)
    | .afterLanguage _ | .afterExtensions | .afterScript | .afterRegion =>
        if part.length == 1 then
          if part == ['x'] then some (.inPrivate true) else some (.inExtension true)
        else match place with
          | .afterLanguage extensions =>
              if isWord 3 3 part && extensions < 3 then some (.afterLanguage (extensions + 1))
              else if isWord 4 4 part then some .afterScript
              else if isRegion part then some .afterRegion
              else if isVariant part then some .afterRegion
              else none
          | .afterExtensions =>
              if isWord 4 4 part then some .afterScript
              else if isRegion part then some .afterRegion
              else if isVariant part then some .afterRegion
              else none
          | .afterScript =>
              if isRegion part then some .afterRegion
              else if isVariant part then some .afterRegion
              else none
          | _ => if isVariant part then some .afterRegion else none

def Place.mayEnd : Place → Bool
  | inExtension empty => !empty
  | inPrivate empty => !empty
  | _ => true

def endsWell (place : Place) : List (List Char) → Bool
  | [] => place.mayEnd
  | part :: parts =>
      match step? place part with
      | some next => endsWell next parts
      | none => false

def isValid (tag : String) : Bool :=
  irregular.contains tag ||
    match Text.pieces (· = '-') tag.toList with
    | [] => false
    | first :: parts =>
        if first == ['x'] then !parts.isEmpty && endsWell (.inPrivate true) parts
        else if isWord 2 3 first then endsWell (.afterLanguage 0) parts
        else if isWord 4 8 first then endsWell .afterExtensions parts
        else false

end ShapeCompiler.Rdf.LanguageTag
