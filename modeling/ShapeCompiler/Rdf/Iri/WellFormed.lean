import ShapeCompiler.Rdf.Iri.Basic

/-! Which IRIs and references are well formed: the characters allowed in their parts, and the hosts that
they may name. -/

namespace ShapeCompiler.Rdf.Iri

def isHex (c : Char) : Bool :=
  c.isDigit || ('a' ≤ c && c ≤ 'f') || ('A' ≤ c && c ≤ 'F')

def isBetween (low high : Nat) (c : Char) : Bool :=
  low ≤ c.toNat && c.toNat ≤ high

/-- The characters beyond ASCII that IRIs may contain: of the planes above the first, all but the last
two of each and the start of the plane of tags. -/
def isUniversal (c : Char) : Bool :=
  isBetween 0xa0 0xd7ff c || isBetween 0xf900 0xfdcf c || isBetween 0xfdf0 0xffef c ||
    (isBetween 0x10000 0xefffd c && c.toNat % 0x10000 ≤ 0xfffd && !isBetween 0xe0000 0xe0fff c)

def isPrivate (c : Char) : Bool :=
  isBetween 0xe000 0xf8ff c || isBetween 0xf0000 0xffffd c || isBetween 0x100000 0x10fffd c

def isUnreserved (c : Char) : Bool :=
  c.isAlphanum || c = '-' || c = '.' || c = '_' || c = '~' || isUniversal c

def isDelimiter (c : Char) : Bool :=
  ['!', '$', '&', '\'', '(', ')', '*', '+', ',', ';', '='].contains c

def isHostChar (c : Char) : Bool :=
  isUnreserved c || isDelimiter c

def isPathChar (c : Char) : Bool :=
  isHostChar c || c = ':' || c = '@' || c = '/'

def isFragmentChar (c : Char) : Bool :=
  isPathChar c || c = '?'

def isQueryChar (c : Char) : Bool :=
  isFragmentChar c || isPrivate c

def allAllowed (allowed : Char → Bool) : List Char → Bool
  | [] => true
  | '%' :: a :: b :: rest => isHex a && isHex b && allAllowed allowed rest
  | c :: rest => c != '%' && allowed c && allAllowed allowed rest

def isOctet (text : List Char) : Bool :=
  !text.isEmpty && text.length ≤ 3 && text.all Char.isDigit &&
    (text.head? != some '0' || text.length == 1) &&
    text.foldl (fun value digit => value * 10 + (digit.toNat - '0'.toNat)) 0 ≤ 255

def isAddressV4 (text : List Char) : Bool :=
  let groups := Text.pieces (· = '.') text
  groups.length == 4 && groups.all isOctet

def isGroup (piece : List Char) : Bool :=
  !piece.isEmpty && piece.length ≤ 4 && piece.all isHex

/-- The number of groups that some pieces of an address stand for; the last may be an address of
version 4, which stands for two. -/
def groupCount? : List (List Char) → Option Nat
  | [] => some 0
  | [last] => if isAddressV4 last then some 2 else if isGroup last then some 1 else none
  | group :: groups => if isGroup group then (groupCount? groups).map (· + 1) else none

def splitDoubleColon? (before : List Char) : List Char → Option (List Char × List Char)
  | [] => none
  | ':' :: ':' :: rest => some (before.reverse, rest)
  | c :: rest => splitDoubleColon? (c :: before) rest

def groupsOf (text : List Char) : List (List Char) :=
  if text.isEmpty then [] else Text.pieces (· = ':') text

/-- Eight groups, or fewer around a pair of colons, before which there is no address of version 4. -/
def isAddressV6 (text : List Char) : Bool :=
  match splitDoubleColon? [] text with
  | some (before, after) =>
      (groupsOf before).all isGroup &&
        (groupCount? (groupsOf after)).any fun count => (groupsOf before).length + count ≤ 7
  | none => groupCount? (groupsOf text) == some 8

def isAsciiHostChar (c : Char) : Bool :=
  c.toNat < 128 && isHostChar c

def isFutureAddress (letters : List Char) : List Char → Bool
  | letter :: rest =>
      let parts := partAt (· = '.') rest
      letters.contains letter && !parts.1.isEmpty && parts.1.all isHex && 1 < parts.2.length &&
        (parts.2.drop 1).all fun c => isAsciiHostChar c || c = ':'
  | [] => false

def isPort : List Char → Bool
  | [] => true
  | ':' :: digits => digits.all Char.isDigit
  | _ => false

def isHostAndPort (letters : List Char) : List Char → Bool
  | '[' :: rest =>
      match partAt (· = ']') rest with
      | (address, _ :: port) =>
          (isAddressV6 address || isFutureAddress letters address) && isPort port
      | (_, []) => false
  | text =>
      let parts := partAt (· = ':') text
      allAllowed isHostChar parts.1 && isPort parts.2

def isAuthority (letters text : List Char) : Bool :=
  match partAt (· = '@') text with
  | (user, _ :: host) =>
      allAllowed (fun c => isHostChar c || c = ':') user && isHostAndPort letters host
  | (host, []) => isHostAndPort letters host

def Parts.isValid (letters : List Char) (parts : Parts) : Bool :=
  parts.authority.all (isAuthority letters) && allAllowed isPathChar parts.path &&
    parts.query.all (allAllowed isQueryChar) && parts.fragment.all (allAllowed isFragmentChar)

def reference? (letters text : List Char) : Option Parts :=
  let parts := split text
  if text.head? != some ':' && parts.isValid letters then some parts else none

def absolute? (letters text : List Char) : Option Parts :=
  (reference? letters text).filter fun parts => parts.scheme.isSome

end ShapeCompiler.Rdf.Iri
