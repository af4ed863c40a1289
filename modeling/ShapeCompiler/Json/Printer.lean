import ShapeCompiler.Decimal.Shortest
import ShapeCompiler.Json.Value

/-! JSON texts of values: a compact one without spaces, and one with a member or item on each line,
indented by two spaces for each level. -/

namespace ShapeCompiler.Json

def hexDigit (value : Nat) : Char :=
  Nat.digitChar value

/-- A character inside a JSON string. Only the quotation mark, the backslash and controls below the
space are escaped. -/
def escapeChar (c : Char) : List Char :=
  if c = '"' then ['\\', '"']
  else if c = '\\' then ['\\', '\\']
  else if c = '\x08' then ['\\', 'b']
  else if c = '\x0c' then ['\\', 'f']
  else if c = '\n' then ['\\', 'n']
  else if c = '\r' then ['\\', 'r']
  else if c = '\t' then ['\\', 't']
  else if c.toNat < 32 then
    ['\\', 'u', '0', '0', hexDigit (c.toNat / 16), hexDigit (c.toNat % 16)]
  else [c]

def stringChars (text : String) : List Char :=
  '"' :: text.toList.flatMap escapeChar ++ ['"']

def numberChars : Number → List Char
  | .whole value => (toString value).toList
  | .binary value => value.jsonText

mutual

def compactChars : Json → List Char
  | null => ['n', 'u', 'l', 'l']
  | bool true => ['t', 'r', 'u', 'e']
  | bool false => ['f', 'a', 'l', 's', 'e']
  | number value => numberChars value
  | string value => stringChars value
  | array [] => ['[', ']']
  | array (item :: items) => '[' :: compactChars item ++ compactItems items
  | object [] => ['\x7b', '\x7d']
  | object ((name, value) :: members) =>
      '\x7b' :: stringChars name ++ ':' :: compactChars value ++ compactMembers members

def compactItems : List Json → List Char
  | [] => [']']
  | item :: items => ',' :: compactChars item ++ compactItems items

def compactMembers : List (String × Json) → List Char
  | [] => ['\x7d']
  | (name, value) :: members =>
      ',' :: stringChars name ++ ':' :: compactChars value ++ compactMembers members

end

def lineStart (level : Nat) : List Char :=
  '\n' :: List.replicate (2 * level) ' '

mutual

def prettyChars (level : Nat) : Json → List Char
  | null => ['n', 'u', 'l', 'l']
  | bool true => ['t', 'r', 'u', 'e']
  | bool false => ['f', 'a', 'l', 's', 'e']
  | number value => numberChars value
  | string value => stringChars value
  | array [] => ['[', ']']
  | array (item :: items) =>
      '[' :: lineStart (level + 1) ++ prettyChars (level + 1) item ++ prettyItems level items
  | object [] => ['\x7b', '\x7d']
  | object ((name, value) :: members) =>
      '\x7b' :: lineStart (level + 1) ++ stringChars name ++ [':', ' '] ++
        prettyChars (level + 1) value ++ prettyMembers level members

def prettyItems (level : Nat) : List Json → List Char
  | [] => lineStart level ++ [']']
  | item :: items =>
      ',' :: lineStart (level + 1) ++ prettyChars (level + 1) item ++ prettyItems level items

def prettyMembers (level : Nat) : List (String × Json) → List Char
  | [] => lineStart level ++ ['\x7d']
  | (name, value) :: members =>
      ',' :: lineStart (level + 1) ++ stringChars name ++ [':', ' '] ++
        prettyChars (level + 1) value ++ prettyMembers level members

end

def compact (value : Json) : String :=
  String.ofList (compactChars value)

def pretty (value : Json) : String :=
  String.ofList (prettyChars 0 value)

end ShapeCompiler.Json
