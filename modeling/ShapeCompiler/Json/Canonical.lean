import ShapeCompiler.Json.Printer
import ShapeCompiler.Json.Written

/-! The canonical text of a JSON value: no space, members in the order of the UTF-16 units of their names,
and numbers in the shortest form that reads back as the same binary number. -/

namespace ShapeCompiler.Json

def unitsOfChar (c : Char) : List Nat :=
  if c.toNat < 0x10000 then [c.toNat]
  else [0xd800 + (c.toNat - 0x10000) / 0x400, 0xdc00 + (c.toNat - 0x10000) % 0x400]

def units (text : String) : List Nat :=
  text.toList.flatMap unitsOfChar

def insertByUnits (entry : String × List Char) :
    List (String × List Char) → List (String × List Char)
  | [] => [entry]
  | head :: tail =>
      if units head.1 < units entry.1 then head :: insertByUnits entry tail
      else entry :: head :: tail

def sortByUnits (entries : List (String × List Char)) : List (String × List Char) :=
  entries.foldr insertByUnits []

namespace Numeral

def nearest? (numeral : Numeral) : Option Binary64 :=
  numeral.nearestSize?.map fun size => if numeral.negative then size.negate else size

/-- A number that is too large is infinite. -/
def canonicalChars (numeral : Numeral) : List Char :=
  match numeral.nearest? with
  | some nearest => nearest.canonicalJsonText
  | none => (if numeral.negative then ['-'] else []) ++ "Infinity".toList

def whole? (numeral : Numeral) : Option Int := do
  let size ← numeral.nearestSize?
  let whole ← (Decimal.shortest size).whole?
  let value : Int := if numeral.negative then -whole else whole
  if -9223372036854775808 ≤ value && value ≤ 9223372036854775807 then some value else none

end Numeral

namespace Written

mutual

def canonicalChars : Written → List Char
  | null => ['n', 'u', 'l', 'l']
  | bool true => ['t', 'r', 'u', 'e']
  | bool false => ['f', 'a', 'l', 's', 'e']
  | number numeral => numeral.canonicalChars
  | string value => stringChars value
  | array items => '[' :: [','].intercalate (canonicalItems items) ++ [']']
  | object members =>
      let entries := (sortByUnits (canonicalMembers members)).map fun entry =>
        stringChars entry.1 ++ ':' :: entry.2
      '\x7b' :: [','].intercalate entries ++ ['\x7d']

def canonicalItems : List Written → List (List Char)
  | [] => []
  | item :: items => canonicalChars item :: canonicalItems items

def canonicalMembers : List (String × Written) → List (String × List Char)
  | [] => []
  | (name, value) :: members => (name, canonicalChars value) :: canonicalMembers members

end

def canonicalText (value : Written) : String :=
  String.ofList value.canonicalChars

end Written

end ShapeCompiler.Json
