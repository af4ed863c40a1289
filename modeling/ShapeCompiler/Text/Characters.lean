import ShapeCompiler.Text.CodePoints

/-! Characters: letters and their case for all of Unicode, hexadecimal digits, and the quoted form of a
text, in double quotes with every character that would not be visible by itself written as its code
point. Characters of ASCII are decided without the tables. -/

namespace ShapeCompiler.Text

def isAscii (c : Char) : Bool :=
  c.toNat < 128

def isAlphanumeric (c : Char) : Bool :=
  if isAscii c then c.isAlphanum else inRuns alphanumericRuns c.toNat

def isUppercase (c : Char) : Bool :=
  if isAscii c then c.isUpper else inRuns uppercaseRuns c.toNat

def isLowercase (c : Char) : Bool :=
  if isAscii c then c.isLower else inRuns lowercaseRuns c.toNat

def shifted (shifts : List Shift) (c : Char) : Char :=
  (shifts.findSome? fun shift => shift.apply? c.toNat).getD c

/-- The lower-case form: one character, but for the capital I with a dot above, whose dot stays as a
combining mark. -/
def lowercase (c : Char) : List Char :=
  if isAscii c then [c.toLower]
  else if c = 'İ' then ['i', '\u0307']
  else [shifted lowercaseShifts c]

def uppercase (c : Char) : List Char :=
  if isAscii c then [c.toUpper]
  else match uppercaseSequences.find? fun entry => entry.1 == c.toNat with
    | some entry => entry.2.map Char.ofNat
    | none => [shifted uppercaseShifts c]

def hexValue? (c : Char) : Option Nat :=
  if '0' ≤ c && c ≤ '9' then some (c.toNat - '0'.toNat)
  else if 'a' ≤ c && c ≤ 'f' then some (c.toNat - 'a'.toNat + 10)
  else if 'A' ≤ c && c ≤ 'F' then some (c.toNat - 'A'.toNat + 10)
  else none

def hexNumber? (digits : List Char) : Option Nat :=
  digits.foldlM (fun value digit => (hexValue? digit).map (value * 16 + ·)) 0

def hexDigits (n : Nat) : List Char :=
  Nat.toDigits 16 n

def isHidden (c : Char) : Bool :=
  if c.toNat < 128 then c.toNat < 32 || c.toNat == 127 else inRuns hiddenRuns c.toNat

def quoteChar (c : Char) : List Char :=
  if c = '"' then ['\\', '"']
  else if c = '\\' then ['\\', '\\']
  else if c = '\n' then ['\\', 'n']
  else if c = '\r' then ['\\', 'r']
  else if c = '\t' then ['\\', 't']
  else if c = '\x00' then ['\\', '0']
  else if isHidden c then ['\\', 'u', '\x7b'] ++ hexDigits c.toNat ++ ['\x7d']
  else [c]

def quote (text : String) : String :=
  String.ofList ('"' :: text.toList.flatMap quoteChar ++ ['"'])

end ShapeCompiler.Text
