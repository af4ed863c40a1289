import ShapeCompiler.Json.Written
import ShapeCompiler.Text.Characters

/-! Reading JSON texts, as they are written or for the values that they stand for. -/

namespace ShapeCompiler.Json

def isSpace (c : Char) : Bool :=
  c = ' ' || c = '\n' || c = '\r' || c = '\t'

def skipSpace (text : List Char) : List Char :=
  text.dropWhile isSpace

def shortEscape? (c : Char) : Option Char :=
  if c = '"' || c = '\\' || c = '/' then some c
  else if c = 'b' then some '\x08'
  else if c = 'f' then some '\x0c'
  else if c = 'n' then some '\n'
  else if c = 'r' then some '\r'
  else if c = 't' then some '\t'
  else none

def isHighSurrogate (code : Nat) : Bool :=
  0xd800 ≤ code && code < 0xdc00

def isLowSurrogate (code : Nat) : Bool :=
  0xdc00 ≤ code && code < 0xe000

def joinSurrogates (high low : Nat) : Char :=
  Char.ofNat (0x10000 + (high - 0xd800) * 0x400 + (low - 0xdc00))

def readStringRest : List Char → Option (List Char × List Char)
  | [] => none
  | '"' :: rest => some ([], rest)
  | '\\' :: 'u' :: a :: b :: c :: d :: rest =>
      match Text.hexNumber? [a, b, c, d] with
      | none => none
      | some code =>
          if isHighSurrogate code then
            match rest with
            | '\\' :: 'u' :: e :: f :: g :: h :: more =>
                match Text.hexNumber? [e, f, g, h] with
                | none => none
                | some low =>
                    if isLowSurrogate low then
                      (readStringRest more).map fun (text, after) =>
                        (joinSurrogates code low :: text, after)
                    else none
            | _ => none
          else if isLowSurrogate code then none
          else (readStringRest rest).map fun (text, after) => (Char.ofNat code :: text, after)
  | '\\' :: c :: rest =>
      match shortEscape? c with
      | none => none
      | some escaped => (readStringRest rest).map fun (text, after) => (escaped :: text, after)
  | c :: rest =>
      if c.toNat < 32 || c = '\\' then none
      else (readStringRest rest).map fun (text, after) => (c :: text, after)

def readExponent? : List Char → Option (Option Int × List Char)
  | mark :: rest =>
      if mark = 'e' || mark = 'E' then
        let (negative, rest) :=
          match rest with
          | '-' :: after => (true, after)
          | '+' :: after => (false, after)
          | other => (false, other)
        let digits := rest.takeWhile Char.isDigit
        if digits.isEmpty then none
        else
          let size : Int := digitsValue digits
          some (some (if negative then -size else size), rest.dropWhile Char.isDigit)
      else some (none, mark :: rest)
  | [] => some (none, [])

def readFraction? : List Char → Option (Option (List Char) × List Char)
  | '.' :: rest =>
      let digits := rest.takeWhile Char.isDigit
      if digits.isEmpty then none else some (some digits, rest.dropWhile Char.isDigit)
  | rest => some (none, rest)

def readUnsigned? (negative : Bool) (text : List Char) : Option (Numeral × List Char) := do
  let digits := text.takeWhile Char.isDigit
  if digits.isEmpty || (digits.head? == some '0' && 1 < digits.length) then none
  let (fraction, rest) ← readFraction? (text.dropWhile Char.isDigit)
  let (exponent, rest) ← readExponent? rest
  return (⟨negative, digits, fraction, exponent⟩, rest)

def readNumeral? : List Char → Option (Numeral × List Char)
  | '-' :: rest => readUnsigned? true rest
  | text => readUnsigned? false text

mutual

/-- One value and the text after it. `depth` bounds the nesting of arrays and objects, `fuel` the
recursion. -/
def readValue : Nat → Nat → List Char → Option (Written × List Char)
  | 0, _, _ => none
  | fuel + 1, depth, text =>
      match skipSpace text with
      | 'n' :: 'u' :: 'l' :: 'l' :: rest => some (.null, rest)
      | 't' :: 'r' :: 'u' :: 'e' :: rest => some (.bool true, rest)
      | 'f' :: 'a' :: 'l' :: 's' :: 'e' :: rest => some (.bool false, rest)
      | '"' :: rest =>
          (readStringRest rest).map fun (value, after) => (.string (String.ofList value), after)
      | '[' :: rest =>
          match depth with
          | 0 => none
          | depth + 1 =>
              match skipSpace rest with
              | ']' :: after => some (.array [], after)
              | _ => (readItems fuel depth rest).map fun (items, after) => (.array items, after)
      | '\x7b' :: rest =>
          match depth with
          | 0 => none
          | depth + 1 =>
              match skipSpace rest with
              | '\x7d' :: after => some (.object [], after)
              | _ =>
                  (readMembers fuel depth rest).map fun (members, after) => (.object members, after)
      | other => (readNumeral? other).map fun (value, after) => (.number value, after)

def readItems : Nat → Nat → List Char → Option (List Written × List Char)
  | 0, _, _ => none
  | fuel + 1, depth, text =>
      match readValue fuel depth text with
      | none => none
      | some (item, after) =>
          match skipSpace after with
          | ',' :: rest =>
              (readItems fuel depth rest).map fun (items, after) => (item :: items, after)
          | ']' :: rest => some ([item], rest)
          | _ => none

def readMembers : Nat → Nat → List Char → Option (List (String × Written) × List Char)
  | 0, _, _ => none
  | fuel + 1, depth, text =>
      match skipSpace text with
      | '"' :: rest =>
          match readStringRest rest with
          | none => none
          | some (name, after) =>
              match skipSpace after with
              | ':' :: after =>
                  match readValue fuel depth after with
                  | none => none
                  | some (value, after) =>
                      let member := (String.ofList name, value)
                      match skipSpace after with
                      | ',' :: rest =>
                          (readMembers fuel depth rest).map fun (members, after) =>
                            (member :: members, after)
                      | '\x7d' :: rest => some ([member], rest)
                      | _ => none
              | _ => none
      | _ => none

end

def nestingLimit : Nat := 127

def readWrittenWithin? (depth : Nat) (text : String) : Option Written :=
  match readValue (2 * text.toList.length + 2) depth text.toList with
  | some (value, rest) => if (skipSpace rest).isEmpty then some value else none
  | none => none

def readWritten? (text : String) : Option Written :=
  readWrittenWithin? text.toList.length text

def read? (text : String) : Option Json :=
  (readWrittenWithin? nestingLimit text).bind Written.value?

end ShapeCompiler.Json
