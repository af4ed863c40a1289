import ShapeCompiler.Text.Characters

/-! The references and strings in Turtle documents, with their escapes. -/

namespace ShapeCompiler.Rdf.Turtle

def isSpace (c : Char) : Bool :=
  c = ' ' || c = '\t' || c = '\n' || c = '\r'

def isLineEnd (c : Char) : Bool :=
  c = '\n' || c = '\r'

def charOfCode? (code : Nat) : Option Char :=
  if code.isValidChar then some (Char.ofNat code) else none

def codeEscape? (count : Nat) (text : List Char) : Option (Char × List Char) := do
  let digits := text.take count
  if digits.length < count then none
  let code ← Text.hexNumber? digits
  let c ← charOfCode? code
  return (c, text.drop count)

def textEscape? : List Char → Option (Char × List Char)
  | [] => none
  | c :: rest =>
      if c = 't' then some ('\t', rest)
      else if c = 'b' then some ('\x08', rest)
      else if c = 'n' then some ('\n', rest)
      else if c = 'r' then some ('\r', rest)
      else if c = 'f' then some ('\x0c', rest)
      else if c = '"' || c = '\'' || c = '\\' then some (c, rest)
      else if c = 'u' then codeEscape? 4 rest
      else if c = 'U' then codeEscape? 8 rest
      else none

def isReferenceBreak (c : Char) : Bool :=
  c.toNat ≤ 32 || ['<', '"', '\x7b', '\x7d', '|', '^', '\x60'].contains c

def readReference? : Nat → List Char → Option (List Char × List Char)
  | 0, _ => none
  | _ + 1, [] => none
  | bound + 1, c :: rest =>
      if c = '>' then some ([], rest)
      else if c = '\\' then
        match rest with
        | 'u' :: digits => do
            let (escaped, rest) ← codeEscape? 4 digits
            let (text, rest) ← readReference? bound rest
            return (escaped :: text, rest)
        | 'U' :: digits => do
            let (escaped, rest) ← codeEscape? 8 digits
            let (text, rest) ← readReference? bound rest
            return (escaped :: text, rest)
        | _ => none
      else if isReferenceBreak c then none
      else do
        let (text, rest) ← readReference? bound rest
        return (c :: text, rest)

/-- A string in single quotes of either kind, up to its end. It stays on its line. -/
def readShortText? (quote : Char) : Nat → List Char → Option (List Char × List Char)
  | 0, _ => none
  | _ + 1, [] => none
  | bound + 1, c :: rest =>
      if c = quote then some ([], rest)
      else if c = '\\' then do
        let (escaped, rest) ← textEscape? rest
        let (text, rest) ← readShortText? quote bound rest
        return (escaped :: text, rest)
      else if isLineEnd c then none
      else do
        let (text, rest) ← readShortText? quote bound rest
        return (c :: text, rest)

def readLongText? (quote : Char) : Nat → List Char → Option (List Char × List Char)
  | 0, _ => none
  | _ + 1, [] => none
  | bound + 1, c :: rest =>
      if (c :: rest).take 3 = [quote, quote, quote] then some ([], rest.drop 2)
      else if c = '\\' then do
        let (escaped, rest) ← textEscape? rest
        let (text, rest) ← readLongText? quote bound rest
        return (escaped :: text, rest)
      else do
        let (text, rest) ← readLongText? quote bound rest
        return (c :: text, rest)

def readText? (quote : Char) (rest : List Char) : Option (List Char × List Char) :=
  if rest.take 2 = [quote, quote] then readLongText? quote (rest.length + 1) (rest.drop 2)
  else readShortText? quote (rest.length + 1) rest

end ShapeCompiler.Rdf.Turtle
