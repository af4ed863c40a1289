import ShapeCompiler.Text.Characters

/-! String literals of generated code, read by the rules of the language for their escapes. The literal that
a text is quoted as reads as that text, whatever characters it has. -/

namespace ShapeCompiler.Text

/-- Where a reader stands in a string literal. An escape names a byte by two hexadecimal digits, or a code
point by up to six in braces; behind a line end that is escaped, blanks are passed over. -/
inductive LiteralPlace where
  | text
  | escape
  | byte
  | byteEnd (high : Nat)
  | brace
  | code (count value : Nat)
  | blanks
deriving DecidableEq

def letterEscape? (c : Char) : Option Char :=
  if c = 'n' then some '\n'
  else if c = 'r' then some '\r'
  else if c = 't' then some '\t'
  else if c = '0' then some '\x00'
  else if c = '\\' || c = '"' || c = '\'' then some c
  else none

def charOfCode? (code : Nat) : Option Char :=
  if code.isValidChar then some (Char.ofNat code) else none

namespace LiteralPlace

def readText? (c : Char) : Option (LiteralPlace × List Char) :=
  if c = '\\' then some (escape, [])
  else if c = '\r' then none
  else some (text, [c])

def step? (place : LiteralPlace) (c : Char) : Option (LiteralPlace × List Char) :=
  match place with
  | text => readText? c
  | escape =>
      if c = 'x' then some (byte, [])
      else if c = 'u' then some (brace, [])
      else if c = '\n' then some (blanks, [])
      else (letterEscape? c).map fun escaped => (text, [escaped])
  | byte => ((hexValue? c).filter (· < 8)).map fun high => (byteEnd high, [])
  | byteEnd high => (hexValue? c).map fun low => (text, [Char.ofNat (high * 16 + low)])
  | brace => if c = '\x7b' then some (code 0 0, []) else none
  | code count value =>
      if c = '\x7d' && 0 < count then (charOfCode? value).map fun escaped => (text, [escaped])
      else if c = '_' && 0 < count then some (code count value, [])
      else if count < 6 then (hexValue? c).map fun digit => (code (count + 1) (value * 16 + digit), [])
      else none
  | blanks =>
      if c = ' ' || c = '\t' || c = '\n' || c = '\r' then some (blanks, []) else readText? c

def mayEnd : LiteralPlace → Bool
  | text | blanks => true
  | _ => false

end LiteralPlace

def readLiteral? (place : LiteralPlace) : List Char → Option (List Char)
  | [] => none
  | c :: rest =>
      if place.mayEnd && c = '"' then if rest.isEmpty then some [] else none
      else do
        let (next, brought) ← place.step? c
        let others ← readLiteral? next rest
        return brought ++ others

/-- The text that a string literal denotes. -/
def unquote? (literal : String) : Option String :=
  match literal.toList with
  | '"' :: rest => (readLiteral? .text rest).map String.ofList
  | _ => none

theorem hexValue?_digitChar : ∀ digit < 16, hexValue? (Nat.digitChar digit) = some digit := by
  decide

theorem hexNumber?_hexDigits (n : Nat) : hexNumber? (hexDigits n) = some n := by
  -- The digits of a number are those of its sixteenth, with one behind them.
  induction n using Nat.strongRecOn with
  | ind n ih =>
      by_cases small : n < 16
      · rw [hexDigits, Nat.toDigits_of_lt_base small, hexNumber?, List.foldlM_cons,
          hexValue?_digitChar n small]
        simp
      · have before := ih (n / 16) (by omega)
        have last := hexValue?_digitChar (n % 16) (by omega)
        rw [hexDigits, Nat.toDigits_of_base_le (by decide) (by omega), hexNumber?, List.foldlM_append]
        rw [hexDigits, hexNumber?] at before
        rw [before]
        simp only [List.foldlM_cons, List.foldlM_nil, last, Option.map_some, Option.bind_eq_bind,
          Option.bind_some, Option.pure_def, Option.some.injEq]
        omega

theorem length_hexDigits_le (c : Char) : (hexDigits c.toNat).length ≤ 6 := by
  rw [hexDigits, Nat.length_toDigits_le_iff (by decide) (by decide)]
  have valid := c.valid
  simp only [UInt32.isValidChar, Nat.isValidChar] at valid
  have code : c.toNat = c.val.toNat := rfl
  omega

theorem isSome_hexValue? {digits : List Char} : ∀ {value number : Nat},
    digits.foldlM (fun value digit => (hexValue? digit).map (value * 16 + ·)) value = some number →
      ∀ digit ∈ digits, (hexValue? digit).isSome := by
  induction digits with
  | nil => simp
  | cons first digits ih =>
      intro value number denotes
      rw [List.foldlM_cons] at denotes
      obtain ⟨raised, read, others⟩ := Option.bind_eq_some_iff.mp denotes
      obtain ⟨own, known, _⟩ := Option.map_eq_some_iff.mp read
      exact List.forall_mem_cons.mpr ⟨known ▸ rfl, ih others⟩

theorem isSome_hexValue?_of_mem_hexDigits {n : Nat} {digit : Char} (member : digit ∈ hexDigits n) :
    (hexValue? digit).isSome :=
  isSome_hexValue? (hexNumber?_hexDigits n) digit member

theorem hexDigits_ne_nil (n : Nat) : hexDigits n ≠ [] :=
  Nat.toDigits_ne_nil

theorem charOfCode?_toNat (c : Char) : charOfCode? c.toNat = some c := by
  have valid : c.toNat.isValidChar := c.valid
  rw [charOfCode?, if_pos valid, Char.ofNat_toNat]

/-! Quoted characters. -/

theorem readLiteral?_step {place next : LiteralPlace} {c : Char} {brought : List Char}
    (inside : place.mayEnd = false ∨ c ≠ '"') (step : place.step? c = some (next, brought))
    (rest : List Char) :
    readLiteral? place (c :: rest) = (readLiteral? next rest).map (brought ++ ·) := by
  have goes : ¬ (place.mayEnd && c = '"') = true := by
    rw [Bool.and_eq_true, decide_eq_true_eq]
    rintro ⟨ends, quote⟩
    rcases inside with stays | other
    · rw [stays] at ends
      cases ends
    · exact other quote
  rw [readLiteral?, if_neg goes, step, Option.bind_eq_bind, Option.bind_some]
  dsimp only
  cases readLiteral? next rest with
  | none => rfl
  | some others => rfl

theorem readLiteral?_backslash (rest : List Char) :
    readLiteral? .text ('\\' :: rest) = readLiteral? .escape rest := by
  have step : LiteralPlace.text.step? '\\' = some (.escape, []) := rfl
  rw [readLiteral?_step (Or.inr (by decide)) step]
  simp

theorem readLiteral?_letter {c escaped : Char} (letter : letterEscape? c = some escaped)
    (rest : List Char) :
    readLiteral? .text ('\\' :: c :: rest) = (readLiteral? .text rest).map (escaped :: ·) := by
  have others : c ≠ 'x' ∧ c ≠ 'u' ∧ c ≠ '\n' := by
    refine ⟨?_, ?_, ?_⟩
    · rintro rfl
      cases letter
    · rintro rfl
      cases letter
    · rintro rfl
      cases letter
  have step : LiteralPlace.escape.step? c = some (.text, [escaped]) := by
    rw [LiteralPlace.step?, if_neg others.1, if_neg others.2.1, if_neg others.2.2, letter]
    rfl
  rw [readLiteral?_backslash, readLiteral?_step (Or.inl rfl) step]
  rfl

theorem readLiteral?_digits {digits : List Char} (rest : List Char) : ∀ {count value number : Nat},
    digits.foldlM (fun value digit => (hexValue? digit).map (value * 16 + ·)) value = some number →
      count + digits.length ≤ 6 →
        readLiteral? (.code count value) (digits ++ rest) =
          readLiteral? (.code (count + digits.length) number) rest := by
  induction digits with
  | nil =>
      intro count value number denotes _
      cases denotes
      rfl
  | cons digit digits ih =>
      intro count value number denotes bound
      rw [List.foldlM_cons] at denotes
      obtain ⟨raised, first, others⟩ := Option.bind_eq_some_iff.mp denotes
      obtain ⟨own, known, rfl⟩ := Option.map_eq_some_iff.mp first
      rw [List.length_cons] at bound
      have noMark : digit ≠ '\x7d' ∧ digit ≠ '_' := by
        constructor
        · rintro rfl
          cases known
        · rintro rfl
          cases known
      have step : (LiteralPlace.code count value).step? digit =
          some (.code (count + 1) (value * 16 + own), []) := by
        have few : count < 6 := by omega
        simp [LiteralPlace.step?, noMark, few, known]
      rw [List.cons_append, readLiteral?_step (Or.inl rfl) step, ih others (by omega),
        List.length_cons, Nat.add_assoc, Nat.add_comm 1]
      simp

theorem readLiteral?_code (c : Char) (rest : List Char) :
    readLiteral? .text ('\\' :: 'u' :: '\x7b' :: (hexDigits c.toNat ++ '\x7d' :: rest)) =
      (readLiteral? .text rest).map (c :: ·) := by
  have opening : LiteralPlace.escape.step? 'u' = some (.brace, []) := rfl
  have opened : LiteralPlace.brace.step? '\x7b' = some (.code 0 0, []) := rfl
  have few : 0 + (hexDigits c.toNat).length ≤ 6 := by
    simpa using length_hexDigits_le c
  have digits := readLiteral?_digits ('\x7d' :: rest) (hexNumber?_hexDigits c.toNat) few
  have closing : (LiteralPlace.code (0 + (hexDigits c.toNat).length) c.toNat).step? '\x7d' =
      some (.text, [c]) := by
    simp [LiteralPlace.step?, hexDigits_ne_nil, charOfCode?_toNat]
  rw [readLiteral?_backslash, readLiteral?_step (Or.inl rfl) opening,
    readLiteral?_step (Or.inl rfl) opened, digits, readLiteral?_step (Or.inl rfl) closing]
  simp [Function.comp_def]

theorem readLiteral?_quoteChar (c : Char) (rest : List Char) :
    readLiteral? .text (quoteChar c ++ rest) = (readLiteral? .text rest).map (c :: ·) := by
  unfold quoteChar
  split
  · rename_i quote
    subst quote
    exact readLiteral?_letter rfl rest
  split
  · rename_i backslash
    subst backslash
    exact readLiteral?_letter rfl rest
  split
  · rename_i lineFeed
    subst lineFeed
    exact readLiteral?_letter rfl rest
  split
  · rename_i carriageReturn
    subst carriageReturn
    exact readLiteral?_letter rfl rest
  split
  · rename_i tab
    subst tab
    exact readLiteral?_letter rfl rest
  split
  · rename_i null
    subst null
    exact readLiteral?_letter rfl rest
  split
  · simp only [List.append_assoc, List.cons_append, List.nil_append]
    exact readLiteral?_code c rest
  · rename_i quote backslash lineFeed carriageReturn _ _ _
    have step : LiteralPlace.text.step? c = some (.text, [c]) := by
      simp [LiteralPlace.step?, LiteralPlace.readText?, backslash, carriageReturn]
    rw [List.singleton_append, readLiteral?_step (Or.inr quote) step]
    rfl

/-- A quoted text reads as the text. -/
theorem unquote?_quote (text : String) : unquote? (quote text) = some text := by
  have body : ∀ letters : List Char,
      readLiteral? .text (letters.flatMap quoteChar ++ ['"']) = some letters := by
    intro letters
    induction letters with
    | nil => rfl
    | cons c letters ih =>
        rw [List.flatMap_cons, List.append_assoc, readLiteral?_quoteChar, ih, Option.map_some]
  have literal : (quote text).toList = '"' :: (text.toList.flatMap quoteChar ++ ['"']) := by
    rw [quote, String.toList_ofList, List.cons_append]
  simp only [unquote?, literal, body, Option.map_some, String.ofList_toList]

theorem lineFeed_not_mem_quoteChar (c : Char) : '\n' ∉ quoteChar c := by
  unfold quoteChar
  split
  · decide
  split
  · decide
  split
  · decide
  split
  · decide
  split
  · decide
  split
  · decide
  split
  · rw [List.mem_append, List.mem_append, not_or, not_or]
    refine ⟨⟨by decide, fun digit => ?_⟩, by decide⟩
    exact absurd (isSome_hexValue?_of_mem_hexDigits digit) (by decide)
  · rename_i lineFeed _ _ _ _
    rw [List.mem_singleton]
    exact fun same => lineFeed same.symm

theorem lineFeed_not_mem_quote (text : String) : '\n' ∉ (quote text).toList := by
  rw [quote, String.toList_ofList, List.mem_append, List.mem_cons, List.mem_flatMap, not_or, not_or]
  refine ⟨⟨by decide, ?_⟩, by decide⟩
  rintro ⟨c, _, member⟩
  exact lineFeed_not_mem_quoteChar c member

example : unquote? "\"\\x41\\u\x7b1_f600\x7d\\\n  \\'\"" = some "A😀'" ∧ unquote? "\"a\"b\"" = none := by
  decide

end ShapeCompiler.Text
