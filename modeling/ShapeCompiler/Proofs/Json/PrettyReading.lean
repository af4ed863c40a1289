import ShapeCompiler.Json.Printer
import ShapeCompiler.Json.Reader

/-! Reading back what was printed. An indented text of a value without binary numbers stands for exactly that
value: its members in their order, its strings character for character and its numbers digit for digit. -/

namespace ShapeCompiler.Json

/-- All numbers in a value are whole. -/
inductive Exact : Json → Prop where
  | null : Exact null
  | bool (value : Bool) : Exact (bool value)
  | whole (value : Int) : Exact (number (.whole value))
  | string (value : String) : Exact (string value)
  | array {items : List Json} (each : ∀ item ∈ items, Exact item) : Exact (array items)
  | object {members : List (String × Json)} (each : ∀ member ∈ members, Exact member.2) :
      Exact (object members)

theorem exact_object_nil : Exact (object []) :=
  .object nofun

theorem exact_object_cons {member : String × Json} {members : List (String × Json)} :
    Exact (object (member :: members)) ↔ Exact member.2 ∧ Exact (object members) := by
  constructor
  · rintro (_ | _ | _ | _ | _ | each)
    have first := each member List.mem_cons_self
    exact ⟨first, .object fun other listed => each other (List.mem_cons_of_mem member listed)⟩
  · rintro ⟨first, _ | _ | _ | _ | _ | each⟩
    refine .object fun other listed => ?_
    rcases List.mem_cons.mp listed with rfl | listed
    · exact first
    · exact each other listed

def Numeral.int? (numeral : Numeral) : Option Int :=
  match numeral.fraction, numeral.exponent with
  | none, none =>
      some (if numeral.negative then -(digitsValue numeral.whole : Int) else digitsValue numeral.whole)
  | _, _ => none

mutual

def Written.exactly? : Written → Option Json
  | .null => some .null
  | .bool value => some (.bool value)
  | .number numeral => numeral.int?.map fun value => .number (.whole value)
  | .string value => some (.string value)
  | .array items => (exactItems? items).map .array
  | .object members => (exactMembers? members).map .object

def Written.exactItems? : List Written → Option (List Json)
  | [] => some []
  | item :: items => do
      let value ← item.exactly?
      let values ← exactItems? items
      return value :: values

def Written.exactMembers? : List (String × Written) → Option (List (String × Json))
  | [] => some []
  | (name, value) :: members => do
      let value ← value.exactly?
      let values ← exactMembers? members
      return (name, value) :: values

end

def readExactly? (text : String) : Option Json :=
  (readWritten? text).bind Written.exactly?

attribute [local simp] readStringRest readValue

theorem hexValue?_hexDigit : ∀ value < 16, Text.hexValue? (hexDigit value) = some value := by
  decide

theorem not_surrogate {code : Nat} (low : code < 32) :
    isHighSurrogate code = false ∧ isLowSurrogate code = false := by
  constructor
  · simp only [isHighSurrogate, Bool.and_eq_false_iff, decide_eq_false_iff_not]
    omega
  · simp only [isLowSurrogate, Bool.and_eq_false_iff, decide_eq_false_iff_not]
    omega

theorem hexNumber?_low {code : Nat} (low : code < 32) :
    Text.hexNumber? ['0', '0', hexDigit (code / 16), hexDigit (code % 16)] = some code := by
  have upper := hexValue?_hexDigit (code / 16) (by omega)
  have lower := hexValue?_hexDigit (code % 16) (by omega)
  have zero : Text.hexValue? '0' = some 0 := by decide
  have whole : code / 16 * 16 + code % 16 = code := by omega
  simp [Text.hexNumber?, zero, upper, lower, whole]

theorem readStringRest_short {letter c : Char} (short : shortEscape? letter = some c)
    (rest : List Char) :
    readStringRest ('\\' :: letter :: rest) =
      (readStringRest rest).map fun (text, after) => (c :: text, after) := by
  rw [readStringRest]
  · rw [short]
  · intro _ _ _ _ _ same
    subst same
    cases short

theorem readStringRest_escapeChar (c : Char) (rest : List Char) :
    readStringRest (escapeChar c ++ rest) =
      (readStringRest rest).map fun (text, after) => (c :: text, after) := by
  unfold escapeChar
  split
  · rename_i quote
    subst quote
    exact readStringRest_short rfl rest
  split
  · rename_i backslash
    subst backslash
    exact readStringRest_short rfl rest
  split
  · rename_i backspace
    subst backspace
    exact readStringRest_short rfl rest
  split
  · rename_i formFeed
    subst formFeed
    exact readStringRest_short rfl rest
  split
  · rename_i lineFeed
    subst lineFeed
    exact readStringRest_short rfl rest
  split
  · rename_i carriageReturn
    subst carriageReturn
    exact readStringRest_short rfl rest
  split
  · rename_i tab
    subst tab
    exact readStringRest_short rfl rest
  split
  · rename_i low
    obtain ⟨high, trailing⟩ := not_surrogate low
    simp only [List.cons_append, List.nil_append]
    rw [readStringRest, hexNumber?_low low]
    simp only [high, trailing, Bool.false_eq_true, if_false, Char.ofNat_toNat]
  · rename_i quote backslash _ _ _ _ _ low
    rw [List.singleton_append, readStringRest]
    · simp [low, backslash]
    · exact quote
    · intro _ _ _ _ _ same
      exact absurd same backslash
    · intro _ _ same
      exact absurd same backslash

theorem readStringRest_flatMap (text rest : List Char) :
    readStringRest (text.flatMap escapeChar ++ '"' :: rest) = some (text, rest) := by
  induction text with
  | nil => simp
  | cons c text ih =>
      rw [List.flatMap_cons, List.append_assoc, readStringRest_escapeChar, ih]
      rfl

def Ends (rest : List Char) : Prop :=
  ∀ c ∈ rest.head?, c = ',' ∨ c = '\n'

theorem ends_cons {c : Char} (rest : List Char) (mark : c = ',' ∨ c = '\n') : Ends (c :: rest) := by
  intro other first
  rw [List.head?_cons, Option.mem_some_iff] at first
  exact first ▸ mark

theorem Ends.cases {rest : List Char} (ends : Ends rest) :
    rest = [] ∨ ∃ c others, rest = c :: others ∧ (c = ',' ∨ c = '\n') := by
  cases rest with
  | nil => exact .inl rfl
  | cons c others => exact .inr ⟨c, others, rfl, ends c rfl⟩

theorem digitsValue_toDigits (value : Nat) : digitsValue (Nat.toDigits 10 value) = value := by
  have same : ∀ digits, digitsValue digits = Nat.ofDigitChars 10 digits 0 := by
    intro digits
    simp only [digitsValue, Nat.ofDigitChars, digitValue, Nat.mul_comm]
  rw [same, Nat.ofDigitChars_toDigits (by decide) (by decide)]

theorem head?_toDigits (value : Nat) (positive : 0 < value) :
    (Nat.toDigits 10 value).head? ≠ some '0' := by
  induction value using Nat.strongRecOn with
  | ind value ih =>
      by_cases small : value < 10
      · rw [Nat.toDigits_of_lt_base small]
        have digits : ∀ digit < 10, 0 < digit → [Nat.digitChar digit].head? ≠ some '0' := by
          decide
        exact digits value small positive
      · have shorter := ih (value / 10) (by omega) (by omega)
        rw [Nat.toDigits_of_base_le (by decide) (by omega), List.head?_append]
        cases first : (Nat.toDigits 10 (value / 10)).head? with
        | none => exact absurd (List.head?_eq_none_iff.mp first) Nat.toDigits_ne_nil
        | some c => rwa [first] at shorter

theorem toDigits_wellFormed (value : Nat) :
    ((Nat.toDigits 10 value).isEmpty || ((Nat.toDigits 10 value).head? == some '0' &&
      decide (1 < (Nat.toDigits 10 value).length))) = false := by
  have filled : (Nat.toDigits 10 value).isEmpty = false :=
    List.isEmpty_eq_false_iff.mpr Nat.toDigits_ne_nil
  rw [filled, Bool.false_or]
  by_cases positive : 0 < value
  · have leads := beq_eq_false_iff_ne.mpr (head?_toDigits value positive)
    rw [leads, Bool.false_and]
  · have zero : value = 0 := by omega
    rw [zero]
    decide

theorem takeWhile_toDigits (value : Nat) {rest : List Char} (ends : Ends rest) :
    (Nat.toDigits 10 value ++ rest).takeWhile Char.isDigit = Nat.toDigits 10 value ∧
      (Nat.toDigits 10 value ++ rest).dropWhile Char.isDigit = rest := by
  have digits : ∀ c ∈ Nat.toDigits 10 value, c.isDigit = true := fun c member =>
    Nat.isDigit_of_mem_toDigits (by decide) (by decide) member
  rw [List.takeWhile_append_of_pos digits, List.dropWhile_append_of_pos digits]
  rcases ends.cases with rfl | ⟨c, others, rfl, rfl | rfl⟩
  · simp
  · simp
  · simp

theorem readUnsigned?_toDigits (negative : Bool) (value : Nat) {rest : List Char}
    (ends : Ends rest) :
    readUnsigned? negative (Nat.toDigits 10 value ++ rest) =
      some (⟨negative, Nat.toDigits 10 value, none, none⟩, rest) := by
  obtain ⟨digits, after⟩ := takeWhile_toDigits value ends
  simp only [readUnsigned?, digits, after, toDigits_wellFormed]
  rcases ends.cases with rfl | ⟨c, others, rfl, rfl | rfl⟩
  · simp [readFraction?, readExponent?]
  · simp [readFraction?, readExponent?]
  · simp [readFraction?, readExponent?]

theorem numberChars_whole (value : Int) :
    numberChars (.whole value) =
      (if value < 0 then ['-'] else []) ++ Nat.toDigits 10 value.natAbs := by
  cases value with
  | ofNat value => simp [numberChars, toString, Int.repr, Nat.repr]
  | negSucc value => simp [numberChars, toString, Int.repr, Nat.repr]

theorem toDigits_cons (value : Nat) :
    ∃ digit digits, Nat.toDigits 10 value = digit :: digits ∧ digit.isDigit = true := by
  cases shape : Nat.toDigits 10 value with
  | nil => exact absurd shape Nat.toDigits_ne_nil
  | cons digit digits =>
      have member : digit ∈ Nat.toDigits 10 value := shape ▸ List.mem_cons_self
      exact ⟨digit, digits, rfl, Nat.isDigit_of_mem_toDigits (by decide) (by decide) member⟩

theorem readNumeral?_numberChars (value : Int) {rest : List Char} (ends : Ends rest) :
    ∃ numeral, readNumeral? (numberChars (.whole value) ++ rest) = some (numeral, rest) ∧
      numeral.int? = some value := by
  rw [numberChars_whole]
  by_cases negative : value < 0
  · refine ⟨⟨true, Nat.toDigits 10 value.natAbs, none, none⟩, ?_, ?_⟩
    · rw [if_pos negative, List.cons_append, List.nil_append, List.cons_append]
      exact readUnsigned?_toDigits true value.natAbs ends
    · simp only [Numeral.int?, if_true, digitsValue_toDigits, Option.some.injEq]
      omega
  -- Without a sign, the first digit tells that the numeral does not start with one.
  · refine ⟨⟨false, Nat.toDigits 10 value.natAbs, none, none⟩, ?_, ?_⟩
    · obtain ⟨digit, digits, shape, isDigit⟩ := toDigits_cons value.natAbs
      have unsigned := readUnsigned?_toDigits false value.natAbs ends
      rw [if_neg negative, List.nil_append]
      rw [shape, List.cons_append] at unsigned ⊢
      rw [readNumeral?]
      · exact unsigned
      · intro _ same
        rw [(List.cons.inj same).1] at isDigit
        exact absurd isDigit (by decide)
    · simp only [Numeral.int?, Bool.false_eq_true, if_false, digitsValue_toDigits, Option.some.injEq]
      omega

/-! Values -/

theorem skipSpace_cons {c : Char} (rest : List Char) (filled : isSpace c = false) :
    skipSpace (c :: rest) = c :: rest := by
  rw [skipSpace, List.dropWhile_cons_of_neg (by rw [filled]; exact Bool.false_ne_true)]

theorem skipSpace_lineStart (level : Nat) (rest : List Char) :
    skipSpace (lineStart level ++ rest) = skipSpace rest := by
  have blank : ∀ c ∈ lineStart level, isSpace c = true := by
    intro c member
    rcases List.mem_cons.mp member with rfl | space
    · decide
    · rw [(List.mem_replicate.mp space).2]
      decide
  exact List.dropWhile_append_of_pos blank

theorem readValue_skipped {text other : List Char} (same : skipSpace text = skipSpace other)
    (fuel depth : Nat) : readValue fuel depth text = readValue fuel depth other := by
  cases fuel with
  | zero => rw [readValue, readValue]
  | succ fuel => rw [readValue, readValue, same]

theorem readItems_skipped {text other : List Char} (same : skipSpace text = skipSpace other)
    (fuel depth : Nat) : readItems fuel depth text = readItems fuel depth other := by
  cases fuel with
  | zero => rw [readItems, readItems]
  | succ fuel => rw [readItems, readItems, readValue_skipped same]

theorem readMembers_skipped {text other : List Char} (same : skipSpace text = skipSpace other)
    (fuel depth : Nat) : readMembers fuel depth text = readMembers fuel depth other := by
  cases fuel with
  | zero => rw [readMembers, readMembers]
  | succ fuel => rw [readMembers, readMembers, same]

/-- The text of a value, at any level and before anything that ends it, is read as the value. The length of
the text bounds both the recursion and the nesting. -/
def ReadsBack (value : Json) : Prop :=
  ∀ (level fuel depth : Nat) (rest : List Char), Ends rest →
    2 * (prettyChars level value).length ≤ fuel + 1 → (prettyChars level value).length ≤ depth →
    ∃ written, readValue (fuel + 1) depth (prettyChars level value ++ rest) = some (written, rest) ∧
      written.exactly? = some value

theorem readsBack_null : ReadsBack null := by
  intro level fuel depth rest _ _ _
  refine ⟨.null, ?_, rfl⟩
  simp [prettyChars, skipSpace, isSpace]

theorem readsBack_bool (value : Bool) : ReadsBack (bool value) := by
  intro level fuel depth rest _ _ _
  refine ⟨.bool value, ?_, rfl⟩
  cases value with
  | true => simp [prettyChars, skipSpace, isSpace]
  | false => simp [prettyChars, skipSpace, isSpace]

theorem readsBack_string (value : String) : ReadsBack (string value) := by
  intro level fuel depth rest _ _ _
  refine ⟨.string value, ?_, rfl⟩
  have text := readStringRest_flatMap value.toList rest
  simp only [prettyChars, stringChars, List.cons_append, List.append_assoc, List.nil_append, readValue]
  rw [skipSpace_cons _ (by decide)]
  simp only [text, Option.map_some, String.ofList_toList]

theorem numberChars_cons (value : Int) :
    ∃ first others, numberChars (.whole value) = first :: others ∧
      (first = '-' ∨ first.isDigit = true) := by
  rw [numberChars_whole]
  split
  · exact ⟨'-', _, rfl, .inl rfl⟩
  · obtain ⟨digit, digits, shape, isDigit⟩ := toDigits_cons value.natAbs
    exact ⟨digit, digits, shape, .inr isDigit⟩

theorem ne_of_leads {first mark : Char} (leads : first = '-' ∨ first.isDigit = true)
    (noSign : mark ≠ '-') (noDigit : mark.isDigit = false) : first ≠ mark := by
  rintro rfl
  rcases leads with sign | digit
  · exact noSign sign
  · exact absurd (noDigit.symm.trans digit) Bool.false_ne_true

theorem readValue_number {first : Char} (others : List Char)
    (leads : first = '-' ∨ first.isDigit = true) (fuel depth : Nat) :
    readValue (fuel + 1) depth (first :: others) =
      (readNumeral? (first :: others)).map fun (value, after) => (.number value, after) := by
  have filled : isSpace first = false := by
    have space : first ≠ ' ' := ne_of_leads leads (by decide) (by decide)
    have lineFeed : first ≠ '\n' := ne_of_leads leads (by decide) (by decide)
    have carriageReturn : first ≠ '\r' := ne_of_leads leads (by decide) (by decide)
    have tab : first ≠ '\t' := ne_of_leads leads (by decide) (by decide)
    simp [isSpace, space, lineFeed, carriageReturn, tab]
  rw [readValue, skipSpace_cons others filled]
  split
  case h_7 => rfl
  -- Every other kind of value starts with a mark of its own.
  all_goals
    rename_i same
    exact absurd (List.cons.inj same).1 (ne_of_leads leads (by decide) (by decide))

theorem readsBack_number (value : Int) : ReadsBack (number (.whole value)) := by
  intro level fuel depth rest ends _ _
  obtain ⟨numeral, read, same⟩ := readNumeral?_numberChars value ends
  obtain ⟨first, others, shape, leads⟩ := numberChars_cons value
  refine ⟨.number numeral, ?_, by rw [Written.exactly?, same, Option.map_some]⟩
  rw [prettyChars, shape, List.cons_append, readValue_number _ leads, ← List.cons_append, ← shape, read,
    Option.map_some]

theorem ReadsBack.read {value : Json} (back : ReadsBack value) (level : Nat) {fuel depth : Nat}
    {rest : List Char} (ends : Ends rest) (positive : 0 < fuel)
    (enough : 2 * (prettyChars level value).length ≤ fuel)
    (deep : (prettyChars level value).length ≤ depth) :
    ∃ written, readValue fuel depth (prettyChars level value ++ rest) = some (written, rest) ∧
      written.exactly? = some value := by
  cases fuel with
  | zero => exact absurd positive (Nat.lt_irrefl 0)
  | succ fuel => exact back level fuel depth rest ends enough deep

theorem ends_prettyItems (level : Nat) (items : List Json) (rest : List Char) :
    Ends (prettyItems level items ++ rest) := by
  cases items with
  | nil => exact ends_cons _ (.inr rfl)
  | cons item items => exact ends_cons _ (.inl rfl)

theorem length_prettyItems (level : Nat) (items : List Json) :
    2 ≤ (prettyItems level items).length := by
  cases items with
  | nil => simp [prettyItems, lineStart]
  | cons item items =>
      simp only [prettyItems, lineStart, List.length_cons, List.length_append]
      omega

theorem skipSpace_prettyItems_nil (level : Nat) (rest : List Char) :
    skipSpace (prettyItems level [] ++ rest) = ']' :: rest := by
  rw [prettyItems, List.append_assoc, skipSpace_lineStart, List.singleton_append,
    skipSpace_cons rest (by decide)]

theorem skipSpace_prettyItems_cons (level : Nat) (item : Json) (items : List Json)
    (rest : List Char) :
    skipSpace (prettyItems level (item :: items) ++ rest) =
      ',' :: (lineStart (level + 1) ++
        (prettyChars (level + 1) item ++ (prettyItems level items ++ rest))) := by
  simp only [prettyItems, List.cons_append, List.append_assoc]
  rw [skipSpace_cons _ (by decide)]

theorem readItems_last {text after rest : List Char} {written : Written} {fuel depth : Nat}
    (read : readValue fuel depth text = some (written, after))
    (closes : skipSpace after = ']' :: rest) :
    readItems (fuel + 1) depth text = some ([written], rest) := by
  rw [readItems]
  simp only [read, closes]

theorem readItems_next {text after more rest : List Char} {written : Written}
    {others : List Written} {fuel depth : Nat}
    (read : readValue fuel depth text = some (written, after))
    (goes : skipSpace after = ',' :: more)
    (reads : readItems fuel depth more = some (others, rest)) :
    readItems (fuel + 1) depth text = some (written :: others, rest) := by
  rw [readItems]
  simp only [read, goes, reads, Option.map_some]

theorem readItems_prettyItems (items : List Json) :
    ∀ {item : Json}, ReadsBack item → (∀ other ∈ items, ReadsBack other) →
    ∀ (level fuel depth : Nat) (rest : List Char),
      2 * ((prettyChars (level + 1) item).length + (prettyItems level items).length) ≤ fuel →
      (prettyChars (level + 1) item).length + (prettyItems level items).length ≤ depth →
      ∃ written, readItems fuel depth
          (prettyChars (level + 1) item ++ (prettyItems level items ++ rest)) =
            some (written, rest) ∧
        Written.exactItems? written = some (item :: items) := by
  -- An item spends one unit of fuel, and what stands between items is longer than that. So the bound
  -- by the length holds again for the items behind the first.
  induction items with
  | nil =>
      intro item back _ level fuel depth rest enough deep
      have size := length_prettyItems level []
      obtain ⟨fuel, rfl⟩ := Nat.exists_eq_add_one.mpr (by omega : 0 < fuel)
      obtain ⟨written, read, same⟩ := back.read (level + 1) (ends_prettyItems level [] rest)
        (by omega : 0 < fuel) (by omega) (by omega : _ ≤ depth)
      refine ⟨[written], readItems_last read (skipSpace_prettyItems_nil level rest), ?_⟩
      rw [Written.exactItems?, same]
      rfl
  | cons next items ih =>
      intro item back backs level fuel depth rest enough deep
      have size := length_prettyItems level items
      have longer : (prettyItems level (next :: items)).length =
          1 + (lineStart (level + 1)).length + (prettyChars (level + 1) next).length +
            (prettyItems level items).length := by
        simp only [prettyItems, List.length_cons, List.length_append]
        omega
      obtain ⟨fuel, rfl⟩ := Nat.exists_eq_add_one.mpr (by omega : 0 < fuel)
      obtain ⟨written, read, same⟩ :=
        back.read (level + 1) (ends_prettyItems level (next :: items) rest)
          (by omega : 0 < fuel) (by omega) (by omega : _ ≤ depth)
      have tail := fun other member => backs other (List.mem_cons_of_mem next member)
      obtain ⟨others, reads, sames⟩ :=
        ih (backs next List.mem_cons_self) tail level fuel depth rest (by omega) (by omega)
      have goes := skipSpace_prettyItems_cons level next items rest
      rw [← readItems_skipped (skipSpace_lineStart (level + 1) _)] at reads
      refine ⟨written :: others, readItems_next read goes reads, ?_⟩
      rw [Written.exactItems?, same, sames]
      rfl

def memberChars (level : Nat) (member : String × Json) : List Char :=
  stringChars member.1 ++ ':' :: ' ' :: prettyChars level member.2

theorem ends_prettyMembers (level : Nat) (members : List (String × Json)) (rest : List Char) :
    Ends (prettyMembers level members ++ rest) := by
  cases members with
  | nil => exact ends_cons _ (.inr rfl)
  | cons member members => exact ends_cons _ (.inl rfl)

theorem length_prettyMembers (level : Nat) (members : List (String × Json)) :
    2 ≤ (prettyMembers level members).length := by
  cases members with
  | nil => simp [prettyMembers, lineStart]
  | cons member members =>
      simp only [prettyMembers, lineStart, List.length_cons, List.length_append]
      omega

theorem prettyMembers_cons (level : Nat) (member : String × Json) (members : List (String × Json)) :
    prettyMembers level (member :: members) =
      ',' :: lineStart (level + 1) ++ memberChars (level + 1) member ++ prettyMembers level members := by
  obtain ⟨name, value⟩ := member
  simp only [prettyMembers, memberChars, List.append_assoc, List.cons_append, List.nil_append]

theorem skipSpace_prettyMembers_nil (level : Nat) (rest : List Char) :
    skipSpace (prettyMembers level [] ++ rest) = '\x7d' :: rest := by
  rw [prettyMembers, List.append_assoc, skipSpace_lineStart, List.singleton_append,
    skipSpace_cons rest (by decide)]

theorem skipSpace_prettyMembers_cons (level : Nat) (member : String × Json)
    (members : List (String × Json)) (rest : List Char) :
    skipSpace (prettyMembers level (member :: members) ++ rest) =
      ',' :: (lineStart (level + 1) ++
        (memberChars (level + 1) member ++ (prettyMembers level members ++ rest))) := by
  simp only [prettyMembers_cons, List.cons_append, List.append_assoc]
  rw [skipSpace_cons _ (by decide)]

theorem memberChars_append (level : Nat) (member : String × Json) (rest : List Char) :
    memberChars level member ++ rest =
      '"' :: (member.1.toList.flatMap escapeChar ++
        '"' :: ':' :: ' ' :: (prettyChars level member.2 ++ rest)) := by
  simp only [memberChars, stringChars, List.cons_append, List.append_assoc, List.nil_append]

theorem length_memberChars (level : Nat) (member : String × Json) :
    (prettyChars level member.2).length ≤ (memberChars level member).length := by
  simp only [memberChars, List.length_append, List.length_cons]
  omega

theorem skipSpace_space (rest : List Char) : skipSpace (' ' :: rest) = skipSpace rest := by
  rfl

theorem readMembers_last {member : String × Json} {text after rest : List Char} {written : Written}
    {fuel depth level : Nat}
    (read : readValue fuel depth (prettyChars level member.2 ++ text) = some (written, after))
    (closes : skipSpace after = '\x7d' :: rest) :
    readMembers (fuel + 1) depth (memberChars level member ++ text) =
      some ([(member.1, written)], rest) := by
  rw [readMembers, memberChars_append, skipSpace_cons _ (by decide)]
  simp only [readStringRest_flatMap]
  rw [skipSpace_cons _ (by decide)]
  simp only [readValue_skipped (skipSpace_space _), read, closes, String.ofList_toList]

theorem readMembers_next {member : String × Json} {text after more rest : List Char}
    {written : Written} {others : List (String × Written)} {fuel depth level : Nat}
    (read : readValue fuel depth (prettyChars level member.2 ++ text) = some (written, after))
    (goes : skipSpace after = ',' :: more)
    (reads : readMembers fuel depth more = some (others, rest)) :
    readMembers (fuel + 1) depth (memberChars level member ++ text) =
      some ((member.1, written) :: others, rest) := by
  rw [readMembers, memberChars_append, skipSpace_cons _ (by decide)]
  simp only [readStringRest_flatMap]
  rw [skipSpace_cons _ (by decide)]
  simp only [readValue_skipped (skipSpace_space _), read, goes, reads, String.ofList_toList,
    Option.map_some]

theorem readMembers_prettyMembers (members : List (String × Json)) :
    ∀ {member : String × Json}, ReadsBack member.2 → (∀ other ∈ members, ReadsBack other.2) →
    ∀ (level fuel depth : Nat) (rest : List Char),
      2 * ((memberChars (level + 1) member).length + (prettyMembers level members).length) ≤ fuel →
      (memberChars (level + 1) member).length + (prettyMembers level members).length ≤ depth →
      ∃ written, readMembers fuel depth
          (memberChars (level + 1) member ++ (prettyMembers level members ++ rest)) =
            some (written, rest) ∧
        Written.exactMembers? written = some (member :: members) := by
  induction members with
  | nil =>
      intro member back _ level fuel depth rest enough deep
      have size := length_prettyMembers level []
      have shorter := length_memberChars (level + 1) member
      obtain ⟨fuel, rfl⟩ := Nat.exists_eq_add_one.mpr (by omega : 0 < fuel)
      obtain ⟨written, read, same⟩ := back.read (level + 1) (ends_prettyMembers level [] rest)
        (by omega : 0 < fuel) (by omega) (by omega : _ ≤ depth)
      have closes := skipSpace_prettyMembers_nil level rest
      refine ⟨[(member.1, written)], readMembers_last read closes, ?_⟩
      rw [Written.exactMembers?, same]
      rfl
  | cons next members ih =>
      intro member back backs level fuel depth rest enough deep
      have size := length_prettyMembers level members
      have shorter := length_memberChars (level + 1) member
      have longer : (prettyMembers level (next :: members)).length =
          1 + (lineStart (level + 1)).length + (memberChars (level + 1) next).length +
            (prettyMembers level members).length := by
        simp only [prettyMembers_cons, List.length_cons, List.length_append]
        omega
      obtain ⟨fuel, rfl⟩ := Nat.exists_eq_add_one.mpr (by omega : 0 < fuel)
      obtain ⟨written, read, same⟩ :=
        back.read (level + 1) (ends_prettyMembers level (next :: members) rest)
          (by omega : 0 < fuel) (by omega) (by omega : _ ≤ depth)
      have tail := fun other member => backs other (List.mem_cons_of_mem next member)
      obtain ⟨others, reads, sames⟩ :=
        ih (backs next List.mem_cons_self) tail level fuel depth rest (by omega) (by omega)
      have goes := skipSpace_prettyMembers_cons level next members rest
      rw [← readMembers_skipped (skipSpace_lineStart (level + 1) _)] at reads
      refine ⟨(member.1, written) :: others, readMembers_next read goes reads, ?_⟩
      rw [Written.exactMembers?, same, sames]
      rfl

theorem readItems_bracket {text after : List Char} (closes : skipSpace text = ']' :: after)
    (fuel depth : Nat) : readItems fuel depth text = none := by
  have nothing : readValue (fuel - 1) depth text = none := by
    cases fuel - 1 with
    | zero => rw [readValue]
    | succ fuel =>
        rw [readValue]
        simp [closes, readNumeral?, readUnsigned?]
  cases fuel with
  | zero => rw [readItems]
  | succ fuel =>
      rw [Nat.add_sub_cancel] at nothing
      rw [readItems, nothing]

theorem readValue_array {text rest : List Char} {items : List Written} {fuel depth : Nat}
    (reads : readItems fuel depth text = some (items, rest)) :
    readValue (fuel + 1) (depth + 1) ('[' :: text) = some (.array items, rest) := by
  rw [readValue, skipSpace_cons text (by decide)]
  simp only
  split
  · rename_i closes
    rw [readItems_bracket closes] at reads
    cases reads
  · rw [reads, Option.map_some]

theorem readMembers_brace {text after : List Char} (closes : skipSpace text = '\x7d' :: after)
    (fuel depth : Nat) : readMembers fuel depth text = none := by
  cases fuel with
  | zero => rw [readMembers]
  | succ fuel =>
      rw [readMembers]
      simp [closes]

theorem readValue_object {text rest : List Char} {members : List (String × Written)}
    {fuel depth : Nat} (reads : readMembers fuel depth text = some (members, rest)) :
    readValue (fuel + 1) (depth + 1) ('\x7b' :: text) = some (.object members, rest) := by
  rw [readValue, skipSpace_cons text (by decide)]
  simp only
  split
  · rename_i closes
    rw [readMembers_brace closes] at reads
    cases reads
  · rw [reads, Option.map_some]

theorem readsBack_array {items : List Json} (backs : ∀ item ∈ items, ReadsBack item) :
    ReadsBack (array items) := by
  cases items with
  | nil =>
      intro level fuel depth rest _ _ deep
      rw [prettyChars, List.length_cons] at deep
      obtain ⟨depth, rfl⟩ := Nat.exists_eq_add_one.mpr (by omega : 0 < depth)
      refine ⟨.array [], ?_, rfl⟩
      simp [prettyChars, skipSpace, isSpace]
  | cons item items =>
      intro level fuel depth rest ends enough deep
      simp only [prettyChars, List.cons_append, List.append_assoc, List.length_cons,
        List.length_append] at enough deep ⊢
      obtain ⟨depth, rfl⟩ := Nat.exists_eq_add_one.mpr (by omega : 0 < depth)
      have tail := fun other member => backs other (List.mem_cons_of_mem item member)
      obtain ⟨written, reads, same⟩ :=
        readItems_prettyItems items (backs item List.mem_cons_self) tail level fuel depth rest
          (by omega) (by omega)
      refine ⟨.array written, ?_, by rw [Written.exactly?, same, Option.map_some]⟩
      rw [← readItems_skipped (skipSpace_lineStart (level + 1) _)] at reads
      exact readValue_array reads

theorem readsBack_object {members : List (String × Json)}
    (backs : ∀ member ∈ members, ReadsBack member.2) : ReadsBack (object members) := by
  cases members with
  | nil =>
      intro level fuel depth rest _ _ deep
      rw [prettyChars, List.length_cons] at deep
      obtain ⟨depth, rfl⟩ := Nat.exists_eq_add_one.mpr (by omega : 0 < depth)
      refine ⟨.object [], ?_, rfl⟩
      simp [prettyChars, skipSpace, isSpace]
  | cons member members =>
      intro level fuel depth rest ends enough deep
      have shape : prettyChars level (object (member :: members)) =
          '\x7b' :: (lineStart (level + 1) ++
            (memberChars (level + 1) member ++ prettyMembers level members)) := by
        obtain ⟨name, value⟩ := member
        simp only [prettyChars, memberChars, List.append_assoc, List.cons_append, List.nil_append]
      simp only [shape, List.cons_append, List.append_assoc, List.length_cons,
        List.length_append] at enough deep ⊢
      obtain ⟨depth, rfl⟩ := Nat.exists_eq_add_one.mpr (by omega : 0 < depth)
      have tail := fun other member => backs other (List.mem_cons_of_mem _ member)
      obtain ⟨written, reads, same⟩ :=
        readMembers_prettyMembers members (backs member List.mem_cons_self) tail level fuel depth rest
          (by omega) (by omega)
      refine ⟨.object written, ?_, by rw [Written.exactly?, same, Option.map_some]⟩
      rw [← readMembers_skipped (skipSpace_lineStart (level + 1) _)] at reads
      exact readValue_object reads

theorem Exact.readsBack {value : Json} (exact : Exact value) : ReadsBack value := by
  induction exact with
  | null => exact readsBack_null
  | bool value => exact readsBack_bool value
  | whole value => exact readsBack_number value
  | string value => exact readsBack_string value
  | array _ ih => exact readsBack_array ih
  | object _ ih => exact readsBack_object ih

theorem readExactly?_pretty {value : Json} (exact : Exact value) :
    readExactly? (value.pretty ++ "\n") = some value := by
  have text : (value.pretty ++ "\n").toList = prettyChars 0 value ++ ['\n'] := by
    rw [String.toList_append, pretty, String.toList_ofList]
    rfl
  obtain ⟨written, read, same⟩ := exact.readsBack 0 (2 * (prettyChars 0 value ++ ['\n']).length + 1)
    (prettyChars 0 value ++ ['\n']).length ['\n'] (ends_cons [] (.inr rfl))
    (by rw [List.length_append]; omega) (by rw [List.length_append]; omega)
  have blank : (skipSpace ['\n']).isEmpty = true := by
    decide
  simp only [readExactly?, readWritten?, readWrittenWithin?, text, read, blank, if_true, Option.bind_some,
    same]

end ShapeCompiler.Json
