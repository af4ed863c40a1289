import Mathlib.Data.List.TakeWhile
import ShapeCompiler.Proofs.Render.Names

/-! Which generated names are identifiers. Names of ASCII give identifiers, with three kinds of exceptions:
without a letter or digit nothing but an underscore is left, some reserved words are missing among the
keywords, and no keyword is looked for in pascal case. -/

namespace ShapeCompiler.Render

/-- The words that are used by the language, and those that it reserves. -/
def reservedWords : List String :=
  ["as", "async", "await", "break", "const", "continue", "crate", "dyn", "else", "enum", "extern",
    "false", "fn", "for", "if", "impl", "in", "let", "loop", "match", "mod", "move", "mut", "pub",
    "ref", "return", "self", "Self", "static", "struct", "super", "trait", "true", "type", "unsafe",
    "use", "where", "while", "abstract", "become", "box", "do", "final", "macro", "override", "priv",
    "try", "typeof", "unsized", "virtual", "yield"]

/-- The reserved words that are written without a mark behind them. -/
def unmarkedWords : List String :=
  reservedWords.filter fun word => !keywords.contains word

def isWordCharacter (c : Char) : Bool :=
  c.isAlphanum || c == '_'

/-- A name that can be declared: it is made of letters, digits and underscores, does not start with a digit,
and is neither a reserved word nor an underscore alone. -/
structure IsIdentifier (name : String) : Prop where
  filled : name ≠ ""
  characters : ∀ c ∈ name.toList, isWordCharacter c = true
  start : ∀ c, name.toList.head? = some c → c.isDigit = false
  free : name ∉ reservedWords
  named : name ≠ "_"

def IsAscii (name : String) : Prop :=
  ∀ c ∈ name.toList, Text.isAscii c = true

theorem isAscii_of_all {name : String} (all : name.toList.all Text.isAscii = true) : IsAscii name :=
  List.all_eq_true.mp all

def HasAlphanumeric (name : String) : Prop :=
  ∃ c ∈ name.toList, Text.isAlphanumeric c = true

theorem guardStart_ne_nil (mark : Char) (name : List Char) : guardStart mark name ≠ [] := by
  cases name with
  | nil => exact List.cons_ne_nil mark []
  | cons c rest =>
      simp only [guardStart]
      split
      · exact List.cons_ne_nil mark _
      · exact List.cons_ne_nil c rest

theorem head?_guardStart {mark : Char} (plain : mark.isDigit = false) {name : List Char} {c : Char}
    (first : (guardStart mark name).head? = some c) : c.isDigit = false := by
  cases name with
  | nil =>
      cases first
      exact plain
  | cons d rest =>
      simp only [guardStart] at first
      split at first
      · cases first
        exact plain
      · rename_i letter
        cases first
        exact Bool.eq_false_iff.mpr letter

theorem snakeCase_eq (name : String) : ∃ trimmed : List Char,
    trimmed = ((snakeFrom [] none name.toList).dropWhile (· == '_')).reverse ∧
      (snakeCase name = String.ofList (guardStart '_' trimmed) ∧ snakeCase name ∉ keywords ∨
        snakeCase name = String.ofList (guardStart '_' trimmed) ++ "_" ∧
          String.ofList (guardStart '_' trimmed) ∈ keywords) := by
  refine ⟨_, rfl, ?_⟩
  unfold snakeCase
  dsimp only
  split
  · rename_i keyword
    exact Or.inr ⟨rfl, List.contains_iff_mem.mp keyword⟩
  · rename_i other
    exact Or.inl ⟨rfl, fun member => other (List.contains_iff_mem.mpr member)⟩

theorem snakeCase_ne_empty (name : String) : snakeCase name ≠ "" := by
  obtain ⟨trimmed, -, ⟨written, -⟩ | ⟨written, -⟩⟩ := snakeCase_eq name
  · rw [written, Ne, String.ofList_eq_empty_iff]
    exact guardStart_ne_nil '_' trimmed
  · intro empty
    rw [written] at empty
    have last := congrArg (fun text => text.toList.length) empty
    simp [String.toList_append] at last

theorem snakeCase_start {name : String} {c : Char} (first : (snakeCase name).toList.head? = some c) :
    c.isDigit = false := by
  obtain ⟨trimmed, -, ⟨written, -⟩ | ⟨written, -⟩⟩ := snakeCase_eq name
  · rw [written, String.toList_ofList] at first
    exact head?_guardStart (by decide) first
  · rw [written, String.toList_append, String.toList_ofList] at first
    cases guarded : guardStart '_' trimmed with
    | nil => exact absurd guarded (guardStart_ne_nil '_' trimmed)
    | cons d rest =>
        rw [guarded] at first
        cases first
        exact head?_guardStart (by decide) (congrArg List.head? guarded)

theorem snakeCase_mem_reservedWords_iff {name : String} :
    snakeCase name ∈ reservedWords ↔ snakeCase name ∈ unmarkedWords := by
  constructor
  · intro reserved
    refine List.mem_filter.mpr ⟨reserved, ?_⟩
    obtain ⟨trimmed, -, ⟨-, other⟩ | ⟨written, keyword⟩⟩ := snakeCase_eq name
    · rw [Bool.not_eq_true', Bool.eq_false_iff]
      exact fun listed => other (List.contains_iff_mem.mp listed)
    · have marked : ∀ word ∈ keywords, word ++ "_" ∉ reservedWords := by decide
      rw [written] at reserved
      exact absurd reserved (marked _ keyword)
  · exact fun unmarked => (List.mem_filter.mp unmarked).1

theorem brings_alphanum {c : Char} (ascii : Text.isAscii c = true) :
    Brings (fun c => c.isAlphanum = true) c := by
  constructor
  · intro letter
    exact Text.isAlphanum_of_isLetterlike ascii (Text.isLetterlike_of_isAlphanumeric letter)
  · intro capital d member
    rw [Text.lowercase, if_pos ascii, List.mem_singleton] at member
    rw [member]
    exact Text.of_isAscii (fun c => Text.isUppercase c = true → c.toLower.isAlphanum = true)
      (by decide) ascii capital
  · intro letter d member
    rw [Text.uppercase, if_pos ascii, List.mem_singleton] at member
    rw [member]
    exact Text.of_isAscii (fun c => Text.isAlphanumeric c = true → c.toUpper.isAlphanum = true)
      (by decide) ascii letter

theorem brings_wordCharacter {c : Char} (ascii : Text.isAscii c = true) :
    Brings (fun c => isWordCharacter c = true) c := by
  refine (brings_alphanum ascii).mono fun d letter => ?_
  rw [isWordCharacter, letter, Bool.true_or]

theorem suffix_snakeStep (written : List Char) (previous : Option Char) (next : Char) :
    written <:+ snakeStep written previous next := by
  unfold snakeStep
  split
  · split
    · exact (List.suffix_cons '_' written).trans (List.suffix_append _ _)
    · exact List.suffix_append _ _
  · split
    · exact List.suffix_cons next written
    · split
      · exact List.suffix_rfl
      · exact List.suffix_rfl
      · exact List.suffix_cons '_' written

theorem suffix_snakeFrom (name : List Char) : ∀ written previous,
    written <:+ snakeFrom written previous name := by
  induction name with
  | nil => exact fun written _ => List.suffix_rfl
  | cons next rest ih =>
      intro written previous
      exact (suffix_snakeStep written previous next).trans (ih _ _)

theorem exists_letter_snakeStep {next : Char} (ascii : Text.isAscii next = true)
    (letter : Text.isAlphanumeric next = true) (written : List Char) (previous : Option Char) :
    ∃ c ∈ snakeStep written previous next, c ≠ '_' := by
  unfold snakeStep
  split
  · rename_i capital
    refine ⟨next.toLower, ?_, ?_⟩
    · rw [Text.lowercase, if_pos ascii]
      exact List.mem_append_left _ (List.mem_singleton_self _)
    · exact Text.of_isAscii (fun c => Text.isUppercase c = true → c.toLower ≠ '_') (by decide) ascii
        capital
  · refine ⟨next, List.mem_cons_self, ?_⟩
    rintro rfl
    exact absurd letter (by decide)

theorem exists_letter_snakeFrom {name : List Char} (ascii : ∀ c ∈ name, Text.isAscii c = true)
    {letter : Char} (member : letter ∈ name) (alphanumeric : Text.isAlphanumeric letter = true) :
    ∀ written previous, ∃ c ∈ snakeFrom written previous name, c ≠ '_' := by
  induction name with
  | nil => cases member
  | cons next rest ih =>
      intro written previous
      obtain ⟨firstAscii, othersAscii⟩ := List.forall_mem_cons.mp ascii
      rcases List.mem_cons.mp member with rfl | later
      · obtain ⟨c, found, other⟩ := exists_letter_snakeStep firstAscii alphanumeric written previous
        exact ⟨c, (suffix_snakeFrom rest _ _).subset found, other⟩
      · exact ih othersAscii later _ _

theorem snakeFrom_marks {name : List Char} (marks : ∀ c ∈ name, Text.isAlphanumeric c = false)
    (ascii : ∀ c ∈ name, Text.isAscii c = true) (previous : Option Char) :
    snakeFrom [] previous name = [] := by
  induction name generalizing previous with
  | nil => rfl
  | cons next rest ih =>
      obtain ⟨mark, marks⟩ := List.forall_mem_cons.mp marks
      obtain ⟨firstAscii, ascii⟩ := List.forall_mem_cons.mp ascii
      have small : Text.isUppercase next = false := Text.of_isAscii
        (fun c => Text.isAlphanumeric c = false → Text.isUppercase c = false) (by decide) firstAscii mark
      have step : snakeStep [] previous next = [] := by
        rw [snakeStep, small, mark]
        rfl
      rw [snakeFrom, step]
      exact ih marks ascii (some next)

theorem getLast?_trimmed {written : List Char} {c : Char}
    (last : (written.dropWhile (· == '_')).reverse.getLast? = some c) : c ≠ '_' := by
  have first := List.head?_dropWhile_not (· == '_') written
  rw [List.getLast?_reverse] at last
  rw [last] at first
  simpa using first

theorem eq_nil_of_guardStart_eq {trimmed : List Char}
    (ends : ∀ c, trimmed.getLast? = some c → c ≠ '_') (lone : guardStart '_' trimmed = ['_']) :
    trimmed = [] := by
  cases trimmed with
  | nil => rfl
  | cons c rest =>
      simp only [guardStart] at lone
      split at lone
      · cases lone
      · cases lone
        exact absurd rfl (ends '_' rfl)

theorem snakeCase_eq_underscore_iff {name : String} (ascii : IsAscii name) :
    snakeCase name = "_" ↔ ¬ HasAlphanumeric name := by
  constructor
  · rintro lone ⟨letter, member, alphanumeric⟩
    obtain ⟨c, inside, other⟩ := exists_letter_snakeFrom ascii member alphanumeric [] none
    obtain ⟨trimmed, kept, ⟨written, -⟩ | ⟨written, keyword⟩⟩ := snakeCase_eq name
    · rw [written, ← String.toList_inj, String.toList_ofList] at lone
      have none : trimmed = [] := eq_nil_of_guardStart_eq
        (fun c last => getLast?_trimmed (kept ▸ last)) lone
      rw [kept, List.reverse_eq_nil_iff, List.dropWhile_eq_nil_iff] at none
      exact other (by simpa using none c inside)
    · have longer : ∀ word ∈ keywords, word ++ "_" ≠ "_" := by decide
      exact longer _ keyword (written ▸ lone)
  · intro marks
    have each : ∀ c ∈ name.toList, Text.isAlphanumeric c = false := by
      intro c member
      exact Bool.eq_false_iff.mpr fun letter => marks ⟨c, member, letter⟩
    rw [snakeCase, snakeFrom_marks each ascii]
    decide

/-! Pascal case. -/

theorem head?_pascalFrom {name : List Char} (ascii : ∀ c ∈ name, Text.isAscii c = true) {c : Char}
    (first : (pascalFrom true name).head? = some c) : c.isUpper = true ∨ c.isDigit = true := by
  induction name with
  | nil => cases first
  | cons next rest ih =>
      obtain ⟨firstAscii, othersAscii⟩ := List.forall_mem_cons.mp ascii
      simp only [pascalFrom] at first
      split at first
      · rename_i letter
        rw [if_true, Text.uppercase, if_pos firstAscii] at first
        cases first
        exact Text.of_isAscii
          (fun c => Text.isAlphanumeric c = true → c.toUpper.isUpper = true ∨ c.toUpper.isDigit = true)
          (by decide) firstAscii letter
      · exact ih othersAscii first

theorem pascalCase_start {name : String} (ascii : IsAscii name) :
    ∃ c rest, (pascalCase name).toList = c :: rest ∧ c.isUpper = true := by
  have first {c : Char} := head?_pascalFrom (c := c) ascii
  rw [pascalCase, String.toList_ofList]
  cases written : pascalFrom true name.toList with
  | nil => exact ⟨'V', [], rfl, by decide⟩
  | cons c rest =>
      rw [written] at first
      simp only [guardStart]
      split
      · exact ⟨'V', c :: rest, rfl, by decide⟩
      · rename_i letter
        exact ⟨c, rest, rfl, (first rfl).resolve_right letter⟩

theorem eq_self_of_mem_reservedWords {word : String} (reserved : word ∈ reservedWords) {c : Char}
    {rest : List Char} (starts : word.toList = c :: rest) (capital : c.isUpper = true) :
    word = "Self" := by
  have each : ∀ word ∈ reservedWords, word.toList.head?.any Char.isUpper = true → word = "Self" := by
    decide
  refine each word reserved ?_
  rw [starts]
  exact capital

theorem isIdentifier_pascalCase_iff {name : String} (ascii : IsAscii name) :
    IsIdentifier (pascalCase name) ↔ pascalCase name ≠ "Self" := by
  constructor
  · intro identifier same
    exact identifier.free (same ▸ (by decide))
  · intro other
    obtain ⟨c, rest, starts, capital⟩ := pascalCase_start ascii
    refine ⟨?_, ?_, ?_, ?_, ?_⟩
    · intro empty
      rw [empty] at starts
      cases starts
    · exact forall_mem_pascalCase (by decide) fun c member => brings_wordCharacter (ascii c member)
    · intro d first
      rw [pascalCase, String.toList_ofList] at first
      exact head?_guardStart (by decide) first
    · exact fun reserved => other (eq_self_of_mem_reservedWords reserved starts capital)
    · intro lone
      rw [lone] at starts
      cases starts
      exact absurd capital (by decide)

theorem isIdentifier_snakeCase_iff {name : String} (ascii : IsAscii name) :
    IsIdentifier (snakeCase name) ↔ HasAlphanumeric name ∧ snakeCase name ∉ unmarkedWords := by
  have lone := snakeCase_eq_underscore_iff ascii
  rw [← snakeCase_mem_reservedWords_iff]
  constructor
  · intro identifier
    exact ⟨not_not.mp fun marks => identifier.named (lone.mpr marks), identifier.free⟩
  · rintro ⟨letter, free⟩
    refine ⟨snakeCase_ne_empty name, ?_, fun c => snakeCase_start, free, fun same => lone.mp same letter⟩
    exact forall_mem_snakeCase (by decide) fun c member => brings_wordCharacter (ascii c member)

/-- A name of ASCII is an identifier in snake case if it has a letter or digit and does not become one of the
reserved words that get no mark, and one in pascal case if it does not become the word for a type itself. -/
theorem case_forms_are_identifiers_iff {name : String} (ascii : IsAscii name) :
    (IsIdentifier (snakeCase name) ↔ HasAlphanumeric name ∧ snakeCase name ∉ unmarkedWords) ∧
      (IsIdentifier (pascalCase name) ↔ pascalCase name ≠ "Self") :=
  ⟨isIdentifier_snakeCase_iff ascii, isIdentifier_pascalCase_iff ascii⟩

theorem case_forms_are_identifiers_iff_hyphen :
    IsAscii "3d-match" ∧ snakeCase "3d-match" = "_3d_match" ∧ IsIdentifier "_3d_match" ∧
      pascalCase "3d-match" = "V3dMatch" ∧ IsIdentifier "V3dMatch" := by
  have ascii : IsAscii "3d-match" := isAscii_of_all (by decide)
  have snake : snakeCase "3d-match" = "_3d_match" := by decide
  have pascal : pascalCase "3d-match" = "V3dMatch" := by decide
  obtain ⟨snakeIdentifier, pascalIdentifier⟩ := case_forms_are_identifiers_iff ascii
  rw [snake] at snakeIdentifier
  rw [pascal] at pascalIdentifier
  refine ⟨ascii, snake, snakeIdentifier.mpr ⟨⟨'3', by decide⟩, by decide⟩, pascal,
    pascalIdentifier.mpr (by decide)⟩

/-- The reserved words that are no keywords come out as they are, nothing is left of a hyphen, and no keyword
is looked for in pascal case. -/
theorem case_forms_not_identifiers :
    (["abstract", "become", "do", "final", "macro", "override", "priv", "try", "typeof", "unsized",
        "virtual"].all fun word => snakeCase word == word && reservedWords.contains word) = true ∧
      (IsAscii "final" ∧ snakeCase "final" = "final" ∧ ¬ IsIdentifier "final") ∧
      (IsAscii "-" ∧ snakeCase "-" = "_" ∧ ¬ IsIdentifier "_") ∧
      (IsAscii "self" ∧ pascalCase "self" = "Self" ∧ ¬ IsIdentifier "Self") := by
  refine ⟨by decide, ⟨isAscii_of_all (by decide), by decide, ?_⟩,
    ⟨isAscii_of_all (by decide), by decide, ?_⟩, isAscii_of_all (by decide), by decide, ?_⟩
  · exact fun identifier => identifier.free (by decide)
  · exact fun identifier => identifier.named rfl
  · exact fun identifier => identifier.free (by decide)

end ShapeCompiler.Render
