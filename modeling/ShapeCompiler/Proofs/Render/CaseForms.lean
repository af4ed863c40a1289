import Mathlib.Data.List.Chain
import Mathlib.Data.List.DropRight
import ShapeCompiler.Proofs.Render.Identifiers

/-! Snake case and pascal case are normal forms of names of ASCII: a name that has the form stays as it is,
although what guards its start and what marks a keyword is read like any other character. -/

namespace ShapeCompiler.Render

def Parted (c d : Char) : Prop :=
  c ≠ '_' ∨ d ≠ '_'

instance : DecidableRel Parted :=
  fun c d => inferInstanceAs (Decidable (c ≠ '_' ∨ d ≠ '_'))

structure IsSnakeForm (name : String) : Prop where
  small : ∀ c ∈ name.toList, Text.isUppercase c = false
  parted : name.toList.IsChain Parted
  start : ∀ rest, name.toList = '_' :: rest → rest = [] ∨ ∃ c, rest.head? = some c ∧ c.isDigit = true
  ending : name.toList.getLast? = some '_' → name = "_" ∨ ∃ keyword ∈ keywords, name = keyword ++ "_"
  free : name ∉ keywords

structure IsPascalForm (name : String) : Prop where
  characters : ∀ c ∈ name.toList, c.isAlphanum = true
  start : ∃ c rest, name.toList = c :: rest ∧ c.isUpper = true

def isSmall (c : Char) : Bool :=
  Text.isAscii c && !Text.isUppercase c && Text.isAlphanumeric c

theorem isSmall_iff {c : Char} : isSmall c = true ↔
    Text.isAscii c = true ∧ Text.isUppercase c = false ∧ Text.isAlphanumeric c = true := by
  rw [isSmall, Bool.and_eq_true, Bool.and_eq_true, Bool.not_eq_true', and_assoc]

theorem isSmall_toLower {c : Char} (ascii : Text.isAscii c = true) (capital : Text.isUppercase c = true) :
    isSmall c.toLower = true :=
  Text.of_isAscii (fun c => Text.isUppercase c = true → isSmall c.toLower = true) (by decide) ascii capital

theorem isSmall_of_startsWord {c : Char} (ascii : Text.isAscii c = true)
    (starts : startsWord (some c) = true) : isSmall c = true :=
  Text.of_isAscii (fun c => startsWord (some c) = true → isSmall c = true) (by decide) ascii starts

theorem ne_underscore_of_isSmall {c : Char} (small : isSmall c = true) : c ≠ '_' := by
  rintro rfl
  exact absurd small (by decide)

def Lettered (written : List Char) : Prop :=
  ∃ c rest, written = c :: rest ∧ c ≠ '_'

/-- Words of small letters and digits, the last character first: one underscore stands between two words, and
one may stand behind the last word. -/
structure IsOpen (written : List Char) : Prop where
  small : ∀ c ∈ written, isSmall c = true ∨ c = '_'
  parted : written.IsChain Parted
  start : written.getLast? ≠ some '_'

theorem isOpen_nil : IsOpen [] :=
  ⟨by simp, .nil, by simp⟩

theorem IsOpen.suffix {written before : List Char} (opened : IsOpen written) (earlier : before <:+ written) :
    IsOpen before where
  small c member := opened.small c (earlier.subset member)
  parted := opened.parted.suffix earlier
  start last := by
    obtain ⟨later, rfl⟩ := earlier
    exact opened.start (by rw [List.getLast?_append, last, Option.some_or])

theorem IsOpen.cons_small {c : Char} {written : List Char} (opened : IsOpen written)
    (small : isSmall c = true) : IsOpen (c :: written) where
  small := List.forall_mem_cons.mpr ⟨Or.inl small, opened.small⟩
  parted := List.isChain_cons.mpr ⟨fun _ _ => Or.inl (ne_underscore_of_isSmall small), opened.parted⟩
  start := by
    rw [List.getLast?_cons]
    cases last : written.getLast? with
    | none => exact fun same => ne_underscore_of_isSmall small (Option.some.inj same)
    | some d => exact last ▸ opened.start

theorem isOpen_cons_underscore_iff {written : List Char} :
    IsOpen ('_' :: written) ↔ IsOpen written ∧ Lettered written := by
  constructor
  · intro opened
    refine ⟨opened.suffix (List.suffix_cons '_' written), ?_⟩
    cases written with
    | nil => exact absurd rfl opened.start
    | cons c rest =>
        refine ⟨c, rest, rfl, ?_⟩
        exact (List.isChain_cons_cons.mp opened.parted).1.resolve_left (fun other => other rfl)
  · rintro ⟨opened, c, rest, rfl, letter⟩
    refine ⟨List.forall_mem_cons.mpr ⟨Or.inr rfl, opened.small⟩, ?_, ?_⟩
    · exact List.isChain_cons_cons.mpr ⟨Or.inr letter, opened.parted⟩
    · rw [List.getLast?_cons_cons]
      exact opened.start

theorem isOpen_snakeStep {next : Char} (ascii : Text.isAscii next = true) {written : List Char}
    {previous : Option Char} (opened : IsOpen written)
    (lettered : startsWord previous = true → Lettered written) :
    IsOpen (snakeStep written previous next) ∧
      (startsWord (some next) = true → Lettered (snakeStep written previous next)) := by
  unfold snakeStep
  split
  · rename_i capital
    have small := isSmall_toLower ascii capital
    rw [Text.lowercase, if_pos ascii, List.reverse_singleton, List.singleton_append]
    refine ⟨IsOpen.cons_small ?_ small, fun _ => ⟨_, _, rfl, ne_underscore_of_isSmall small⟩⟩
    split
    · rename_i starts
      exact isOpen_cons_underscore_iff.mpr ⟨opened, lettered starts⟩
    · exact opened
  · rename_i lower
    split
    · rename_i letter
      have small := isSmall_iff.mpr ⟨ascii, Bool.eq_false_iff.mpr lower, letter⟩
      exact ⟨opened.cons_small small, fun _ => ⟨_, _, rfl, ne_underscore_of_isSmall small⟩⟩
    · rename_i mark
      -- no word begins behind a mark
      refine ⟨?_, fun starts => absurd (isSmall_iff.mp (isSmall_of_startsWord ascii starts)).2.2 mark⟩
      split
      · exact opened
      · exact opened
      · rename_i filled other
        obtain ⟨c, rest, rfl⟩ := List.exists_cons_of_ne_nil filled
        refine isOpen_cons_underscore_iff.mpr ⟨opened, c, rest, rfl, ?_⟩
        rintro rfl
        exact other rest rfl

theorem isOpen_snakeFrom {name : List Char} (ascii : ∀ c ∈ name, Text.isAscii c = true) :
    ∀ {written previous}, IsOpen written → (startsWord previous = true → Lettered written) →
      IsOpen (snakeFrom written previous name) := by
  induction name with
  | nil => exact fun opened _ => opened
  | cons next rest ih =>
      intro written previous opened lettered
      obtain ⟨firstAscii, othersAscii⟩ := List.forall_mem_cons.mp ascii
      obtain ⟨stepped, ready⟩ := isOpen_snakeStep firstAscii opened lettered
      exact ih othersAscii stepped ready

/-! Words that are written are read back as they are. -/

theorem snakeStep_of_isOpen {c : Char} {written : List Char} (opened : IsOpen (c :: written))
    (previous : Option Char) : snakeStep written previous c = c :: written := by
  unfold snakeStep
  rcases opened.small c List.mem_cons_self with small | rfl
  · obtain ⟨-, lower, letter⟩ := isSmall_iff.mp small
    rw [if_neg (Bool.eq_false_iff.mp lower), if_pos letter]
  · obtain ⟨-, d, rest, rfl, letter⟩ := isOpen_cons_underscore_iff.mp opened
    rw [if_neg (by decide), if_neg (by decide)]
    split
    · rename_i empty
      cases empty
    · rename_i same
      cases same
      exact absurd rfl letter
    · rfl

theorem snakeFrom_of_isOpen {name : List Char} : ∀ {written previous},
    IsOpen (name.reverse ++ written) → snakeFrom written previous name = name.reverse ++ written := by
  induction name with
  | nil => exact fun _ => rfl
  | cons c rest ih =>
      intro written previous opened
      rw [List.reverse_cons, List.append_assoc, List.singleton_append] at opened ⊢
      rw [snakeFrom, snakeStep_of_isOpen (opened.suffix (List.suffix_append _ _))]
      exact ih opened

theorem guardStart_eq (mark : Char) (name : List Char) :
    guardStart mark name = name ∨
      guardStart mark name = mark :: name ∧ (name = [] ∨ ∃ c, name.head? = some c ∧ c.isDigit = true) := by
  cases name with
  | nil => exact Or.inr ⟨rfl, Or.inl rfl⟩
  | cons c rest =>
      simp only [guardStart]
      split
      · rename_i digit
        exact Or.inr ⟨rfl, Or.inr ⟨c, rfl, digit⟩⟩
      · exact Or.inl rfl

theorem snakeFrom_guardStart {written : List Char} (opened : IsOpen written) :
    snakeFrom [] none (guardStart '_' written.reverse) = written := by
  have reread (previous : Option Char) : snakeFrom [] previous written.reverse = written := by
    have whole : written.reverse.reverse ++ [] = written := by
      rw [List.reverse_reverse, List.append_nil]
    rw [snakeFrom_of_isOpen (whole.symm ▸ opened), whole]
  obtain guarded | ⟨guarded, -⟩ := guardStart_eq '_' written.reverse
  · rw [guarded]
    exact reread none
  · rw [guarded, snakeFrom]
    exact reread (some '_')

theorem snakeFrom_concat (name : List Char) (last : Char) : ∀ written previous, ∃ before,
    snakeFrom written previous (name ++ [last]) =
      snakeStep (snakeFrom written previous name) before last := by
  induction name with
  | nil => exact fun _ previous => ⟨previous, rfl⟩
  | cons c rest ih => exact fun _ _ => ih _ _

theorem dropWhile_snakeStep_underscore (written : List Char) (previous : Option Char) :
    (snakeStep written previous '_').dropWhile (· == '_') = written.dropWhile (· == '_') := by
  unfold snakeStep
  rw [if_neg (by decide), if_neg (by decide)]
  split <;> rfl

/-- The words of a name, the last character first. -/
def trimmedWords (name : String) : List Char :=
  (snakeFrom [] none name.toList).dropWhile (· == '_')

theorem snakeCase_congr {name other : String} (same : trimmedWords name = trimmedWords other) :
    snakeCase name = snakeCase other := by
  unfold trimmedWords at same
  rw [snakeCase, snakeCase, same]

theorem isOpen_trimmedWords {name : String} (ascii : IsAscii name) : IsOpen (trimmedWords name) :=
  (isOpen_snakeFrom ascii isOpen_nil (by simp [startsWord])).suffix (List.dropWhile_suffix _)

theorem trimmedWords_snakeCase {name : String} (ascii : IsAscii name) :
    trimmedWords (snakeCase name) = trimmedWords name := by
  have reread := snakeFrom_guardStart (isOpen_trimmedWords ascii)
  have ends : (trimmedWords name).dropWhile (· == '_') = trimmedWords name := List.dropWhile_idempotent _ _
  obtain ⟨trimmed, kept, ⟨written, -⟩ | ⟨written, -⟩⟩ := snakeCase_eq name
  · rw [trimmedWords, written, String.toList_ofList, kept]
    exact (congrArg _ reread).trans ends
  · obtain ⟨before, last⟩ := snakeFrom_concat (guardStart '_' trimmed) '_' [] none
    rw [trimmedWords, written, String.toList_append, String.toList_ofList]
    change (snakeFrom [] none (guardStart '_' trimmed ++ ['_'])).dropWhile _ = _
    rw [last, dropWhile_snakeStep_underscore, kept]
    exact (congrArg _ reread).trans ends

theorem snakeCase_snakeCase {name : String} (ascii : IsAscii name) :
    snakeCase (snakeCase name) = snakeCase name :=
  snakeCase_congr (trimmedWords_snakeCase ascii)

theorem isSnakeForm_marked {keyword : String} (listed : keyword ∈ keywords) :
    IsSnakeForm (keyword ++ "_") where
  small c member := by
    have each : ∀ word ∈ keywords, (word ++ "_").toList.all (fun c => !Text.isUppercase c) = true := by
      decide
    have lower := List.all_eq_true.mp (each keyword listed) c member
    rwa [Bool.not_eq_true'] at lower
  parted := by
    have each : ∀ word ∈ keywords, (word ++ "_").toList.IsChain Parted := by decide
    exact each keyword listed
  start rest first := by
    have each : ∀ word ∈ keywords, (word ++ "_").toList.head? ≠ some '_' := by decide
    exact absurd (congrArg List.head? first) (each keyword listed)
  ending _ := Or.inr ⟨keyword, listed, rfl⟩
  free := by
    have each : ∀ word ∈ keywords, word ++ "_" ∉ keywords := by decide
    exact each keyword listed

theorem IsOpen.parted_reverse {written : List Char} (opened : IsOpen written) :
    written.reverse.IsChain Parted :=
  List.isChain_reverse.mpr (opened.parted.imp fun _ _ parted => parted.symm)

theorem isSnakeForm_guarded {written : List Char} (opened : IsOpen written)
    (ends : ∀ c, written.reverse.getLast? = some c → c ≠ '_')
    (free : String.ofList (guardStart '_' written.reverse) ∉ keywords) :
    IsSnakeForm (String.ofList (guardStart '_' written.reverse)) where
  small := by
    rw [String.toList_ofList]
    refine forall_mem_guardStart (by decide) fun c member => ?_
    rcases opened.small c (List.mem_reverse.mp member) with small | rfl
    · exact (isSmall_iff.mp small).2.1
    · decide
  parted := by
    rw [String.toList_ofList]
    obtain guarded | ⟨guarded, -⟩ := guardStart_eq '_' written.reverse
    · rw [guarded]
      exact opened.parted_reverse
    · rw [guarded]
      refine List.isChain_cons.mpr ⟨fun c first => Or.inr ?_, opened.parted_reverse⟩
      rintro rfl
      exact opened.start (List.head?_reverse ▸ first)
  start rest first := by
    rw [String.toList_ofList] at first
    obtain guarded | ⟨guarded, digit⟩ := guardStart_eq '_' written.reverse
    · rw [guarded] at first
      have last := congrArg List.head? first
      rw [List.head?_reverse] at last
      exact absurd last opened.start
    · rw [guarded] at first
      cases first
      exact digit
  ending last := by
    rw [String.toList_ofList] at last
    obtain guarded | ⟨guarded, -⟩ := guardStart_eq '_' written.reverse
    · rw [guarded] at last
      exact absurd rfl (ends '_' last)
    · cases final : written.reverse.getLast? with
      | none =>
          rw [List.getLast?_eq_none_iff] at final
          exact Or.inl (by rw [final]; rfl)
      | some c =>
          rw [guarded, List.getLast?_cons, final] at last
          exact absurd (Option.some.inj last) (ends c final)
  free := free

theorem isSnakeForm_snakeCase {name : String} (ascii : IsAscii name) : IsSnakeForm (snakeCase name) := by
  obtain ⟨trimmed, kept, ⟨written, free⟩ | ⟨written, keyword⟩⟩ := snakeCase_eq name
  · rw [written] at free ⊢
    exact kept ▸ isSnakeForm_guarded (isOpen_trimmedWords ascii) (fun c => getLast?_trimmed) (kept ▸ free)
  · rw [written]
    exact isSnakeForm_marked keyword

theorem pascalFrom_of_isAlphanum {name : List Char} (letters : ∀ c ∈ name, c.isAlphanum = true) :
    pascalFrom false name = name := by
  induction name with
  | nil => rfl
  | cons c rest ih =>
      obtain ⟨letter, letters⟩ := List.forall_mem_cons.mp letters
      rw [pascalFrom, if_pos (Text.isAlphanumeric_of_isAlphanum letter), ih letters]
      rfl

theorem pascalCase_of_isPascalForm {name : String} (form : IsPascalForm name) : pascalCase name = name := by
  obtain ⟨c, rest, starts, capital⟩ := form.start
  have letters := form.characters
  rw [starts] at letters
  obtain ⟨letter, letters⟩ := List.forall_mem_cons.mp letters
  have ascii := Text.isAscii_of_isAlphanum letter
  have kept : c.toUpper = c ∧ c.isDigit = false := Text.of_isAscii
    (fun c => c.isUpper = true → c.toUpper = c ∧ c.isDigit = false) (by decide) ascii capital
  have written : pascalFrom true name.toList = name.toList := by
    rw [starts, pascalFrom, if_pos (Text.isAlphanumeric_of_isAlphanum letter), if_pos rfl, Text.uppercase,
      if_pos ascii, kept.1, pascalFrom_of_isAlphanum letters, List.singleton_append]
  rw [← String.toList_inj, pascalCase, String.toList_ofList, written, starts, guardStart,
    if_neg (Bool.eq_false_iff.mp kept.2)]

theorem isPascalForm_pascalCase {name : String} (ascii : IsAscii name) : IsPascalForm (pascalCase name) where
  characters := forall_mem_pascalCase (by decide) fun c member => brings_alphanum (ascii c member)
  start := pascalCase_start ascii

/-- Both forms of a name of ASCII stay as they are when they are taken again. Snake case has no capital and no
two underscores side by side, it is no keyword, and unless it is an underscore alone, one stands at its start
only in front of a digit and at its end only behind a keyword. Pascal case has only letters and digits, and a
capital comes first. -/
theorem case_forms_are_normal {name : String} (ascii : IsAscii name) :
    (snakeCase (snakeCase name) = snakeCase name ∧ IsSnakeForm (snakeCase name)) ∧
      (pascalCase (pascalCase name) = pascalCase name ∧ IsPascalForm (pascalCase name)) := by
  have pascal := isPascalForm_pascalCase ascii
  exact ⟨⟨snakeCase_snakeCase ascii, isSnakeForm_snakeCase ascii⟩, pascalCase_of_isPascalForm pascal, pascal⟩

theorem case_forms_are_normal_marked :
    (IsAscii "Type" ∧ snakeCase "Type" = "type_" ∧ snakeCase "type_" = "type_" ∧ IsSnakeForm "type_") ∧
      (IsAscii "3d--Match" ∧ snakeCase "3d--Match" = "_3d_match" ∧ IsSnakeForm "_3d_match" ∧
        pascalCase "3d--Match" = "V3dMatch" ∧ IsPascalForm "V3dMatch") := by
  have typeAscii : IsAscii "Type" := isAscii_of_all (by decide)
  have matchAscii : IsAscii "3d--Match" := isAscii_of_all (by decide)
  have typeSnake : snakeCase "Type" = "type_" := by decide
  have matchSnake : snakeCase "3d--Match" = "_3d_match" := by decide
  have matchPascal : pascalCase "3d--Match" = "V3dMatch" := by decide
  obtain ⟨⟨typeAgain, typeForm⟩, -⟩ := case_forms_are_normal typeAscii
  obtain ⟨⟨-, matchForm⟩, -, pascalForm⟩ := case_forms_are_normal matchAscii
  rw [typeSnake] at typeAgain typeForm
  rw [matchSnake] at matchForm
  rw [matchPascal] at pascalForm
  exact ⟨⟨typeAscii, typeSnake, typeAgain, typeForm⟩, matchAscii, matchSnake, matchForm, matchPascal,
    pascalForm⟩

end ShapeCompiler.Render
