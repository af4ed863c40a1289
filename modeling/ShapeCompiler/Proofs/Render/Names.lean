import ShapeCompiler.Proofs.Text.Letters
import ShapeCompiler.Render.Names

/-! The characters of generated names. Type names have only letters, digits and characters above ASCII, and
names of methods these and underscores. -/

namespace ShapeCompiler.Render

/-- What a character brings into a generated name is allowed there. -/
structure Brings (allowed : Char → Prop) (c : Char) : Prop where
  letter : Text.isAlphanumeric c = true → allowed c
  lowered : Text.isUppercase c = true → ∀ d ∈ Text.lowercase c, allowed d
  raised : Text.isAlphanumeric c = true → ∀ d ∈ Text.uppercase c, allowed d

theorem Brings.mono {allowed permitted : Char → Prop} (more : ∀ c, allowed c → permitted c) {c : Char}
    (brings : Brings allowed c) : Brings permitted c where
  letter letter := more c (brings.letter letter)
  lowered capital d member := more d (brings.lowered capital d member)
  raised letter d member := more d (brings.raised letter d member)

theorem brings_letterlike (c : Char) : Brings (fun c => Text.isLetterlike c = true) c where
  letter := Text.isLetterlike_of_isAlphanumeric
  lowered capital _ := Text.isLetterlike_of_mem_lowercase capital
  raised letter _ := Text.isLetterlike_of_mem_uppercase (Text.isLetterlike_of_isAlphanumeric letter)

section

variable {allowed : Char → Prop}

theorem forall_mem_guardStart {mark : Char} {name : List Char} (marked : allowed mark)
    (each : ∀ c ∈ name, allowed c) : ∀ c ∈ guardStart mark name, allowed c := by
  cases name with
  | nil => simpa [guardStart] using marked
  | cons first rest =>
      simp only [guardStart]
      split
      · exact List.forall_mem_cons.mpr ⟨marked, each⟩
      · exact each

theorem forall_mem_pascalFrom {name : List Char} (bring : ∀ c ∈ name, Brings allowed c) :
    ∀ atStart, ∀ c ∈ pascalFrom atStart name, allowed c := by
  induction name with
  | nil =>
      intro atStart c member
      cases member
  | cons next rest ih =>
      intro atStart c member
      obtain ⟨first, later⟩ := List.forall_mem_cons.mp bring
      simp only [pascalFrom] at member
      split at member
      · rename_i letter
        rcases List.mem_append.mp member with own | behind
        · split at own
          · exact first.raised letter c own
          · exact List.mem_singleton.mp own ▸ first.letter letter
        · exact ih later false c behind
      · exact ih later true c member

theorem forall_mem_pascalCase {name : String} (capital : allowed 'V')
    (bring : ∀ c ∈ name.toList, Brings allowed c) : ∀ c ∈ (pascalCase name).toList, allowed c := by
  rw [pascalCase, String.toList_ofList]
  exact forall_mem_guardStart capital (forall_mem_pascalFrom bring true)

section

variable (underscore : allowed '_')
include underscore

theorem forall_mem_snakeStep {written : List Char} (each : ∀ c ∈ written, allowed c)
    (previous : Option Char) {next : Char} (brings : Brings allowed next) :
    ∀ c ∈ snakeStep written previous next, allowed c := by
  unfold snakeStep
  split
  · rename_i capital
    intro c member
    rcases List.mem_append.mp member with own | before
    · exact brings.lowered capital c (List.mem_reverse.mp own)
    · split at before
      · exact List.forall_mem_cons.mpr ⟨underscore, each⟩ c before
      · exact each c before
  · split
    · rename_i letter
      exact List.forall_mem_cons.mpr ⟨brings.letter letter, each⟩
    · split
      · exact each
      · exact each
      · exact List.forall_mem_cons.mpr ⟨underscore, each⟩

theorem forall_mem_snakeFrom {name : List Char} (bring : ∀ c ∈ name, Brings allowed c) :
    ∀ {written previous}, (∀ c ∈ written, allowed c) →
      ∀ c ∈ snakeFrom written previous name, allowed c := by
  induction name with
  | nil => exact fun each => each
  | cons next rest ih =>
      intro written previous each
      obtain ⟨first, later⟩ := List.forall_mem_cons.mp bring
      exact ih later (forall_mem_snakeStep underscore each previous first)

theorem forall_mem_snakeCase {name : String} (bring : ∀ c ∈ name.toList, Brings allowed c) :
    ∀ c ∈ (snakeCase name).toList, allowed c := by
  have written : ∀ c ∈ snakeFrom [] none name.toList, allowed c :=
    forall_mem_snakeFrom underscore bring (by simp)
  have trimmed : ∀ c ∈ ((snakeFrom [] none name.toList).dropWhile (· == '_')).reverse, allowed c := by
    intro c member
    exact written c ((List.dropWhile_sublist _).subset (List.mem_reverse.mp member))
  have guarded := forall_mem_guardStart underscore trimmed
  intro c member
  unfold snakeCase at member
  dsimp only at member
  split at member
  · rw [String.toList_append, String.toList_ofList] at member
    rcases List.mem_append.mp member with own | last
    · exact guarded c own
    · obtain rfl : c = '_' := by simpa using last
      exact underscore
  · rw [String.toList_ofList] at member
    exact guarded c member

end

end

/-! Marks that are in no name. -/

def IsPlain (name : String) : Prop :=
  ∀ c ∈ name.toList, Text.isLetterlike c = true

theorem isPlain_of_all {name : String} (all : name.toList.all Text.isLetterlike = true) : IsPlain name :=
  List.all_eq_true.mp all

theorem IsPlain.not_mem {name : String} (plain : IsPlain name) {mark : Char}
    (isMark : Text.isLetterlike mark = false) : mark ∉ name.toList := by
  intro member
  rw [plain mark member] at isMark
  cases isMark

theorem IsPlain.append {name other : String} (plain : IsPlain name) (otherPlain : IsPlain other) :
    IsPlain (name ++ other) := by
  intro c member
  rw [String.toList_append] at member
  exact (List.mem_append.mp member).elim (plain c) (otherPlain c)

theorem isPlain_pascalCase (name : String) : IsPlain (pascalCase name) :=
  forall_mem_pascalCase (by decide) fun c _ => brings_letterlike c

theorem isPlain_typeName (modelClass : Model.Class) : IsPlain (typeName modelClass) := by
  intro c member
  rw [typeName, String.toList_join, List.mem_flatMap] at member
  obtain ⟨word, inside, member⟩ := member
  obtain ⟨part, _, rfl⟩ := List.mem_map.mp inside
  exact isPlain_pascalCase part c member

theorem underscore_not_mem_typeName (modelClass : Model.Class) :
    '_' ∉ (typeName modelClass).toList :=
  (isPlain_typeName modelClass).not_mem (by decide)

def isSnakeCharacter (c : Char) : Bool :=
  Text.isLetterlike c || c == '_'

theorem isSnakeCharacter_of_mem_snakeCase (name : String) :
    ∀ c ∈ (snakeCase name).toList, isSnakeCharacter c = true := by
  refine forall_mem_snakeCase (by decide) fun c _ => (brings_letterlike c).mono ?_
  intro d letterlike
  rw [isSnakeCharacter, letterlike, Bool.true_or]

theorem bracket_not_mem_snakeCase (name : String) : '(' ∉ (snakeCase name).toList := by
  intro member
  exact absurd (isSnakeCharacter_of_mem_snakeCase name '(' member) (by decide)

end ShapeCompiler.Render
