import ShapeCompiler.Proofs.Render.ClosedSets
import ShapeCompiler.Proofs.Render.Comments
import ShapeCompiler.Proofs.Render.Names
import ShapeCompiler.Proofs.Render.Variants
import ShapeCompiler.Proofs.Text.Cuts
import ShapeCompiler.Proofs.Text.Literals

/-! The lines of code of enumerations. The variants of an enumeration stand in three places, where they are
declared, in the list of all, and in the arms of a match, where each has its value as a literal. Read back
from the lines, the three agree, and the values are those that the graph gives. -/

namespace ShapeCompiler.Text

theorem filledPieces_intercalate {isMark : Char → Bool} (comma : isMark ',' = true)
    (blank : isMark ' ' = true) {words : List String}
    (plain : ∀ word ∈ words, word ≠ "" ∧ ∀ c ∈ word.toList, isMark c = false) :
    filledPieces isMark (", ".intercalate words) = words := by
  have alone {word : String} (filled : word ≠ "") (rest : List (List Char)) :
      ((word.toList :: rest).filter (· ≠ [])).map String.ofList =
        word :: (rest.filter (· ≠ [])).map String.ofList := by
    rw [List.filter_cons_of_pos (by simpa using filled), List.map_cons, String.ofList_toList]
  induction words with
  | nil => rfl
  | cons word words ih =>
      obtain ⟨⟨filled, unmarked⟩, others⟩ := List.forall_mem_cons.mp plain
      have rest := ih others
      unfold filledPieces pieces at rest ⊢
      cases words with
      | nil =>
          rw [String.intercalate_singleton, piecesFrom_unmarked unmarked, List.reverse_nil,
            List.nil_append, alone filled]
          rfl
      | cons next words =>
          have text : (", ".intercalate (word :: next :: words)).toList =
              word.toList ++ ',' :: ([] ++ ' ' :: (", ".intercalate (next :: words)).toList) := by
            rw [String.intercalate_cons_cons, String.toList_append, String.toList_append,
              List.append_assoc]
            rfl
          rw [text, piecesFrom_append comma, piecesFrom_unmarked unmarked, piecesFrom_append blank,
            piecesFrom_unmarked (by simp)]
          simp only [List.reverse_nil, List.nil_append, List.singleton_append]
          rw [alone filled, List.filter_cons_of_neg (by simp), rest]

end ShapeCompiler.Text

namespace ShapeCompiler.Render.Traits

theorem isPlain_typeNameOf (model : Model) (iri : String) : IsPlain (typeNameOf model iri) := by
  unfold typeNameOf
  split
  · exact isPlain_typeName _
  · exact isPlain_pascalCase _

theorem ClosedSet.isPlain_name (model : Model) (set : ClosedSet) : IsPlain (set.name model) := by
  cases set with
  | individuals modelClass =>
      simp only [ClosedSet.name, individualsName]
      split
      · exact isPlain_typeNameOf model _
      · exact (isPlain_typeNameOf model _).append (isPlain_of_all (by decide))
  | values owner property values =>
      exact (isPlain_typeNameOf model _).append (isPlain_pascalCase _)

theorem isPlain_numbered {name : String} (plain : IsPlain name) (position : Nat) :
    IsPlain (numbered name position) := by
  refine plain.append ?_
  intro c member
  simp [Text.isLetterlike, Char.isAlphanum, toString_digits member]

theorem isPlain_distinctFrom {variants : List Variant} (plain : ∀ variant ∈ variants, IsPlain variant.name) :
    ∀ position taken, ∀ variant ∈ distinctFrom position taken variants, IsPlain variant.name := by
  induction variants with
  | nil => simp [distinctFrom]
  | cons first variants ih =>
      intro position taken
      obtain ⟨own, others⟩ := List.forall_mem_cons.mp plain
      refine List.forall_mem_cons.mpr ⟨?_, ih others _ _⟩
      dsimp only
      split
      · exact isPlain_numbered own position
      · exact own

theorem ClosedSet.isPlain_variants (set : ClosedSet) : ∀ variant ∈ set.variants, IsPlain variant.name := by
  cases set with
  | individuals modelClass =>
      refine List.forall_mem_map.mpr ?_
      exact fun individual _ => isPlain_pascalCase individual.name
  | values owner property values =>
      refine List.forall_mem_map.mpr ?_
      exact fun value _ => isPlain_pascalCase (Text.localName value)

structure Enumeration.IsPlain (enumeration : Enumeration) : Prop where
  name : Render.IsPlain enumeration.name
  variants : ∀ variant ∈ enumeration.variants, Render.IsPlain variant.name

theorem isPlain_of_mem_enumerations {model : Model} {enumeration : Enumeration}
    (member : enumeration ∈ enumerations model) : enumeration.IsPlain := by
  obtain ⟨set, _, named, made⟩ := exists_of_mem_enumerations member
  refine ⟨named ▸ set.isPlain_name model, ?_⟩
  rw [made]
  exact isPlain_distinctFrom set.isPlain_variants 0 []

def Variant.line (variant : Variant) : String :=
  "    " ++ variant.name ++ ","

def Variant.armLine (variant : Variant) : String :=
  "            Self::" ++ (variant.name ++ " => " ++ Text.quote variant.value) ++ ","

def Enumeration.allLine (enumeration : Enumeration) : String :=
  "    pub const ALL: &'static [Self] = &[" ++
    ", ".intercalate (enumeration.variants.map fun variant => "Self::" ++ variant.name) ++ "];"

theorem code_line_of_isPlain {name : String} (plain : IsPlain name) (head tail : String)
    (unmarked : ('\n' ∉ head.toList ∧ '\n' ∉ tail.toList) ∧ '/' ∉ head.toList ∧ '/' ∉ tail.toList) :
    (Entry.line (head ++ name ++ tail)).code = [head ++ name ++ tail].map String.toList := by
  have without {mark : Char} (outside : mark ∉ head.toList ∧ mark ∉ tail.toList)
      (isMark : Text.isLetterlike mark = false) : mark ∉ (head ++ name ++ tail).toList := by
    simp only [String.toList_append, List.mem_append, not_or]
    exact ⟨⟨outside.1, plain.not_mem isMark⟩, outside.2⟩
  exact Entry.code_line (without unmarked.1 (by decide))
    (isDocLine_eq_false (without unmarked.2 (by decide)))

theorem Variant.codeOf_entries {variant : Variant} (plain : IsPlain variant.name) :
    codeOf variant.entries = [variant.line].map String.toList := by
  rw [Variant.entries, codeOf_cons, code_indentedDoc, List.nil_append, codeOf, List.flatMap_singleton]
  exact code_line_of_isPlain plain "    " "," (by decide)

theorem Variant.arm_eq (variant : Variant) : variant.arm = .line variant.armLine := by
  unfold Variant.arm Variant.armLine
  simp only [String.append_assoc]

theorem Variant.code_arm {variant : Variant} (plain : IsPlain variant.name) :
    variant.arm.code = [variant.armLine].map String.toList := by
  have letters : variant.armLine.toList = "            Self::".toList ++
      (variant.name.toList ++ (" => ".toList ++ ((Text.quote variant.value).toList ++ ",".toList))) := by
    unfold Variant.armLine
    simp only [String.toList_append, List.append_assoc]
  have feed : '\n' ∉ variant.armLine.toList := by
    simp only [letters, List.mem_append, not_or]
    exact ⟨by decide, plain.not_mem (by decide), by decide, Text.lineFeed_not_mem_quote _, by decide⟩
  have code : isDocLine variant.armLine.toList = false := by
    rw [letters]
    rfl
  rw [variant.arm_eq, Entry.code_line feed code]

theorem not_mem_intercalate {mark : Char} {separator : String} {words : List String}
    (separated : mark ∉ separator.toList) (each : ∀ word ∈ words, mark ∉ word.toList) :
    mark ∉ (separator.intercalate words).toList := by
  induction words with
  | nil => exact List.not_mem_nil
  | cons word words ih =>
      obtain ⟨own, others⟩ := List.forall_mem_cons.mp each
      cases words with
      | nil => rwa [String.intercalate_singleton]
      | cons next words =>
          rw [String.intercalate_cons_cons, String.toList_append, String.toList_append,
            List.mem_append, List.mem_append, not_or, not_or]
          exact ⟨⟨own, separated⟩, ih others⟩

theorem Enumeration.code_all {enumeration : Enumeration} (plain : enumeration.IsPlain) :
    (Entry.line enumeration.allLine).code = [enumeration.allLine].map String.toList := by
  have letters : enumeration.allLine.toList = "    pub const ALL: &'static [Self] = &[".toList ++
      ((", ".intercalate (enumeration.variants.map fun variant => "Self::" ++ variant.name)).toList ++
        "];".toList) := by
    unfold allLine
    simp only [String.toList_append, List.append_assoc]
  have listed : '\n' ∉ (", ".intercalate
      (enumeration.variants.map fun variant => "Self::" ++ variant.name)).toList := by
    refine not_mem_intercalate (by decide) (List.forall_mem_map.mpr ?_)
    intro variant member
    rw [String.toList_append, List.mem_append, not_or]
    exact ⟨by decide, (plain.variants variant member).not_mem (by decide)⟩
  have feed : '\n' ∉ enumeration.allLine.toList := by
    simp only [letters, List.mem_append, not_or]
    exact ⟨by decide, listed, by decide⟩
  have code : isDocLine enumeration.allLine.toList = false := by
    rw [letters]
    rfl
  exact Entry.code_line feed code

def Enumeration.declaring (enumeration : Enumeration) : String :=
  "pub enum " ++ enumeration.name ++ " \x7b"

def Enumeration.implementing (enumeration : Enumeration) : String :=
  "impl " ++ enumeration.name ++ " \x7b"

def deriveLine : String :=
  "#[derive(Debug, Clone, Copy, PartialEq, Eq, Hash)]"

def matchLines : List String :=
  ["    #[must_use]", "    pub fn iri(self) -> &'static str \x7b"]

def lookupLines : List String :=
  ["    \x7d", "", "    #[must_use]",
    "    pub fn from_iri(iri: &str) -> Option<Self> \x7b",
    "        Self::ALL.iter().copied().find(|v| v.iri() == iri)", "    \x7d", "\x7d", ""]

theorem codeOf_nil : codeOf [] = [] :=
  rfl

theorem codeOf_flatMap {α : Type} {items : List α} {entries : α → List Entry} {line : α → String}
    (each : ∀ item ∈ items, codeOf (entries item) = [line item].map String.toList) :
    codeOf (items.flatMap entries) = (items.map line).map String.toList := by
  induction items with
  | nil => rfl
  | cons item items ih =>
      obtain ⟨first, others⟩ := List.forall_mem_cons.mp each
      rw [List.flatMap_cons, codeOf_append, first, ih others]
      rfl

theorem Enumeration.codeOf_entries {enumeration : Enumeration} (plain : enumeration.IsPlain) :
    codeOf enumeration.entries =
      ([deriveLine, enumeration.declaring] ++ enumeration.variants.map Variant.line ++
        (["\x7d", "", enumeration.implementing, enumeration.allLine, ""] ++ matchLines ++
          ["        match self \x7b"]) ++
        enumeration.variants.map Variant.armLine ++ "        \x7d" :: lookupLines).map
          String.toList := by
  have opening : codeOf [docComment enumeration.comment, .line deriveLine, .line enumeration.declaring] =
      [deriveLine, enumeration.declaring].map String.toList := by
    have derived : (Entry.line deriveLine).code = [deriveLine].map String.toList := by
      decide
    have named := code_line_of_isPlain plain.name "pub enum " " \x7b" (by decide)
    have opened : (Entry.line enumeration.declaring).code =
        [enumeration.declaring].map String.toList := named
    simp only [codeOf_cons, codeOf_nil, code_docComment, derived, opened, List.map_cons, List.map_nil,
      List.cons_append, List.nil_append]
  have declared : codeOf (enumeration.variants.flatMap Variant.entries) =
      (enumeration.variants.map Variant.line).map String.toList :=
    codeOf_flatMap fun variant member => Variant.codeOf_entries (plain.variants variant member)
  have middle : codeOf [.line "\x7d", Entry.blank, .line enumeration.implementing,
      indentedDoc "Every variant, in schema order.", .line enumeration.allLine, Entry.blank,
      indentedDoc "The value as written in the schema.", .line "    #[must_use]",
      .line "    pub fn iri(self) -> &'static str \x7b", .line "        match self \x7b"] =
      (["\x7d", "", enumeration.implementing, enumeration.allLine, ""] ++ matchLines ++
        ["        match self \x7b"]).map String.toList := by
    have closed : (Entry.line "\x7d").code = ["\x7d"].map String.toList := by
      decide
    have blank : Entry.blank.code = [""].map String.toList := by
      decide
    have matching : codeOf [.line "    #[must_use]",
        .line "    pub fn iri(self) -> &'static str \x7b", .line "        match self \x7b"] =
        (matchLines ++ ["        match self \x7b"]).map String.toList := by
      decide +kernel
    have named := code_line_of_isPlain plain.name "impl " " \x7b" (by decide)
    have opened : (Entry.line enumeration.implementing).code =
        [enumeration.implementing].map String.toList := named
    rw [codeOf_cons, codeOf_cons, codeOf_cons, codeOf_cons, codeOf_cons, codeOf_cons, codeOf_cons,
      matching]
    simp only [code_indentedDoc, closed, blank, opened, code_all plain, List.map_cons, List.map_nil,
      List.cons_append, List.nil_append]
  have arms : codeOf (enumeration.variants.map Variant.arm) =
      (enumeration.variants.map Variant.armLine).map String.toList := by
    rw [List.map_eq_flatMap]
    refine codeOf_flatMap fun variant member => ?_
    rw [codeOf, List.flatMap_singleton, Variant.code_arm (plain.variants variant member)]
  have closing : codeOf [.line "        \x7d", .line "    \x7d", Entry.blank,
      indentedDoc "Looks up a variant by its schema value.", .line "    #[must_use]",
      .line "    pub fn from_iri(iri: &str) -> Option<Self> \x7b",
      .line "        Self::ALL.iter().copied().find(|v| v.iri() == iri)", .line "    \x7d",
      .line "\x7d", Entry.blank] = ("        \x7d" :: lookupLines).map String.toList := by
    decide +kernel
  rw [List.map_append, List.map_append, List.map_append, List.map_append, ← opening, ← declared, ← middle,
    ← arms, ← closing, ← codeOf_append, ← codeOf_append, ← codeOf_append, ← codeOf_append]
  rfl

/-! What is read from the lines of an enumeration. -/

def variantName? (line : List Char) : Option String :=
  (framed? "    " "," line).map String.ofList

def listedNames? (line : List Char) : Option (List String) := do
  let listed ← framed? "    pub const ALL: &'static [Self] = &[" "];" line
  (Text.filledPieces (fun c => c = ',' || c = ' ') (String.ofList listed)).mapM
    (Text.stripPrefix? "Self::")

def arm? (line : List Char) : Option (String × String) := do
  let written ← framed? "            Self::" "," line
  let literal ← " => ".toList.isPrefixOf? (written.dropWhile (· ≠ ' '))
  let value ← Text.unquote? (String.ofList literal)
  return (String.ofList (written.takeWhile (· ≠ ' ')), value)

/-- The lines of an enumeration have the same variants where they declare them, in the list of all, and in
the arms, and the literals of the arms denote the members of a closed set. -/
structure Writes (lines : List (List Char)) (name : String) (variants members : List String) : Prop where
  declared : (linesBetween ("pub enum " ++ name ++ " \x7b") "\x7d" lines).map variantName? =
    variants.map some
  listed : (linesBetween ("impl " ++ name ++ " \x7b") "" lines).map listedNames? = [some variants]
  arms : (linesBetween "        match self \x7b" "        \x7d" lines).map arm? =
    (variants.zip members).map some
  number : variants.length = members.length

theorem variantName?_line (variant : Variant) : variantName? variant.line.toList = some variant.name := by
  rw [variantName?, Variant.line, framed?_eq_some, Option.map_some, String.ofList_toList]

theorem listedNames?_allLine {enumeration : Enumeration} (plain : enumeration.IsPlain) :
    listedNames? enumeration.allLine.toList = some (enumeration.variants.map Variant.name) := by
  have words : Text.filledPieces (fun c => c = ',' || c = ' ')
      (", ".intercalate (enumeration.variants.map fun variant => "Self::" ++ variant.name)) =
        enumeration.variants.map fun variant => "Self::" ++ variant.name := by
    refine Text.filledPieces_intercalate rfl rfl (List.forall_mem_map.mpr ?_)
    intro variant member
    refine ⟨by simp, ?_⟩
    have without {mark : Char} (outside : mark ∉ "Self::".toList)
        (isMark : Text.isLetterlike mark = false) : mark ∉ ("Self::" ++ variant.name).toList := by
      rw [String.toList_append, List.mem_append, not_or]
      exact ⟨outside, (plain.variants variant member).not_mem isMark⟩
    intro c inside
    rw [Bool.or_eq_false_iff, decide_eq_false_iff_not, decide_eq_false_iff_not]
    constructor
    · rintro rfl
      exact without (by decide) (by decide) inside
    · rintro rfl
      exact without (by decide) (by decide) inside
  have named : (Text.stripPrefix? "Self::") ∘ (fun variant : Variant => "Self::" ++ variant.name) =
      fun variant => pure variant.name :=
    funext fun _ => Text.stripPrefix?_eq_some.mpr rfl
  unfold listedNames? Enumeration.allLine
  rw [framed?_eq_some]
  simp only [Option.bind_eq_bind, Option.bind_some, String.ofList_toList, words]
  rw [List.mapM_map, named, List.mapM_pure]
  rfl

theorem arm?_armLine {variant : Variant} (plain : IsPlain variant.name) :
    arm? variant.armLine.toList = some (variant.name, variant.value) := by
  have letters : ∀ c ∈ variant.name.toList, decide (c ≠ ' ') = true := by
    intro c member
    refine decide_eq_true fun same => ?_
    exact plain.not_mem (by decide) (same ▸ member)
  have written : (variant.name ++ " => " ++ Text.quote variant.value).toList =
      variant.name.toList ++ ' ' :: ("=> " ++ Text.quote variant.value).toList := by
    simp only [String.toList_append, List.append_assoc]
    rfl
  have literal : " => ".toList.isPrefixOf? (' ' :: ("=> " ++ Text.quote variant.value).toList) =
      some (Text.quote variant.value).toList := by
    rw [List.isPrefixOf?_eq_some_iff_append_eq, String.toList_append]
    rfl
  unfold arm? Variant.armLine
  rw [framed?_eq_some, written]
  simp only [Option.bind_eq_bind, Option.bind_some, List.dropWhile_append_of_pos letters,
    List.takeWhile_append_of_pos letters]
  rw [List.dropWhile_cons_of_neg (by simp), List.takeWhile_cons_of_neg (by simp), literal]
  simp [Text.unquote?_quote]

section

variable {enumeration : Enumeration}

theorem Enumeration.startsWith_declaring (enumeration : Enumeration) :
    Text.startsWith "pub enum " enumeration.declaring = true := by
  rw [declaring, String.append_assoc]
  exact Text.startsWith_append_self _ _

theorem Enumeration.startsWith_implementing (enumeration : Enumeration) :
    Text.startsWith "impl " enumeration.implementing = true := by
  rw [implementing, String.append_assoc]
  exact Text.startsWith_append_self _ _

theorem Enumeration.startsWith_allLine (enumeration : Enumeration) :
    Text.startsWith "    pub const ALL: &'static [Self] = &[" enumeration.allLine = true := by
  unfold allLine
  rw [String.append_assoc]
  exact Text.startsWith_append_self _ _

theorem Variant.startsWith_line (variant : Variant) : Text.startsWith "    " variant.line = true := by
  rw [line, String.append_assoc]
  exact Text.startsWith_append_self _ _

theorem Variant.startsWith_armLine (variant : Variant) :
    Text.startsWith "            Self::" variant.armLine = true := by
  unfold armLine
  rw [String.append_assoc]
  exact Text.startsWith_append_self _ _

theorem linesBetween_declaring (plain : enumeration.IsPlain) :
    linesBetween enumeration.declaring "\x7d" (codeOf enumeration.entries) =
      (enumeration.variants.map Variant.line).map String.toList := by
  have unopened : enumeration.declaring ∉ [deriveLine] := by
    rw [List.mem_singleton]
    exact Text.ne_of_starts enumeration.startsWith_declaring
      (by decide : Text.startsWith "#[" deriveLine = true) (by decide)
  have unclosed : "\x7d" ∉ enumeration.variants.map Variant.line := by
    rw [List.mem_map]
    rintro ⟨variant, _, same⟩
    exact Text.ne_of_starts variant.startsWith_line
      (by decide : Text.startsWith "\x7d" "\x7d" = true) (by decide) same
  have between := linesBetween_eq unopened unclosed
    (["", enumeration.implementing, enumeration.allLine, ""] ++ matchLines ++
      ["        match self \x7b"] ++ enumeration.variants.map Variant.armLine ++
        "        \x7d" :: lookupLines)
  rw [Enumeration.codeOf_entries plain]
  simpa only [List.append_assoc, List.cons_append, List.nil_append] using between

theorem linesBetween_implementing (plain : enumeration.IsPlain) :
    linesBetween enumeration.implementing "" (codeOf enumeration.entries) =
      [enumeration.allLine].map String.toList := by
  have starts := enumeration.startsWith_implementing
  have unopened : enumeration.implementing ∉
      [deriveLine, enumeration.declaring] ++ enumeration.variants.map Variant.line ++ ["\x7d", ""] := by
    intro member
    simp only [List.mem_append, List.mem_cons, List.not_mem_nil, or_false, List.mem_map] at member
    rcases member with ((derive | declaring) | ⟨variant, _, same⟩) | closing | blank
    · exact absurd (derive ▸ starts) (by decide)
    · exact Text.ne_of_starts starts enumeration.startsWith_declaring (by decide) declaring
    · exact Text.ne_of_starts variant.startsWith_line starts (by decide) same
    · exact absurd (closing ▸ starts) (by decide)
    · exact absurd (blank ▸ starts) (by decide)
  have unclosed : "" ∉ [enumeration.allLine] := by
    rw [List.mem_singleton]
    intro same
    exact absurd (same ▸ enumeration.startsWith_allLine) (by decide)
  have between := linesBetween_eq unopened unclosed
    (matchLines ++ ["        match self \x7b"] ++ enumeration.variants.map Variant.armLine ++
      "        \x7d" :: lookupLines)
  rw [Enumeration.codeOf_entries plain]
  simpa only [List.append_assoc, List.cons_append, List.nil_append] using between

theorem linesBetween_match (plain : enumeration.IsPlain) :
    linesBetween "        match self \x7b" "        \x7d" (codeOf enumeration.entries) =
      (enumeration.variants.map Variant.armLine).map String.toList := by
  have starts : Text.startsWith "        match" "        match self \x7b" = true := by
    decide
  have unopened : "        match self \x7b" ∉
      [deriveLine, enumeration.declaring] ++ enumeration.variants.map Variant.line ++
        ["\x7d", "", enumeration.implementing, enumeration.allLine, ""] ++ matchLines := by
    intro member
    simp only [matchLines, List.mem_append, List.mem_cons, List.not_mem_nil, or_false, List.mem_map]
      at member
    rcases member with (((derive | declaring) | ⟨variant, _, same⟩) |
      closing | blank | implementing | all | blank) | mustUse | function
    · revert derive
      decide
    · exact Text.ne_of_starts starts enumeration.startsWith_declaring (by decide) declaring
    · -- Both lines start with blanks, but the line of a variant ends in a comma.
      have last := congrArg (fun line => line.toList.getLast?) same
      revert last
      rw [Variant.line, String.toList_append, List.getLast?_append_of_ne_nil _ (by decide)]
      decide
    · revert closing
      decide
    · revert blank
      decide
    · exact Text.ne_of_starts starts enumeration.startsWith_implementing (by decide) implementing
    · exact Text.ne_of_starts starts enumeration.startsWith_allLine (by decide) all
    · revert blank
      decide
    · revert mustUse
      decide
    · revert function
      decide
  have unclosed : "        \x7d" ∉ enumeration.variants.map Variant.armLine := by
    rw [List.mem_map]
    rintro ⟨variant, _, same⟩
    exact Text.ne_of_starts variant.startsWith_armLine
      (by decide : Text.startsWith "        \x7d" "        \x7d" = true) (by decide) same
  have between := linesBetween_eq unopened unclosed lookupLines
  rw [Enumeration.codeOf_entries plain]
  simpa only [List.append_assoc, List.cons_append, List.nil_append] using between

theorem writes_codeOf (plain : enumeration.IsPlain) :
    Writes (codeOf enumeration.entries) enumeration.name (enumeration.variants.map Variant.name)
      (enumeration.variants.map Variant.value) where
  declared := by
    have between := linesBetween_declaring plain
    rw [Enumeration.declaring] at between
    rw [between, List.map_map, List.map_map, List.map_map]
    exact List.map_congr_left fun variant _ => variantName?_line variant
  listed := by
    have between := linesBetween_implementing plain
    rw [Enumeration.implementing] at between
    rw [between, List.map_singleton, List.map_singleton, listedNames?_allLine plain]
  arms := by
    have pairs : (enumeration.variants.map Variant.name).zip (enumeration.variants.map Variant.value) =
        enumeration.variants.map fun variant => (variant.name, variant.value) := by
      rw [List.zip_map']
    rw [linesBetween_match plain, pairs, List.map_map, List.map_map, List.map_map]
    exact List.map_congr_left fun variant member => arm?_armLine (plain.variants variant member)
  number := by rw [List.length_map, List.length_map]

end

/-- An enumeration is written with the members of a closed set, which are distinct and given by the
graph. -/
structure WritesOut (graph : Rdf.Graph) (model : Model) (set : ClosedSet)
    (enumeration : Enumeration) : Prop where
  given : set.Given graph
  increasing : set.members.Pairwise fun left right => Text.bytes left < Text.bytes right
  distinct : set.members.Nodup
  written : ∃ variants, Writes (codeOf enumeration.entries) (set.name model) variants set.members

section

variable {graph : Rdf.Graph} {resolver : Context.Resolver} {classes : List Model.Class} {model : Model}
  (built : Model.Built graph resolver classes model)
include built

theorem enumerations_written :
    List.Forall₂ (WritesOut graph model) (closedSets model) (enumerations model) := by
  have sets := (List.forall₂_and_left _ _).mpr
    ⟨fun _ => given_of_mem_closedSets built, enumerations_pair model⟩
  have named := (List.forall₂_and_left _ _).mpr
    ⟨fun _ => isPlain_of_mem_enumerations, sets.flip⟩
  refine named.flip.imp ?_
  rintro set enumeration ⟨plain, ⟨given, increasing⟩, enumerates⟩
  refine ⟨given, increasing.imp Text.bytes_lt_iff.mpr, Sorted.nodup_of_pairwise increasing, ?_⟩
  refine ⟨enumeration.variants.map Variant.name, ?_⟩
  rw [← enumerates.name, ← enumerates.members]
  exact writes_codeOf plain

end

theorem codeLines_render (model : Model) (options : Options) :
    codeLines (render model options) = [] :: codeOf primitives ++
      (enumerations model).flatMap (fun enumeration => codeOf enumeration.entries) ++
        codeOf ((traits model).flatMap Trait.entries) := by
  have code : codeLines (render model options) = [] :: codeOf (declarations model).entries :=
    codeLines_text (closes_declarations model)
  have blocks : codeOf ((enumerations model).flatMap Enumeration.entries) =
      (enumerations model).flatMap fun enumeration => codeOf enumeration.entries :=
    List.flatMap_assoc
  rw [code, Declarations.entries, codeOf_append, codeOf_append, ← blocks, List.cons_append,
    List.cons_append, declarations]

/-- A literal reads as the text that it quotes. In the module of a model that was built, each closed set has
an enumeration, whose lines have the same variants in all three places, and the members of the set, as the
graph gives them, as the values of the arms. -/
theorem variants_agree :
    (∀ value, Text.unquote? (Text.quote value) = some value) ∧
    ∀ {graph resolver model}, Model.build graph resolver = .ok model →
      (∀ set, set ∈ closedSets model ↔ set.StandsIn model) ∧
      List.Forall₂ (WritesOut graph model) (closedSets model) (enumerations model) ∧
      (declarations model).entries.filter (isLineFrom enumStart) =
        (enumerations model).map Enumeration.opening ∧
      ∀ options, codeLines (render model options) = [] :: codeOf primitives ++
        (enumerations model).flatMap (fun enumeration => codeOf enumeration.entries) ++
          codeOf ((traits model).flatMap Trait.entries) := by
  refine ⟨Text.unquote?_quote, fun {graph resolver model} succeeds => ?_⟩
  obtain ⟨classes, built⟩ := Model.build_sound succeeds
  exact ⟨fun _ => mem_closedSets, enumerations_written built,
    (declarations model).opens_entries.enumerations, codeLines_render model⟩

theorem variants_agree_escaped :
    ∃ model, Model.build (threeValues "say \"hi\"" "two\nlines" "back\\slash") (.ofDocuments []) =
        .ok model ∧
      ∃ set ∈ closedSets model, set.members = ["back\\slash", "say \"hi\"", "two\nlines"] ∧
        ∃ enumeration ∈ enumerations model,
          WritesOut (threeValues "say \"hi\"" "two\nlines" "back\\slash") model set enumeration := by
  have looked : (Model.build (threeValues "say \"hi\"" "two\nlines" "back\\slash")
      (.ofDocuments [])).toOption.map (fun model => (closedSets model).map ClosedSet.members) =
        some [["back\\slash", "say \"hi\"", "two\nlines"]] := by
    decide +kernel
  obtain ⟨model, succeeds, members⟩ := Outcomes.exists_ok_of_looked looked
  obtain ⟨_, written, _⟩ := variants_agree.2 succeeds
  obtain ⟨set, only, named⟩ := List.map_eq_singleton_iff.mp members
  rw [only, List.forall₂_cons_left_iff] at written
  obtain ⟨enumeration, _, writes, _, listed⟩ := written
  exact ⟨model, succeeds, set, only ▸ List.mem_singleton_self set, named, enumeration,
    listed ▸ List.mem_cons_self, writes⟩

end ShapeCompiler.Render.Traits
