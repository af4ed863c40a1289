import ShapeCompiler.Render.TraitsText

/-! The lines of a module of traits that open a declaration: one for the primitive types, and one for
each trait and each enumeration, in their order. -/

namespace ShapeCompiler.Text

def apart (left right : String) : Bool :=
  !startsWith left right && !startsWith right left

theorem startsWith_append_self (start rest : String) : startsWith start (start ++ rest) = true := by
  simp [startsWith, List.isPrefixOf_iff_prefix]

theorem startsWith_append_of_apart {start head : String} (different : apart start head = true)
    (rest : String) : startsWith start (head ++ rest) = false := by
  obtain ⟨unlike, unlike'⟩ : ¬ start.toList <+: head.toList ∧ ¬ head.toList <+: start.toList := by
    simpa [apart, startsWith, ← List.isPrefixOf_iff_prefix] using different
  rw [Bool.eq_false_iff]
  intro starts
  have whole : start.toList <+: head.toList ++ rest.toList := by
    simpa [startsWith, List.isPrefixOf_iff_prefix] using starts
  rcases List.prefix_or_prefix_of_prefix whole (List.prefix_append _ _) with shorter | longer
  · exact unlike shorter
  · exact unlike' longer

theorem startsWith_trans {start head text : String} (first : startsWith start head = true)
    (second : startsWith head text = true) : startsWith start text = true := by
  rw [startsWith, List.isPrefixOf_iff_prefix] at first second ⊢
  exact first.trans second

theorem ne_of_starts {left right start head : String} (leftStarts : startsWith start left = true)
    (rightStarts : startsWith head right = true) (different : apart start head = true) :
    left ≠ right := by
  rintro rfl
  obtain ⟨rest, whole⟩ := List.isPrefixOf_iff_prefix.mp rightStarts
  have line : left = head ++ String.ofList rest := by
    rw [← String.toList_inj, String.toList_append, String.toList_ofList, whole]
  rw [line, startsWith_append_of_apart different] at leftStarts
  cases leftStarts

end ShapeCompiler.Text

namespace ShapeCompiler.Render.Traits

def isLineFrom (start : String) : Entry → Bool
  | .line text => Text.startsWith start text
  | .doc _ _ => false

def traitStart : String := "pub trait "

def enumStart : String := "pub enum "

structure Opens (entries traits enumerations : List Entry) : Prop where
  traits : entries.filter (isLineFrom traitStart) = traits
  enumerations : entries.filter (isLineFrom enumStart) = enumerations

def primitivesOpening : Entry := .line "pub trait Primitives \x7b"

def Enumeration.opening (enumeration : Enumeration) : Entry :=
  .line ("pub enum " ++ enumeration.name ++ " \x7b")

def Trait.opening (trait : Trait) : Entry :=
  .line (if trait.methods.isEmpty then trait.heading ++ "\x7d" else trait.heading)

theorem Opens.append {entries others traits enumerations moreTraits moreEnumerations : List Entry}
    (first : Opens entries traits enumerations)
    (second : Opens others moreTraits moreEnumerations) :
    Opens (entries ++ others) (traits ++ moreTraits) (enumerations ++ moreEnumerations) := by
  constructor
  · rw [List.filter_append, first.traits, second.traits]
  · rw [List.filter_append, first.enumerations, second.enumerations]

theorem Opens.flatMap {α : Type} {entries traits enumerations : α → List Entry}
    (each : ∀ item, Opens (entries item) (traits item) (enumerations item)) (items : List α) :
    Opens (items.flatMap entries) (items.flatMap traits) (items.flatMap enumerations) := by
  induction items with
  | nil => exact ⟨rfl, rfl⟩
  | cons item items ih => exact (each item).append ih

def isInner (entry : Entry) : Bool :=
  !isLineFrom traitStart entry && !isLineFrom enumStart entry

theorem opens_of_inner {entries : List Entry} (inner : entries.all isInner = true) :
    Opens entries [] [] := by
  simp only [isInner, List.all_eq_true, Bool.and_eq_true, Bool.not_eq_true'] at inner
  constructor
  · refine List.filter_eq_nil_iff.mpr ?_
    intro entry member
    simp [(inner entry member).1]
  · refine List.filter_eq_nil_iff.mpr ?_
    intro entry member
    simp [(inner entry member).2]

theorem isInner_line (head : String)
    (inner : (Text.apart traitStart head && Text.apart enumStart head) = true) (rest : String) :
    isInner (.line (head ++ rest)) = true := by
  obtain ⟨noTrait, noEnumeration⟩ := Bool.and_eq_true_iff.mp inner
  simp only [isInner, isLineFrom, Text.startsWith_append_of_apart noTrait,
    Text.startsWith_append_of_apart noEnumeration]
  rfl

@[simp] theorem isInner_doc (indent text : String) : isInner (.doc indent text) = true := rfl

theorem isInner_signature (method arguments result : String) :
    isInner (signature method arguments result) = true := by
  simp only [signature, String.append_assoc]
  exact isInner_line _ (by decide) _

theorem all_inner_deprecation (indent : String)
    (inner : (Text.apart traitStart indent && Text.apart enumStart indent) = true)
    (deprecated : Bool) : (deprecation indent deprecated).all isInner = true := by
  cases deprecated <;> simp [deprecation, isInner_line indent inner]

theorem AssociatedType.all_inner (property : Model.Property) (associated : AssociatedType) :
    (associated.entries property).all isInner = true := by
  simp only [AssociatedType.entries, String.append_assoc, List.all_cons, List.all_nil]
  rw [isInner_line _ (by decide), isInner_line _ (by decide)]
  rfl

theorem Method.all_inner (method : Method) : method.entries.all isInner = true := by
  have noted := all_inner_deprecation "    " (by decide) method.property.deprecated
  have signatures : method.signatures.all isInner = true := by
    unfold Method.signatures
    dsimp only
    split
    · split <;> simp [isInner_signature, indentedDoc, noted]
    · split <;> simp [isInner_signature]
  unfold Method.entries
  cases method.declares with
  | none => simp [indentedDoc, noted, signatures]
  | some associated => simp [indentedDoc, noted, signatures, associated.all_inner]

theorem Variant.all_inner (variant : Variant) : variant.entries.all isInner = true := by
  simp only [Variant.entries, indentedDoc, String.append_assoc, List.all_cons, List.all_nil]
  rw [isInner_doc, isInner_line _ (by decide)]
  rfl

theorem Variant.isInner_arm (variant : Variant) : isInner variant.arm = true := by
  simp only [Variant.arm, String.append_assoc]
  exact isInner_line _ (by decide) _

theorem opens_primitives : Opens primitives [primitivesOpening] [] := ⟨rfl, rfl⟩

theorem Enumeration.opens_opening (enumeration : Enumeration) :
    Opens [enumeration.opening] [] [enumeration.opening] := by
  have noTrait : isLineFrom traitStart enumeration.opening = false := by
    simp only [Enumeration.opening, String.append_assoc]
    exact Text.startsWith_append_of_apart (by decide) _
  have opened : isLineFrom enumStart enumeration.opening = true := by
    simp only [Enumeration.opening, String.append_assoc]
    exact Text.startsWith_append_self _ _
  exact ⟨by simp [noTrait], by simp [opened]⟩

theorem Trait.opens_opening (trait : Trait) : Opens [trait.opening] [trait.opening] [] := by
  obtain ⟨rest, written⟩ : ∃ rest, trait.opening = .line (traitStart ++ rest) := by
    unfold Trait.opening Trait.heading
    dsimp only
    split
    · exact ⟨_, by simp only [String.append_assoc]; rfl⟩
    · exact ⟨_, by simp only [String.append_assoc]; rfl⟩
  rw [written]
  constructor
  · simp [isLineFrom, Text.startsWith_append_self]
  · have noEnumeration : Text.startsWith enumStart (traitStart ++ rest) = false :=
      Text.startsWith_append_of_apart (by decide) rest
    simp [isLineFrom, noEnumeration]

theorem Enumeration.opens_entries (enumeration : Enumeration) :
    Opens enumeration.entries [] [enumeration.opening] := by
  have opened : Opens ([docComment enumeration.comment,
      .line "#[derive(Debug, Clone, Copy, PartialEq, Eq, Hash)]"] ++ [enumeration.opening])
      [] [enumeration.opening] := by
    refine (opens_of_inner ?_).append enumeration.opens_opening
    exact rfl
  have variants : (enumeration.variants.flatMap Variant.entries).all isInner = true := by
    simp [List.all_flatMap, Variant.all_inner]
  have arms : (enumeration.variants.map Variant.arm).all isInner = true := by
    simp [List.all_map, Variant.isInner_arm]
  refine (((opened.append (opens_of_inner variants)).append (opens_of_inner ?_)).append
    (opens_of_inner arms)).append (opens_of_inner ?_)
  · simp only [String.append_assoc, List.all_cons, List.all_nil]
    rw [isInner_line "impl " (by decide),
      isInner_line "    pub const ALL: &'static [Self] = &[" (by decide)]
    rfl
  · rfl

theorem Trait.opens_entries (trait : Trait) : Opens trait.entries [trait.opening] [] := by
  have inside : (trait.methods.flatMap Method.entries).all isInner = true := by
    simp [List.all_flatMap, Method.all_inner]
  have body : Opens (if trait.methods.isEmpty then [.line (trait.heading ++ "\x7d")]
      else [.line trait.heading] ++ trait.methods.flatMap Method.entries ++ [.line "\x7d"])
      [trait.opening] [] := by
    have opened := trait.opens_opening
    unfold Trait.opening at opened ⊢
    split at opened
    · rwa [if_pos ‹_›, if_pos ‹_›]
    · rw [if_neg ‹_›, if_neg ‹_›]
      exact (opened.append (opens_of_inner inside)).append (opens_of_inner rfl)
  unfold Trait.entries
  refine (((((opens_of_inner ?_).append (opens_of_inner ?_)).append (opens_of_inner ?_)).append
    (opens_of_inner ?_)).append body).append (opens_of_inner rfl)
  · cases trait.source.comment <;> rfl
  · simp only [String.append_assoc, List.all_cons, List.all_nil]
    rw [isInner_line _ (by decide)]
    rfl
  · cases trait.source.isAbstract <;> rfl
  · cases trait.source.deprecated <;> rfl

theorem Declarations.opens_entries (declarations : Declarations) :
    Opens declarations.entries
      (primitivesOpening :: declarations.traits.map Trait.opening)
      (declarations.enumerations.map Enumeration.opening) := by
  have enumerations := Opens.flatMap Enumeration.opens_entries declarations.enumerations
  have traits := Opens.flatMap Trait.opens_entries declarations.traits
  have noTraits : declarations.enumerations.flatMap (fun _ => ([] : List Entry)) = [] :=
    List.flatMap_eq_nil_iff.mpr fun _ _ => rfl
  have noEnumerations : declarations.traits.flatMap (fun _ => ([] : List Entry)) = [] :=
    List.flatMap_eq_nil_iff.mpr fun _ _ => rfl
  rw [noTraits, ← List.map_eq_flatMap] at enumerations
  rw [noEnumerations, ← List.map_eq_flatMap] at traits
  have whole := (opens_primitives.append enumerations).append traits
  rwa [List.append_nil, List.append_nil, List.nil_append] at whole

/-! What is read from the lines inside a trait. -/

structure ReadsInside {α : Type} (read? : Entry → Option α) : Prop where
  doc : ∀ indent text, read? (.doc indent text) = none
  outer : ∀ text, Text.startsWith "    " text = false → read? (.line text) = none

theorem ReadsInside.outer_append {α : Type} {read? : Entry → Option α} (inside : ReadsInside read?)
    (head : String) (other : Text.apart "    " head = true) (rest : String) :
    read? (.line (head ++ rest)) = none :=
  inside.outer _ (Text.startsWith_append_of_apart other rest)

theorem Trait.filterMap_entries {α : Type} {read? : Entry → Option α} (inside : ReadsInside read?)
    (trait : Trait) : trait.entries.filterMap read? =
      trait.methods.flatMap fun method => method.entries.filterMap read? := by
  have named : read? (.line ("/// IRI: <" ++ trait.source.id ++ ">")) = none := by
    rw [String.append_assoc]
    exact inside.outer_append _ (by decide) _
  have blank : read? Entry.blank = none := inside.outer "" (by decide)
  have closing : read? (.line "\x7d") = none := inside.outer "\x7d" (by decide)
  have heading (rest : String) : read? (.line (trait.heading ++ rest)) = none := by
    unfold Trait.heading
    dsimp only
    simp only [String.append_assoc]
    exact inside.outer_append "pub trait " (by decide) _
  have noted : (deprecation "" trait.source.deprecated).filterMap read? = [] := by
    cases trait.source.deprecated with
    | false => rfl
    | true =>
        have note : read? (.line ("" ++ "#[deprecated]")) = none := inside.outer _ (by decide)
        rw [deprecation, if_pos rfl, List.filterMap_cons, note, List.filterMap_nil]
  have body : (if trait.methods.isEmpty then [.line (trait.heading ++ "\x7d")]
      else [.line trait.heading] ++ trait.methods.flatMap Method.entries ++
        [.line "\x7d"]).filterMap read? =
      trait.methods.flatMap fun method => method.entries.filterMap read? := by
    split
    · rename_i none
      rw [List.isEmpty_iff.mp none, List.filterMap_cons, heading]
      rfl
    · have opened := heading ""
      rw [String.append_empty] at opened
      rw [List.filterMap_append, List.filterMap_append, List.filterMap_flatMap, List.filterMap_cons,
        opened, List.filterMap_cons, closing]
      exact List.append_nil _
  unfold Trait.entries
  simp only [List.filterMap_append, List.filterMap_cons, List.filterMap_nil, noted, named, blank, body,
    List.append_nil]
  cases trait.source.comment <;> cases trait.source.isAbstract <;>
    simp [docComment, inside.doc]

end ShapeCompiler.Render.Traits
