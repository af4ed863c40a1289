import ShapeCompiler.Proofs.Render.Fallbacks
import ShapeCompiler.Proofs.Render.TraitModules

/-! The names of variants. A variant whose name was taken gets its position behind it, and that may give the
name of another variant. This module tells exactly when names repeat, and when a variant loses a name that
no other had before it. Neither happens where no name ends in a digit. -/

namespace ShapeCompiler.Render.Traits

def numbered (name : String) (position : Nat) : String :=
  name ++ toString position

def endsInDigit (name : String) : Bool :=
  name.toList.getLast?.any Char.isDigit

def variantWishes (variants : List Variant) : List Wish :=
  variants.mapIdx fun position variant => ⟨variant.name, numbered variant.name position⟩

structure StandsFirst (variants : List Variant) (position : Nat) (variant : Variant) : Prop where
  stands : variants[position]? = some variant
  first : ∀ before < position, ∀ earlier, variants[before]? = some earlier →
    earlier.name ≠ variant.name

/-- Some variant is given, for want of its own name, the name of another that stands first with it. -/
def Preempted (variants : List Variant) : Prop :=
  ∃ position variant, StandsFirst variants position variant ∧
    ∃ before < position, ∃ earlier, variants[before]? = some earlier ∧
      Taken (variantWishes variants) before earlier.name ∧
      numbered earlier.name before = variant.name

/-- What becomes of variants whose names are made distinct: all but their names is kept, those whose
names were not taken keep them, and the others get their positions behind theirs. -/
structure Relabels (variants relabeled : List Variant) : Prop where
  values : relabeled.map Variant.value = variants.map Variant.value
  comments : relabeled.map Variant.comment = variants.map Variant.comment
  kept : ∀ position variant, variants[position]? = some variant →
    ¬ Taken (variantWishes variants) position variant.name → relabeled[position]? = some variant
  renamed : ∀ position variant, variants[position]? = some variant →
    Taken (variantWishes variants) position variant.name →
      relabeled[position]? = some { variant with name := numbered variant.name position }
  distinct_iff : (relabeled.map Variant.name).Nodup ↔ FallbacksFree (variantWishes variants)
  firsts_iff : (∀ position variant, StandsFirst variants position variant →
    relabeled[position]? = some variant) ↔ ¬ Preempted variants
  plain : (∀ variant ∈ variants, endsInDigit variant.name = false) →
    FallbacksFree (variantWishes variants) ∧ ¬ Preempted variants

theorem toString_digits {position : Nat} {c : Char} (member : c ∈ (toString position).toList) :
    c.isDigit = true := by
  rw [Nat.toString_eq_ofList_toDigits, String.toList_ofList] at member
  exact Nat.isDigit_of_mem_toDigits (by decide) (by decide) member

theorem endsInDigit_numbered (name : String) (position : Nat) :
    endsInDigit (numbered name position) = true := by
  have filled : (toString position).toList ≠ [] := by
    rw [Nat.toString_eq_ofList_toDigits, String.toList_ofList]
    exact Nat.toDigits_ne_nil
  rw [endsInDigit, numbered, String.toList_append, List.getLast?_append_of_ne_nil _ filled,
    List.getLast?_eq_getLast_of_ne_nil filled, Option.any_some]
  exact toString_digits (List.getLast_mem filled)

theorem numbered_ne (name : String) (position : Nat) : numbered name position ≠ name := by
  intro same
  have digits : toString position = "" := String.append_eq_left_iff.mp same
  rw [Nat.toString_eq_ofList_toDigits, String.ofList_eq_empty_iff] at digits
  exact Nat.toDigits_ne_nil digits

theorem dropWhile_numbered {name : String} (plain : endsInDigit name = false) (position : Nat) :
    (numbered name position).toList.reverse.dropWhile Char.isDigit = name.toList.reverse := by
  have digits : ∀ c ∈ (toString position).toList.reverse, c.isDigit = true := by
    intro c member
    exact toString_digits (List.mem_reverse.mp member)
  rw [numbered, String.toList_append, List.reverse_append, List.dropWhile_append_of_pos digits]
  cases written : name.toList.reverse with
  | nil => rfl
  | cons last rest =>
      have ends : name.toList.getLast? = some last := by
        rw [← List.head?_reverse, written, List.head?_cons]
      rw [endsInDigit, ends, Option.any_some] at plain
      rw [List.dropWhile_cons_of_neg (by simp [plain])]

theorem position_of_numbered_eq {name other : String} {position before : Nat}
    (plain : endsInDigit name = false) (otherPlain : endsInDigit other = false)
    (same : numbered name position = numbered other before) : position = before := by
  have cut := dropWhile_numbered plain position
  rw [same, dropWhile_numbered otherPlain before, List.reverse_inj, String.toList_inj] at cut
  subst cut
  have digits : toString position = toString before := (String.append_right_inj _).mp same
  rw [Nat.toString_eq_ofList_toDigits, Nat.toString_eq_ofList_toDigits, String.ofList_inj] at digits
  have read := congrArg (Nat.ofDigitChars 10 · 0) digits
  simpa only [Nat.ofDigitChars_toDigits (by decide : 1 < 10) (by decide : 10 ≤ 10)] using read

theorem map_name_distinctFrom (position : Nat) (taken : List String) (variants : List Variant) :
    (distinctFrom position taken variants).map Variant.name =
      givenNames taken (variants.mapIdx fun index variant =>
        ⟨variant.name, numbered variant.name (position + index)⟩) := by
  induction variants generalizing position taken with
  | nil => rfl
  | cons variant variants ih =>
      rw [distinctFrom, List.map_cons, ih, List.mapIdx_cons, givenNames]
      simp only [numbered, Nat.add_zero, Nat.add_assoc, Nat.add_comm 1]

theorem map_name_distinctVariants (variants : List Variant) :
    (distinctVariants variants).map Variant.name = givenNames [] (variantWishes variants) := by
  rw [distinctVariants, map_name_distinctFrom]
  simp only [Nat.zero_add]
  rfl

theorem comments_distinctFrom (position : Nat) (taken : List String) (variants : List Variant) :
    (distinctFrom position taken variants).map Variant.comment = variants.map Variant.comment := by
  induction variants generalizing position taken with
  | nil => rfl
  | cons variant variants ih => simp [distinctFrom, ih]

section

variable {variants : List Variant} {position : Nat} {variant : Variant}

theorem getElem?_variantWishes : (variantWishes variants)[position]? =
    variants[position]?.map fun variant => ⟨variant.name, numbered variant.name position⟩ :=
  List.getElem?_mapIdx

theorem wish_of_variant (stands : variants[position]? = some variant) :
    (variantWishes variants)[position]? = some ⟨variant.name, numbered variant.name position⟩ := by
  rw [getElem?_variantWishes, stands, Option.map_some]

theorem getElem?_distinctVariants {name : String} (stands : variants[position]? = some variant)
    (given : (givenNames [] (variantWishes variants))[position]? = some name) :
    (distinctVariants variants)[position]? = some { variant with name := name } := by
  have valued := congrArg (·[position]?) (values_distinctFrom 0 [] variants)
  have noted := congrArg (·[position]?) (comments_distinctFrom 0 [] variants)
  rw [← map_name_distinctVariants, List.getElem?_map, Option.map_eq_some_iff] at given
  obtain ⟨relabeled, found, rfl⟩ := given
  have same : (distinctFrom 0 [] variants)[position]? = some relabeled := found
  simp only [List.getElem?_map, same, stands, Option.map_some, Option.some.injEq] at valued noted
  rw [found, ← valued, ← noted]

theorem distinctVariants_kept (stands : variants[position]? = some variant)
    (free : ¬ Taken (variantWishes variants) position variant.name) :
    (distinctVariants variants)[position]? = some variant :=
  getElem?_distinctVariants stands
    (getElem?_givenNames_iff.mpr ⟨_, wish_of_variant stands, Or.inr ⟨free, rfl⟩⟩)

theorem distinctVariants_renamed (stands : variants[position]? = some variant)
    (taken : Taken (variantWishes variants) position variant.name) :
    (distinctVariants variants)[position]? =
      some { variant with name := numbered variant.name position } :=
  getElem?_distinctVariants stands
    (getElem?_givenNames_iff.mpr ⟨_, wish_of_variant stands, Or.inl ⟨taken, rfl⟩⟩)

theorem taken_variantWishes {name : String} (taken : Taken (variantWishes variants) position name) :
    ∃ before < position, ∃ earlier, variants[before]? = some earlier ∧
      (earlier.name = name ∨
        Taken (variantWishes variants) before earlier.name ∧ numbered earlier.name before = name) := by
  cases taken with
  | @wanted before _ wish earlier stands =>
      rw [getElem?_variantWishes, Option.map_eq_some_iff] at stands
      obtain ⟨other, found, rfl⟩ := stands
      exact ⟨before, earlier, other, found, Or.inl rfl⟩
  | @fallback before _ wish earlier stands missed =>
      rw [getElem?_variantWishes, Option.map_eq_some_iff] at stands
      obtain ⟨other, found, rfl⟩ := stands
      exact ⟨before, earlier, other, found, Or.inr ⟨missed, rfl⟩⟩

theorem StandsFirst.taken_iff (first : StandsFirst variants position variant) :
    Taken (variantWishes variants) position variant.name ↔
      ∃ before < position, ∃ earlier, variants[before]? = some earlier ∧
        Taken (variantWishes variants) before earlier.name ∧
        numbered earlier.name before = variant.name := by
  constructor
  · intro taken
    obtain ⟨before, below, earlier, found, same | renamed⟩ := taken_variantWishes taken
    · exact absurd same (first.first before below earlier found)
    · exact ⟨before, below, earlier, found, renamed⟩
  · rintro ⟨before, below, earlier, found, missed, same⟩
    exact same ▸ .fallback below (wish_of_variant found) missed

end

theorem firsts_kept_iff (variants : List Variant) :
    (∀ position variant, StandsFirst variants position variant →
      (distinctVariants variants)[position]? = some variant) ↔ ¬ Preempted variants := by
  constructor
  · rintro kept ⟨position, variant, first, given⟩
    have renamed := distinctVariants_renamed first.stands (first.taken_iff.mpr given)
    rw [kept position variant first, Option.some.injEq] at renamed
    exact numbered_ne variant.name position (congrArg Variant.name renamed).symm
  · intro free position variant first
    refine distinctVariants_kept first.stands ?_
    intro taken
    exact free ⟨position, variant, first, first.taken_iff.mp taken⟩

theorem fallbacksFree_of_plain {variants : List Variant}
    (plain : ∀ variant ∈ variants, endsInDigit variant.name = false) :
    FallbacksFree (variantWishes variants) := by
  intro position wish stands missed taken
  rw [getElem?_variantWishes, Option.map_eq_some_iff] at stands
  obtain ⟨variant, found, rfl⟩ := stands
  obtain ⟨before, below, earlier, stood, same | ⟨_, same⟩⟩ := taken_variantWishes taken
  · have ends := endsInDigit_numbered variant.name position
    dsimp only at same
    rw [← same, plain earlier (List.mem_of_getElem? stood)] at ends
    cases ends
  · have equal := position_of_numbered_eq (plain earlier (List.mem_of_getElem? stood))
      (plain variant (List.mem_of_getElem? found)) same
    omega

theorem not_preempted_of_plain {variants : List Variant}
    (plain : ∀ variant ∈ variants, endsInDigit variant.name = false) : ¬ Preempted variants := by
  rintro ⟨position, variant, first, before, _, earlier, _, _, same⟩
  have ends := endsInDigit_numbered earlier.name before
  rw [same, plain variant (List.mem_of_getElem? first.stands)] at ends
  cases ends

/-! Enumerations of a module. -/

def ClosedSet.variants : ClosedSet → List Variant
  | individuals modelClass => modelClass.individuals.map individualVariant
  | values _ _ members => members.map valueVariant

theorem exists_of_mem_enumerations {model : Model} {enumeration : Enumeration}
    (member : enumeration ∈ enumerations model) :
    ∃ set ∈ closedSets model, enumeration.name = set.name model ∧
      enumeration.variants = distinctVariants set.variants := by
  obtain ⟨modelClass, inside, listed⟩ := List.mem_flatMap.mp member
  have own {set : ClosedSet} (among : set ∈ closedSetsOf modelClass) : set ∈ closedSets model :=
    List.mem_flatMap.mpr ⟨modelClass, inside, among⟩
  rcases List.mem_append.mp listed with ofIndividuals | ofValues
  · unfold individualEnumeration at ofIndividuals
    split at ofIndividuals
    · cases ofIndividuals
    · rename_i filled
      rw [List.mem_singleton.mp ofIndividuals]
      refine ⟨.individuals modelClass, own (List.mem_append_left _ ?_), rfl, rfl⟩
      rw [if_neg filled]
      exact List.mem_singleton_self _
  · obtain ⟨property, owned, listed⟩ := List.mem_flatMap.mp ofValues
    unfold valueEnumeration at listed
    split at listed
    · cases listed
    · rename_i values closed
      rw [List.mem_singleton.mp listed]
      refine ⟨.values modelClass property values, own (List.mem_append_right _ ?_), rfl, rfl⟩
      exact List.mem_filterMap.mpr ⟨property, owned, by rw [closed, Option.map_some]⟩

theorem relabels_distinctVariants (variants : List Variant) :
    Relabels variants (distinctVariants variants) where
  values := values_distinctFrom 0 [] variants
  comments := comments_distinctFrom 0 [] variants
  kept _ _ := distinctVariants_kept
  renamed _ _ := distinctVariants_renamed
  distinct_iff := by rw [map_name_distinctVariants, nodup_givenNames_iff]
  firsts_iff := firsts_kept_iff variants
  plain ends := ⟨fallbacksFree_of_plain ends, not_preempted_of_plain ends⟩

/-- Variants keep all but their names, and whether their names become distinct is told by the names that they
want. The variants of every enumeration of a module come about in this way. -/
theorem variant_names_distinct_iff (variants : List Variant) :
    Relabels variants (distinctVariants variants) ∧
      ∀ model, ∀ enumeration ∈ enumerations model, ∃ set ∈ closedSets model,
        enumeration.name = set.name model ∧ Relabels set.variants enumeration.variants := by
  refine ⟨relabels_distinctVariants variants, fun model enumeration member => ?_⟩
  obtain ⟨set, among, named, made⟩ := exists_of_mem_enumerations member
  exact ⟨set, among, named, made ▸ relabels_distinctVariants set.variants⟩

def threeValues (first second third : String) : Rdf.Graph :=
  .ofList [
    ⟨.iri "c", Rdf.Vocabulary.rdfType, .iri Rdf.Vocabulary.owlClass⟩,
    ⟨.iri "c", Rdf.Vocabulary.shProperty, .blank "size"⟩,
    ⟨.blank "size", Rdf.Vocabulary.shPath, .iri "size"⟩,
    ⟨.blank "size", Rdf.Vocabulary.shIn, .blank "first"⟩,
    ⟨.blank "first", Rdf.Vocabulary.rdfFirst, .plain first⟩,
    ⟨.blank "first", Rdf.Vocabulary.rdfRest, .blank "second"⟩,
    ⟨.blank "second", Rdf.Vocabulary.rdfFirst, .plain second⟩,
    ⟨.blank "second", Rdf.Vocabulary.rdfRest, .blank "third"⟩,
    ⟨.blank "third", Rdf.Vocabulary.rdfFirst, .plain third⟩,
    ⟨.blank "third", Rdf.Vocabulary.rdfRest, .iri Rdf.Vocabulary.rdfNil⟩]

def writtenVariants (graph : Rdf.Graph) : Option (List (List (String × String))) :=
  (Model.build graph (.ofDocuments [])).toOption.map fun model =>
    (enumerations model).map fun enumeration =>
      enumeration.variants.map fun variant => (variant.value, variant.name)

theorem variant_names_distinct_iff_sizes :
    writtenVariants (threeValues "tall" "small" "Tall") =
      some [[("Tall", "Tall"), ("small", "Small"), ("tall", "Tall2")]] ∧
    ∃ model, Model.build (threeValues "tall" "small" "Tall") (.ofDocuments []) = .ok model ∧
      ∃ enumeration ∈ enumerations model, ∃ set ∈ closedSets model,
        enumeration.variants.map Variant.name = ["Tall", "Small", "Tall2"] ∧
          FallbacksFree (variantWishes set.variants) := by
  have written : writtenVariants (threeValues "tall" "small" "Tall") =
      some [[("Tall", "Tall"), ("small", "Small"), ("tall", "Tall2")]] := by
    decide +kernel
  refine ⟨written, ?_⟩
  obtain ⟨model, succeeds, enumeration, member, pairs⟩ := Outcomes.exists_mem_of_looked written
  obtain ⟨set, among, _, relabels⟩ := (variant_names_distinct_iff []).2 model enumeration member
  have names : enumeration.variants.map Variant.name = ["Tall", "Small", "Tall2"] := by
    have seconds := congrArg (List.map Prod.snd) pairs
    rwa [List.map_map] at seconds
  refine ⟨model, succeeds, enumeration, member, set, among, names, ?_⟩
  exact relabels.distinct_iff.mp (names ▸ (by decide))

/-- A position behind one name gives another name that is there: the third variant has the name of the
first. And a variant that stands first with its name loses it, since the one before it was given this name. -/
theorem variant_names_repeat :
    writtenVariants (threeValues "x/A2" "y/A" "z/A") =
      some [[("x/A2", "A2"), ("y/A", "A"), ("z/A", "A2")]] ∧
    ¬ ["A2", "A", "A2"].Nodup ∧
    writtenVariants (threeValues "x/A" "y/A" "z/A1") =
      some [[("x/A", "A"), ("y/A", "A1"), ("z/A1", "A12")]] ∧
    StandsFirst (["x/A", "y/A", "z/A1"].map valueVariant) 2 ⟨"A1", "z/A1", none⟩ := by
  have wanted : ["x/A", "y/A", "z/A1"].map valueVariant =
      [⟨"A", "x/A", none⟩, ⟨"A", "y/A", none⟩, ⟨"A1", "z/A1", none⟩] := by
    decide +kernel
  refine ⟨by decide +kernel, by decide, by decide +kernel, wanted ▸ rfl, ?_⟩
  intro before below earlier found
  rw [wanted] at found
  obtain rfl | rfl : before = 0 ∨ before = 1 := by omega
  · cases found
    decide
  · cases found
    decide

end ShapeCompiler.Render.Traits
