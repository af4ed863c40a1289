import ShapeCompiler.Proofs.Render.EnumerationLines

/-! The names of the items in a module of traits: the primitive types, the enumerations and the traits, which
all share one namespace. Traits, and enumerations that stand for a whole class, have the name of the class,
and the other enumerations that name with a suffix. No one looks for a name that is taken, and this module
tells exactly when names repeat. They do not where no name of a class starts another, if the suffixes of
each class differ. -/

namespace ShapeCompiler.Render.Traits

def nameAfter (start text : String) : String :=
  String.ofList ((text.toList.drop start.length).takeWhile fun c => c ≠ ' ' && c ≠ '<')

def itemName? : Entry → Option String
  | .line text =>
      if Text.startsWith traitStart text then some (nameAfter traitStart text)
      else if Text.startsWith enumStart text then some (nameAfter enumStart text)
      else none
  | .doc _ _ => none

def itemNames (entries : List Entry) : List String :=
  entries.filterMap itemName?

theorem nameAfter_append {name : String} (plain : IsPlain name) (start : String) {tail : String}
    (ends : tail.toList.head? = some ' ' ∨ tail.toList.head? = some '<') :
    nameAfter start (start ++ (name ++ tail)) = name := by
  have letters : ∀ c ∈ name.toList, (decide (c ≠ ' ') && decide (c ≠ '<')) = true := by
    intro c member
    rw [Bool.and_eq_true, decide_eq_true_eq, decide_eq_true_eq]
    constructor
    · rintro rfl
      exact plain.not_mem (by decide) member
    · rintro rfl
      exact plain.not_mem (by decide) member
  have length : start.length = start.toList.length := rfl
  have stops : tail.toList.takeWhile (fun c => decide (c ≠ ' ') && decide (c ≠ '<')) = [] := by
    cases written : tail.toList with
    | nil => rfl
    | cons first rest =>
        rw [written, List.head?_cons, Option.some.injEq, Option.some.injEq] at ends
        rcases ends with rfl | rfl
        · rfl
        · rfl
  rw [nameAfter, String.toList_append, length, List.drop_left, String.toList_append,
    List.takeWhile_append_of_pos letters, stops, List.append_nil, String.ofList_toList]

theorem itemName?_enumeration {enumeration : Enumeration} (plain : IsPlain enumeration.name) :
    itemName? enumeration.opening = some enumeration.name := by
  have line : enumeration.opening = .line (enumStart ++ (enumeration.name ++ " \x7b")) := by
    simp only [Enumeration.opening, enumStart, String.append_assoc]
  have noTrait : Text.startsWith traitStart (enumStart ++ (enumeration.name ++ " \x7b")) = false :=
    Text.startsWith_append_of_apart (by decide) _
  rw [line, itemName?, noTrait, if_neg Bool.false_ne_true, Text.startsWith_append_self, if_pos rfl,
    nameAfter_append plain _ (Or.inl rfl)]

theorem itemName?_trait {trait : Trait} (plain : IsPlain trait.name) :
    itemName? trait.opening = some trait.name := by
  obtain ⟨rest, written⟩ : ∃ rest, trait.opening =
      .line (traitStart ++ (trait.name ++ ("<P: Primitives>" ++ rest))) := by
    unfold Trait.opening Trait.heading
    dsimp only
    split
    · exact ⟨_, by simp only [String.append_assoc]; rfl⟩
    · exact ⟨_, by simp only [String.append_assoc]; rfl⟩
  have ends : ("<P: Primitives>" ++ rest).toList.head? = some '<' := by
    rw [String.toList_append]
    rfl
  rw [written, itemName?, Text.startsWith_append_self, if_pos rfl, nameAfter_append plain _ (Or.inr ends)]

theorem itemName?_eq_none {entry : Entry} (noTrait : isLineFrom traitStart entry = false)
    (noEnumeration : isLineFrom enumStart entry = false) : itemName? entry = none := by
  cases entry with
  | doc indent text => rfl
  | line text =>
      rw [isLineFrom] at noTrait noEnumeration
      rw [itemName?, noTrait, noEnumeration]
      rfl

theorem Opens.itemNames_traits {entries traits : List Entry} (opens : Opens entries traits []) :
    itemNames entries = itemNames traits := by
  have noEnumeration := List.filter_eq_nil_iff.mp opens.enumerations
  rw [itemNames, itemNames, ← opens.traits, List.filterMap_filter]
  refine List.filterMap_congr fun entry member => ?_
  split
  · rfl
  · rename_i noTrait
    exact itemName?_eq_none (by simpa using noTrait) (by simpa using noEnumeration entry member)

theorem Opens.itemNames_enumerations {entries enumerations : List Entry}
    (opens : Opens entries [] enumerations) : itemNames entries = itemNames enumerations := by
  have noTrait := List.filter_eq_nil_iff.mp opens.traits
  rw [itemNames, itemNames, ← opens.enumerations, List.filterMap_filter]
  refine List.filterMap_congr fun entry member => ?_
  split
  · rfl
  · rename_i noEnumeration
    exact itemName?_eq_none (by simpa using noTrait entry member) (by simpa using noEnumeration)

theorem itemNames_flatMap {α : Type} {items : List α} {entries : α → List Entry} {name : α → String}
    (each : ∀ item ∈ items, itemNames (entries item) = [name item]) :
    itemNames (items.flatMap entries) = items.map name := by
  rw [itemNames, List.filterMap_flatMap, List.map_eq_flatMap]
  exact List.flatMap_congr each

theorem itemNames_declarations (model : Model) : itemNames (declarations model).entries =
    "Primitives" :: ((closedSets model).map (ClosedSet.name model) ++ (traits model).map Trait.name) := by
  have named : (enumerations model).map Enumeration.name =
      (closedSets model).map (ClosedSet.name model) := by
    have pairs : List.Forall₂ Eq ((closedSets model).map (ClosedSet.name model))
        ((enumerations model).map Enumeration.name) :=
      List.forall₂_map_left_iff.mpr (List.forall₂_map_right_iff.mpr
        ((enumerations_pair model).imp fun _ _ enumerates => enumerates.name.symm))
    rw [List.forall₂_eq_eq_eq] at pairs
    exact pairs.symm
  have enumerated : itemNames ((enumerations model).flatMap Enumeration.entries) =
      (enumerations model).map Enumeration.name := by
    refine itemNames_flatMap fun enumeration member => ?_
    have name := itemName?_enumeration (isPlain_of_mem_enumerations member).name
    rw [enumeration.opens_entries.itemNames_enumerations, itemNames, List.filterMap_cons, name,
      List.filterMap_nil]
  have listed : itemNames ((traits model).flatMap Trait.entries) = (traits model).map Trait.name := by
    refine itemNames_flatMap fun trait member => ?_
    have plain : IsPlain trait.name := by
      obtain ⟨modelClass, _, rfl⟩ := List.mem_map.mp member
      exact isPlain_typeNameOf model modelClass.id
    rw [trait.opens_entries.itemNames_traits, itemNames, List.filterMap_cons, itemName?_trait plain,
      List.filterMap_nil]
  have fixed : itemNames primitives = ["Primitives"] := by
    rw [opens_primitives.itemNames_traits]
    decide
  have whole : itemNames (declarations model).entries = itemNames primitives ++
      itemNames ((enumerations model).flatMap Enumeration.entries) ++
        itemNames ((traits model).flatMap Trait.entries) := by
    rw [declarations, Declarations.entries, itemNames, List.filterMap_append, List.filterMap_append]
    rfl
  rw [whole, fixed, enumerated, listed, named]
  rfl

/-! The names of closed sets, and of the classes that they belong to. -/

def suffixes (modelClass : Model.Class) : List String :=
  (if modelClass.individuals.isEmpty || hasIndividualsOnly modelClass then [] else ["Individual"]) ++
    modelClass.properties.filterMap fun property =>
      property.values?.map fun _ => pascalCase property.name

def suffixedNames (model : Model) : List String :=
  model.classes.flatMap fun modelClass => (suffixes modelClass).map (typeName modelClass ++ ·)

section

variable {model : Model} (linked : Model.Linked model)
include linked

theorem map_name_closedSetsOf {modelClass : Model.Class} (member : modelClass ∈ model.classes) :
    (closedSetsOf modelClass).map (ClosedSet.name model) =
      (if hasIndividualsOnly modelClass then [typeName modelClass] else []) ++
        (suffixes modelClass).map (typeName modelClass ++ ·) := by
  have values : (modelClass.properties.filterMap fun property =>
      property.values?.map (ClosedSet.values modelClass property)).map (ClosedSet.name model) =
        (modelClass.properties.filterMap fun property =>
          property.values?.map fun _ => pascalCase property.name).map (typeName modelClass ++ ·) := by
    rw [List.map_filterMap, List.map_filterMap]
    refine List.filterMap_congr fun property _ => ?_
    rw [Option.map_map, Option.map_map]
    cases property.values? with
    | none => rfl
    | some members =>
        rw [Option.map_some, Option.map_some, Function.comp_apply, Function.comp_apply, ClosedSet.name,
          valuesName, typeNameOf_of_mem linked member]
  have individuals : (if modelClass.individuals.isEmpty then [] else
      [ClosedSet.individuals modelClass]).map (ClosedSet.name model) =
        (if hasIndividualsOnly modelClass then [typeName modelClass] else []) ++
          (if modelClass.individuals.isEmpty || hasIndividualsOnly modelClass then []
            else ["Individual"]).map (typeName modelClass ++ ·) := by
    have name : ClosedSet.name model (.individuals modelClass) =
        if hasIndividualsOnly modelClass then typeName modelClass
        else typeName modelClass ++ "Individual" := by
      simp only [ClosedSet.name, individualsName, typeNameOf_of_mem linked member,
        isEnumerationOnly_of_mem linked member]
    cases empty : modelClass.individuals.isEmpty with
    | true =>
        have others : hasIndividualsOnly modelClass = false := by
          simp [hasIndividualsOnly, empty]
        rw [others]
        rfl
    | false =>
        rw [if_neg Bool.false_ne_true, List.map_singleton, name]
        cases hasIndividualsOnly modelClass <;> rfl
  rw [closedSetsOf, List.map_append, values, individuals, suffixes, List.map_append, List.append_assoc]

theorem perm_itemNames : (itemNames (declarations model).entries).Perm
    ("Primitives" :: (model.classes.map typeName ++ suffixedNames model)) := by
  have sets : (closedSets model).map (ClosedSet.name model) = model.classes.flatMap fun modelClass =>
      (if hasIndividualsOnly modelClass then [typeName modelClass] else []) ++
        (suffixes modelClass).map (typeName modelClass ++ ·) := by
    rw [closedSets, List.map_flatMap]
    exact List.flatMap_congr fun modelClass member => map_name_closedSetsOf linked member
  have others : (traits model).map Trait.name = model.classes.flatMap fun modelClass =>
      if hasIndividualsOnly modelClass then [] else [typeName modelClass] := by
    rw [map_name_traits linked]
    generalize model.classes = classes
    induction classes with
    | nil => rfl
    | cons modelClass classes ih =>
        rw [List.filter_cons, List.flatMap_cons, ← ih]
        cases hasIndividualsOnly modelClass <;> rfl
  have each : (fun modelClass => (if hasIndividualsOnly modelClass then [] else [typeName modelClass]) ++
      if hasIndividualsOnly modelClass then [typeName modelClass] else []) =
        fun modelClass => [typeName modelClass] := by
    funext modelClass
    cases hasIndividualsOnly modelClass <;> rfl
  rw [itemNames_declarations, sets, others]
  refine List.Perm.cons _ ?_
  have parted := List.flatMap_append_perm model.classes
    (fun modelClass => if hasIndividualsOnly modelClass then [typeName modelClass] else [])
    (fun modelClass => (suffixes modelClass).map (typeName modelClass ++ ·))
  have joined := List.flatMap_append_perm model.classes
    (fun modelClass => if hasIndividualsOnly modelClass then [] else [typeName modelClass])
    (fun modelClass => if hasIndividualsOnly modelClass then [typeName modelClass] else [])
  rw [each, ← List.map_eq_flatMap] at joined
  refine ((parted.symm.append_right _).trans List.perm_append_comm).trans ?_
  rw [← List.append_assoc]
  exact joined.append_right (suffixedNames model)

end

theorem pascalCase_ne_empty (name : String) : pascalCase name ≠ "" := by
  rw [pascalCase, ne_eq, String.ofList_eq_empty_iff]
  cases pascalFrom true name.toList with
  | nil => simp [guardStart]
  | cons first rest =>
      rw [guardStart]
      split <;> simp

theorem suffix_ne_empty {modelClass : Model.Class} {suffix : String}
    (member : suffix ∈ suffixes modelClass) : suffix ≠ "" := by
  rcases List.mem_append.mp member with individual | valued
  · split at individual
    · cases individual
    · rw [List.mem_singleton.mp individual]
      decide
  · obtain ⟨property, _, named⟩ := List.mem_filterMap.mp valued
    obtain ⟨_, _, rfl⟩ := Option.map_eq_some_iff.mp named
    exact pascalCase_ne_empty property.name

/-- No name of a class, with or without a suffix, is the name of the primitive types, no name with a suffix is
the name of a class, and no two names with suffixes are the same. -/
structure ItemsApart (model : Model) : Prop where
  primitives : "Primitives" ∉ model.classes.map typeName ++ suffixedNames model
  classes : ∀ name ∈ model.classes.map typeName, name ∉ suffixedNames model
  suffixed : (suffixedNames model).Nodup

/-- No name of a class starts the name of another class, or that of the primitive types. -/
structure NamesSeparate (model : Model) : Prop where
  primitives : ∀ modelClass ∈ model.classes, Text.startsWith (typeName modelClass) "Primitives" = false
  classes : ∀ modelClass ∈ model.classes, ∀ other ∈ model.classes, modelClass ≠ other →
    Text.startsWith (typeName modelClass) (typeName other) = false

/-- The items of a module are the primitive types, the enumerations of the closed sets, and the traits. Their
names are those of the classes, and these with suffixes. -/
structure NamesItems (model : Model) (names : List String) : Prop where
  listed : names = "Primitives" ::
    ((closedSets model).map (ClosedSet.name model) ++ (traits model).map Trait.name)
  made : names.Perm ("Primitives" :: (model.classes.map typeName ++ suffixedNames model))
  distinct_iff : names.Nodup ↔ ItemsApart model
  separate : NamesSeparate model →
    (names.Nodup ↔ ∀ modelClass ∈ model.classes, (suffixes modelClass).Nodup)

theorem itemsApart_iff {model : Model} (distinct : (model.classes.map typeName).Nodup) :
    ("Primitives" :: (model.classes.map typeName ++ suffixedNames model)).Nodup ↔ ItemsApart model := by
  rw [List.nodup_cons, List.nodup_append]
  constructor
  · rintro ⟨primitives, _, suffixed, apart⟩
    exact ⟨primitives, fun name member among => apart name member name among rfl, suffixed⟩
  · intro apart
    refine ⟨apart.primitives, distinct, apart.suffixed, ?_⟩
    rintro name member _ among rfl
    exact apart.classes name member among

theorem startsWith_or_startsWith {left right rest others : String}
    (same : left ++ rest = right ++ others) :
    Text.startsWith left right = true ∨ Text.startsWith right left = true := by
  have letters := congrArg String.toList same
  rw [String.toList_append, String.toList_append] at letters
  have first : left.toList <+: right.toList ++ others.toList := ⟨rest.toList, letters⟩
  simp only [Text.startsWith, List.isPrefixOf_iff_prefix]
  exact List.prefix_or_prefix_of_prefix first (List.prefix_append _ _)

theorem exists_of_mem_suffixedNames {model : Model} {name : String} (member : name ∈ suffixedNames model) :
    ∃ modelClass ∈ model.classes, ∃ suffix ∈ suffixes modelClass, name = typeName modelClass ++ suffix := by
  obtain ⟨modelClass, inside, listed⟩ := List.mem_flatMap.mp member
  obtain ⟨suffix, has, rfl⟩ := List.mem_map.mp listed
  exact ⟨modelClass, inside, suffix, has, rfl⟩

theorem itemsApart_of_separate {model : Model} (distinct : (model.classes.map typeName).Nodup)
    (separate : NamesSeparate model) (own : ∀ modelClass ∈ model.classes, (suffixes modelClass).Nodup) :
    ItemsApart model where
  primitives := by
    have unstarted {modelClass : Model.Class} (inside : modelClass ∈ model.classes) (rest : String) :
        "Primitives" ≠ typeName modelClass ++ rest := by
      intro same
      have starts := Text.startsWith_append_self (typeName modelClass) rest
      rw [← same, separate.primitives modelClass inside] at starts
      cases starts
    rw [List.mem_append, not_or]
    constructor
    · rw [List.mem_map]
      rintro ⟨modelClass, inside, same⟩
      exact unstarted inside "" (by rw [String.append_empty, same])
    · intro member
      obtain ⟨modelClass, inside, suffix, _, same⟩ := exists_of_mem_suffixedNames member
      exact unstarted inside suffix same
  classes := by
    intro name member among
    obtain ⟨other, known, rfl⟩ := List.mem_map.mp member
    obtain ⟨modelClass, inside, suffix, has, same⟩ := exists_of_mem_suffixedNames among
    by_cases equal : modelClass = other
    · subst equal
      exact suffix_ne_empty has (String.append_eq_left_iff.mp same.symm)
    · have starts := Text.startsWith_append_self (typeName modelClass) suffix
      rw [← same, separate.classes modelClass inside other known equal] at starts
      cases starts
  suffixed := by
    refine List.nodup_flatMap.mpr ⟨fun modelClass inside => ?_, ?_⟩
    · exact (own modelClass inside).map fun _ _ same => (String.append_right_inj _).mp same
    · refine List.Pairwise.imp_of_mem ?_ (distinct.of_map typeName)
      intro modelClass other inside known different name listed listedToo
      obtain ⟨suffix, _, rfl⟩ := List.mem_map.mp listed
      obtain ⟨second, _, same⟩ := List.mem_map.mp listedToo
      rcases startsWith_or_startsWith same with starts | starts
      · rw [separate.classes other known modelClass inside different.symm] at starts
        cases starts
      · rw [separate.classes modelClass inside other known different] at starts
        cases starts

theorem itemsApart_iff_of_separate {model : Model} (distinct : (model.classes.map typeName).Nodup)
    (separate : NamesSeparate model) :
    ItemsApart model ↔ ∀ modelClass ∈ model.classes, (suffixes modelClass).Nodup := by
  constructor
  · intro apart modelClass member
    exact ((List.nodup_flatMap.mp apart.suffixed).1 modelClass member).of_map
  · exact itemsApart_of_separate distinct separate

/-- The items of a module of traits have distinct names just if no name of a class, with the suffixes that it
has, gives the name of another item. -/
theorem item_names_distinct_iff {graph : Rdf.Graph} {resolver : Context.Resolver} {model : Model}
    (succeeds : Model.build graph resolver = .ok model) (distinct : (model.classes.map typeName).Nodup)
    (options : Options) : NamesItems model (itemNames (sourceFile model options).entries) := by
  obtain ⟨classes, built⟩ := Model.build_sound succeeds
  have made := perm_itemNames built.linked
  have distinct_iff := made.nodup_iff.trans (itemsApart_iff distinct)
  exact ⟨itemNames_declarations model, made, distinct_iff,
    fun separate => distinct_iff.trans (itemsApart_iff_of_separate distinct separate)⟩

def documentGraph (first second other : String) : Rdf.Graph :=
  .ofList [
    ⟨.iri "Doc", Rdf.Vocabulary.rdfType, .iri Rdf.Vocabulary.owlClass⟩,
    ⟨.iri other, Rdf.Vocabulary.rdfType, .iri Rdf.Vocabulary.owlClass⟩,
    ⟨.iri "Doc", Rdf.Vocabulary.shProperty, .blank "first"⟩,
    ⟨.blank "first", Rdf.Vocabulary.shPath, .iri first⟩,
    ⟨.blank "first", Rdf.Vocabulary.shIn, .blank "list"⟩,
    ⟨.iri "Doc", Rdf.Vocabulary.shProperty, .blank "second"⟩,
    ⟨.blank "second", Rdf.Vocabulary.shPath, .iri second⟩,
    ⟨.blank "second", Rdf.Vocabulary.shIn, .blank "list"⟩,
    ⟨.blank "list", Rdf.Vocabulary.rdfFirst, .plain "new"⟩,
    ⟨.blank "list", Rdf.Vocabulary.rdfRest, .iri Rdf.Vocabulary.rdfNil⟩]

def writtenItems (graph : Rdf.Graph) : Option (List String × List String) :=
  (Model.build graph (.ofDocuments [])).toOption.map fun model =>
    (model.classes.map typeName, itemNames (sourceFile model Options.none).entries)

theorem writtenItems_eq (graph : Rdf.Graph) : writtenItems graph =
    (Model.build graph (.ofDocuments [])).toOption.map fun model => (model.classes.map typeName,
      "Primitives" :: ((closedSets model).map (ClosedSet.name model) ++ (traits model).map Trait.name)) := by
  have names (model : Model) : itemNames (sourceFile model Options.none).entries = _ :=
    itemNames_declarations model
  simp only [writtenItems, names]

theorem item_names_distinct_iff_documents :
    ∃ model, Model.build (documentGraph "status" "kind" "Note") (.ofDocuments []) = .ok model ∧
      (model.classes.map typeName).Nodup ∧
      itemNames (sourceFile model Options.none).entries =
        ["Primitives", "DocKind", "DocStatus", "Doc", "Note"] ∧
      NamesItems model (itemNames (sourceFile model Options.none).entries) ∧ ItemsApart model := by
  have written : writtenItems (documentGraph "status" "kind" "Note") =
      some (["Doc", "Note"], ["Primitives", "DocKind", "DocStatus", "Doc", "Note"]) := by
    rw [writtenItems_eq]
    decide +kernel
  obtain ⟨model, succeeds, looks⟩ := Outcomes.exists_ok_of_looked written
  obtain ⟨classes, items⟩ := Prod.mk.inj looks
  have distinct : (model.classes.map typeName).Nodup := classes ▸ (by decide)
  have named := item_names_distinct_iff succeeds distinct Options.none
  exact ⟨model, succeeds, distinct, items, named, named.distinct_iff.mp (items ▸ (by decide))⟩

/-- An enumeration of values has the name of another class, or of the values of another property, and a class
has the name of the primitive types. -/
theorem item_names_repeat :
    writtenItems (documentGraph "status" "kind" "DocStatus") =
      some (["Doc", "DocStatus"], ["Primitives", "DocKind", "DocStatus", "Doc", "DocStatus"]) ∧
    writtenItems (documentGraph "a/kind" "b/kind" "Note") =
      some (["Doc", "Note"], ["Primitives", "DocKind", "DocKind", "Doc", "Note"]) ∧
    writtenItems (documentGraph "status" "kind" "Primitives") =
      some (["Doc", "Primitives"], ["Primitives", "DocKind", "DocStatus", "Doc", "Primitives"]) ∧
    ["Doc", "DocStatus"].Nodup ∧ ["Doc", "Note"].Nodup ∧ ["Doc", "Primitives"].Nodup ∧
    ¬ ["Primitives", "DocKind", "DocStatus", "Doc", "DocStatus"].Nodup ∧
    ¬ ["Primitives", "DocKind", "DocKind", "Doc", "Note"].Nodup ∧
    ¬ ["Primitives", "DocKind", "DocStatus", "Doc", "Primitives"].Nodup := by
  rw [writtenItems_eq, writtenItems_eq, writtenItems_eq]
  exact ⟨by decide +kernel, by decide +kernel, by decide +kernel, by decide, by decide, by decide,
    by decide, by decide, by decide⟩

end ShapeCompiler.Render.Traits
