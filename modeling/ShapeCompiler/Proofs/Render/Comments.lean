import ShapeCompiler.Proofs.Render.CodeLines
import ShapeCompiler.Render.TraitsText

/-! Comments stay comments. Two models that differ in nothing but their comments declare the same, and the
modules of traits made of them differ in nothing but lines of documentation. -/

namespace ShapeCompiler

namespace Model

def Property.uncommented (property : Property) : Property :=
  { property with comment := none }

def Individual.uncommented (individual : Individual) : Individual :=
  { individual with comment := none }

def Class.uncommented (modelClass : Class) : Class :=
  { modelClass with
    comment := none
    properties := modelClass.properties.map Property.uncommented
    individuals := modelClass.individuals.map Individual.uncommented }

def uncommented (model : Model) : Model :=
  ⟨model.classes.map Class.uncommented⟩

theorem findClass?_uncommented (model : Model) (iri : String) :
    model.uncommented.findClass? iri = (model.findClass? iri).map Class.uncommented := by
  rw [findClass?, uncommented, List.find?_map]
  rfl

end Model

namespace Render.Traits

open Model (uncommented)

def Variant.uncommented (variant : Variant) : Variant :=
  { variant with comment := none }

def Enumeration.uncommented (enumeration : Enumeration) : Enumeration :=
  { enumeration with variants := enumeration.variants.map Variant.uncommented }

def Method.uncommented (method : Method) : Method :=
  { method with property := method.property.uncommented }

def Trait.uncommented (trait : Trait) : Trait :=
  { trait with source := trait.source.uncommented, methods := trait.methods.map Method.uncommented }

def Declarations.uncommented (declarations : Declarations) : Declarations :=
  ⟨declarations.enumerations.map Enumeration.uncommented,
    declarations.traits.map Trait.uncommented⟩

variable (model : Model)

theorem typeNameOf_uncommented (iri : String) :
    typeNameOf model.uncommented iri = typeNameOf model iri := by
  have found : (model.uncommented.classes.reverse.find? fun modelClass => modelClass.id == iri) =
      (model.classes.reverse.find? fun modelClass => modelClass.id == iri).map
        Model.Class.uncommented := by
    rw [uncommented, ← List.map_reverse, List.find?_map]
    rfl
  rw [typeNameOf, typeNameOf, found]
  cases model.classes.reverse.find? fun modelClass => modelClass.id == iri with
  | none => rfl
  | some modelClass => rfl

theorem hasIndividualsOnly_uncommented (modelClass : Model.Class) :
    hasIndividualsOnly modelClass.uncommented = hasIndividualsOnly modelClass := by
  simp only [hasIndividualsOnly, Model.Class.uncommented, List.isEmpty_map]

theorem isEnumerationOnly_uncommented (iri : String) :
    isEnumerationOnly model.uncommented iri = isEnumerationOnly model iri := by
  simp only [isEnumerationOnly, uncommented, List.any_map]
  refine congrArg model.classes.any ?_
  funext modelClass
  rw [Function.comp, hasIndividualsOnly_uncommented]
  rfl

theorem individualsName_uncommented (modelClass : Model.Class) :
    individualsName model.uncommented modelClass.uncommented = individualsName model modelClass := by
  have id : modelClass.uncommented.id = modelClass.id := rfl
  simp only [individualsName, id, typeNameOf_uncommented, isEnumerationOnly_uncommented]

theorem valuesName_uncommented (owner : Model.Class) (property : Model.Property) :
    valuesName model.uncommented owner.uncommented property.uncommented =
      valuesName model owner property := by
  have id : owner.uncommented.id = owner.id := rfl
  have name : property.uncommented.name = property.name := rfl
  simp only [valuesName, id, name, typeNameOf_uncommented]

theorem distinctFrom_uncommented (variants : List Variant) :
    ∀ position taken, distinctFrom position taken (variants.map Variant.uncommented) =
      (distinctFrom position taken variants).map Variant.uncommented := by
  induction variants with
  | nil =>
      intro position taken
      rfl
  | cons variant variants ih =>
      intro position taken
      rw [List.map_cons, distinctFrom, distinctFrom, List.map_cons, ih]
      rfl

theorem individualEnumeration_uncommented (modelClass : Model.Class) :
    individualEnumeration model.uncommented modelClass.uncommented =
      (individualEnumeration model modelClass).map Enumeration.uncommented := by
  have empty : modelClass.uncommented.individuals.isEmpty = modelClass.individuals.isEmpty :=
    List.isEmpty_map
  have variants : modelClass.uncommented.individuals.map individualVariant =
      (modelClass.individuals.map individualVariant).map Variant.uncommented := by
    simp only [Model.Class.uncommented, List.map_map]
    rfl
  unfold individualEnumeration
  rw [empty]
  split
  · rfl
  · rw [individualsName_uncommented, variants, distinctVariants, distinctFrom_uncommented]
    rfl

theorem valueEnumeration_uncommented (owner : Model.Class) (property : Model.Property) :
    valueEnumeration model.uncommented owner.uncommented property.uncommented =
      (valueEnumeration model owner property).map Enumeration.uncommented := by
  have values : property.uncommented.values? = property.values? := rfl
  unfold valueEnumeration
  rw [values]
  cases property.values? with
  | none => rfl
  | some values =>
      -- Variants for values have no comments in the first place.
      have variants : distinctVariants (values.map valueVariant) =
          (distinctVariants (values.map valueVariant)).map Variant.uncommented := by
        rw [distinctVariants, ← distinctFrom_uncommented, List.map_map]
        rfl
      dsimp only
      rw [valuesName_uncommented]
      exact congrArg (fun variants => [Enumeration.mk _ _ variants]) variants

theorem enumerations_uncommented :
    enumerations model.uncommented = (enumerations model).map Enumeration.uncommented := by
  have classes : model.uncommented.classes = model.classes.map Model.Class.uncommented := rfl
  rw [enumerations, enumerations, List.map_flatMap, classes, List.flatMap_map]
  refine congrArg (model.classes.flatMap ·) (funext fun modelClass => ?_)
  have properties : modelClass.uncommented.properties =
      modelClass.properties.map Model.Property.uncommented := rfl
  rw [List.map_append, List.map_flatMap, properties, List.flatMap_map,
    individualEnumeration_uncommented]
  refine congrArg (_ ++ modelClass.properties.flatMap ·) (funext fun property => ?_)
  exact valueEnumeration_uncommented model modelClass property

theorem valueType_uncommented (owner : Model.Class) (property : Model.Property) :
    valueType model.uncommented owner.uncommented property.uncommented =
      valueType model owner property := by
  have range : property.uncommented.range = property.range := rfl
  have id : owner.uncommented.id = owner.id := rfl
  unfold valueType
  rw [range]
  cases property.range with
  | oneOf values =>
      dsimp only
      rw [valuesName_uncommented]
  | datatype iri => rfl
  | instances target =>
      dsimp only
      rw [Model.findClass?_uncommented]
      cases model.findClass? target with
      | none => rfl
      | some targetClass =>
          have targetId : targetClass.uncommented.id = targetClass.id := rfl
          simp only [Option.map_some, targetId, id, isEnumerationOnly_uncommented,
            individualsName_uncommented, typeNameOf_uncommented]

theorem methodsFrom_uncommented (owner : Model.Class) (properties : List Model.Property) :
    ∀ taken declared, methodsFrom model.uncommented owner.uncommented taken declared
        (properties.map Model.Property.uncommented) =
      (methodsFrom model owner taken declared properties).map Method.uncommented := by
  induction properties with
  | nil =>
      intro taken declared
      rfl
  | cons property properties ih =>
      intro taken declared
      have name : methodName taken property.uncommented = methodName taken property := rfl
      simp only [List.map_cons, methodsFrom, name, valueType_uncommented, ih]
      rfl

theorem traitOf_uncommented (modelClass : Model.Class) :
    traitOf model.uncommented modelClass.uncommented = (traitOf model modelClass).uncommented := by
  have id : modelClass.uncommented.id = modelClass.id := rfl
  have parents : modelClass.uncommented.parents = modelClass.parents := rfl
  have properties : modelClass.uncommented.properties =
      modelClass.properties.map Model.Property.uncommented := rfl
  have names : typeNameOf model.uncommented = typeNameOf model :=
    funext (typeNameOf_uncommented model)
  rw [traitOf, id, parents, properties, names, methodsFrom_uncommented]
  rfl

theorem traits_uncommented : traits model.uncommented = (traits model).map Trait.uncommented := by
  have kept : (fun modelClass : Model.Class =>
      !isEnumerationOnly model.uncommented modelClass.id) ∘ Model.Class.uncommented =
      fun modelClass => !isEnumerationOnly model modelClass.id := by
    funext modelClass
    rw [Function.comp, isEnumerationOnly_uncommented]
    rfl
  have classes : model.uncommented.classes = model.classes.map Model.Class.uncommented := rfl
  rw [traits, traits, classes, List.filter_map, kept, List.map_map, List.map_map]
  refine List.map_congr_left fun modelClass _ => ?_
  exact traitOf_uncommented model modelClass

theorem declarations_uncommented :
    declarations model.uncommented = (declarations model).uncommented := by
  rw [declarations, enumerations_uncommented, traits_uncommented]
  rfl

/-! Entries without comments hold the same lines of code -/

theorem code_docComment (text : String) : (docComment text).code = [] :=
  Entry.code_doc isMark_item text

theorem code_indentedDoc (text : String) : (indentedDoc text).code = [] :=
  Entry.code_doc isMark_indented text

theorem codeOf_cons (entry : Entry) (entries : List Entry) :
    codeOf (entry :: entries) = entry.code ++ codeOf entries :=
  List.flatMap_cons

theorem codeOf_flatMap_map {α : Type} {entries : α → List Entry} {change : α → α}
    (same : ∀ item, codeOf (entries (change item)) = codeOf (entries item)) (items : List α) :
    codeOf ((items.map change).flatMap entries) = codeOf (items.flatMap entries) := by
  induction items with
  | nil => rfl
  | cons item items ih =>
      rw [List.map_cons, List.flatMap_cons, List.flatMap_cons, codeOf_append, codeOf_append, same, ih]

theorem Variant.codeOf_uncommented (variant : Variant) :
    codeOf variant.uncommented.entries = codeOf variant.entries := by
  simp only [Variant.entries, codeOf_cons, code_indentedDoc, Variant.uncommented]

theorem Enumeration.codeOf_uncommented (enumeration : Enumeration) :
    codeOf enumeration.uncommented.entries = codeOf enumeration.entries := by
  have variants : enumeration.uncommented.variants =
      enumeration.variants.map Variant.uncommented := rfl
  have listed : (fun variant : Variant => "Self::" ++ variant.name) ∘ Variant.uncommented =
      fun variant => "Self::" ++ variant.name := rfl
  have arms : Variant.arm ∘ Variant.uncommented = Variant.arm := rfl
  have name : enumeration.uncommented.name = enumeration.name := rfl
  simp only [Enumeration.entries, variants, name, List.map_map, listed, arms, codeOf_append, codeOf_cons,
    code_docComment, codeOf_flatMap_map Variant.codeOf_uncommented]

theorem Method.codeOf_uncommented (method : Method) :
    codeOf method.uncommented.entries = codeOf method.entries := by
  have associated : method.uncommented.declares = method.declares := rfl
  have path : method.uncommented.property.compactPath = method.property.compactPath := rfl
  have deprecated : method.uncommented.property.deprecated = method.property.deprecated := rfl
  have signatures : method.uncommented.signatures = method.signatures := rfl
  simp only [Method.entries, codeOf_append, codeOf_cons, code_indentedDoc, associated, deprecated,
    signatures, AssociatedType.entries, path]

theorem Trait.codeOf_uncommented (trait : Trait) :
    codeOf trait.uncommented.entries = codeOf trait.entries := by
  have id : trait.uncommented.source.id = trait.source.id := rfl
  have isAbstract : trait.uncommented.source.isAbstract = trait.source.isAbstract := rfl
  have deprecated : trait.uncommented.source.deprecated = trait.source.deprecated := rfl
  have heading : trait.uncommented.heading = trait.heading := rfl
  have noComment : trait.uncommented.source.comment = none := rfl
  have methods : trait.uncommented.methods = trait.methods.map Method.uncommented := rfl
  -- The brace closes the heading or stands behind the methods, with or without comments alike.
  have body : codeOf (if trait.uncommented.methods.isEmpty then [.line (trait.heading ++ "\x7d")]
      else [.line trait.heading] ++ trait.uncommented.methods.flatMap Method.entries ++ [.line "\x7d"]) =
      codeOf (if trait.methods.isEmpty then [.line (trait.heading ++ "\x7d")]
      else [.line trait.heading] ++ trait.methods.flatMap Method.entries ++ [.line "\x7d"]) := by
    rw [methods, List.isEmpty_map]
    split
    · rfl
    · simp only [codeOf_append, codeOf_flatMap_map Method.codeOf_uncommented]
  unfold Trait.entries
  rw [id, isAbstract, deprecated, heading, noComment]
  simp only [codeOf_append, body]
  cases trait.source.comment with
  | none => rfl
  | some comment => simp only [codeOf_cons, code_docComment, List.nil_append]

theorem codeOf_declarations_uncommented :
    codeOf (declarations model.uncommented).entries = codeOf (declarations model).entries := by
  rw [declarations_uncommented]
  simp only [Declarations.entries, Declarations.uncommented, codeOf_append,
    codeOf_flatMap_map Enumeration.codeOf_uncommented, codeOf_flatMap_map Trait.codeOf_uncommented]

theorem closes_primitives : Closes primitives :=
  (closes_of_drop 0 "" rfl).append _

theorem Enumeration.closes_entries (enumeration : Enumeration) : Closes enumeration.entries := by
  unfold Enumeration.entries
  exact (closes_of_drop 8 "" rfl).append _

theorem Trait.closes_entries (trait : Trait) : Closes trait.entries := by
  unfold Trait.entries
  rw [List.append_assoc]
  refine Closes.append ?_ _
  split
  · exact closes_of_drop 0 trait.heading rfl
  · rw [List.append_assoc]
    exact (closes_of_drop 0 "" rfl).append _

theorem closes_declarations : Closes (declarations model).entries := by
  have enumerations := closes_primitives.append_flatMap Enumeration.closes_entries
    (declarations model).enumerations
  exact enumerations.append_flatMap Trait.closes_entries (declarations model).traits

/-- Comments, titles and ids do not reach the lines of code. -/
theorem code_without_comments {first second : Model} (same : first.uncommented = second.uncommented)
    (options others : Options) :
    codeLines (render first options) = codeLines (render second others) := by
  have erased : ∀ model options, codeLines (render model options) =
      [] :: codeOf (declarations model.uncommented).entries := by
    intro model options
    rw [codeOf_declarations_uncommented]
    exact codeLines_text (closes_declarations model)
  rw [erased, erased, same]

def remarked (comment : Option String) : Model :=
  ⟨[{
    id := "http://example.org/Size"
    name := "Size"
    parents := []
    derived := []
    properties := [{
      path := "http://example.org/width"
      compactPath := "width"
      name := "width"
      comment := comment
      minCount := some 1
      maxCount := some 1
      range := .datatype "http://www.w3.org/2001/XMLSchema#integer"
      pattern := none
      deprecated := false }]
    comment := comment
    idProperty := none
    nodeKind := .iri
    isExtensible := false
    isAbstract := false
    deprecated := false
    individuals := [⟨"http://example.org/small", "small", "small", comment⟩] }]⟩

theorem code_without_comments_lineFeed :
    (remarked (some "Wide.\n*/ fn injected() \x7b\x7d")).uncommented = (remarked none).uncommented ∧
      codeLines (render (remarked (some "Wide.\n*/ fn injected() \x7b\x7d"))
          ⟨some "Sizes\nfn main() \x7b\x7d", none⟩) =
        codeLines (render (remarked none) Options.none) := by
  have same : (remarked (some "Wide.\n*/ fn injected() \x7b\x7d")).uncommented =
      (remarked none).uncommented := rfl
  exact ⟨same, code_without_comments same ⟨some "Sizes\nfn main() \x7b\x7d", none⟩ Options.none⟩

end Render.Traits

end ShapeCompiler
