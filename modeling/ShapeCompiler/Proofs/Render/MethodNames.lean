import ShapeCompiler.Proofs.Render.Fallbacks
import ShapeCompiler.Proofs.Render.Names
import ShapeCompiler.Proofs.Render.TraitModules

/-! The functions that a trait declares. A property's method falls back to the compact path where its name
was taken, and a list of texts has a second function, which counts them. Neither the fallback nor the name of
the count is compared with the names before, and this module tells exactly when a name repeats. -/

namespace ShapeCompiler.Render.Traits

def functionStart : String := "    fn "

def functionName? (entry : Entry) : Option String :=
  match entry with
  | .line text =>
      if Text.startsWith functionStart text then
        some (String.ofList ((text.toList.drop functionStart.length).takeWhile (· ≠ '(')))
      else none
  | .doc _ _ => none

def functionNames (trait : Trait) : List String :=
  trait.entries.filterMap functionName?

def countName (name : String) : String :=
  name ++ "_count"

def Method.isCounted (method : Method) : Bool :=
  method.property.isList &&
    match method.values with
    | .unsized _ => true
    | _ => false

def Method.functionNames (method : Method) : List String :=
  if method.isCounted then [countName method.name, method.name] else [method.name]

theorem functionName?_line (head : String) (other : Text.apart functionStart head = true)
    (rest : String) : functionName? (.line (head ++ rest)) = none := by
  rw [functionName?, Text.startsWith_append_of_apart other]
  rfl

@[simp] theorem functionName?_doc (indent text : String) : functionName? (.doc indent text) = none :=
  rfl

theorem functionName?_signature {name : String} (plain : '(' ∉ name.toList)
    (arguments result : String) : functionName? (signature name arguments result) = some name := by
  have line : signature name arguments result =
      .line (functionStart ++ (name ++ ("(&self" ++ arguments ++ ") -> " ++ result ++ ";"))) := by
    simp only [signature, functionStart, String.append_assoc]
  have letters : ∀ c ∈ name.toList, decide (c ≠ '(') = true := by
    intro c member
    exact decide_eq_true fun same => plain (same ▸ member)
  have bracket : ("(&self" ++ arguments ++ ") -> " ++ result ++ ";").toList =
      '(' :: ("&self" ++ arguments ++ ") -> " ++ result ++ ";").toList := by
    simp [String.toList_append]
  have start : functionStart.length = functionStart.toList.length := rfl
  rw [line, functionName?, Text.startsWith_append_self, if_pos rfl, String.toList_append, start,
    List.drop_left, String.toList_append, List.takeWhile_append_of_pos letters, bracket]
  simp

theorem filterMap_deprecation (deprecated : Bool) :
    (deprecation "    " deprecated).filterMap functionName? = [] := by
  cases deprecated <;> rfl

theorem AssociatedType.filterMap_entries (property : Model.Property) (associated : AssociatedType) :
    (associated.entries property).filterMap functionName? = [] := by
  simp only [AssociatedType.entries, String.append_assoc, List.filterMap_cons, List.filterMap_nil]
  rw [functionName?_line _ (by decide), functionName?_line _ (by decide)]

theorem Method.filterMap_signatures {method : Method} (plain : '(' ∉ method.name.toList) :
    method.signatures.filterMap functionName? = method.functionNames := by
  have counted : '(' ∉ (countName method.name).toList := by
    rw [countName, String.toList_append, List.mem_append, not_or]
    exact ⟨plain, by decide⟩
  have noted := filterMap_deprecation method.property.deprecated
  unfold Method.signatures Method.functionNames Method.isCounted
  dsimp only
  cases listed : method.property.isList with
  | false =>
      rw [if_neg (by simp), if_neg (by simp)]
      split <;> simp [functionName?_signature plain]
  | true =>
      rw [if_pos rfl]
      cases values : method.values with
      | owned type => simp [functionName?_signature plain]
      | borrowed type => simp [functionName?_signature plain]
      | unsized type =>
          have count := functionName?_signature counted "" "usize"
          simp only [countName] at count
          simp [List.filterMap_cons, indentedDoc, noted, count, functionName?_signature plain, countName]

theorem Method.filterMap_entries {method : Method} (plain : '(' ∉ method.name.toList) :
    method.entries.filterMap functionName? = method.functionNames := by
  have noted := filterMap_deprecation method.property.deprecated
  have signatures := Method.filterMap_signatures plain
  unfold Method.entries
  cases method.declares with
  | none => simp [List.filterMap_cons, indentedDoc, noted, signatures]
  | some associated => simp [List.filterMap_cons, indentedDoc, noted, signatures, associated.filterMap_entries]

theorem readsInside_functionName? : ReadsInside functionName? where
  doc _ _ := rfl
  outer text unindented := by
    have other : Text.startsWith functionStart text = false := by
      rw [Bool.eq_false_iff]
      intro starts
      rw [Text.startsWith_trans (by decide) starts] at unindented
      cases unindented
    rw [functionName?, other]
    rfl

theorem functionNames_eq {trait : Trait} (plain : ∀ method ∈ trait.methods, '(' ∉ method.name.toList) :
    functionNames trait = trait.methods.flatMap Method.functionNames := by
  rw [functionNames, trait.filterMap_entries readsInside_functionName?]
  exact List.flatMap_congr fun method member => Method.filterMap_entries (plain method member)

def methodWish (property : Model.Property) : Wish :=
  ⟨snakeCase property.name, snakeCase property.compactPath⟩

def methodWishes (properties : List Model.Property) : List Wish :=
  properties.map methodWish

theorem wanted_methodWish (property : Model.Property) :
    (methodWish property).wanted = snakeCase property.name := by
  rw [methodWish]

theorem fallback_methodWish (property : Model.Property) :
    (methodWish property).fallback = snakeCase property.compactPath := by
  rw [methodWish]

theorem map_wanted_methodWishes (properties : List Model.Property) :
    (methodWishes properties).map Wish.wanted =
      properties.map fun property => snakeCase property.name := by
  simp only [methodWishes, List.map_map, Function.comp_def, wanted_methodWish]

def isTextList (property : Model.Property) : Bool :=
  property.isList &&
    match property.range with
    | .datatype datatype => isUnsized datatype
    | _ => false

/-- How the functions of a trait are named, and when no two of them have one name: no method falls back to a
name that was taken before it, and no method at all has the name of a count. -/
structure NamesFunctions (trait : Trait) : Prop where
  properties : trait.methods.map Method.property = trait.source.properties
  named : ∀ position method, trait.methods[position]? = some method →
    Taken (methodWishes trait.source.properties) position (snakeCase method.property.name) ∧
        method.name = snakeCase method.property.compactPath ∨
      ¬ Taken (methodWishes trait.source.properties) position (snakeCase method.property.name) ∧
        method.name = snakeCase method.property.name
  declared : functionNames trait = trait.methods.flatMap fun method =>
    if isTextList method.property then [countName method.name, method.name] else [method.name]
  distinct_iff : (functionNames trait).Nodup ↔
    FallbacksFree (methodWishes trait.source.properties) ∧
      ∀ method ∈ trait.methods, isTextList method.property = true →
        ∀ other ∈ trait.methods, other.name ≠ countName method.name
  plain : (trait.source.properties.map fun property => snakeCase property.name).Nodup →
    (∀ property ∈ trait.source.properties, isTextList property = true →
      ∀ other ∈ trait.source.properties, snakeCase other.name ≠ countName (snakeCase property.name)) →
        (functionNames trait).Nodup

theorem map_name_methodsFrom (model : Model) (owner : Model.Class) (taken declared : List String)
    (properties : List Model.Property) :
    (methodsFrom model owner taken declared properties).map Method.name =
      givenNames taken (methodWishes properties) := by
  induction properties generalizing taken declared with
  | nil => rfl
  | cons property properties ih =>
      simp only [methodsFrom, methodName, List.map_cons, ih, methodWishes, givenNames,
        wanted_methodWish, fallback_methodWish]

theorem map_property_methodsFrom (model : Model) (owner : Model.Class)
    (taken declared : List String) (properties : List Model.Property) :
    (methodsFrom model owner taken declared properties).map Method.property = properties := by
  induction properties generalizing taken declared with
  | nil => rfl
  | cons property properties ih => rw [methodsFrom, List.map_cons, ih]

section

variable {model : Model} {modelClass : Model.Class}

theorem wish_of_method {position : Nat} {method : Method}
    (stands : (traitOf model modelClass).methods[position]? = some method) :
    (methodWishes modelClass.properties)[position]? = some (methodWish method.property) := by
  have property : modelClass.properties[position]? = some method.property := by
    rw [← map_property_methodsFrom model modelClass [] [] modelClass.properties, List.getElem?_map]
    exact congrArg (Option.map Method.property) stands
  rw [methodWishes, List.getElem?_map, property, Option.map_some]

theorem named_of_method {position : Nat} {method : Method}
    (stands : (traitOf model modelClass).methods[position]? = some method) :
    Taken (methodWishes modelClass.properties) position (snakeCase method.property.name) ∧
        method.name = snakeCase method.property.compactPath ∨
      ¬ Taken (methodWishes modelClass.properties) position (snakeCase method.property.name) ∧
        method.name = snakeCase method.property.name := by
  have name : (givenNames [] (methodWishes modelClass.properties))[position]? = some method.name := by
    rw [← map_name_methodsFrom model modelClass [] [], List.getElem?_map]
    exact congrArg (Option.map Method.name) stands
  obtain ⟨wish, found, given⟩ := getElem?_givenNames_iff.mp name
  rw [wish_of_method stands] at found
  obtain rfl := Option.some.inj found
  rwa [wanted_methodWish, fallback_methodWish] at given

theorem name_of_distinct
    (distinct : (modelClass.properties.map fun property => snakeCase property.name).Nodup)
    {method : Method} (member : method ∈ (traitOf model modelClass).methods) :
    method.name = snakeCase method.property.name := by
  obtain ⟨position, stands⟩ := List.mem_iff_getElem?.mp member
  rcases named_of_method stands with ⟨missed, _⟩ | ⟨_, named⟩
  · rw [← map_wanted_methodWishes] at distinct
    rw [← wanted_methodWish] at missed
    exact absurd missed (not_taken_of_nodup distinct (wish_of_method stands))
  · exact named

theorem bracket_not_mem_name {method : Method}
    (member : method ∈ (traitOf model modelClass).methods) : '(' ∉ method.name.toList := by
  obtain ⟨position, stands⟩ := List.mem_iff_getElem?.mp member
  rcases named_of_method stands with ⟨_, named⟩ | ⟨_, named⟩
  · exact named ▸ bracket_not_mem_snakeCase _
  · exact named ▸ bracket_not_mem_snakeCase _

end

theorem isCounted_eq {model : Model} (linked : Model.Linked model) {owner : Model.Class}
    (inside : owner ∈ model.classes) {method : Method} (member : method ∈ (traitOf model owner).methods) :
    method.isCounted = isTextList method.property := by
  obtain ⟨owned, values, -⟩ := methodsFrom_sound member
  rw [Method.isCounted, isTextList, values, valueType]
  congr 1
  cases ranged : method.property.range with
  | oneOf listed => rfl
  | datatype datatype =>
      dsimp only
      cases isUnsized datatype <;> rfl
  | instances target =>
      obtain ⟨other, known, rfl⟩ := linked.targets owner inside method.property owned target ranged
      dsimp only
      rw [linked.findClass? known]
      dsimp only
      cases isEnumerationOnly model other.id <;> rfl

/-! Counts among the names. -/

theorem perm_functionNames (methods : List Method) :
    (methods.flatMap Method.functionNames).Perm
      (methods.map Method.name ++
        (methods.filter Method.isCounted).map fun method => countName method.name) := by
  induction methods with
  | nil => exact .nil
  | cons method methods ih =>
      rw [List.flatMap_cons, List.map_cons, List.filter_cons, Method.functionNames]
      cases method.isCounted with
      | false => exact ih.cons method.name
      | true =>
          refine ((ih.cons method.name).cons (countName method.name)).trans ?_
          rw [← List.cons_append]
          exact List.perm_middle.symm

theorem countName_inj {name other : String} : countName name = countName other ↔ name = other :=
  String.append_left_inj _

theorem nodup_functionNames_iff {methods : List Method} :
    (methods.flatMap Method.functionNames).Nodup ↔
      (methods.map Method.name).Nodup ∧
        ∀ method ∈ methods, method.isCounted = true →
          ∀ other ∈ methods, other.name ≠ countName method.name := by
  rw [(perm_functionNames methods).nodup_iff, List.nodup_append]
  constructor
  · rintro ⟨names, _, apart⟩
    refine ⟨names, ?_⟩
    intro method member counted other among
    exact apart _ (List.mem_map_of_mem among) _
      (List.mem_map_of_mem (List.mem_filter.mpr ⟨member, counted⟩))
  · rintro ⟨names, apart⟩
    refine ⟨names, ?_, ?_⟩
    · have listed : ((methods.filter Method.isCounted).map Method.name).Sublist
          (methods.map Method.name) := List.filter_sublist.map Method.name
      have counts := (names.sublist listed).map fun _ _ => countName_inj.mp
      rwa [List.map_map] at counts
    · intro name among count counted
      obtain ⟨other, known, rfl⟩ := List.mem_map.mp among
      obtain ⟨method, kept, rfl⟩ := List.mem_map.mp counted
      obtain ⟨member, own⟩ := List.mem_filter.mp kept
      exact apart method member own other known

theorem namesFunctions {model : Model} (linked : Model.Linked model) {modelClass : Model.Class}
    (inside : modelClass ∈ model.classes) : NamesFunctions (traitOf model modelClass) := by
  have plain : ∀ method ∈ (traitOf model modelClass).methods, '(' ∉ method.name.toList :=
    fun method member => bracket_not_mem_name member
  have written := functionNames_eq plain
  have counted {method : Method} (member : method ∈ (traitOf model modelClass).methods) :
      method.isCounted = isTextList method.property := isCounted_eq linked inside member
  have properties : (traitOf model modelClass).methods.map Method.property = modelClass.properties :=
    map_property_methodsFrom ..
  have distinct_iff : (functionNames (traitOf model modelClass)).Nodup ↔
      FallbacksFree (methodWishes modelClass.properties) ∧
        ∀ method ∈ (traitOf model modelClass).methods, isTextList method.property = true →
          ∀ other ∈ (traitOf model modelClass).methods, other.name ≠ countName method.name := by
    have names : (traitOf model modelClass).methods.map Method.name =
        givenNames [] (methodWishes modelClass.properties) := map_name_methodsFrom ..
    rw [written, nodup_functionNames_iff, names, nodup_givenNames_iff]
    refine and_congr Iff.rfl (forall₂_congr ?_)
    intro method member
    rw [counted member]
  refine ⟨properties, fun _ _ => named_of_method, ?_, distinct_iff, ?_⟩
  · rw [written]
    refine List.flatMap_congr ?_
    intro method member
    rw [Method.functionNames, counted member]
  · intro distinct apart
    have wanted : ((methodWishes modelClass.properties).map Wish.wanted).Nodup := by
      rwa [map_wanted_methodWishes]
    refine distinct_iff.mpr ⟨?_, ?_⟩
    · intro position wish stands missed
      exact absurd missed (not_taken_of_nodup wanted stands)
    · intro method member texts other among
      rw [name_of_distinct distinct member, name_of_distinct distinct among]
      have owned {method : Method} (member : method ∈ (traitOf model modelClass).methods) :
          method.property ∈ modelClass.properties := properties ▸ List.mem_map_of_mem member
      exact apart _ (owned member) texts _ (owned among)

/-- The functions of a trait are those of its class's properties, and whether two have one name is told by the
names and compact paths of these. -/
theorem function_names_distinct_iff {graph : Rdf.Graph} {resolver : Context.Resolver}
    {model : Model} (succeeds : Model.build graph resolver = .ok model) {trait : Trait}
    (member : trait ∈ traits model) : NamesFunctions trait := by
  obtain ⟨classes, built⟩ := Model.build_sound succeeds
  obtain ⟨modelClass, inside, rfl⟩ := exists_of_mem_traits built.linked member
  exact namesFunctions built.linked inside

def twoLists (first second : String) : Rdf.Graph :=
  .ofList [
    ⟨.iri "c", Rdf.Vocabulary.rdfType, .iri Rdf.Vocabulary.owlClass⟩,
    ⟨.iri "c", Rdf.Vocabulary.shProperty, .blank "first"⟩,
    ⟨.blank "first", Rdf.Vocabulary.shPath, .iri first⟩,
    ⟨.blank "first", Rdf.Vocabulary.shDatatype, .iri Rdf.Vocabulary.xsdString⟩,
    ⟨.iri "c", Rdf.Vocabulary.shProperty, .blank "second"⟩,
    ⟨.blank "second", Rdf.Vocabulary.shPath, .iri second⟩,
    ⟨.blank "second", Rdf.Vocabulary.shDatatype, .iri Rdf.Vocabulary.xsdString⟩]

def writtenFunctions (graph : Rdf.Graph) : Option (List (List String)) :=
  (Model.build graph (.ofDocuments [])).toOption.map fun model => (traits model).map functionNames

theorem function_names_distinct_iff_tags :
    ∃ model, Model.build (twoLists "a/tags" "b/tags") (.ofDocuments []) = .ok model ∧
      ∃ trait ∈ traits model,
        functionNames trait = ["tags_count", "tags", "b_tags_count", "b_tags"] ∧
          NamesFunctions trait ∧ FallbacksFree (methodWishes trait.source.properties) := by
  have written : writtenFunctions (twoLists "a/tags" "b/tags") =
      some [["tags_count", "tags", "b_tags_count", "b_tags"]] := by
    decide +kernel
  obtain ⟨model, succeeds, trait, member, names⟩ := Outcomes.exists_mem_of_looked written
  have named := function_names_distinct_iff succeeds member
  refine ⟨model, succeeds, trait, member, names, named, ?_⟩
  exact (named.distinct_iff.mp (names ▸ (by decide))).1

/-- The count of a list has the name of another method, and where two shapes have one path, the compact path
that the second falls back to may be the name of the first. -/
theorem function_names_repeat :
    writtenFunctions (twoLists "tags" "tagsCount") =
      some [["tags_count", "tags", "tags_count_count", "tags_count"]] ∧
    writtenFunctions (twoLists "tags" "tags") = some [["tags_count", "tags", "tags_count", "tags"]] ∧
    ¬ ["tags_count", "tags", "tags_count_count", "tags_count"].Nodup ∧
    ¬ ["tags_count", "tags", "tags_count", "tags"].Nodup :=
  ⟨by decide +kernel, by decide +kernel, by decide, by decide⟩

end ShapeCompiler.Render.Traits
