import ShapeCompiler.Proofs.Render.CodeLines
import ShapeCompiler.Proofs.Render.MethodNames

/-! The associated types of traits. A method that refers to a class uses an associated type, which the first
such method declares. The types are told apart by name only, so that a class whose name is that of the type
for references of the owner to itself shares it, and then one of the two bounds is lost. This module tells
that the bounds are right in all other cases. -/

namespace ShapeCompiler.Render.Traits

def associatedStart : String := "    type "

def associatedType? : Entry → Option AssociatedType
  | .line text => (framed? associatedStart "<P>;" text.toList).map fun declared =>
      ⟨String.ofList (declared.takeWhile (· ≠ ':')),
        String.ofList ((declared.dropWhile (· ≠ ':')).drop ": ".length)⟩
  | .doc _ _ => none

def associatedTypes (trait : Trait) : List AssociatedType :=
  trait.entries.filterMap associatedType?

theorem framed?_eq_none {start : String} {line : String} (other : Text.startsWith start line = false)
    (finish : String) : framed? start finish line.toList = none := by
  have stripped : start.toList.isPrefixOf? line.toList = none := by
    rw [← Option.not_isSome_iff_eq_none, List.isSome_isPrefixOf?_eq_isPrefixOf]
    exact Bool.eq_false_iff.mp other
  rw [framed?, stripped, Option.bind_none]

theorem associatedType?_line (head : String) (other : Text.apart associatedStart head = true)
    (rest : String) : associatedType? (.line (head ++ rest)) = none := by
  rw [associatedType?, framed?_eq_none (Text.startsWith_append_of_apart other rest), Option.map_none]

theorem readsInside_associatedType? : ReadsInside associatedType? where
  doc _ _ := rfl
  outer text unindented := by
    have other : Text.startsWith associatedStart text = false := by
      rw [Bool.eq_false_iff]
      intro starts
      rw [Text.startsWith_trans (by decide) starts] at unindented
      cases unindented
    rw [associatedType?, framed?_eq_none other, Option.map_none]

theorem AssociatedType.filterMap_associated {associated : AssociatedType}
    (plain : ':' ∉ associated.name.toList) (property : Model.Property) :
    (associated.entries property).filterMap associatedType? = [associated] := by
  have documents : associatedType? (.line ("    /// Values of `" ++ property.compactPath ++ "`.")) =
      none := by
    rw [String.append_assoc]
    exact associatedType?_line _ (by decide) _
  have letters : ∀ c ∈ associated.name.toList, decide (c ≠ ':') = true := by
    intro c member
    exact decide_eq_true fun same => plain (same ▸ member)
  have line : "    type " ++ associated.name ++ ": " ++ associated.bound ++ "<P>;" =
      associatedStart ++ (associated.name ++ ": " ++ associated.bound) ++ "<P>;" := by
    simp only [associatedStart, String.append_assoc]
  have written : (associated.name ++ ": " ++ associated.bound).toList =
      associated.name.toList ++ ':' :: ' ' :: associated.bound.toList := by
    simp only [String.toList_append, List.append_assoc]
    rfl
  have declares : associatedType?
      (.line ("    type " ++ associated.name ++ ": " ++ associated.bound ++ "<P>;")) =
        some associated := by
    rw [associatedType?, line, framed?_eq_some, Option.map_some, written,
      List.takeWhile_append_of_pos letters, List.dropWhile_append_of_pos letters,
      List.takeWhile_cons_of_neg (by simp), List.dropWhile_cons_of_neg (by simp), List.append_nil,
      String.ofList_toList]
    have bound : (':' :: ' ' :: associated.bound.toList).drop ": ".length = associated.bound.toList := rfl
    rw [bound, String.ofList_toList]
  rw [entries, List.filterMap_cons, documents, List.filterMap_cons, declares, List.filterMap_nil]

theorem associatedType?_signature (method arguments result : String) :
    associatedType? (signature method arguments result) = none := by
  simp only [signature, String.append_assoc]
  exact associatedType?_line _ (by decide) _

theorem Method.filterMap_associated {method : Method}
    (plain : ∀ associated, method.declares = some associated → ':' ∉ associated.name.toList) :
    method.entries.filterMap associatedType? = method.declares.toList := by
  have noted : (deprecation "    " method.property.deprecated).filterMap associatedType? = [] := by
    cases method.property.deprecated <;> rfl
  have signatures : method.signatures.filterMap associatedType? = [] := by
    unfold Method.signatures
    dsimp only
    split
    · split <;> simp [associatedType?_signature, indentedDoc, noted,
        readsInside_associatedType?.doc]
    · split <;> simp [associatedType?_signature]
  unfold Method.entries
  cases declares : method.declares with
  | none => simp [indentedDoc, noted, signatures, readsInside_associatedType?.doc]
  | some associated =>
      simp [indentedDoc, noted, signatures, readsInside_associatedType?.doc,
        AssociatedType.filterMap_associated (plain associated declares)]

theorem associatedTypes_eq {trait : Trait} (plain : ∀ method ∈ trait.methods, ∀ associated,
    method.declares = some associated → ':' ∉ associated.name.toList) :
    associatedTypes trait = trait.methods.filterMap Method.declares := by
  rw [associatedTypes, trait.filterMap_entries readsInside_associatedType?, List.filterMap_eq_flatMap_toList]
  exact List.flatMap_congr fun method member => Method.filterMap_associated (plain method member)

def firstUses (known : List String) : List AssociatedType → List AssociatedType
  | [] => []
  | associated :: uses =>
      if associated.name ∈ known then firstUses known uses
      else associated :: firstUses (associated.name :: known) uses

theorem firstUses_fresh (uses : List AssociatedType) : ∀ known,
    ((firstUses known uses).map AssociatedType.name).Nodup ∧
      ∀ associated ∈ firstUses known uses, associated ∈ uses ∧ associated.name ∉ known := by
  induction uses with
  | nil => simp [firstUses]
  | cons first uses ih =>
      intro known
      rw [firstUses]
      split
      · obtain ⟨distinct, each⟩ := ih known
        refine ⟨distinct, fun associated member => ?_⟩
        exact (each associated member).imp_left (List.mem_cons_of_mem first)
      · rename_i fresh
        obtain ⟨distinct, each⟩ := ih (first.name :: known)
        constructor
        · refine List.nodup_cons.mpr ⟨?_, distinct⟩
          rw [List.mem_map]
          rintro ⟨later, member, same⟩
          exact (each later member).2 (same ▸ List.mem_cons_self)
        · refine List.forall_mem_cons.mpr ⟨⟨List.mem_cons_self, fresh⟩, fun associated member => ?_⟩
          obtain ⟨used, unknown⟩ := each associated member
          exact ⟨List.mem_cons_of_mem first used, fun old => unknown (List.mem_cons_of_mem _ old)⟩

theorem mem_map_name_firstUses {uses : List AssociatedType} {associated : AssociatedType}
    (member : associated ∈ uses) : ∀ known, associated.name ∉ known →
      associated.name ∈ (firstUses known uses).map AssociatedType.name := by
  induction uses with
  | nil => cases member
  | cons first uses ih =>
      intro known fresh
      rw [firstUses]
      rcases List.mem_cons.mp member with rfl | later
      · rw [if_neg fresh]
        exact List.mem_cons_self
      · split
        · exact ih later known fresh
        · by_cases same : associated.name = first.name
          · rw [List.map_cons, same]
            exact List.mem_cons_self
          · refine List.mem_cons_of_mem _ (ih later _ ?_)
            rw [List.mem_cons, not_or]
            exact ⟨same, fresh⟩

theorem filterMap_declares_methodsFrom (model : Model) (owner : Model.Class)
    (properties : List Model.Property) : ∀ taken declared,
    (methodsFrom model owner taken declared properties).filterMap Method.declares =
      firstUses declared (properties.filterMap fun property => (valueType model owner property).2) := by
  induction properties with
  | nil => exact fun _ _ => rfl
  | cons property properties ih =>
      intro taken declared
      rw [methodsFrom, List.filterMap_cons, List.filterMap_cons, ih]
      cases (valueType model owner property).2 with
      | none => rfl
      | some associated =>
          dsimp only
          rw [firstUses]
          by_cases known : associated.name ∈ declared
          · have kept : (some associated).filter (fun associated => !declared.contains associated.name) =
                none := by
              simp [Option.filter, known]
            rw [if_pos known, kept]
            rfl
          · have kept : (some associated).filter (fun associated => !declared.contains associated.name) =
                some associated := by
              simp [Option.filter, known]
            rw [if_neg known, kept]
            rfl

/-! References. -/

structure Refers (model : Model) (property : Model.Property) (target : Model.Class) : Prop where
  range : property.range = .instances target.id
  rendered : ∃ trait ∈ traits model, trait.source = target

/-- The associated type that a trait should have for the instances of a class. -/
def referenceType (owner target : Model.Class) : AssociatedType :=
  associatedType (typeName owner) (typeName target)

def handedOut (type : String) : List String :=
  ["&[" ++ type ++ "]", "&" ++ type, "Option<" ++ ("&" ++ type) ++ ">"]

/-- A trait refers to itself, and to a class whose name is that of the type for this. -/
def SharesType (model : Model) (trait : Trait) : Prop :=
  (∃ property ∈ trait.source.properties, Refers model property trait.source) ∧
    ∃ property ∈ trait.source.properties, ∃ target, Refers model property target ∧
      typeName target = typeName trait.source ++ "Target"

/-- References of a trait to classes that are traits are handed out over associated types, each of which is
declared once. Each has the bound that its class asks for, unless two classes share one type. -/
structure BoundsReferences (model : Model) (trait : Trait) : Prop where
  properties : trait.methods.map Method.property = trait.source.properties
  bounds_distinct : ((traits model).map Trait.name).Nodup
  bounds_named : ∀ other ∈ traits model, other.name = typeName other.source
  handed_out : ∀ method ∈ trait.methods, ∀ target, Refers model method.property target →
    ∃ result ∈ handedOut ("Self::" ++ (referenceType trait.source target).name),
      method.signatures = [signature method.name "" result]
  declared_once : ∀ property ∈ trait.source.properties, ∀ target, Refers model property target →
    ((associatedTypes trait).map AssociatedType.name).count (referenceType trait.source target).name = 1
  bounded_iff : (∀ property ∈ trait.source.properties, ∀ target, Refers model property target →
    referenceType trait.source target ∈ associatedTypes trait) ↔ ¬ SharesType model trait

theorem referenceType_own {owner target : Model.Class} (own : typeName target = typeName owner) :
    referenceType owner target = ⟨typeName owner ++ "Target", typeName owner⟩ := by
  rw [referenceType, associatedType, if_pos own, own]

theorem referenceType_other {owner target : Model.Class} (other : typeName target ≠ typeName owner) :
    referenceType owner target = ⟨typeName target, typeName target⟩ := by
  rw [referenceType, associatedType, if_neg other]

theorem colon_not_mem_referenceType (owner target : Model.Class) :
    ':' ∉ (referenceType owner target).name.toList := by
  have plain : IsPlain (referenceType owner target).name := by
    by_cases own : typeName target = typeName owner
    · rw [referenceType_own own]
      exact (isPlain_typeName owner).append (isPlain_of_all (by decide))
    · rw [referenceType_other own]
      exact isPlain_typeName target
  exact plain.not_mem (by decide)

section

variable {model : Model} (linked : Model.Linked model)
include linked

theorem rendered_iff {target : Model.Class} : (∃ trait ∈ traits model, trait.source = target) ↔
    target ∈ model.classes ∧ hasIndividualsOnly target = false := by
  rw [traits_eq linked]
  constructor
  · rintro ⟨trait, member, rfl⟩
    obtain ⟨modelClass, kept, rfl⟩ := List.mem_map.mp member
    exact (List.mem_filter.mp kept).imp_right (by simp [traitOf])
  · rintro ⟨inside, others⟩
    exact ⟨_, List.mem_map.mpr ⟨target, List.mem_filter.mpr ⟨inside, by simpa using others⟩, rfl⟩, rfl⟩

theorem valueType_of_refers {owner target : Model.Class} (inside : owner ∈ model.classes)
    {property : Model.Property} (refers : Refers model property target) :
    valueType model owner property =
      (.borrowed ("Self::" ++ (referenceType owner target).name), some (referenceType owner target)) := by
  obtain ⟨known, others⟩ := (rendered_iff linked).mp refers.rendered
  rw [valueType, refers.range]
  dsimp only
  rw [linked.findClass? known]
  dsimp only
  rw [isEnumerationOnly_of_mem linked known, others, typeNameOf_of_mem linked inside,
    typeNameOf_of_mem linked known]
  rfl

theorem refers_of_valueType {owner : Model.Class} (inside : owner ∈ model.classes)
    {property : Model.Property} (owned : property ∈ owner.properties) {associated : AssociatedType}
    (uses : (valueType model owner property).2 = some associated) :
    ∃ target, Refers model property target ∧ associated = referenceType owner target := by
  unfold valueType at uses
  split at uses
  · cases uses
  · rename_i target range
    obtain ⟨other, known, rfl⟩ := linked.targets owner inside property owned target range
    rw [linked.findClass? known] at uses
    dsimp only at uses
    rw [isEnumerationOnly_of_mem linked known] at uses
    split at uses
    · cases uses
    · rename_i others
      have rendered := (rendered_iff linked).mpr ⟨known, by simpa using others⟩
      rw [typeNameOf_of_mem linked inside, typeNameOf_of_mem linked known] at uses
      exact ⟨other, ⟨range, rendered⟩, (Option.some.inj uses).symm⟩
  · split at uses
    · cases uses
    · cases uses

theorem associatedTypes_traitOf {owner : Model.Class} (inside : owner ∈ model.classes) :
    associatedTypes (traitOf model owner) =
      firstUses [] (owner.properties.filterMap fun property => (valueType model owner property).2) := by
  rw [associatedTypes_eq]
  · exact filterMap_declares_methodsFrom ..
  · intro method member associated declares
    obtain ⟨owned, -, only⟩ := methodsFrom_sound member
    obtain ⟨target, -, rfl⟩ := refers_of_valueType linked inside owned (only associated declares)
    exact colon_not_mem_referenceType owner target

theorem mem_uses {owner : Model.Class} (inside : owner ∈ model.classes) {associated : AssociatedType} :
    associated ∈ (owner.properties.filterMap fun property => (valueType model owner property).2) ↔
      ∃ property ∈ owner.properties, ∃ target, Refers model property target ∧
        associated = referenceType owner target := by
  rw [List.mem_filterMap]
  constructor
  · rintro ⟨property, owned, uses⟩
    exact ⟨property, owned, refers_of_valueType linked inside owned uses⟩
  · rintro ⟨property, owned, target, refers, rfl⟩
    exact ⟨property, owned, by rw [valueType_of_refers linked inside refers]⟩

theorem signatures_of_refers {owner target : Model.Class} (inside : owner ∈ model.classes)
    {method : Method} (member : method ∈ (traitOf model owner).methods)
    (refers : Refers model method.property target) :
    ∃ result ∈ handedOut ("Self::" ++ (referenceType owner target).name),
      method.signatures = [signature method.name "" result] := by
  obtain ⟨-, values, -⟩ := methodsFrom_sound member
  rw [valueType_of_refers linked inside refers] at values
  simp only [Method.signatures, values]
  split
  · exact ⟨_, List.mem_cons_self, rfl⟩
  · split
    · exact ⟨_, List.mem_cons_of_mem _ List.mem_cons_self, rfl⟩
    · exact ⟨_, List.mem_cons_of_mem _ (List.mem_cons_of_mem _ List.mem_cons_self), rfl⟩

theorem referenceType_eq_of_apart {owner : Model.Class} (inside : owner ∈ model.classes)
    (distinct : (model.classes.map typeName).Nodup)
    (apart : ¬ SharesType model (traitOf model owner)) {property other : Model.Property}
    (owned : property ∈ owner.properties) (among : other ∈ owner.properties)
    {target second : Model.Class} (refers : Refers model property target)
    (refersToo : Refers model other second)
    (same : (referenceType owner target).name = (referenceType owner second).name) :
    referenceType owner target = referenceType owner second := by
  have isOwner {modelClass : Model.Class} {property : Model.Property}
      (refers : Refers model property modelClass) (own : typeName modelClass = typeName owner) :
      modelClass = owner :=
    List.inj_on_of_nodup_map distinct ((rendered_iff linked).mp refers.rendered).1 inside own
  by_cases own : typeName target = typeName owner
  · by_cases ownToo : typeName second = typeName owner
    · rw [referenceType_own own, referenceType_own ownToo]
    · rw [referenceType_own own, referenceType_other ownToo] at same
      obtain rfl := isOwner refers own
      exact absurd ⟨⟨property, owned, refers⟩, other, among, second, refersToo, same.symm⟩ apart
  · by_cases ownToo : typeName second = typeName owner
    · rw [referenceType_other own, referenceType_own ownToo] at same
      obtain rfl := isOwner refersToo ownToo
      exact absurd ⟨⟨other, among, refersToo⟩, property, owned, target, refers, same⟩ apart
    · rw [referenceType_other own, referenceType_other ownToo] at same ⊢
      exact congrArg (fun name => AssociatedType.mk name name) same

theorem bounded_iff {owner : Model.Class} (inside : owner ∈ model.classes)
    (distinct : (model.classes.map typeName).Nodup) :
    (∀ property ∈ owner.properties, ∀ target, Refers model property target →
      referenceType owner target ∈ associatedTypes (traitOf model owner)) ↔
        ¬ SharesType model (traitOf model owner) := by
  rw [associatedTypes_traitOf linked inside]
  obtain ⟨names, each⟩ := firstUses_fresh
    (owner.properties.filterMap fun property => (valueType model owner property).2) []
  constructor
  · -- With both types declared under one name, they would be one type, and the two bounds the same.
    rintro bounded ⟨⟨own, owned, itself⟩, property, among, target, refers, clash⟩
    have longer : typeName owner ≠ typeName owner ++ "Target" := by
      rw [ne_comm, ne_eq, String.append_eq_left_iff]
      decide
    have first := bounded own owned owner itself
    have second := bounded property among target refers
    rw [referenceType_own rfl] at first
    rw [referenceType_other (clash ▸ longer.symm), clash] at second
    exact longer (congrArg AssociatedType.bound (List.inj_on_of_nodup_map names first second rfl))
  · -- The type that is declared under the name may be that of another property.
    intro apart property owned target refers
    have used := (mem_uses linked inside).mpr ⟨property, owned, target, refers, rfl⟩
    obtain ⟨first, declared, named⟩ :=
      List.mem_map.mp (mem_map_name_firstUses used [] List.not_mem_nil)
    obtain ⟨other, among, second, refersToo, rfl⟩ := (mem_uses linked inside).mp (each first declared).1
    rwa [referenceType_eq_of_apart linked inside distinct apart among owned refersToo refers named]
      at declared

theorem boundsReferences (distinct : (model.classes.map typeName).Nodup) {owner : Model.Class}
    (inside : owner ∈ model.classes) : BoundsReferences model (traitOf model owner) where
  properties := map_property_methodsFrom ..
  bounds_distinct := by
    rw [map_name_traits linked]
    exact distinct.sublist (List.filter_sublist.map typeName)
  bounds_named := by
    intro other member
    obtain ⟨modelClass, known, rfl⟩ := exists_of_mem_traits linked member
    exact typeNameOf_of_mem linked known
  handed_out _ member _ := signatures_of_refers linked inside member
  declared_once := by
    intro property owned target refers
    have used := (mem_uses linked inside).mpr ⟨property, owned, target, refers, rfl⟩
    rw [associatedTypes_traitOf linked inside]
    exact List.count_eq_one_of_mem (firstUses_fresh _ []).1
      (mem_map_name_firstUses used [] List.not_mem_nil)
  bounded_iff := bounded_iff linked inside distinct

end

/-- The references of a trait are bounded by the traits of their classes, unless it refers to itself and to a
class with the name of the type for this. -/
theorem reference_bounds_iff {graph : Rdf.Graph} {resolver : Context.Resolver} {model : Model}
    (succeeds : Model.build graph resolver = .ok model) (distinct : (model.classes.map typeName).Nodup)
    {trait : Trait} (member : trait ∈ traits model) : BoundsReferences model trait := by
  obtain ⟨classes, built⟩ := Model.build_sound succeeds
  obtain ⟨modelClass, inside, rfl⟩ := exists_of_mem_traits built.linked member
  exact boundsReferences built.linked distinct inside

def nodeGraph (other : String) : Rdf.Graph :=
  .ofList [
    ⟨.iri "Node", Rdf.Vocabulary.rdfType, .iri Rdf.Vocabulary.owlClass⟩,
    ⟨.iri other, Rdf.Vocabulary.rdfType, .iri Rdf.Vocabulary.owlClass⟩,
    ⟨.iri "Node", Rdf.Vocabulary.shProperty, .blank "next"⟩,
    ⟨.blank "next", Rdf.Vocabulary.shPath, .iri "next"⟩,
    ⟨.blank "next", Rdf.Vocabulary.shClass, .iri "Node"⟩,
    ⟨.iri "Node", Rdf.Vocabulary.shProperty, .blank "other"⟩,
    ⟨.blank "other", Rdf.Vocabulary.shPath, .iri "other"⟩,
    ⟨.blank "other", Rdf.Vocabulary.shClass, .iri other⟩]

structure References where
  id : String
  name : String
  ranges : List Model.Range
  declared : List AssociatedType
deriving DecidableEq

def references (trait : Trait) : References :=
  ⟨trait.source.id, typeName trait.source, trait.source.properties.map Model.Property.range,
    associatedTypes trait⟩

def writtenReferences (graph : Rdf.Graph) : Option (List String × List References) :=
  (Model.build graph (.ofDocuments [])).toOption.map fun model =>
    (model.classes.map typeName, (traits model).map references)

theorem reference_bounds_iff_leaf :
    ∃ model, Model.build (nodeGraph "Leaf") (.ofDocuments []) = .ok model ∧
      (model.classes.map typeName).Nodup ∧ ∃ trait ∈ traits model,
        associatedTypes trait = [⟨"NodeTarget", "Node"⟩, ⟨"Leaf", "Leaf"⟩] ∧
          BoundsReferences model trait := by
  have written : writtenReferences (nodeGraph "Leaf") = some (["Leaf", "Node"],
      [⟨"Leaf", "Leaf", [], []⟩, ⟨"Node", "Node", [.instances "Node", .instances "Leaf"],
        [⟨"NodeTarget", "Node"⟩, ⟨"Leaf", "Leaf"⟩]⟩]) := by
    decide +kernel
  obtain ⟨model, succeeds, looks⟩ := Outcomes.exists_ok_of_looked written
  obtain ⟨names, listed⟩ := Prod.mk.inj looks
  have distinct : (model.classes.map typeName).Nodup := names ▸ (by decide)
  obtain ⟨trait, member, same⟩ := List.mem_map.mp (listed ▸ List.mem_cons_of_mem _ List.mem_cons_self)
  exact ⟨model, succeeds, distinct, trait, member, congrArg References.declared same,
    reference_bounds_iff succeeds distinct member⟩

/-- The type for references of a class to itself has the name of another class that it refers to. The trait
declares it once, with its own bound, and nothing in it has the bound of the other class. -/
theorem reference_bound_lost :
    ∃ model, Model.build (nodeGraph "NodeTarget") (.ofDocuments []) = .ok model ∧
      (model.classes.map typeName).Nodup ∧ ∃ trait ∈ traits model,
        associatedTypes trait = [⟨"NodeTarget", "Node"⟩] ∧
          ∃ property ∈ trait.source.properties, ∃ target, Refers model property target ∧
            ∀ associated ∈ associatedTypes trait, associated.bound ≠ typeName target := by
  have written : writtenReferences (nodeGraph "NodeTarget") = some (["Node", "NodeTarget"],
      [⟨"Node", "Node", [.instances "Node", .instances "NodeTarget"], [⟨"NodeTarget", "Node"⟩]⟩,
        ⟨"NodeTarget", "NodeTarget", [], []⟩]) := by
    decide +kernel
  obtain ⟨model, succeeds, looks⟩ := Outcomes.exists_ok_of_looked written
  obtain ⟨names, listed⟩ := Prod.mk.inj looks
  obtain ⟨trait, member, same⟩ := List.mem_map.mp (listed ▸ List.mem_cons_self)
  obtain ⟨other, among, sameOther⟩ :=
    List.mem_map.mp (listed ▸ List.mem_cons_of_mem _ List.mem_cons_self)
  have declared : associatedTypes trait = [⟨"NodeTarget", "Node"⟩] := congrArg References.declared same
  have ranges : trait.source.properties.map Model.Property.range =
      [.instances "Node", .instances "NodeTarget"] := congrArg References.ranges same
  have id : other.source.id = "NodeTarget" := congrArg References.id sameOther
  have name : typeName other.source = "NodeTarget" := congrArg References.name sameOther
  obtain ⟨property, owned, range⟩ :=
    List.mem_map.mp (ranges ▸ List.mem_cons_of_mem _ List.mem_cons_self)
  refine ⟨model, succeeds, names ▸ (by decide), trait, member, declared, property, owned, other.source,
    ⟨id ▸ range, other, among, rfl⟩, ?_⟩
  rw [declared, name]
  decide

end ShapeCompiler.Render.Traits
