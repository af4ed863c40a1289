import ShapeCompiler.Proofs.Model.WellFormed
import ShapeCompiler.Proofs.Render.Descendants

/-! References in generated schemas. Whatever a schema refers to, at any depth, is one of its
definitions. -/

namespace ShapeCompiler.Json

/-- Somewhere in a document a member called `$ref` holds the text. -/
inductive RefersTo (target : String) : Json → Prop where
  | here {members : List (String × Json)} (listed : ("$ref", string target) ∈ members) :
      RefersTo target (object members)
  | member {members : List (String × Json)} {name : String} {value : Json}
      (listed : (name, value) ∈ members) (inside : RefersTo target value) :
      RefersTo target (object members)
  | item {items : List Json} {value : Json} (listed : value ∈ items)
      (inside : RefersTo target value) : RefersTo target (array items)

def MemberRefersTo (target : String) (member : String × Json) : Prop :=
  member = ("$ref", string target) ∨ RefersTo target member.2

def MembersReferTo (target : String) (members : List (String × Json)) : Prop :=
  ∃ member ∈ members, MemberRefersTo target member

section

variable {target : String}

theorem refersTo_object {members : List (String × Json)} :
    RefersTo target (object members) ↔ MembersReferTo target members := by
  constructor
  · intro refers
    cases refers with
    | here listed => exact ⟨_, listed, Or.inl rfl⟩
    | member listed inside => exact ⟨_, listed, Or.inr inside⟩
  · rintro ⟨member, listed, same | inside⟩
    · exact .here (same ▸ listed)
    · exact .member listed inside

theorem refersTo_array {items : List Json} :
    RefersTo target (array items) ↔ ∃ value ∈ items, RefersTo target value := by
  constructor
  · intro refers
    cases refers with
    | item listed inside => exact ⟨_, listed, inside⟩
  · rintro ⟨value, listed, inside⟩
    exact .item listed inside

theorem RefersTo.of_member? {document value : Json} {name : String}
    (held : document.member? name = some value) (inside : RefersTo target value) :
    RefersTo target document := by
  cases document with
  | object members => exact .member (Keyed.mem_of_find? held) inside
  | _ => cases held

theorem membersReferTo_of_sorted {members : List (String × Json)}
    (refers : RefersTo target (sorted members)) : MembersReferTo target members := by
  obtain ⟨member, listed, inside⟩ := refersTo_object.mp refers
  exact ⟨member, Keyed.mem_of_mem_ofList listed, inside⟩

@[simp] theorem not_refersTo_string (text : String) : ¬ RefersTo target (string text) := nofun

@[simp] theorem not_refersTo_bool (value : Bool) : ¬ RefersTo target (bool value) := nofun

@[simp] theorem not_refersTo_ofNat (value : Nat) : ¬ RefersTo target (ofNat value) := nofun

@[simp] theorem not_refersTo_ofStrings (values : List String) :
    ¬ RefersTo target (ofStrings values) := by
  rw [ofStrings, refersTo_array]
  rintro ⟨value, listed, inside⟩
  obtain ⟨text, _, rfl⟩ := List.mem_map.mp listed
  exact not_refersTo_string text inside

@[simp] theorem memberRefersTo_pair {name : String} {value : Json} :
    MemberRefersTo target (name, value) ↔
      name = "$ref" ∧ value = string target ∨ RefersTo target value := by
  simp [MemberRefersTo]

theorem refersTo_of_member_sorted {name : String} {members : List (String × Json)}
    (refers : MemberRefersTo target (name, sorted members)) : RefersTo target (sorted members) := by
  rcases memberRefersTo_pair.mp refers with ⟨_, same⟩ | inside
  · cases same
  · exact inside

@[simp] theorem membersReferTo_nil : ¬ MembersReferTo target [] := by
  simp [MembersReferTo]

@[simp] theorem membersReferTo_cons {member : String × Json} {members : List (String × Json)} :
    MembersReferTo target (member :: members) ↔
      MemberRefersTo target member ∨ MembersReferTo target members := by
  simp [MembersReferTo]

@[simp] theorem membersReferTo_append {members others : List (String × Json)} :
    MembersReferTo target (members ++ others) ↔
      MembersReferTo target members ∨ MembersReferTo target others := by
  simp only [MembersReferTo, List.mem_append, or_and_right, exists_or]

end

end ShapeCompiler.Json

namespace ShapeCompiler.Render.JsonSchema

open Json (RefersTo MembersReferTo MemberRefersTo)

def pointer (definition : String) : String :=
  "#/$defs/" ++ definition

def definition? (document : Json) (name : String) : Option Json :=
  (document.member? "$defs").bind (Json.member? name)

@[simp] theorem find?_reverse_whenTrue {condition : Bool} {key name : String} {value : Json} :
    Keyed.find? key (whenTrue condition name value).reverse =
      if condition = true ∧ name = key then some value else none := by
  cases condition <;> simp [whenTrue, Keyed.find?]

@[simp] theorem find?_reverse_whenSome {α : Type} {key name : String} {toJson : α → Json}
    {content : Option α} :
    Keyed.find? key (whenSome name toJson content).reverse =
      if name = key then content.map toJson else none := by
  cases content <;> simp [whenSome, Keyed.find?]

section

variable {target : String}

@[simp] theorem membersReferTo_whenTrue {condition : Bool} {name : String} {value : Json} :
    MembersReferTo target (whenTrue condition name value) ↔
      condition = true ∧ MemberRefersTo target (name, value) := by
  cases condition <;> simp [whenTrue]

@[simp] theorem membersReferTo_whenSome {α : Type} {name : String} {toJson : α → Json}
    {content : Option α} :
    MembersReferTo target (whenSome name toJson content) ↔
      ∃ value, content = some value ∧ MemberRefersTo target (name, toJson value) := by
  cases content <;> simp [whenSome]

@[simp] theorem not_membersReferTo_description (comment : Option String) :
    ¬ MembersReferTo target (description comment) := by
  simp [description]

@[simp] theorem refersTo_reference {definition : String} :
    RefersTo target (reference definition) ↔ target = pointer definition := by
  simp [reference, pointer, Json.refersTo_object, eq_comm]

theorem not_memberRefersTo_idSchema (name : String) (kind : Model.NodeKind) :
    ¬ MemberRefersTo target (name, idSchema kind) := by
  intro refers
  cases kind <;>
    simpa using Json.membersReferTo_of_sorted (Json.refersTo_of_member_sorted refers)

def TargetOf (model : Model) (property : Model.Property) (target : String) : Prop :=
  ∃ classIri, property.range = .instances classIri ∧
    target = pointer (derivedName (nameOf model classIri))

theorem membersReferTo_itemMembers {model : Model} {property : Model.Property}
    (refers : MembersReferTo target (itemMembers model property)) :
    TargetOf model property target := by
  unfold itemMembers at refers
  split at refers
  · rename_i classIri ranged
    refine ⟨classIri, ranged, ?_⟩
    simpa [pointer, eq_comm] using refers
  · simp at refers
  · simp at refers

theorem refersTo_propertySchema {model : Model} {property : Model.Property}
    (refers : RefersTo target (propertySchema model property)) : TargetOf model property target := by
  have inside := Json.membersReferTo_of_sorted refers
  refine membersReferTo_itemMembers (?_ : MembersReferTo target (itemMembers model property))
  split at inside
  · have listed : RefersTo target (Json.sorted (itemMembers model property)) := by
      simpa [listMembers] using inside
    exact Json.membersReferTo_of_sorted listed
  · simpa using inside

theorem membersReferTo_properties {model : Model} {key : String} {kind : Model.NodeKind}
    {properties : List Model.Property}
    (refers : MembersReferTo target ((key, idSchema kind) ::
      properties.map fun property => (property.compactPath, propertySchema model property))) :
    ∃ property ∈ properties, TargetOf model property target := by
  rcases Json.membersReferTo_cons.mp refers with identifier | ⟨member, listed, refers⟩
  · exact absurd identifier (not_memberRefersTo_idSchema key kind)
  · obtain ⟨property, owned, rfl⟩ := List.mem_map.mp listed
    exact ⟨property, owned, refersTo_propertySchema (Json.refersTo_of_member_sorted refers)⟩

theorem refersTo_propsSchema {model : Model} {modelClass : Model.Class}
    (refers : RefersTo target (propsSchema model modelClass)) :
    (∃ parent ∈ modelClass.parents, target = pointer (propsName (nameOf model parent))) ∨
      ∃ property ∈ modelClass.properties, TargetOf model property target := by
  have inside := Json.membersReferTo_of_sorted refers
  simp only [Json.membersReferTo_append, Json.membersReferTo_cons, Json.membersReferTo_nil,
    membersReferTo_whenTrue, not_membersReferTo_description, Json.memberRefersTo_pair,
    Json.not_refersTo_string, Json.not_refersTo_ofStrings, Json.refersTo_array, String.reduceEq,
    false_and, and_false, false_or, or_false] at inside
  rcases inside with ⟨_, value, listed, refers⟩ | owned
  · obtain ⟨parent, direct, rfl⟩ := List.mem_map.mp listed
    exact Or.inl ⟨parent, direct, refersTo_reference.mp refers⟩
  · exact Or.inr (membersReferTo_properties (Json.membersReferTo_of_sorted owned))

theorem refersTo_derivedSchema {model : Model} {modelClass : Model.Class}
    (refers : RefersTo target (derivedSchema model modelClass)) :
    ∃ name ∈ concreteNames model modelClass, target = pointer name := by
  have chosen : ∃ choice ∈ (concreteNames model modelClass).map reference ++
      (if modelClass.nodeKind = .blankNode then []
        else [Json.sorted [("type", .string "string")]]), RefersTo target choice := by
    unfold derivedSchema at refers
    dsimp only at refers
    generalize (concreteNames model modelClass).map reference ++ _ = choices at refers ⊢
    split at refers
    · simp at refers
    · exact ⟨_, List.mem_singleton_self _, refers⟩
    · simpa [Json.refersTo_array] using Json.membersReferTo_of_sorted refers
  obtain ⟨choice, listed, refers⟩ := chosen
  rcases List.mem_append.mp listed with named | plain
  · obtain ⟨name, concrete, rfl⟩ := List.mem_map.mp named
    exact ⟨name, concrete, refersTo_reference.mp refers⟩
  · split at plain
    · simp at plain
    · rw [List.mem_singleton.mp plain] at refers
      simpa using Json.membersReferTo_of_sorted refers

theorem refersTo_classSchema {modelClass : Model.Class} {name : String}
    (refers : RefersTo target (classSchema modelClass name)) :
    target = pointer (propsName name) := by
  have inside := Json.membersReferTo_of_sorted refers
  simp only [Json.membersReferTo_append, Json.membersReferTo_cons, Json.membersReferTo_nil,
    membersReferTo_whenTrue, not_membersReferTo_description, Json.memberRefersTo_pair,
    Json.not_refersTo_bool, Json.not_refersTo_ofStrings, Json.refersTo_array, String.reduceEq,
    List.mem_singleton, exists_eq_left, refersTo_reference, false_and,
    and_false, false_or, or_false] at inside
  rcases inside with own | typed
  · exact own
  · obtain ⟨member, listed, refers⟩ := Json.membersReferTo_of_sorted typed
    rw [List.mem_singleton.mp listed] at refers
    simpa using Json.membersReferTo_of_sorted (Json.refersTo_of_member_sorted refers)

/-! The definitions of a schema. -/

theorem mem_definitions {model : Model} {entry : String × Json} :
    entry ∈ definitions model ↔
      ∃ modelClass ∈ model.classes, entry ∈ definitionsOf model modelClass :=
  List.mem_flatMap

theorem mem_definitionsOf {model : Model} {modelClass : Model.Class} {entry : String × Json} :
    entry ∈ definitionsOf model modelClass ↔
      entry = (propsName (nameOf model modelClass.id), propsSchema model modelClass) ∨
      entry = (derivedName (nameOf model modelClass.id), derivedSchema model modelClass) ∨
      modelClass.isAbstract = false ∧ entry =
        (nameOf model modelClass.id, classSchema modelClass (nameOf model modelClass.id)) := by
  unfold definitionsOf
  generalize nameOf model modelClass.id = name
  cases modelClass.isAbstract <;> simp [whenTrue]

theorem definition?_schema (model : Model) (options : Options) (name : String) :
    definition? (schema model options) name = Keyed.find? name (Keyed.ofList (definitions model)) := by
  have held : (schema model options).member? "$defs" = some (Json.sorted (definitions model)) := by
    simp [schema, Json.sorted, Json.member?, Keyed.find?_ofList, Keyed.find?_append, Keyed.find?]
  rw [definition?, held]
  rfl

theorem isSome_definition?_schema {model : Model} {options : Options} {name : String} :
    (definition? (schema model options) name).isSome = true ↔
      name ∈ (definitions model).map Prod.fst := by
  rw [definition?_schema, ← Keyed.contains, Keyed.contains_ofList]

theorem derivedName_ne_ref (name : String) : derivedName name ≠ "$ref" := by
  intro same
  have counted := congrArg String.length same
  rw [derivedName, String.length_append] at counted
  exact absurd counted (Nat.ne_of_gt (Nat.lt_add_left name.length (by decide)))

section

variable {model : Model} {modelClass : Model.Class} (member : modelClass ∈ model.classes)
include member

theorem propsName_defined :
    propsName (nameOf model modelClass.id) ∈ (definitions model).map Prod.fst :=
  List.mem_map.mpr
    ⟨_, mem_definitions.mpr ⟨modelClass, member, mem_definitionsOf.mpr (Or.inl rfl)⟩, rfl⟩

theorem derivedName_defined :
    derivedName (nameOf model modelClass.id) ∈ (definitions model).map Prod.fst :=
  List.mem_map.mpr
    ⟨_, mem_definitions.mpr ⟨modelClass, member, mem_definitionsOf.mpr (Or.inr (Or.inl rfl))⟩, rfl⟩

theorem nameOf_defined (concrete : modelClass.isAbstract = false) :
    nameOf model modelClass.id ∈ (definitions model).map Prod.fst :=
  List.mem_map.mpr ⟨_, mem_definitions.mpr
    ⟨modelClass, member, mem_definitionsOf.mpr (Or.inr (Or.inr ⟨concrete, rfl⟩))⟩, rfl⟩

theorem mem_concreteNames {name : String} (listed : name ∈ concreteNames model modelClass) :
    ∃ other ∈ model.classes, other.isAbstract = false ∧ name = nameOf model other.id := by
  obtain ⟨other, kept, rfl⟩ := List.mem_map.mp (Sorted.mem_ofList.mp listed)
  obtain ⟨below, concrete⟩ := List.mem_filter.mp kept
  exact ⟨other, mem_classes_of_descendant member below, by simpa using concrete, rfl⟩

theorem refersTo_definitionsOf (linked : Model.Linked model) {entry : String × Json}
    (listed : entry ∈ definitionsOf model modelClass) (refers : MemberRefersTo target entry) :
    ∃ name ∈ (definitions model).map Prod.fst, target = pointer name := by
  rcases mem_definitionsOf.mp listed with rfl | rfl | ⟨concrete, rfl⟩
  · rcases refersTo_propsSchema (Json.refersTo_of_member_sorted refers) with
      ⟨parent, direct, rfl⟩ | ⟨property, owned, classIri, ranged, rfl⟩
    · obtain ⟨other, inside, rfl⟩ := linked.parents modelClass member parent direct
      exact ⟨_, propsName_defined inside, rfl⟩
    · obtain ⟨other, inside, rfl⟩ := linked.targets modelClass member property owned classIri ranged
      exact ⟨_, derivedName_defined inside, rfl⟩
  · have inside := (Json.memberRefersTo_pair.mp refers).resolve_left
      fun reference => derivedName_ne_ref _ reference.1
    obtain ⟨name, listed, rfl⟩ := refersTo_derivedSchema inside
    obtain ⟨other, known, concrete, rfl⟩ := mem_concreteNames member listed
    exact ⟨_, nameOf_defined known concrete, rfl⟩
  · rw [refersTo_classSchema (Json.refersTo_of_member_sorted refers)]
    exact ⟨_, propsName_defined member, rfl⟩

end

theorem refersTo_schema {model : Model} {options : Options} (linked : Model.Linked model)
    (refers : RefersTo target (schema model options)) :
    ∃ name ∈ (definitions model).map Prod.fst, target = pointer name := by
  have inside := Json.membersReferTo_of_sorted refers
  simp only [Json.membersReferTo_append, Json.membersReferTo_cons, Json.membersReferTo_nil,
    membersReferTo_whenTrue, membersReferTo_whenSome, Json.memberRefersTo_pair,
    Json.not_refersTo_string, Json.refersTo_array, String.reduceEq, false_and, and_false, exists_false,
    false_or, or_false] at inside
  rcases inside with defined | ⟨_, choice, listed, refers⟩
  · obtain ⟨entry, listed, refers⟩ := Json.membersReferTo_of_sorted defined
    obtain ⟨modelClass, member, listed⟩ := mem_definitions.mp listed
    exact refersTo_definitionsOf member linked listed refers
  · obtain ⟨modelClass, kept, rfl⟩ := List.mem_map.mp listed
    obtain ⟨member, concrete⟩ := List.mem_filter.mp kept
    rw [refersTo_reference.mp refers]
    exact ⟨_, nameOf_defined member (by simpa using concrete), rfl⟩

end

end ShapeCompiler.Render.JsonSchema
