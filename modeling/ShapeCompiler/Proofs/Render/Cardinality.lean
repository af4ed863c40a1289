import ShapeCompiler.Proofs.Render.OwnProperties

/-! Numbers of values. The bounds of a property are spread over the list of required members, the type of a
member and two keywords of arrays. A member that stands for some values is valid exactly if their number is
within the bounds. -/

namespace ShapeCompiler

def Json.Number.isWhole : Json.Number → Bool
  | .whole _ => true
  | .binary rounded => rounded.ratio.1 % rounded.ratio.2 == 0

def Json.hasType (type : String) : Json → Bool
  | .null => type == "null"
  | .bool _ => type == "boolean"
  | .number content => type == "number" || (type == "integer" && content.isWhole)
  | .string _ => type == "string"
  | .array _ => type == "array"
  | .object _ => type == "object"

namespace Render.JsonSchema

/-- What a schema leaves to others: the definitions that it refers to, and the languages of patterns and of
formats. -/
structure Surroundings where
  admits : String → Json → Prop
  fits : String → String → Prop
  formatted : String → String → Prop

/-- What one keyword says of a value; `inside` is what its argument says of a value if it is a schema. These
are the keywords of the schemas of members, of which the others are notes. -/
def KeywordHolds (surroundings : Surroundings) (keyword : String) (argument : Json)
    (inside : Json → Prop) (value : Json) : Prop :=
  match keyword with
  | "type" => ∀ type, argument = .string type → value.hasType type = true
  | "enum" => ∀ options, argument = .array options → value ∈ options
  | "$ref" => ∀ target, argument = .string target → surroundings.admits target value
  | "pattern" => ∀ pattern text, argument = .string pattern → value = .string text →
      surroundings.fits pattern text
  | "format" => ∀ format text, argument = .string format → value = .string text →
      surroundings.formatted format text
  | "items" => ∀ items, value = .array items → ∀ item ∈ items, inside item
  | "minItems" => ∀ bound items, argument = .ofNat bound → value = .array items →
      bound ≤ items.length
  | "maxItems" => ∀ bound items, argument = .ofNat bound → value = .array items →
      items.length ≤ bound
  | _ => True

mutual

def Valid (surroundings : Surroundings) : Json → Json → Prop
  | .bool accepts, _ => accepts = true
  | .object keywords, value => AllHold surroundings keywords value
  | _, _ => False

def AllHold (surroundings : Surroundings) : List (String × Json) → Json → Prop
  | [], _ => True
  | (keyword, argument) :: keywords, value =>
      KeywordHolds surroundings keyword argument (Valid surroundings argument) value ∧
        AllHold surroundings keywords value

end

def EntryHolds (surroundings : Surroundings) (value : Json) (entry : String × Json) : Prop :=
  KeywordHolds surroundings entry.1 entry.2 (Valid surroundings entry.2) value

/-- A member of an object, which may be absent, satisfies what a schema of objects says of its key. -/
structure MemberValid (surroundings : Surroundings) (schema : Json) (key : String)
    (member : Option Json) : Prop where
  present : key ∈ requiredNames schema → member.isSome
  valid : ∀ memberSchema, memberSchema? schema key = some memberSchema →
    ∀ value, member = some value → Valid surroundings memberSchema value

/-! What a member says of a property. -/

def itemSchema (model : Model) (property : Model.Property) : Json :=
  Json.sorted (itemMembers model property)

/-- Values of a property, with the member that stands for them. -/
inductive Represents (property : Model.Property) : List Json → Option Json → Prop where
  | many {values : List Json} (list : property.maxCount ≠ some 1) :
      Represents property values (some (.array values))
  | one {value : Json} (single : property.maxCount = some 1) :
      Represents property [value] (some value)
  | absent : Represents property [] none

structure WithinBounds (property : Model.Property) (count : Nat) : Prop where
  least : ∀ bound, property.minCount = some bound → bound ≤ count
  most : ∀ bound, property.maxCount = some bound → count ≤ bound

variable {surroundings : Surroundings}

theorem allHold_iff {keywords : List (String × Json)} {value : Json} :
    AllHold surroundings keywords value ↔ ∀ entry ∈ keywords, EntryHolds surroundings value entry := by
  induction keywords with
  | nil => simp [AllHold]
  | cons entry keywords ih =>
      obtain ⟨keyword, argument⟩ := entry
      rw [AllHold, ih, List.forall_mem_cons]
      rfl

theorem valid_sorted_iff {members : List (String × Json)} (distinct : (members.map Prod.fst).Nodup)
    {value : Json} :
    Valid surroundings (Json.sorted members) value ↔
      ∀ entry ∈ members, EntryHolds surroundings value entry := by
  have same (entry : String × Json) : entry ∈ Keyed.ofList members ↔ entry ∈ members := by
    constructor
    · exact Keyed.mem_of_mem_ofList
    · intro member
      exact Keyed.mem_of_find? (Keyed.find?_ofList_of_nodup distinct member)
  rw [Json.sorted, Valid, allHold_iff]
  simp only [same]

theorem forall_mem_whenSome {α : Type} {name : String} {toJson : α → Json} {content : Option α}
    {holds : String × Json → Prop} :
    (∀ entry ∈ whenSome name toJson content, holds entry) ↔
      ∀ found, content = some found → holds (name, toJson found) := by
  cases content with
  | none => simp [whenSome]
  | some found => simp [whenSome]

theorem map_fst_whenSome_sublist {α : Type} (name : String) (toJson : α → Json) (content : Option α) :
    ((whenSome name toJson content).map Prod.fst).Sublist [name] := by
  cases content with
  | none => exact List.nil_sublist _
  | some found => exact List.Sublist.refl _

theorem map_fst_whenTrue_sublist (condition : Bool) (name : String) (value : Json) :
    ((whenTrue condition name value).map Prod.fst).Sublist [name] := by
  cases condition with
  | false => exact List.nil_sublist _
  | true => exact List.Sublist.refl _

section

variable (model : Model) (property : Model.Property)

def boundingMembers : List (String × Json) :=
  if property.isList then listMembers property (itemSchema model property)
  else itemMembers model property

theorem map_fst_itemMembers_sublist :
    ((itemMembers model property).map Prod.fst).Sublist ["$ref", "enum", "type", "format", "pattern"] := by
  unfold itemMembers
  cases property.range with
  | instances target => simp
  | oneOf values => simp
  | datatype datatype =>
      simp only [List.map_append]
      have typed := ((List.Sublist.refl ["type"]).append
        (map_fst_whenSome_sublist "format" Json.string (jsonType datatype).2)).append
        (map_fst_whenSome_sublist "pattern" Json.string property.pattern)
      exact typed.trans (by simp)

theorem map_fst_listMembers_sublist (item : Json) :
    ((listMembers property item).map Prod.fst).Sublist ["type", "items", "minItems", "maxItems"] := by
  rw [listMembers, List.map_append, List.map_append]
  exact ((List.Sublist.refl ["type", "items"]).append (map_fst_whenSome_sublist _ _ _)).append
    (map_fst_whenSome_sublist _ _ _)

theorem nodup_propertyMembers :
    ((boundingMembers model property ++ description property.comment ++
      whenTrue property.deprecated "deprecated" (.bool true)).map Prod.fst).Nodup := by
  have noted {names : List String} (bounding : ((boundingMembers model property).map Prod.fst).Sublist names) :
      ((boundingMembers model property ++ description property.comment ++
        whenTrue property.deprecated "deprecated" (.bool true)).map Prod.fst).Sublist
        (names ++ ["description"] ++ ["deprecated"]) := by
    rw [List.map_append, List.map_append]
    exact (bounding.append (map_fst_whenSome_sublist _ _ _)).append (map_fst_whenTrue_sublist _ _ _)
  unfold boundingMembers at noted ⊢
  split
  · rename_i list
    rw [if_pos list] at noted
    exact (noted (map_fst_listMembers_sublist property _)).nodup (by decide)
  · rename_i single
    rw [if_neg single] at noted
    exact (noted (map_fst_itemMembers_sublist model property)).nodup (by decide)

theorem valid_propertySchema_iff {value : Json} :
    Valid surroundings (propertySchema model property) value ↔
      ∀ entry ∈ boundingMembers model property, EntryHolds surroundings value entry := by
  have schema : propertySchema model property = Json.sorted (boundingMembers model property ++
      description property.comment ++ whenTrue property.deprecated "deprecated" (.bool true)) := rfl
  have described : ∀ entry ∈ description property.comment, EntryHolds surroundings value entry :=
    forall_mem_whenSome.mpr fun _ _ => trivial
  have deprecated : ∀ entry ∈ whenTrue property.deprecated "deprecated" (.bool true),
      EntryHolds surroundings value entry := by
    cases property.deprecated <;> simp [whenTrue, EntryHolds, KeywordHolds]
  rw [schema, valid_sorted_iff (nodup_propertyMembers model property), List.forall_mem_append,
    List.forall_mem_append]
  exact ⟨fun all => all.1.1, fun bounding => ⟨⟨bounding, described⟩, deprecated⟩⟩

variable {model property}

theorem valid_single_iff (single : property.maxCount = some 1) {value : Json} :
    Valid surroundings (propertySchema model property) value ↔
      Valid surroundings (itemSchema model property) value := by
  have bounding : boundingMembers model property = itemMembers model property := by
    simp [boundingMembers, Model.Property.isList, single]
  have distinct : ((itemMembers model property).map Prod.fst).Nodup :=
    (map_fst_itemMembers_sublist model property).nodup (by decide)
  rw [valid_propertySchema_iff, bounding, itemSchema, valid_sorted_iff distinct]

theorem valid_array_iff (list : property.maxCount ≠ some 1) {values : List Json}
    (fitting : ∀ value ∈ values, Valid surroundings (itemSchema model property) value) :
    Valid surroundings (propertySchema model property) (.array values) ↔
      WithinBounds property values.length := by
  have bounding : boundingMembers model property = listMembers property (itemSchema model property) := by
    simp [boundingMembers, Model.Property.isList, list]
  rw [valid_propertySchema_iff, bounding, listMembers, List.forall_mem_append, List.forall_mem_append,
    forall_mem_whenSome, forall_mem_whenSome]
  constructor
  · rintro ⟨⟨-, least⟩, most⟩
    refine ⟨?_, ?_⟩
    · intro bound set
      rcases Nat.eq_zero_or_pos bound with rfl | positive
      · exact Nat.zero_le _
      · exact least bound (by simp [set, positive]) bound values rfl rfl
    · intro bound set
      exact most bound set bound values rfl rfl
  · intro within
    refine ⟨⟨?_, ?_⟩, ?_⟩
    · rw [List.forall_mem_cons, List.forall_mem_singleton]
      refine ⟨?_, ?_⟩
      · rintro type ⟨rfl⟩
        rfl
      · rintro items ⟨rfl⟩
        exact fitting
    · rintro bound set least items ⟨rfl⟩ ⟨rfl⟩
      exact within.least bound (Option.eq_some_of_filter_eq_some set)
    · rintro bound set most items ⟨rfl⟩ ⟨rfl⟩
      exact within.most bound set

end

section

variable {model : Model} {modelClass : Model.Class} (distinct : (ownKeys modelClass).Nodup)
  {property : Model.Property} (owned : property ∈ modelClass.properties)
include distinct owned

theorem mem_requiredNames_iff :
    property.compactPath ∈ requiredNames (propsSchema model modelClass) ↔ property.isRequired = true := by
  obtain ⟨fresh, others⟩ := List.nodup_cons.mp distinct
  have path := List.mem_map_of_mem (f := Model.Property.compactPath) owned
  have notIdentifier : property.compactPath ∉
      (if modelClass.nodeKind = .iri then [idKey modelClass] else []) := by
    split
    · rw [List.mem_singleton]
      rintro same
      exact fresh (same ▸ path)
    · exact List.not_mem_nil
  rw [requiredNames_propsSchema, requiredKeys, List.mem_append, or_iff_right notIdentifier, List.mem_map]
  constructor
  · rintro ⟨other, member, same⟩
    obtain ⟨otherOwned, required⟩ := List.mem_filter.mp member
    rwa [← List.inj_on_of_nodup_map others otherOwned owned same]
  · intro required
    exact ⟨property, List.mem_filter.mpr ⟨owned, required⟩, rfl⟩

theorem memberValid_iff {member : Option Json} :
    MemberValid surroundings (propsSchema model modelClass) property.compactPath member ↔
      (property.isRequired = true → member.isSome) ∧
        ∀ value, member = some value → Valid surroundings (propertySchema model property) value := by
  have held := ((keepsOwn_iff model modelClass).mpr distinct).each property owned
  have required : property.compactPath ∈ requiredNames (propsSchema model modelClass) ↔
      property.isRequired = true := mem_requiredNames_iff distinct owned
  constructor
  · rintro ⟨present, valid⟩
    exact ⟨fun needed => present (required.mpr needed), valid _ held⟩
  · rintro ⟨present, valid⟩
    refine ⟨fun needed => present (required.mp needed), ?_⟩
    intro memberSchema found
    rw [held, Option.some.injEq] at found
    exact found ▸ valid

end

theorem isRequired_iff {property : Model.Property} :
    property.isRequired = true ↔ ∃ bound, property.minCount = some bound ∧ 0 < bound := by
  unfold Model.Property.isRequired
  cases property.minCount with
  | none => simp
  | some bound => simp

theorem withinBounds_zero_iff {property : Model.Property} :
    WithinBounds property 0 ↔ ¬ property.isRequired = true := by
  rw [isRequired_iff]
  constructor
  · rintro within ⟨bound, set, positive⟩
    exact Nat.not_lt_of_le (within.least bound set) positive
  · intro optional
    refine ⟨?_, fun _ _ => Nat.zero_le _⟩
    intro bound set
    exact Nat.le_of_not_lt fun positive => optional ⟨bound, set, positive⟩

/-- Under keys that differ, a member that stands for some fitting values of a property satisfies what the
definition says of it exactly if their number is within the property's bounds. -/
theorem cardinality_kept_iff {model : Model} {modelClass : Model.Class}
    (distinct : (ownKeys modelClass).Nodup) {property : Model.Property}
    (owned : property ∈ modelClass.properties)
    (ordered : ∀ least most, property.minCount = some least → property.maxCount = some most →
      least ≤ most)
    {values : List Json} {member : Option Json} (represents : Represents property values member)
    (fitting : ∀ value ∈ values, Valid surroundings (itemSchema model property) value) :
    MemberValid surroundings (propsSchema model modelClass) property.compactPath member ↔
      WithinBounds property values.length := by
  rw [memberValid_iff distinct owned]
  cases represents with
  | many list =>
      simp only [Option.isSome_some, implies_true, true_and, Option.some.injEq, forall_eq']
      exact valid_array_iff list fitting
  | one single =>
      have valid := (valid_single_iff single).mpr (fitting _ List.mem_cons_self)
      have within : WithinBounds property 1 := by
        refine ⟨fun least set => ordered least 1 set single, ?_⟩
        intro most set
        rw [single, Option.some.injEq] at set
        exact set.le
      simp only [Option.isSome_some, implies_true, true_and, Option.some.injEq, forall_eq']
      exact iff_of_true valid within
  | absent =>
      rw [List.length_nil, withinBounds_zero_iff]
      simp

def boundedProperty : Model.Property where
  path := "sizes"
  compactPath := "sizes"
  name := "sizes"
  comment := some "One or two sizes"
  minCount := some 1
  maxCount := some 2
  range := .datatype Rdf.Vocabulary.xsdInteger
  pattern := none
  deprecated := false

def boundedClass : Model.Class where
  id := "Shirt"
  name := "Shirt"
  parents := []
  derived := []
  properties := [boundedProperty]
  comment := none
  idProperty := none
  nodeKind := .iri
  isExtensible := false
  isAbstract := false
  deprecated := false
  individuals := []

def SizesValid (member : Option Json) : Prop :=
  MemberValid ⟨fun _ _ => False, fun _ _ => False, fun _ _ => False⟩
    (propsSchema ⟨[boundedClass]⟩ boundedClass) "sizes" member

theorem cardinality_kept_iff_sizes :
    SizesValid (some (.array [.ofNat 38, .ofNat 40])) ∧
      ¬ SizesValid (some (.array [.ofNat 38, .ofNat 40, .ofNat 42])) ∧
      ¬ SizesValid (some (.array [])) ∧ ¬ SizesValid none := by
  have fits (surroundings : Surroundings) (size : Nat) :
      Valid surroundings (itemSchema ⟨[boundedClass]⟩ boundedProperty) (.ofNat size) := by
    refine ⟨?_, trivial⟩
    rintro type ⟨rfl⟩
    rfl
  have bounded {values : List Json} {member : Option Json}
      (represents : Represents boundedProperty values member)
      (numbers : ∀ value ∈ values, ∃ size, value = .ofNat size) :
      SizesValid member ↔ WithinBounds boundedProperty values.length := by
    refine cardinality_kept_iff (by decide) List.mem_cons_self ?_ represents ?_
    · rintro least most ⟨rfl⟩ ⟨rfl⟩
      decide
    · intro value member
      obtain ⟨size, rfl⟩ := numbers value member
      exact fits _ size
  have list : boundedProperty.maxCount ≠ some 1 := by decide
  refine ⟨(bounded (.many list) (by simp)).mpr ?_, ?_, ?_, ?_⟩
  · refine ⟨?_, ?_⟩
    · rintro least ⟨rfl⟩
      decide
    · rintro most ⟨rfl⟩
      decide
  · intro valid
    exact absurd (((bounded (.many list) (by simp)).mp valid).most 2 rfl) (by decide)
  · intro valid
    exact absurd (((bounded (.many list) (by simp)).mp valid).least 1 rfl) (by decide)
  · intro valid
    exact absurd (((bounded .absent (by simp)).mp valid).least 1 rfl) (by decide)

end Render.JsonSchema

end ShapeCompiler
