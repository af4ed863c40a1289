import Mathlib.Logic.Function.Basic
import ShapeCompiler.Proofs.Json.PrettyReading
import ShapeCompiler.Render.Target

/-! The dump of a model loses nothing. A reader that looks its members up by their names gets back the title,
the id and every class of the model from the text alone. -/

namespace ShapeCompiler.Render.Raw

def text? : Json → Option String
  | .string value => some value
  | _ => none

def truth? : Json → Option Bool
  | .bool value => some value
  | _ => none

def nullable? {α : Type} (read? : Json → Option α) : Json → Option (Option α)
  | .null => some none
  | value => (read? value).map some

def natural? : Json → Option Nat
  | .number (.whole (.ofNat value)) => some value
  | _ => none

def list? {α : Type} (read? : Json → Option α) : Json → Option (List α)
  | .array items => items.mapM read?
  | _ => none

def field? {α : Type} (name : String) (read? : Json → Option α) (value : Json) : Option α :=
  (value.member? name).bind read?

def optional? {α : Type} (name : String) (read? : Json → Option α) (value : Json) :
    Option (Option α) :=
  match value.member? name with
  | none => some none
  | some present => (read? present).map some

def range? : Json → Option Model.Range
  | .object [("class", .string classIri)] => some (.instances classIri)
  | .object [("enum", values)] => (list? text? values).map .oneOf
  | .object [("datatype", .string iri)] => some (.datatype iri)
  | _ => none

def nodeKind? (value : Json) : Option Model.NodeKind :=
  (text? value).bind fun name => Model.NodeKind.all.find? fun kind => kind.name == name

def property? (value : Json) : Option Model.Property := do
  return {
    path := ← field? "path" text? value
    compactPath := ← field? "compact_path" text? value
    name := ← field? "name" text? value
    comment := ← field? "comment" (nullable? text?) value
    minCount := ← field? "min_count" (nullable? natural?) value
    maxCount := ← field? "max_count" (nullable? natural?) value
    range := ← field? "range" range? value
    pattern := ← field? "pattern" (nullable? text?) value
    deprecated := ← field? "deprecated" truth? value }

def individual? (value : Json) : Option Model.Individual := do
  return {
    id := ← field? "id" text? value
    name := ← field? "name" text? value
    compactId := ← field? "compact_id" text? value
    comment := ← field? "comment" (nullable? text?) value }

def modelClass? (value : Json) : Option Model.Class := do
  return {
    id := ← field? "id" text? value
    name := ← field? "name" text? value
    parents := ← field? "parent_ids" (list? text?) value
    derived := ← field? "derived_ids" (list? text?) value
    properties := ← field? "properties" (list? property?) value
    comment := ← field? "comment" (nullable? text?) value
    idProperty := ← field? "id_property" (nullable? text?) value
    nodeKind := ← field? "node_kind" nodeKind? value
    isExtensible := ← field? "is_extensible" truth? value
    isAbstract := ← field? "is_abstract" truth? value
    deprecated := ← field? "deprecated" truth? value
    individuals := ← field? "named_individuals" (list? individual?) value }

def document? (value : Json) : Option (Model × Options) := do
  let title ← optional? "title" text? value
  let id ← optional? "id" text? value
  let classes ← field? "classes" (list? modelClass?) value
  return (⟨classes⟩, ⟨title, id⟩)

def read? (text : String) : Option (Model × Options) :=
  (Json.readExactly? text).bind document?

/-! Each part is read from its document -/

theorem list?_map {α : Type} {read? : Json → Option α} {write : α → Json}
    (back : ∀ value, read? (write value) = some value) (values : List α) :
    list? read? (.array (values.map write)) = some values := by
  rw [list?]
  induction values with
  | nil => rfl
  | cons value values ih =>
      rw [List.map_cons, List.mapM_cons, back, ih]
      rfl

theorem list?_ofStrings (values : List String) : list? text? (Json.ofStrings values) = some values := by
  have each : ∀ value, text? (.string value) = some value := fun _ => rfl
  exact list?_map each values

theorem nullable?_ofOption (value : Option String) :
    nullable? text? (Json.ofOption value) = some value := by
  cases value with
  | none => rfl
  | some value => rfl

theorem nullable?_count (value : Option Nat) : nullable? natural? (count value) = some value := by
  cases value with
  | none => rfl
  | some value => rfl

theorem range?_range (value : Model.Range) : range? (range value) = some value := by
  cases value with
  | instances classIri => rfl
  | oneOf values => simp only [range, range?, list?_ofStrings, Option.map_some]
  | datatype iri => rfl

theorem nodeKind?_name (kind : Model.NodeKind) : nodeKind? (.string kind.name) = some kind := by
  cases kind with
  | iri => rfl
  | blankNode => rfl
  | blankNodeOrIri => rfl

theorem property?_property (value : Model.Property) : property? (property value) = some value := by
  simp [property?, property, field?, Json.member?, Keyed.find?, text?, truth?, nullable?_ofOption,
    nullable?_count, range?_range]

theorem individual?_individual (value : Model.Individual) :
    individual? (individual value) = some value := by
  simp [individual?, individual, field?, Json.member?, Keyed.find?, text?, nullable?_ofOption]

theorem modelClass?_modelClass (value : Model.Class) :
    modelClass? (modelClass value) = some value := by
  simp [modelClass?, modelClass, field?, Json.member?, Keyed.find?, text?, truth?, nullable?_ofOption,
    list?_ofStrings, nodeKind?_name, list?_map property?_property, list?_map individual?_individual]

theorem document?_document (model : Model) (options : Options) :
    document? (document model options) = some (model, options) := by
  obtain ⟨title, id⟩ := options
  cases title with
  | none =>
      cases id with
      | none =>
          simp [document?, document, optional, optional?, field?, Json.member?, Keyed.find?,
            list?_map modelClass?_modelClass]
      | some id =>
          simp [document?, document, optional, optional?, field?, Json.member?, Keyed.find?, text?,
            list?_map modelClass?_modelClass]
  | some title =>
      cases id with
      | none =>
          simp [document?, document, optional, optional?, field?, Json.member?, Keyed.find?, text?,
            list?_map modelClass?_modelClass]
      | some id =>
          simp [document?, document, optional, optional?, field?, Json.member?, Keyed.find?, text?,
            list?_map modelClass?_modelClass]

open Json (Exact)

theorem exact_map {α : Type} {write : α → Json} (each : ∀ value, Exact (write value))
    (values : List α) : Exact (.array (values.map write)) := by
  refine .array fun item member => ?_
  obtain ⟨value, _, rfl⟩ := List.mem_map.mp member
  exact each value

theorem exact_ofOption (value : Option String) : Exact (Json.ofOption value) := by
  cases value with
  | none => exact .null
  | some value => exact .string value

theorem exact_count (value : Option Nat) : Exact (count value) := by
  cases value with
  | none => exact .null
  | some value => exact .whole value

theorem exact_range (value : Model.Range) : Exact (range value) := by
  cases value with
  | instances classIri => exact Json.exact_object_cons.mpr ⟨.string classIri, Json.exact_object_nil⟩
  | oneOf values => exact Json.exact_object_cons.mpr ⟨exact_map .string values, Json.exact_object_nil⟩
  | datatype iri => exact Json.exact_object_cons.mpr ⟨.string iri, Json.exact_object_nil⟩

theorem exact_property (value : Model.Property) : Exact (property value) := by
  simp only [property, Json.exact_object_cons]
  exact ⟨.string _, .string _, .string _, exact_ofOption _, exact_count _, exact_count _,
    exact_range _, exact_ofOption _, .bool _, Json.exact_object_nil⟩

theorem exact_individual (value : Model.Individual) : Exact (individual value) := by
  simp only [individual, Json.exact_object_cons]
  exact ⟨.string _, .string _, .string _, exact_ofOption _, Json.exact_object_nil⟩

theorem exact_modelClass (value : Model.Class) : Exact (modelClass value) := by
  simp only [modelClass, Json.exact_object_cons]
  exact ⟨.string _, .string _, exact_map .string _, exact_map .string _, exact_map exact_property _,
    exact_ofOption _, exact_ofOption _, .string _, .bool _, .bool _, .bool _,
    exact_map exact_individual _, Json.exact_object_nil⟩

theorem exact_document (model : Model) (options : Options) : Exact (document model options) := by
  have classes : Exact (.object [("classes", .array (model.classes.map modelClass))]) :=
    Json.exact_object_cons.mpr ⟨exact_map exact_modelClass _, Json.exact_object_nil⟩
  obtain ⟨title, id⟩ := options
  cases title with
  | none =>
      cases id with
      | none => exact classes
      | some id => exact Json.exact_object_cons.mpr ⟨.string id, classes⟩
  | some title =>
      cases id with
      | none => exact Json.exact_object_cons.mpr ⟨.string title, classes⟩
      | some id =>
          refine Json.exact_object_cons.mpr ⟨.string title, ?_⟩
          exact Json.exact_object_cons.mpr ⟨.string id, classes⟩

/-- The reader gets back what was dumped, so that no two dumps are the same. -/
theorem dump_loses_nothing :
    (∀ (model : Model) (options : Options), read? (render model options) = some (model, options)) ∧
      Function.Injective fun dumped : Model × Options => render dumped.1 dumped.2 := by
  have back : ∀ (model : Model) (options : Options),
      read? (render model options) = some (model, options) := by
    intro model options
    rw [read?, render, Json.readExactly?_pretty (exact_document model options), Option.bind_some,
      document?_document]
  refine ⟨back, ?_⟩
  rintro ⟨first, options⟩ ⟨second, others⟩ same
  have read := congrArg read? same
  simp only [back, Option.some.injEq] at read
  exact read

end ShapeCompiler.Render.Raw
