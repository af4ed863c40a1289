import Mathlib.Logic.Relation
import ShapeCompiler.Proofs.Render.Definitions

/-! Inheritance in generated schemas. Where type names are distinct the definitions of properties extend
each other just as the classes inherit, without a circle. -/

namespace ShapeCompiler.Render.JsonSchema

open Relation (TransGen)

/-- A definition lists a reference to another under `allOf`. -/
def Extends (document : Json) (name other : String) : Prop :=
  ∃ definition items item, definition? document name = some definition ∧
    definition.member? "allOf" = some (.array items) ∧ item ∈ items ∧
      item.member? "$ref" = some (.string (pointer other))

theorem Extends.refersTo {document : Json} {name other : String}
    (step : Extends document name other) : Json.RefersTo (pointer other) document := by
  obtain ⟨definition, items, item, defined, all, inside, refers⟩ := step
  obtain ⟨definitions, held, listed⟩ := Option.bind_eq_some_iff.mp defined
  have here : Json.RefersTo (pointer other) item := by
    cases item with
    | object members => exact .here (Keyed.mem_of_find? refers)
    | _ => cases refers
  exact .of_member? held (.of_member? listed (.of_member? all (.item inside here)))

section

variable {model : Model} (linked : Model.Linked model)
include linked

theorem definition?_propsName (distinct : (model.classes.map typeName).Nodup) (options : Options)
    {modelClass : Model.Class} (member : modelClass ∈ model.classes) :
    definition? (schema model options) (propsName (typeName modelClass)) =
      some (propsSchema model modelClass) := by
  rw [definition?_props linked, lastNamed?_of_mem distinct member, Option.map_some]

omit linked in
theorem member?_allOf (modelClass : Model.Class) :
    (propsSchema model modelClass).member? "allOf" =
      if modelClass.parents.isEmpty then none
      else some (.array (modelClass.parents.map
        fun parent => reference (propsName (nameOf model parent)))) := by
  simp [propsSchema, description, Json.sorted, Json.member?, Keyed.find?_ofList, Keyed.find?_append,
    Keyed.find?]

omit linked in
theorem member?_reference (name other : String) :
    (reference name).member? "$ref" = some (.string (pointer other)) ↔ name = other := by
  simp [reference, pointer, Json.member?, Keyed.find?]

theorem extends_propsName (distinct : (model.classes.map typeName).Nodup) (options : Options)
    {modelClass : Model.Class} (member : modelClass ∈ model.classes) {name : String} :
    Extends (schema model options) (propsName (typeName modelClass)) name ↔
      ∃ parent ∈ model.classes, parent.id ∈ modelClass.parents ∧
        name = propsName (typeName parent) := by
  have own := definition?_propsName linked distinct options member
  have listed : (propsSchema model modelClass).member? "allOf" = _ := member?_allOf modelClass
  constructor
  · rintro ⟨definition, items, item, defined, all, inside, refers⟩
    obtain rfl : propsSchema model modelClass = definition :=
      Option.some.inj (own.symm.trans defined)
    rw [listed] at all
    split at all
    · cases all
    · cases all
      obtain ⟨iri, direct, rfl⟩ := List.mem_map.mp inside
      obtain ⟨parent, known, rfl⟩ := linked.parents modelClass member iri direct
      rw [member?_reference, nameOf_of_mem linked known] at refers
      exact ⟨parent, known, direct, refers.symm⟩
  · rintro ⟨parent, known, direct, rfl⟩
    have some_parent : modelClass.parents.isEmpty = false :=
      List.isEmpty_eq_false_iff_exists_mem.mpr ⟨parent.id, direct⟩
    rw [some_parent] at listed
    refine ⟨_, _, reference (propsName (typeName parent)), own, listed, ?_, ?_⟩
    · exact List.mem_map.mpr ⟨parent.id, direct, by rw [nameOf_of_mem linked known]⟩
    · exact (member?_reference _ _).mpr rfl

/-- From the properties of a class the references lead to those of its ancestors and nowhere else. -/
theorem transGen_extends_iff (distinct : (model.classes.map typeName).Nodup) (options : Options)
    {modelClass : Model.Class} (member : modelClass ∈ model.classes) {name : String} :
    TransGen (Extends (schema model options)) (propsName (typeName modelClass)) name ↔
      ∃ ancestor ∈ model.classes, Model.Ancestor model.classes modelClass ancestor.id ∧
        name = propsName (typeName ancestor) := by
  constructor
  · intro leads
    induction leads with
    | single step =>
        obtain ⟨parent, known, direct, rfl⟩ := (extends_propsName linked distinct options member).mp step
        exact ⟨parent, known, .parent direct, rfl⟩
    | tail _ step ih =>
        obtain ⟨between, inside, nearer, rfl⟩ := ih
        obtain ⟨parent, known, direct, rfl⟩ := (extends_propsName linked distinct options inside).mp step
        exact ⟨parent, known, .further nearer inside direct, rfl⟩
  · rintro ⟨ancestor, known, inherits, rfl⟩
    generalize named : ancestor.id = iri at inherits
    induction inherits generalizing ancestor with
    | parent direct =>
        subst named
        exact .single ((extends_propsName linked distinct options member).mpr
          ⟨ancestor, known, direct, rfl⟩)
    | @further between iri nearer inside direct ih =>
        subst named
        exact .tail (ih between inside rfl) ((extends_propsName linked distinct options inside).mpr
          ⟨ancestor, known, direct, rfl⟩)

/-- No class is an ancestor of itself, so that no definition comes twice on a way along the
references. -/
theorem nodup_of_isChain_extends (first : Model.ParentsFirst [] model.classes)
    (distinct : (model.classes.map typeName).Nodup) (options : Options) {modelClass : Model.Class}
    (member : modelClass ∈ model.classes) {path : List String}
    (chain : (propsName (typeName modelClass) :: path).IsChain (Extends (schema model options))) :
    (propsName (typeName modelClass) :: path).Nodup := by
  have leads := (chain.imp fun _ _ => TransGen.single).pairwise
  obtain ⟨reached, _⟩ := List.pairwise_cons.mp leads
  refine leads.imp_of_mem ?_
  intro name other inside _ further same
  subst same
  -- Whatever stands on the way is made for the class itself or for one of its ancestors.
  obtain ⟨owner, known, rfl⟩ :
      ∃ owner ∈ model.classes, name = propsName (typeName owner) := by
    rcases List.mem_cons.mp inside with start | later
    · exact ⟨modelClass, member, start⟩
    · obtain ⟨ancestor, known, _, named⟩ :=
        (transGen_extends_iff linked distinct options member).mp (reached name later)
      exact ⟨ancestor, known, named⟩
  obtain ⟨ancestor, inside, inherits, named⟩ :=
    (transGen_extends_iff linked distinct options known).mp further
  have same := List.inj_on_of_nodup_map distinct known inside (propsName_inj.mp named)
  subst same
  exact first.not_ancestor_self linked.distinct known inherits

end

/-- Every reference in a generated schema leads to one of its definitions. Where type names are distinct,
what is reached from the properties of a class by way of `allOf` are the properties of its ancestors, all
of them and nothing else, and no way comes to a definition twice. -/
theorem schema_references_closed {graph : Rdf.Graph} {resolver : Context.Resolver} {model : Model}
    (succeeds : Model.build graph resolver = .ok model) (options : Options) :
    (∀ target, Json.RefersTo target (schema model options) →
      ∃ name, target = "#/$defs/" ++ name ∧
        (definition? (schema model options) name).isSome = true) ∧
    ((model.classes.map typeName).Nodup → ∀ modelClass ∈ model.classes,
      (∀ name, TransGen (Extends (schema model options)) (propsName (typeName modelClass)) name ↔
        ∃ ancestor ∈ model.classes, Model.Ancestor model.classes modelClass ancestor.id ∧
          name = propsName (typeName ancestor)) ∧
      ∀ path, (propsName (typeName modelClass) :: path).IsChain (Extends (schema model options)) →
        (propsName (typeName modelClass) :: path).Nodup) := by
  obtain ⟨classes, built⟩ := Model.build_sound succeeds
  refine ⟨?_, ?_⟩
  · intro target refers
    obtain ⟨name, defined, rfl⟩ := refersTo_schema built.linked refers
    exact ⟨name, rfl, isSome_definition?_schema.mpr defined⟩
  · intro distinct modelClass member
    refine ⟨fun name => transGen_extends_iff built.linked distinct options member, ?_⟩
    intro path chain
    exact nodup_of_isChain_extends built.linked built.first distinct options member chain

theorem schema_references_closed_chain :
    ∃ model, Model.build Model.chainGraph (.ofDocuments []) = .ok model ∧
      (model.classes.map typeName).Nodup ∧
      TransGen (Extends (schema model Options.none)) "A_props" "C_props" ∧
      Json.RefersTo (pointer "C_props") (schema model Options.none) ∧
      (definition? (schema model Options.none) "C_props").isSome = true := by
  have shape : (Model.build Model.chainGraph (.ofDocuments [])).toOption.map (fun model =>
      model.classes.map fun modelClass => (modelClass.id, typeName modelClass, modelClass.parents)) =
      some [("c", "C", []), ("b", "B", ["c"]), ("a", "A", ["b"])] := by
    decide +kernel
  obtain ⟨model, succeeds, shape⟩ := Outcomes.exists_ok_of_looked shape
  obtain ⟨resolve, inherit⟩ := schema_references_closed succeeds Options.none
  have names : model.classes.map typeName = ["C", "B", "A"] := by
    have listed := congrArg (List.map fun entry => entry.2.1) shape
    simpa [List.map_map, Function.comp_def] using listed
  have distinct : (model.classes.map typeName).Nodup := names ▸ (by decide)
  have standing (entry : String × String × List String)
      (listed : entry ∈ [("c", "C", []), ("b", "B", ["c"]), ("a", "A", ["b"])]) :
      ∃ modelClass ∈ model.classes,
        (modelClass.id, typeName modelClass, modelClass.parents) = entry := by
    rwa [← shape, List.mem_map] at listed
  obtain ⟨top, topIn, topIs⟩ := standing ("c", "C", []) (by simp)
  obtain ⟨middle, middleIn, middleIs⟩ := standing ("b", "B", ["c"]) (by simp)
  obtain ⟨bottom, bottomIn, bottomIs⟩ := standing ("a", "A", ["b"]) (by simp)
  simp only [Prod.mk.injEq] at topIs middleIs bottomIs
  obtain ⟨topId, topName, _⟩ := topIs
  obtain ⟨middleId, _, middleParents⟩ := middleIs
  obtain ⟨_, bottomName, bottomParents⟩ := bottomIs
  have nearer : Model.Ancestor model.classes bottom middle.id :=
    .parent (by simp [bottomParents, middleId])
  have further : Model.Ancestor model.classes bottom top.id :=
    .further nearer middleIn (by simp [middleParents, topId])
  have leads := ((inherit distinct bottom bottomIn).1 (propsName (typeName top))).mpr
    ⟨top, topIn, further, rfl⟩
  rw [bottomName, topName] at leads
  obtain ⟨_, _, last⟩ := TransGen.tail'_iff.mp leads
  obtain ⟨name, same, defined⟩ := resolve _ last.refersTo
  obtain rfl : propsName "C" = name := (String.append_right_inj _).mp same
  exact ⟨model, succeeds, distinct, leads, last.refersTo, defined⟩

end ShapeCompiler.Render.JsonSchema
