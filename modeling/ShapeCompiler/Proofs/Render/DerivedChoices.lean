import ShapeCompiler.Proofs.Model.Children
import ShapeCompiler.Proofs.Render.Definitions

/-! What may stand where an instance of a class is expected. The schema finds the classes below a class by
a walk along children, and these are the classes that the class is an ancestor of. -/

namespace ShapeCompiler.Render.JsonSchema

open Model (Built ChildOf)
open Relation (ReflTransGen)

theorem path_within {α : Type} (Inside : α → Prop) {step other : α → α → Prop} {start last : α}
    (first : Inside start)
    (stays : ∀ node next, Inside node → step node next → Inside next ∧ other node next)
    (path : ReflTransGen step start last) : Inside last ∧ ReflTransGen other start last := by
  induction path with
  | refl => exact ⟨first, .refl⟩
  | tail _ direct ih =>
      obtain ⟨inside, before⟩ := ih
      obtain ⟨after, taken⟩ := stays _ _ inside direct
      exact ⟨after, before.tail taken⟩

section

variable {graph : Rdf.Graph} {resolver : Context.Resolver} {classes : List Model.Class} {model : Model}
  (built : Built graph resolver classes model)
include built

theorem mem_childClasses {parent child : Model.Class} (above : parent ∈ model.classes) :
    child ∈ childClasses model parent ↔ ChildOf model parent child := by
  constructor
  · intro listed
    have inside := mem_classes_of_child listed
    obtain ⟨iri, direct, found⟩ := List.mem_filterMap.mp listed
    have same : child.id = iri := by simpa using List.find?_some found
    exact ⟨inside, (built.child_iff above inside).mp (same ▸ direct)⟩
  · rintro ⟨inside, direct⟩
    exact List.mem_filterMap.mpr
      ⟨child.id, (built.child_iff above inside).mpr direct, built.linked.findClass? inside⟩

theorem reflTransGen_childClasses_iff {modelClass other : Model.Class}
    (member : modelClass ∈ model.classes) :
    ReflTransGen (fun parent child => child ∈ childClasses model parent) modelClass other ↔
      ReflTransGen (ChildOf model) modelClass other := by
  constructor
  · intro path
    refine (path_within (· ∈ model.classes) member ?_ path).2
    intro parent child above listed
    exact ⟨mem_classes_of_child listed, (mem_childClasses built above).mp listed⟩
  · intro path
    refine (path_within (· ∈ model.classes) member ?_ path).2
    intro parent child above below
    exact ⟨below.1, (mem_childClasses built above).mpr below⟩

theorem mem_descendants {modelClass other : Model.Class} (member : modelClass ∈ model.classes) :
    other ∈ descendants model modelClass ↔
      other = modelClass ∨
        other ∈ model.classes ∧ Model.Ancestor model.classes other modelClass.id := by
  rw [(visits_descendants model modelClass).mem_iff, reflTransGen_childClasses_iff built member,
    Model.reflTransGen_childOf_iff member]
  -- The walk does not leave the model, whose classes are told apart by their IRIs.
  intro left right leftPath rightPath same
  exact List.inj_on_of_nodup_map built.distinct (mem_classes_of_path member leftPath)
    (mem_classes_of_path member rightPath) same

end

/-- One choice stands by itself, and several stand side by side. If there is none, nothing is valid. -/
inductive Offers : List Json → Json → Prop where
  | nothing : Offers [] (.bool false)
  | single (choice : Json) : Offers [choice] choice
  | several {choices : List Json} (more : 1 < choices.length) :
      Offers choices (.object [("anyOf", .array choices)])

def AtOrBelow (model : Model) (modelClass other : Model.Class) : Prop :=
  other = modelClass ∨ Model.Ancestor model.classes other modelClass.id

def plainString : Json :=
  .object [("type", .string "string")]

/-- A schema offers all instances of a class: those of each class at or below it that has any of its own, by
the name of their definition, and then plain strings, unless the class has none but blank nodes. -/
def OffersInstances (model : Model) (modelClass : Model.Class) (offering : Json) : Prop :=
  ∃ names : List String,
    names.Pairwise (fun left right => Text.bytes left < Text.bytes right) ∧
    (∀ name, name ∈ names ↔ ∃ other ∈ model.classes,
      AtOrBelow model modelClass other ∧ other.isAbstract = false ∧ typeName other = name) ∧
    Offers (names.map reference ++ if modelClass.nodeKind = .blankNode then [] else [plainString])
      offering

theorem offers_derivedSchema (model : Model) (modelClass : Model.Class) :
    Offers ((concreteNames model modelClass).map reference ++
      if modelClass.nodeKind = .blankNode then [] else [plainString])
      (derivedSchema model modelClass) := by
  unfold derivedSchema
  dsimp only
  have plain : plainString = Json.sorted [("type", .string "string")] := rfl
  rw [plain]
  generalize (concreteNames model modelClass).map reference ++ _ = choices
  rcases choices with _ | ⟨choice, _ | ⟨other, rest⟩⟩
  · exact .nothing
  · exact .single choice
  · exact .several (by simp)

section

variable {graph : Rdf.Graph} {resolver : Context.Resolver} {classes : List Model.Class} {model : Model}
  (built : Built graph resolver classes model)
include built

theorem mem_concreteNames_iff {modelClass : Model.Class} (member : modelClass ∈ model.classes)
    {name : String} :
    name ∈ concreteNames model modelClass ↔ ∃ other ∈ model.classes,
      AtOrBelow model modelClass other ∧ other.isAbstract = false ∧ typeName other = name := by
  rw [concreteNames, Sorted.mem_ofList, List.mem_map]
  constructor
  · rintro ⟨other, kept, rfl⟩
    obtain ⟨below, concrete⟩ := List.mem_filter.mp kept
    have inside := mem_classes_of_descendant member below
    refine ⟨other, inside, ?_, by simpa using concrete, (nameOf_of_mem built.linked inside).symm⟩
    exact ((mem_descendants built member).mp below).imp_right And.right
  · rintro ⟨other, inside, below, concrete, rfl⟩
    have reached := (mem_descendants built member).mpr (below.imp_right fun above => ⟨inside, above⟩)
    exact ⟨other, List.mem_filter.mpr ⟨reached, by simpa using concrete⟩,
      nameOf_of_mem built.linked inside⟩

theorem offersInstances {modelClass : Model.Class} (member : modelClass ∈ model.classes) :
    OffersInstances model modelClass (derivedSchema model modelClass) := by
  refine ⟨concreteNames model modelClass, ?_, ?_, offers_derivedSchema model modelClass⟩
  · exact (Sorted.pairwise_ofList _).imp Text.bytes_lt_iff.mpr
  · intro name
    exact mem_concreteNames_iff built member

end

/-- Where an instance of a class is expected, the schema of a model that was built offers just the classes at
or below it, and a document holds this for the last class with a type name. The walk that finds the classes
ends on every model. -/
theorem derived_choices_exact (model : Model) (modelClass : Model.Class) :
    Walk.Visits Model.Class.id (childClasses model) [] [modelClass] (descendants model modelClass) ∧
    ∀ graph resolver, Model.build graph resolver = .ok model → modelClass ∈ model.classes →
      OffersInstances model modelClass (derivedSchema model modelClass) ∧
      ∀ options, definition? (schema model options) (derivedName (typeName modelClass)) =
        (lastNamed? (typeName modelClass) model.classes).map (derivedSchema model) := by
  refine ⟨visits_descendants model modelClass, fun graph resolver succeeds member => ?_⟩
  obtain ⟨classes, built⟩ := Model.build_sound succeeds
  refine ⟨offersInstances built member, fun options => ?_⟩
  exact definition?_derived built.linked options (typeName modelClass)

theorem derived_choices_exact_diamond :
    ∃ model, Model.build Model.diamondGraph (.ofDocuments []) = .ok model ∧
      ∃ top ∈ model.classes, top.id = "a" ∧ concreteNames model top = ["B", "C", "D"] ∧
        OffersInstances model top (derivedSchema model top) := by
  have listed : (Model.build Model.diamondGraph (.ofDocuments [])).toOption.map (fun model =>
      model.classes.map fun modelClass => (modelClass.id, concreteNames model modelClass)) =
        some [("a", ["B", "C", "D"]), ("b", ["B", "D"]), ("c", ["C", "D"]), ("d", ["D"])] := by
    decide +kernel
  obtain ⟨model, succeeds, same⟩ := Outcomes.exists_ok_of_looked listed
  have first : ("a", ["B", "C", "D"]) ∈ model.classes.map fun modelClass =>
      (modelClass.id, concreteNames model modelClass) := same ▸ List.mem_cons_self
  obtain ⟨top, member, named⟩ := List.mem_map.mp first
  obtain ⟨id, names⟩ := Prod.mk.inj named
  exact ⟨model, succeeds, top, member, id, names,
    ((derived_choices_exact model top).2 _ _ succeeds member).1⟩

end ShapeCompiler.Render.JsonSchema
