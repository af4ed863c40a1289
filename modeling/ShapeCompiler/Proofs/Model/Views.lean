import ShapeCompiler.Model.Build
import ShapeCompiler.Proofs.Outcomes

/-! Models seen without some of their detail. What a view leaves out of the ranges of properties has no
influence on the children of classes and on their order. -/

namespace ShapeCompiler.Model

open Outcomes (Alike)

/-- A way to look at ranges that tells whether they allow patterns. -/
structure View where
  see : Range → Range
  keeps : ∀ range, (see range).allowsPattern = range.allowsPattern

namespace View

def whole : View := ⟨id, fun _ => rfl⟩

def hideValues : Range → Range
  | .oneOf _ => .oneOf []
  | range => range

def blurred : View :=
  ⟨hideValues, fun range => by cases range <;> rfl⟩

variable (view : View)

def property (seen : Property) : Property :=
  { seen with range := view.see seen.range }

def modelClass (seen : Class) : Class :=
  { seen with properties := seen.properties.map view.property }

def model (seen : Model) : Model :=
  ⟨seen.classes.map view.modelClass⟩

end View

theorem View.model_whole (model : Model) : View.whole.model model = model := by
  have properties (property : Property) : View.whole.property property = property := rfl
  have classes (modelClass : Class) : View.whole.modelClass modelClass = modelClass := by
    simp [View.modelClass, funext properties]
  simp [View.model, funext classes]

section

variable (view : View)

theorem childrenByParent_view (classes : List Class) :
    childrenByParent (classes.map view.modelClass) = childrenByParent classes := by
  unfold childrenByParent Keyed.distribute
  rw [List.foldl_map]
  rfl

theorem tellChildren_view (classes : List Class) (parent : String) (children : List String) :
    tellChildren (classes.map view.modelClass) parent children =
      (tellChildren classes parent children).map view.modelClass := by
  unfold tellChildren
  rw [List.map_map, List.map_map]
  refine List.map_congr_left ?_
  intro modelClass _
  rw [Function.comp_apply, Function.comp_apply, apply_ite view.modelClass]
  rfl

theorem withChildren_view (classes : List Class) :
    withChildren (classes.map view.modelClass) = (withChildren classes).map view.modelClass := by
  have told (entries : List (String × List String)) :
      entries.foldl (fun told entry => tellChildren told entry.1 (Sorted.byKey id entry.2))
          (classes.map view.modelClass) =
        (entries.foldl (fun told entry => tellChildren told entry.1 (Sorted.byKey id entry.2))
          classes).map view.modelClass := by
    induction entries generalizing classes with
    | nil => rfl
    | cons entry rest ih => rw [List.foldl_cons, tellChildren_view, ih, List.foldl_cons]
  rw [withChildren, childrenByParent_view, told, withChildren]

theorem readyClass?_view (unplaced : List (String × Class)) (placed : List String)
    (iri : String) :
    readyClass? (unplaced.map fun entry => (entry.1, view.modelClass entry.2)) placed iri =
      (readyClass? unplaced placed iri).map view.modelClass := by
  unfold readyClass?
  rw [Keyed.find?_map, Option.filter_map]
  rfl

theorem placeClasses_view (unplaced : List (String × Class)) (placed : List String)
    (delayed : Nat) (queue : List String) :
    placeClasses (unplaced.map fun entry => (entry.1, view.modelClass entry.2)) placed delayed
        queue =
      (placeClasses unplaced placed delayed queue).map (List.map view.modelClass) := by
  fun_induction placeClasses unplaced placed delayed queue with
  | case1 unplaced placed delayed =>
      rw [placeClasses]
      rfl
  | case2 unplaced placed delayed iri queue ready accepted ih =>
      rw [placeClasses, readyClass?_view, accepted]
      dsimp only [Option.map_some]
      rw [Keyed.erase_map, ih]
      cases placeClasses (Keyed.erase iri unplaced) (iri :: placed) 0 queue <;> rfl
  | case3 unplaced placed delayed iri queue refused stalled =>
      rw [placeClasses, readyClass?_view, refused]
      simp [stalled, Except.map]
  | case4 unplaced placed delayed iri queue refused moving ih =>
      rw [placeClasses, readyClass?_view, refused]
      simp [moving, ih]

theorem dependencyOrder_view (entries : List (String × Class)) :
    dependencyOrder (entries.map fun entry => (entry.1, view.modelClass entry.2)) =
      (dependencyOrder entries).map (List.map view.modelClass) := by
  unfold dependencyOrder
  rw [placeClasses_view, List.map_map]
  rfl

theorem dependencyOrder_alike {classes others : List Class}
    (same : classes.map view.modelClass = others.map view.modelClass) :
    Alike (fun left right => left.map view.modelClass = right.map view.modelClass)
      (dependencyOrder ((withChildren classes).map fun modelClass => (modelClass.id, modelClass)))
      (dependencyOrder ((withChildren others).map fun modelClass => (modelClass.id, modelClass))) := by
  have entries (classes : List Class) :
      (dependencyOrder ((withChildren classes).map fun modelClass =>
        (modelClass.id, modelClass))).map (List.map view.modelClass) =
      dependencyOrder ((withChildren (classes.map view.modelClass)).map fun modelClass =>
        (modelClass.id, modelClass)) := by
    rw [← dependencyOrder_view, withChildren_view, List.map_map, List.map_map]
    rfl
  refine Outcomes.alike_of_map_eq ?_
  rw [entries classes, same, ← entries others]

end

end ShapeCompiler.Model
