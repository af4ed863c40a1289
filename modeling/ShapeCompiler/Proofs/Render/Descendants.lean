import ShapeCompiler.Proofs.Walks
import ShapeCompiler.Render.JsonSchema

/-! The walk from a class along lists of children. It ends on every model, also where children lead back to
a class or are no classes of the model. -/

namespace ShapeCompiler.Render.JsonSchema

def childClasses (model : Model) (modelClass : Model.Class) : List Model.Class :=
  modelClass.derived.filterMap model.findClass?

theorem mem_classes_of_child {model : Model} {parent child : Model.Class}
    (listed : child ∈ childClasses model parent) : child ∈ model.classes := by
  obtain ⟨iri, _, found⟩ := List.mem_filterMap.mp listed
  exact List.mem_of_find?_eq_some found

theorem descendantsFrom_eq (model : Model) (bound : Nat) (seen : List String)
    (queue : List Model.Class) :
    descendantsFrom model bound seen queue =
      Walk.within Model.Class.id (childClasses model) bound seen queue := by
  induction bound generalizing seen queue with
  | zero => cases queue <;> rfl
  | succ bound ih =>
      cases queue with
      | nil => rfl
      | cons next queue =>
          rw [descendantsFrom, Walk.within, ih, ih]
          rfl

theorem mem_classes_of_path {model : Model} {modelClass reached : Model.Class}
    (member : modelClass ∈ model.classes)
    (path : Relation.ReflTransGen (fun parent child => child ∈ childClasses model parent)
      modelClass reached) : reached ∈ model.classes := by
  cases path with
  | refl => exact member
  | tail _ listed => exact mem_classes_of_child listed

def childEntries (classes : List Model.Class) : List (String × String) :=
  classes.flatMap fun modelClass => modelClass.derived.map fun child => (modelClass.id, child)

theorem length_childEntries (classes : List Model.Class) :
    (childEntries classes).length = total (classes.map fun modelClass => modelClass.derived.length) := by
  rw [childEntries, ← total_lengths]
  simp only [List.length_map]

theorem length_childClasses_le {model : Model} {classes : List Model.Class}
    {modelClass : Model.Class} (member : modelClass ∈ classes) :
    (childClasses model modelClass).length ≤
      ((childEntries classes).filter fun entry => entry.1 = modelClass.id).length := by
  have own : (modelClass.derived.map fun child => (modelClass.id, child)).Sublist
      (childEntries classes) :=
    List.sublist_flatten_of_mem (List.mem_map_of_mem member)
  have kept := own.filter fun entry => entry.1 = modelClass.id
  rw [List.filter_eq_self.mpr (by simp)] at kept
  calc (childClasses model modelClass).length
      ≤ modelClass.derived.length := List.length_filterMap_le _ _
    _ = (modelClass.derived.map fun child => (modelClass.id, child)).length := by simp
    _ ≤ _ := kept.length_le

theorem visits_descendants (model : Model) (modelClass : Model.Class) :
    Walk.Visits Model.Class.id (childClasses model) [] [modelClass] (descendants model modelClass) := by
  rw [descendants, descendantsFrom_eq]
  refine Walk.visits_within (childEntries (modelClass :: model.classes)) Prod.fst
    (· ∈ modelClass :: model.classes) ?_ ?_ ?_ ?_
  · intro parent _ child listed
    exact List.mem_cons_of_mem modelClass (mem_classes_of_child listed)
  · intro parent known
    exact length_childClasses_le known
  · intro first waits
    exact List.mem_singleton.mp waits ▸ List.mem_cons_self
  · have unmet : (childEntries (modelClass :: model.classes)).filter (fun entry => entry.1 ∉ []) =
        childEntries (modelClass :: model.classes) := List.filter_eq_self.mpr (by simp)
    rw [unmet, length_childEntries, List.length_singleton, descendantsBound]
    exact Nat.le_of_eq (Nat.add_comm 1 _)

theorem mem_classes_of_descendant {model : Model} {modelClass other : Model.Class}
    (member : modelClass ∈ model.classes) (below : other ∈ descendants model modelClass) :
    other ∈ model.classes := by
  obtain ⟨start, waits, path⟩ := (visits_descendants model modelClass).sound below
  rw [List.mem_singleton.mp waits] at path
  exact mem_classes_of_path member path

end ShapeCompiler.Render.JsonSchema
