import ShapeCompiler.Proofs.Model.Cycles
import ShapeCompiler.Proofs.Model.Faults

/-! When the building of a model reports a cycle. No class is refused for one, so that a cycle is
reported only once all classes are built; what is reported then are the classes of the graph whose
parents lead to a cycle. -/

namespace ShapeCompiler.Model

open Rdf (Graph)
open Relation (TransGen)

section

variable {graph : Graph} {resolver : Context.Resolver} {found : List (String × List Individual)}

def entriesOf (classes : List Class) : List (String × Class) :=
  (withChildren classes).map fun modelClass => (modelClass.id, modelClass)

theorem keys_entriesOf (classes : List Class) :
    (entriesOf classes).map Prod.fst = classes.map Class.id := by
  rw [← map_id_withChildren, entriesOf, List.map_map]
  rfl

theorem parents_entriesOf {classes : List Class}
    (built : buildClasses graph resolver found (classIris graph) = .ok classes)
    {entry : String × Class} (member : entry ∈ entriesOf classes) :
    entry.2.parents = parentsOf graph entry.1 := by
  have each := (buildClasses_sound (nodup_classIris graph) built).2
  have told := withChildren_eq fun modelClass before => (buildClass_sound (each modelClass before).1).bare.2
  obtain ⟨modelClass, inside, rfl⟩ := List.mem_map.mp member
  rw [told] at inside
  obtain ⟨childless, before, rfl⟩ := List.mem_map.mp inside
  exact (buildClass_sound (each childless before).1).parents

theorem contains_entriesOf {classes : List Class}
    (built : buildClasses graph resolver found (classIris graph) = .ok classes) (iri : String) :
    Keyed.contains iri (entriesOf classes) = true ↔ iri ∈ classIris graph := by
  rw [Keyed.contains_iff, keys_entriesOf, (buildClasses_sound (nodup_classIris graph) built).1]

def ParentIn (graph : Graph) (child parent : String) : Prop :=
  child ∈ classIris graph ∧ parent ∈ parentsOf graph child

theorem hasParent_entriesOf {classes : List Class}
    (built : buildClasses graph resolver found (classIris graph) = .ok classes) {child parent : String} :
    HasParent (entriesOf classes) child parent ↔ ParentIn graph child parent := by
  constructor
  · intro direct
    have listed := (contains_entriesOf built child).mp direct.contains
    obtain ⟨modelClass, stands, direct⟩ := direct
    have same := parents_entriesOf built (Keyed.mem_of_find? stands)
    exact ⟨listed, same ▸ direct⟩
  · rintro ⟨listed, direct⟩
    obtain ⟨modelClass, stands⟩ :=
      Option.isSome_iff_exists.mp ((contains_entriesOf built child).mpr listed)
    have same := parents_entriesOf built (Keyed.mem_of_find? stands)
    exact ⟨modelClass, stands, same ▸ direct⟩

theorem known_entriesOf {classes : List Class}
    (built : buildClasses graph resolver found (classIris graph) = .ok classes) :
    ∀ entry ∈ entriesOf classes, ∀ parent ∈ entry.2.parents,
      Keyed.contains parent (entriesOf classes) = true := by
  intro entry member parent direct
  rw [parents_entriesOf built member] at direct
  exact (contains_entriesOf built parent).mpr (parentsOf_other_class direct).1

theorem build_cycle_iff {stuck : List String} :
    build graph resolver = .error (.inheritanceCycle stuck) ↔
      ∃ classes,
        buildClasses graph resolver (discoverIndividuals graph resolver) (classIris graph) =
          .ok classes ∧
        dependencyOrder (entriesOf classes) = .error (.inheritanceCycle stuck) := by
  constructor
  · intro fails
    rcases Outcomes.bind_eq_error.mp fails with early | ⟨classes, built, fails⟩
    · -- A class is never refused for a cycle.
      obtain ⟨iri, first⟩ := exists_firstFault early
      cases buildClass_failsOnly graph resolver iri _ first.fails
    · rcases Outcomes.bind_eq_error.mp fails with late | ⟨ordered, _, done⟩
      · exact ⟨classes, built, late⟩
      · cases done
  · rintro ⟨classes, built, fails⟩
    exact Outcomes.bind_eq_error.mpr
      (Or.inr ⟨classes, built, Outcomes.bind_eq_error.mpr (Or.inl fails)⟩)

theorem build_stuck {stuck : List String}
    (fails : build graph resolver = .error (.inheritanceCycle stuck)) :
    (∀ iri ∈ classIris graph, ∃ modelClass, buildClass graph resolver iri = .ok modelClass) ∧
      stuck.Pairwise (· < ·) ∧ stuck ≠ [] ∧
      ∀ iri, iri ∈ stuck ↔ LeadsToCycle (ParentIn graph) iri := by
  obtain ⟨classes, built, run⟩ := build_cycle_iff.mp fails
  have distinct : ((entriesOf classes).map Prod.fst).Nodup := by
    rw [keys_entriesOf, (buildClasses_sound (nodup_classIris graph) built).1]
    exact nodup_classIris graph
  have same : HasParent (entriesOf classes) = ParentIn graph := by
    ext child parent
    exact hasParent_entriesOf built
  have report := dependencyOrder_stuck distinct (known_entriesOf built) run
  rw [same] at report
  exact ⟨buildClasses_ok_iff.mp ⟨classes, built⟩, report⟩

end

/-- Putting classes in order ends with an order or with a cycle, with a cycle exactly if there is one,
and names in increasing order the classes whose parents lead to a cycle and no others. A model is
refused for a cycle only after each of its classes was built. -/
theorem inheritance_cycles_reported {classes : List (String × Class)}
    (distinct : (classes.map Prod.fst).Nodup)
    (known : ∀ entry ∈ classes, ∀ parent ∈ entry.2.parents,
      Keyed.contains parent classes = true) :
    ((∃ ordered, dependencyOrder classes = .ok ordered) ∨
      ∃ stuck, dependencyOrder classes = .error (.inheritanceCycle stuck)) ∧
    ((∃ stuck, dependencyOrder classes = .error (.inheritanceCycle stuck)) ↔
      ∃ iri, TransGen (HasParent classes) iri iri) ∧
    (∀ stuck, dependencyOrder classes = .error (.inheritanceCycle stuck) →
      stuck.Pairwise (· < ·) ∧ ∀ iri, iri ∈ stuck ↔ LeadsToCycle (HasParent classes) iri) ∧
    (∀ graph iri parent, parent ∈ parentsOf graph iri → parent ∈ classIris graph ∧ parent ≠ iri) ∧
    ∀ graph resolver stuck, build graph resolver = .error (.inheritanceCycle stuck) →
      (∀ iri ∈ classIris graph, ∃ modelClass, buildClass graph resolver iri = .ok modelClass) ∧
      stuck.Pairwise (· < ·) ∧ ∀ iri, iri ∈ stuck ↔ LeadsToCycle (ParentIn graph) iri := by
  refine ⟨dependencyOrder_ends distinct known, dependencyOrder_cycle_iff distinct known, ?_,
    fun _ _ _ => parentsOf_other_class, ?_⟩
  · intro stuck run
    obtain ⟨increasing, _, members⟩ := dependencyOrder_stuck distinct known run
    exact ⟨increasing, members⟩
  · intro graph resolver stuck fails
    obtain ⟨built, increasing, _, members⟩ := build_stuck fails
    exact ⟨built, increasing, members⟩

def plainClass (iri : String) (parents : List String) : String × Class :=
  (iri, {
    id := iri
    name := iri
    parents := parents
    derived := []
    properties := []
    comment := none
    idProperty := none
    nodeKind := .blankNodeOrIri
    isExtensible := false
    isAbstract := false
    deprecated := false
    individuals := [] })

def cyclicClasses : List (String × Class) :=
  [plainClass "a" ["b"], plainClass "b" ["c", "d"], plainClass "c" ["b"], plainClass "d" []]

theorem inheritance_cycles_reported_below :
    dependencyOrder cyclicClasses = .error (.inheritanceCycle ["a", "b", "c"]) ∧
      LeadsToCycle (HasParent cyclicClasses) "a" ∧
      ¬ LeadsToCycle (HasParent cyclicClasses) "d" := by
  obtain ⟨_, _, report, _⟩ := inheritance_cycles_reported
    (show (cyclicClasses.map Prod.fst).Nodup by decide) (by decide +kernel)
  have run : dependencyOrder cyclicClasses = .error (.inheritanceCycle ["a", "b", "c"]) := by
    decide +kernel
  obtain ⟨_, members⟩ := report ["a", "b", "c"] run
  exact ⟨run, (members "a").mp (by decide), fun leads => absurd ((members "d").mpr leads) (by decide)⟩

end ShapeCompiler.Model
