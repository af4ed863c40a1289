import Mathlib.Data.Fintype.Pigeonhole
import Mathlib.Logic.Relation
import ShapeCompiler.Proofs.Model.ParentsFirst

/-! Classes that inherit from each other. When the queue of classes comes to a halt, every class in it
has a parent in it, so that a walk from parent to parent runs into a cycle; and from a class that was
placed every way up comes to an end. -/

namespace ShapeCompiler.Model

open Relation (ReflTransGen TransGen)

/-- The parents lead from a class to one that is its own ancestor. -/
def LeadsToCycle (parentOf : String → String → Prop) (iri : String) : Prop :=
  ∃ looped, ReflTransGen parentOf iri looped ∧ TransGen parentOf looped looped

def Grounded (parentOf : String → String → Prop) (iri : String) : Prop :=
  Acc (fun parent child => parentOf child parent) iri

section

variable {parentOf : String → String → Prop}

theorem Grounded.not_leadsToCycle {iri : String} (grounded : Grounded parentOf iri) :
    ¬ LeadsToCycle parentOf iri := by
  induction grounded with
  | intro iri _ ih =>
      rintro ⟨looped, way, loop⟩
      rcases way.cases_head with same | ⟨parent, direct, further⟩
      · subst same
        obtain ⟨parent, direct, back⟩ := TransGen.head'_iff.mp loop
        exact ih parent direct ⟨iri, back, loop⟩
      · exact ih parent direct ⟨looped, further, loop⟩

theorem reflTransGen_walk (walk : Nat → String)
    (climbs : ∀ step, parentOf (walk step) (walk (step + 1))) (start count : Nat) :
    ReflTransGen parentOf (walk start) (walk (start + count)) := by
  induction count with
  | zero => exact .refl
  | succ count ih => exact ih.tail (climbs (start + count))

theorem transGen_walk (walk : Nat → String)
    (climbs : ∀ step, parentOf (walk step) (walk (step + 1))) {start finish : Nat}
    (later : start < finish) : TransGen parentOf (walk start) (walk finish) := by
  obtain ⟨count, rfl⟩ := Nat.exists_eq_add_of_lt later
  exact TransGen.tail' (reflTransGen_walk walk climbs start count) (climbs (start + count))

/-- Where every member has a parent among the members, a walk from parent to parent meets a member
again. -/
theorem leadsToCycle_of_inner {members : List String}
    (inner : ∀ iri ∈ members, ∃ parent ∈ members, parentOf iri parent) {iri : String}
    (member : iri ∈ members) : LeadsToCycle parentOf iri := by
  choose parent inside direct using inner
  let next (place : { iri // iri ∈ members }) : { iri // iri ∈ members } :=
    ⟨parent place.1 place.2, inside place.1 place.2⟩
  let walk (step : Nat) : { iri // iri ∈ members } := next^[step] ⟨iri, member⟩
  have climbs (step : Nat) : parentOf (walk step).1 (walk (step + 1)).1 := by
    have unfolded : walk (step + 1) = next (walk step) := Function.iterate_succ_apply' next step _
    rw [unfolded]
    exact direct (walk step).1 (walk step).2
  -- The walk never ends, and there are finitely many members.
  obtain ⟨first, second, different, same⟩ := Finite.exists_ne_map_eq_of_infinite walk
  have loops {start finish : Nat} (later : start < finish)
      (again : (walk start).1 = (walk finish).1) : LeadsToCycle parentOf iri := by
    refine ⟨(walk start).1, ?_, ?_⟩
    · have way := reflTransGen_walk (fun step => (walk step).1) climbs 0 start
      rwa [Nat.zero_add] at way
    · have loop := transGen_walk (fun step => (walk step).1) climbs later
      rwa [← again] at loop
  rcases Nat.lt_or_gt_of_ne different with later | earlier
  · exact loops later (congrArg Subtype.val same)
  · exact loops earlier (congrArg Subtype.val same.symm)

end

def HasParent (classes : List (String × Class)) (child parent : String) : Prop :=
  ∃ modelClass, Keyed.find? child classes = some modelClass ∧ parent ∈ modelClass.parents

/-- The IRIs that wait go round in the queue, the ways up from those that are placed come to an end,
and the last `delayed` ones in the queue were not ready. -/
structure Turning (classes unplaced : List (String × Class)) (placed queue : List String)
    (delayed : Nat) : Prop where
  distinct : queue.Nodup
  waits : ∀ iri ∈ queue, Keyed.find? iri unplaced = Keyed.find? iri classes
  covers : ∀ iri, Keyed.contains iri classes = true ↔ iri ∈ queue ∨ iri ∈ placed
  grounded : ∀ iri ∈ placed, Grounded (HasParent classes) iri
  refused : ∀ iri ∈ queue.drop (queue.length - delayed), readyClass? unplaced placed iri = none

/-- Every class that waits has a parent that waits as well, and the ways up from all others come to an
end. -/
structure Stuck (classes : List (String × Class)) (waiting : List String) : Prop where
  distinct : waiting.Nodup
  inner : ∀ iri ∈ waiting, ∃ parent ∈ waiting, HasParent classes iri parent
  others : ∀ iri, Keyed.contains iri classes = true →
    iri ∈ waiting ∨ Grounded (HasParent classes) iri

section

variable {classes unplaced : List (String × Class)} {placed queue : List String} {delayed : Nat}
  {iri : String}

theorem Turning.place {ready : Class}
    (turning : Turning classes unplaced placed (iri :: queue) delayed)
    (accepted : readyClass? unplaced placed iri = some ready) :
    Turning classes (Keyed.erase iri unplaced) (iri :: placed) queue 0 := by
  obtain ⟨absent, distinct⟩ := List.nodup_cons.mp turning.distinct
  obtain ⟨found, parents⟩ := readyClass?_eq_some.mp accepted
  have own := turning.waits iri List.mem_cons_self
  refine ⟨distinct, ?_, ?_, ?_, by simp⟩
  · intro other member
    have different : other ≠ iri := fun same => absent (same ▸ member)
    rw [Keyed.find?_erase_ne different]
    exact turning.waits other (List.mem_cons_of_mem iri member)
  · intro other
    rw [turning.covers other, List.mem_cons, List.mem_cons, or_left_comm, or_assoc]
  · intro other member
    rcases List.mem_cons.mp member with same | earlier
    · subst same
      refine ⟨other, ?_⟩
      rintro parent ⟨modelClass, stands, direct⟩
      rw [← own, found] at stands
      cases stands
      exact turning.grounded parent (parents parent direct)
    · exact turning.grounded other earlier

theorem Turning.delay (turning : Turning classes unplaced placed (iri :: queue) delayed)
    (rejected : readyClass? unplaced placed iri = none) (moving : delayed < queue.length) :
    Turning classes unplaced placed (queue ++ [iri]) (delayed + 1) := by
  have rotated : (queue ++ [iri]).Perm (iri :: queue) := List.perm_append_singleton iri queue
  refine ⟨rotated.nodup_iff.mpr turning.distinct, ?_, ?_, turning.grounded, ?_⟩
  · intro other member
    exact turning.waits other (rotated.mem_iff.mp member)
  · intro other
    rw [turning.covers other, rotated.mem_iff]
  -- The rejected ones stay the last of the queue, with one more behind them.
  · have counted : (queue ++ [iri]).length - (delayed + 1) = queue.length - delayed := by
      simp
    have before : (iri :: queue).length - delayed = queue.length - delayed + 1 := by
      simp only [List.length_cons]
      omega
    have refused := turning.refused
    rw [before, List.drop_succ_cons] at refused
    rw [counted, List.drop_append_of_le_length (by omega)]
    intro other member
    rcases List.mem_append.mp member with earlier | last
    · exact refused other earlier
    · rw [List.mem_singleton.mp last]
      exact rejected

theorem Turning.stall (turning : Turning classes unplaced placed (iri :: queue) delayed)
    (known : ∀ entry ∈ classes, ∀ parent ∈ entry.2.parents, Keyed.contains parent classes = true)
    (rejected : readyClass? unplaced placed iri = none) (stalled : queue.length ≤ delayed) :
    Stuck classes (queue ++ [iri]) := by
  have rotated : (queue ++ [iri]).Perm (iri :: queue) := List.perm_append_singleton iri queue
  refine ⟨rotated.nodup_iff.mpr turning.distinct, ?_, ?_⟩
  · intro other member
    have waiting := rotated.mem_iff.mp member
    -- Nothing was placed since the whole queue was rejected, so that no answer has changed.
    have refused : readyClass? unplaced placed other = none := by
      rcases List.mem_cons.mp waiting with same | behind
      · rw [same]
        exact rejected
      · apply turning.refused
        have most : (iri :: queue).length - delayed ≤ 1 := by
          simp only [List.length_cons]
          omega
        exact (List.drop_sublist_drop_left _ most).subset behind
    have present := (turning.covers other).mpr (Or.inl waiting)
    obtain ⟨modelClass, stands⟩ := Option.isSome_iff_exists.mp present
    have own := turning.waits other waiting
    obtain ⟨parent, direct, unplacedParent⟩ : ∃ parent ∈ modelClass.parents, parent ∉ placed := by
      by_contra allPlaced
      have ready := readyClass?_eq_some.mpr ⟨own.trans stands, by simpa using allPlaced⟩
      rw [refused] at ready
      cases ready
    have listed := known (other, modelClass) (Keyed.mem_of_find? stands) parent direct
    have waits := ((turning.covers parent).mp listed).resolve_right unplacedParent
    exact ⟨parent, rotated.mem_iff.mpr waits, modelClass, stands, direct⟩
  · intro other present
    rw [rotated.mem_iff]
    exact ((turning.covers other).mp present).imp_right (turning.grounded other)

theorem placeClasses_outcome
    (known : ∀ entry ∈ classes, ∀ parent ∈ entry.2.parents, Keyed.contains parent classes = true)
    (turning : Turning classes unplaced placed queue delayed) :
    (∃ ordered, placeClasses unplaced placed delayed queue = .ok ordered ∧
      ∀ iri, Keyed.contains iri classes = true → Grounded (HasParent classes) iri) ∨
    ∃ waiting, waiting ≠ [] ∧ Stuck classes waiting ∧
      placeClasses unplaced placed delayed queue =
        .error (.inheritanceCycle (Sorted.byKey id waiting)) := by
  fun_induction placeClasses unplaced placed delayed queue with
  | case1 unplaced placed delayed =>
      refine Or.inl ⟨[], rfl, ?_⟩
      intro iri present
      exact turning.grounded iri (((turning.covers iri).mp present).resolve_left (by simp))
  | case2 unplaced placed delayed iri queue ready accepted ih =>
      rcases ih (turning.place accepted) with ⟨ordered, run, grounded⟩ | ⟨waiting, some, stuck, run⟩
      · exact Or.inl ⟨ready :: ordered, by rw [run]; rfl, grounded⟩
      · exact Or.inr ⟨waiting, some, stuck, by rw [run]; rfl⟩
  | case3 unplaced placed delayed iri queue rejected stalled =>
      exact Or.inr ⟨queue ++ [iri], by simp, turning.stall known rejected stalled, rfl⟩
  | case4 unplaced placed delayed iri queue rejected moving ih =>
      exact ih (turning.delay rejected (Nat.lt_of_not_le moving))

theorem HasParent.contains {child parent : String} (direct : HasParent classes child parent) :
    Keyed.contains child classes = true := by
  obtain ⟨modelClass, stands, _⟩ := direct
  exact Option.isSome_iff_exists.mpr ⟨modelClass, stands⟩

theorem LeadsToCycle.contains (leads : LeadsToCycle (HasParent classes) iri) :
    Keyed.contains iri classes = true := by
  obtain ⟨looped, way, loop⟩ := leads
  obtain ⟨parent, direct, _⟩ := TransGen.head'_iff.mp (TransGen.trans_right way loop)
  exact direct.contains

theorem Stuck.mem_iff {waiting : List String} (stuck : Stuck classes waiting) :
    iri ∈ waiting ↔ LeadsToCycle (HasParent classes) iri := by
  constructor
  · exact leadsToCycle_of_inner stuck.inner
  · intro leads
    rcases stuck.others iri leads.contains with waits | grounded
    · exact waits
    · exact absurd leads grounded.not_leadsToCycle

theorem Stuck.increasing {waiting : List String} (stuck : Stuck classes waiting) :
    (Sorted.byKey id waiting).Pairwise (· < ·) := by
  have distinct := (Sorted.perm_byKey id waiting).nodup_iff.mpr stuck.distinct
  refine (Sorted.pairwise_byKey id waiting).imp₂ ?_ distinct
  intro lesser greater notAfter different
  exact Std.lt_of_le_of_ne notAfter different

end

section

variable {classes : List (String × Class)} (distinct : (classes.map Prod.fst).Nodup)
  (known : ∀ entry ∈ classes, ∀ parent ∈ entry.2.parents, Keyed.contains parent classes = true)
include distinct known

theorem dependencyOrder_outcome :
    (∃ ordered, dependencyOrder classes = .ok ordered ∧
      ∀ iri, Keyed.contains iri classes = true → Grounded (HasParent classes) iri) ∨
    ∃ waiting, waiting ≠ [] ∧ Stuck classes waiting ∧
      dependencyOrder classes = .error (.inheritanceCycle (Sorted.byKey id waiting)) := by
  apply placeClasses_outcome known
  refine ⟨distinct, fun _ _ => rfl, ?_, by simp, by simp [List.drop_of_length_le]⟩
  intro iri
  rw [Keyed.contains_iff]
  simp

theorem dependencyOrder_ends :
    (∃ ordered, dependencyOrder classes = .ok ordered) ∨
      ∃ stuck, dependencyOrder classes = .error (.inheritanceCycle stuck) := by
  rcases dependencyOrder_outcome distinct known with ⟨ordered, run, _⟩ | ⟨waiting, _, _, run⟩
  · exact Or.inl ⟨ordered, run⟩
  · exact Or.inr ⟨Sorted.byKey id waiting, run⟩

theorem dependencyOrder_stuck {stuck : List String}
    (run : dependencyOrder classes = .error (.inheritanceCycle stuck)) :
    stuck.Pairwise (· < ·) ∧ stuck ≠ [] ∧
      ∀ iri, iri ∈ stuck ↔ LeadsToCycle (HasParent classes) iri := by
  rcases dependencyOrder_outcome distinct known with
    ⟨ordered, succeeds, _⟩ | ⟨waiting, some, reason, fails⟩
  · rw [run] at succeeds
    cases succeeds
  · rw [run] at fails
    cases fails
    refine ⟨reason.increasing, ?_, ?_⟩
    · intro empty
      have none := Sorted.perm_byKey id waiting
      rw [empty] at none
      exact some none.nil_eq.symm
    · intro iri
      rw [Sorted.mem_byKey, reason.mem_iff]

theorem dependencyOrder_cycle_iff :
    (∃ stuck, dependencyOrder classes = .error (.inheritanceCycle stuck)) ↔
      ∃ iri, TransGen (HasParent classes) iri iri := by
  constructor
  · rintro ⟨stuck, run⟩
    obtain ⟨_, inhabited, members⟩ := dependencyOrder_stuck distinct known run
    obtain ⟨iri, member⟩ := List.exists_mem_of_ne_nil stuck inhabited
    obtain ⟨looped, _, loop⟩ := (members iri).mp member
    exact ⟨looped, loop⟩
  · rintro ⟨iri, loop⟩
    have leads : LeadsToCycle (HasParent classes) iri := ⟨iri, .refl, loop⟩
    rcases dependencyOrder_outcome distinct known with
      ⟨ordered, _, grounded⟩ | ⟨waiting, _, _, run⟩
    · exact absurd leads (grounded iri leads.contains).not_leadsToCycle
    · exact ⟨Sorted.byKey id waiting, run⟩

end

end ShapeCompiler.Model
