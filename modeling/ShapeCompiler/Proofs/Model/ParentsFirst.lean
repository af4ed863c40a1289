import Mathlib.Data.List.Nodup
import Mathlib.Data.List.Perm.Subperm
import ShapeCompiler.Model.Build
import ShapeCompiler.Proofs.Outcomes

/-! The order of classes. Whatever goes round in the queue stays what waits, so that in the end every
class was placed once, and none before its parents. -/

namespace ShapeCompiler.Model

theorem readyClass?_eq_some {unplaced : List (String × Class)} {placed : List String} {iri : String}
    {ready : Class} :
    readyClass? unplaced placed iri = some ready ↔
      Keyed.find? iri unplaced = some ready ∧ ∀ parent ∈ ready.parents, parent ∈ placed := by
  simp [readyClass?, Option.filter_eq_some_iff]

structure Waiting (unplaced : List (String × Class)) (queue : List String) : Prop where
  distinct : queue.Nodup
  waits : ∀ iri, iri ∈ queue ↔ Keyed.contains iri unplaced = true
  named : ∀ iri modelClass, Keyed.find? iri unplaced = some modelClass → modelClass.id = iri

theorem Waiting.place {unplaced : List (String × Class)} {iri : String} {queue : List String}
    (waiting : Waiting unplaced (iri :: queue)) :
    Waiting (Keyed.erase iri unplaced) queue := by
  obtain ⟨absent, distinct⟩ := List.nodup_cons.mp waiting.distinct
  refine ⟨distinct, ?_, ?_⟩
  · intro other
    by_cases same : other = iri
    · subst same
      simp [absent, Keyed.contains, Keyed.find?_erase_self]
    · rw [Keyed.contains, Keyed.find?_erase_ne same, ← Keyed.contains, ← waiting.waits other]
      simp [same]
  · intro other modelClass found
    by_cases same : other = iri
    · simp [same, Keyed.find?_erase_self] at found
    · rw [Keyed.find?_erase_ne same] at found
      exact waiting.named other modelClass found

theorem Waiting.delay {unplaced : List (String × Class)} {iri : String} {queue : List String}
    (waiting : Waiting unplaced (iri :: queue)) : Waiting unplaced (queue ++ [iri]) := by
  have rotated : (queue ++ [iri]).Perm (iri :: queue) := List.perm_append_singleton iri queue
  refine ⟨rotated.nodup_iff.mpr waiting.distinct, ?_, waiting.named⟩
  intro other
  rw [rotated.mem_iff]
  exact waiting.waits other

/-- Every parent is placed at the start or stands in front of its child. -/
def ParentsFirst (placed : List String) : List Class → Prop
  | [] => True
  | modelClass :: classes =>
      (∀ parent ∈ modelClass.parents, parent ∈ placed) ∧
        ParentsFirst (modelClass.id :: placed) classes

structure Placing (unplaced : List (String × Class)) (placed queue : List String)
    (ordered : List Class) : Prop where
  each : (ordered.map Class.id).Perm queue
  own : ∀ modelClass ∈ ordered, Keyed.find? modelClass.id unplaced = some modelClass
  first : ParentsFirst placed ordered

theorem Placing.place {unplaced : List (String × Class)} {placed queue : List String}
    {ready : Class} {ordered : List Class}
    (found : Keyed.find? ready.id unplaced = some ready)
    (parents : ∀ parent ∈ ready.parents, parent ∈ placed)
    (placing : Placing (Keyed.erase ready.id unplaced) (ready.id :: placed) queue ordered) :
    Placing unplaced placed (ready.id :: queue) (ready :: ordered) := by
  refine ⟨placing.each.cons ready.id, ?_, parents, placing.first⟩
  intro modelClass member
  rcases List.mem_cons.mp member with same | later
  · rw [same]
    exact found
  · have kept := placing.own modelClass later
    have different : modelClass.id ≠ ready.id := by
      intro same
      rw [same, Keyed.find?_erase_self] at kept
      cases kept
    rwa [Keyed.find?_erase_ne different] at kept

theorem placeClasses_sound {unplaced : List (String × Class)} {placed : List String}
    {delayed : Nat} {queue : List String} {ordered : List Class}
    (waiting : Waiting unplaced queue)
    (run : placeClasses unplaced placed delayed queue = .ok ordered) :
    Placing unplaced placed queue ordered := by
  fun_induction placeClasses unplaced placed delayed queue generalizing ordered with
  | case1 unplaced placed delayed =>
      cases run
      exact ⟨.nil, by simp, trivial⟩
  | case2 unplaced placed delayed iri queue ready accepted ih =>
      obtain ⟨rest, runs, rfl⟩ := Outcomes.map_eq_ok.mp run
      obtain ⟨found, parents⟩ := readyClass?_eq_some.mp accepted
      have named := waiting.named iri ready found
      subst named
      exact (ih waiting.place runs).place found parents
  | case3 unplaced placed delayed iri queue refused stalled => cases run
  | case4 unplaced placed delayed iri queue refused moving ih =>
      obtain ⟨each, own, first⟩ := ih waiting.delay run
      exact ⟨each.trans (List.perm_append_singleton iri queue), own, first⟩

theorem waiting_entries {classes : List (String × Class)}
    (distinct : (classes.map Prod.fst).Nodup) (named : ∀ entry ∈ classes, entry.2.id = entry.1) :
    Waiting classes (classes.map Prod.fst) := by
  refine ⟨distinct, fun iri => Keyed.contains_iff.symm, ?_⟩
  intro iri modelClass found
  exact named (iri, modelClass) (Keyed.mem_of_find? found)

theorem dependencyOrder_sound {classes : List (String × Class)} {ordered : List Class}
    (distinct : (classes.map Prod.fst).Nodup) (named : ∀ entry ∈ classes, entry.2.id = entry.1)
    (run : dependencyOrder classes = .ok ordered) :
    ordered.Perm (classes.map Prod.snd) ∧ ParentsFirst [] ordered := by
  have placing := placeClasses_sound (waiting_entries distinct named) run
  refine ⟨?_, placing.first⟩
  have once : ordered.Nodup := .of_map Class.id (placing.each.nodup_iff.mpr distinct)
  have inside : ordered ⊆ classes.map Prod.snd := by
    intro modelClass member
    exact List.mem_map.mpr ⟨_, Keyed.mem_of_find? (placing.own modelClass member), rfl⟩
  apply (List.subperm_of_subset once inside).perm_of_length_le
  have counted := placing.each.length_eq
  simp only [List.length_map] at counted ⊢
  omega

def Preceded (classes : List Class) (index : Nat) (iri : String) : Prop :=
  ∃ earlier < index, ∃ modelClass, classes[earlier]? = some modelClass ∧ modelClass.id = iri

theorem ParentsFirst.preceded {placed : List String} {classes : List Class}
    (first : ParentsFirst placed classes) {index : Nat} {modelClass : Class}
    (position : classes[index]? = some modelClass) {parent : String}
    (member : parent ∈ modelClass.parents) :
    parent ∈ placed ∨ Preceded classes index parent := by
  induction classes generalizing placed index with
  | nil => simp at position
  | cons head tail ih =>
      cases index with
      | zero =>
          simp only [List.getElem?_cons_zero, Option.some.injEq] at position
          subst position
          exact Or.inl (first.1 parent member)
      | succ index =>
          rcases ih first.2 (by simpa using position) with known | before
          -- What the tail takes for placed is the head or was placed at the start.
          · rcases List.mem_cons.mp known with same | outside
            · exact Or.inr ⟨0, Nat.succ_pos index, head, rfl, same.symm⟩
            · exact Or.inl outside
          · obtain ⟨earlier, less, found, stands, named⟩ := before
            exact Or.inr ⟨earlier + 1, Nat.succ_lt_succ less, found, by simpa using stands, named⟩

/-- The parents of a class, the parents of those, and so on. -/
inductive Ancestor (classes : List Class) (modelClass : Class) : String → Prop
  | parent {iri : String} (direct : iri ∈ modelClass.parents) : Ancestor classes modelClass iri
  | further {between : Class} {iri : String} (nearer : Ancestor classes modelClass between.id)
      (member : between ∈ classes) (direct : iri ∈ between.parents) :
      Ancestor classes modelClass iri

theorem ParentsFirst.ancestor_preceded {classes : List Class} (first : ParentsFirst [] classes)
    (distinct : (classes.map Class.id).Nodup) {index : Nat} {modelClass : Class}
    (position : classes[index]? = some modelClass) {iri : String}
    (ancestor : Ancestor classes modelClass iri) : Preceded classes index iri := by
  induction ancestor with
  | parent direct => exact (first.preceded position direct).resolve_left (by simp)
  | @further between iri nearer member direct ih =>
      obtain ⟨middle, less, found, stands, named⟩ := ih
      have same : found = between :=
        List.inj_on_of_nodup_map distinct (List.mem_of_getElem? stands) member named
      rw [same] at stands
      obtain ⟨earlier, before, rest⟩ := (first.preceded stands direct).resolve_left (by simp)
      exact ⟨earlier, Nat.lt_trans before less, rest⟩

theorem ParentsFirst.not_ancestor_self {classes : List Class} (first : ParentsFirst [] classes)
    (distinct : (classes.map Class.id).Nodup) {modelClass : Class} (member : modelClass ∈ classes) :
    ¬ Ancestor classes modelClass modelClass.id := by
  intro ancestor
  obtain ⟨index, position⟩ := List.mem_iff_getElem?.mp member
  obtain ⟨earlier, before, other, stands, named⟩ :=
    first.ancestor_preceded distinct position ancestor
  have bound : index < (classes.map Class.id).length := by
    rw [List.length_map]
    exact (List.getElem?_eq_some_iff.mp position).1
  have same : (classes.map Class.id)[index]? = (classes.map Class.id)[earlier]? := by
    rw [List.getElem?_map, List.getElem?_map, position, stands, Option.map_some, Option.map_some, named]
  exact absurd ((List.getElem?_inj bound distinct).mp same) (Nat.ne_of_gt before)

end ShapeCompiler.Model
