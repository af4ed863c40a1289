import Mathlib.Data.List.Nodup
import ShapeCompiler.Proofs.Outcomes
import ShapeCompiler.Rdf.Graph

/-! Other labels for blank nodes. A graph whose labels were exchanged answers every question as the
graph did, with the labels exchanged in the answer. -/

namespace ShapeCompiler.Rdf

open Outcomes (Alike)

namespace Term

def label? : Term → Option String
  | blank label => some label
  | _ => none

def rename (change : String → String) : Term → Term
  | blank label => blank (change label)
  | iri value => iri value
  | literal parts => literal parts

variable {change other : String → String}

theorem rename_injective (injective : Function.Injective change) :
    Function.Injective (rename change) := by
  intro left right same
  cases left <;> cases right <;> simp_all [rename, injective.eq_iff]

@[simp] theorem iri?_rename (term : Term) : (term.rename change).iri? = term.iri? := by
  cases term <;> rfl

@[simp] theorem literalValue?_rename (term : Term) :
    (term.rename change).literalValue? = term.literalValue? := by
  cases term <;> rfl

theorem exists_eq_iri {term : Term} (named : term.iri?.isSome = true) :
    ∃ value, term = .iri value := by
  cases term with
  | iri value => exact ⟨value, rfl⟩
  | blank label => cases named
  | literal parts => cases named

theorem rename_eq_iri (term : Term) (value : String) :
    term.rename change = .iri value ↔ term = .iri value := by
  cases term <;> simp [rename]

theorem rename_of_label? {term : Term} (plain : term.label? = none) :
    term.rename change = term := by
  cases term with
  | blank label => cases plain
  | iri value => rfl
  | literal parts => rfl

theorem rename_congr {term : Term}
    (agree : ∀ label, term.label? = some label → change label = other label) :
    term.rename change = term.rename other := by
  cases term with
  | blank label => simp [rename, agree label rfl]
  | iri value => rfl
  | literal parts => rfl

end Term

def Triple.rename (change : String → String) (triple : Triple) : Triple :=
  ⟨triple.subject.rename change, triple.predicate, triple.object.rename change⟩

theorem Triple.rename_injective {change : String → String}
    (injective : Function.Injective change) : Function.Injective (rename change) := by
  intro left right same
  simp only [Triple.rename, Triple.mk.injEq] at same
  obtain ⟨subjects, predicates, objects⟩ := same
  have sameSubject := Term.rename_injective injective subjects
  have sameObject := Term.rename_injective injective objects
  cases left
  cases right
  simp_all

namespace Graph

def rename (change : String → String) (graph : Graph) : Graph :=
  .ofList (graph.triples.map (Triple.rename change))

def labels (graph : Graph) : List String :=
  graph.triples.flatMap fun triple =>
    triple.subject.label?.toList ++ triple.object.label?.toList

theorem triples_foldl_insert {triples : List Triple} {graph : Graph}
    (distinct : (graph.triples ++ triples).Nodup) :
    (triples.foldl insert graph).triples = graph.triples ++ triples := by
  induction triples generalizing graph with
  | nil => simp
  | cons triple rest ih =>
      have fresh : triple ∉ graph.triples := by
        intro present
        exact (List.nodup_append.mp distinct).2.2 triple present triple List.mem_cons_self rfl
      have inserted : (graph.insert triple).triples = graph.triples ++ [triple] := by
        rw [triples_insert, if_neg fresh]
      rw [List.foldl_cons, ih (by simpa [inserted] using distinct), inserted]
      simp

section

variable {change : String → String} (injective : Function.Injective change) (graph : Graph)
include injective

theorem triples_rename :
    (graph.rename change).triples = graph.triples.map (Triple.rename change) := by
  have distinct := graph.distinct.map (Triple.rename_injective injective)
  exact triples_foldl_insert (by simpa using distinct)

theorem size_rename : (graph.rename change).size = graph.size := by
  rw [← length_triples, ← length_triples, triples_rename injective, List.length_map]

theorem mem_triples_rename (triple : Triple) :
    triple.rename change ∈ (graph.rename change).triples ↔ triple ∈ graph.triples := by
  rw [triples_rename injective, List.mem_map_of_injective (Triple.rename_injective injective)]

theorem contains_rename (subject : Term) (predicate : String) (object : Term) :
    (graph.rename change).contains (subject.rename change) predicate (object.rename change) =
      graph.contains subject predicate object := by
  rw [Bool.eq_iff_iff]
  simp only [contains_iff]
  exact mem_triples_rename injective graph ⟨subject, predicate, object⟩

theorem objects_rename (subject : Term) (predicate : String) :
    (graph.rename change).objects (subject.rename change) predicate =
      (graph.objects subject predicate).map (Term.rename change) := by
  rw [objects_eq, objects_eq, triples_rename injective, List.filter_map, List.map_map, List.map_map]
  congr 1
  refine List.filter_congr ?_
  intro triple _
  have same : triple.subject.rename change = subject.rename change ↔ triple.subject = subject :=
    (Term.rename_injective injective).eq_iff
  exact congrArg (· && decide (triple.predicate = predicate)) (decide_eq_decide.mpr same)

theorem value?_rename (subject : Term) (predicate : String) :
    (graph.rename change).value? (subject.rename change) predicate =
      (graph.value? subject predicate).map (Term.rename change) := by
  rw [value?, objects_rename injective, List.head?_map]
  rfl

theorem filter_subjects_rename (predicate value : String) :
    ((graph.rename change).subjects predicate (.iri value)).filter (·.iri?.isSome) =
      (graph.subjects predicate (.iri value)).filter (·.iri?.isSome) := by
  refine Sorted.eq_of_mem_iff ((Sorted.pairwise_ofList _).filter _)
    ((Sorted.pairwise_ofList _).filter _) ?_
  intro subject
  simp only [List.mem_filter, mem_subjects]
  refine and_congr_left ?_
  intro named
  obtain ⟨iri, rfl⟩ := Term.exists_eq_iri named
  exact mem_triples_rename injective graph ⟨.iri iri, predicate, .iri value⟩

theorem listFrom_rename (bound : Nat) (seen : List Term) (node : Term) :
    Alike (fun items originals => items = originals.map (Term.rename change))
      ((graph.rename change).listFrom bound (seen.map (Term.rename change)) (node.rename change))
      (graph.listFrom bound seen node) := by
  induction bound generalizing seen node with
  | zero => exact .error _ _
  | succ bound ih =>
      have met : node.rename change ∈ seen.map (Term.rename change) ↔ node ∈ seen :=
        List.mem_map_of_injective (Term.rename_injective injective)
      simp only [listFrom, Term.rename_eq_iri, met, value?_rename injective]
      split
      · exact .ok rfl
      · split
        · exact .error _ _
        · cases graph.value? node Vocabulary.rdfFirst with
          | none => exact .error _ _
          | some first =>
              cases graph.value? node Vocabulary.rdfRest with
              | none => exact .error _ _
              | some rest =>
                  refine (ih (node :: seen) rest).map ?_
                  intro items originals same
                  rw [same, List.map_cons]

theorem list_rename (head : Term) :
    Alike (fun items originals => items = originals.map (Term.rename change))
      ((graph.rename change).list (head.rename change)) (graph.list head) := by
  unfold list
  rw [size_rename injective]
  exact listFrom_rename injective graph _ [] head

end

theorem rename_congr {change other : String → String} {graph : Graph}
    (agree : ∀ label ∈ graph.labels, change label = other label) :
    graph.rename change = graph.rename other := by
  unfold rename
  congr 1
  refine List.map_congr_left ?_
  intro triple member
  have subjects : triple.subject.rename change = triple.subject.rename other := by
    refine Term.rename_congr ?_
    intro label labelled
    exact agree label (List.mem_flatMap.mpr ⟨triple, member, by simp [labelled]⟩)
  have objects : triple.object.rename change = triple.object.rename other := by
    refine Term.rename_congr ?_
    intro label labelled
    exact agree label (List.mem_flatMap.mpr ⟨triple, member, by simp [labelled]⟩)
  rw [Triple.rename, Triple.rename, subjects, objects]

theorem exists_longer (texts : List String) :
    ∃ longer : String, ∀ text ∈ texts, text.length < longer.length := by
  induction texts with
  | nil => exact ⟨"", by simp⟩
  | cons text texts ih =>
      obtain ⟨longer, above⟩ := ih
      refine ⟨text ++ longer ++ "_", ?_⟩
      intro other member
      have added : "_".length = 1 := rfl
      rw [String.length_append, String.length_append, added]
      rcases List.mem_cons.mp member with same | later
      · subst same
        omega
      · have below := above other later
        omega

theorem exists_injective {change : String → String} {labels : List String}
    (apart : ∀ left ∈ labels, ∀ right ∈ labels, change left = change right → left = right) :
    ∃ whole : String → String, Function.Injective whole ∧
      ∀ label ∈ labels, change label = whole label := by
  obtain ⟨longer, above⟩ := exists_longer (labels.map change)
  refine ⟨fun label => if label ∈ labels then change label else longer ++ label, ?_, ?_⟩
  · -- A label of the list stays shorter than one that is not in the list.
    have differ {inside outside : String} (member : inside ∈ labels) :
        change inside ≠ longer ++ outside := by
      intro same
      have below := above _ (List.mem_map_of_mem member)
      rw [same, String.length_append] at below
      omega
    intro left right same
    dsimp only at same
    split at same
    · split at same
      · exact apart left ‹_› right ‹_› same
      · exact absurd same (differ ‹_›)
    · split at same
      · exact absurd same.symm (differ ‹_›)
      · exact (String.append_right_inj longer).mp same
  · intro label member
    exact (if_pos member).symm

end Graph

end ShapeCompiler.Rdf
