import ShapeCompiler.Proofs.Model.Building
import ShapeCompiler.Proofs.Rdf.TermOrder
import ShapeCompiler.Proofs.Text.Cuts

/-! The named individuals of classes. A class has those individuals that are typed by it, each once and in
the order of their IRIs, under names that are cut from the IRIs. -/

namespace ShapeCompiler.Model

open Rdf (Graph Term)
open Text (IsLocalName isPathMark)

/-- A name stands behind the IRI of a class and the path marks that follow it. -/
structure StandsBehind (classIri id name : String) : Prop where
  split : ∃ marks, id.toList = classIri.toList ++ (marks ++ name.toList) ∧ marks ≠ [] ∧
    ∀ c ∈ marks, isPathMark c = true
  filled : name.toList ≠ []
  start : ∀ c ∈ name.toList.head?, isPathMark c = false

/-- The name of an individual stands behind the IRI of its class, or, if no name does, behind the last path
mark of its own IRI. -/
def IsIndividualName (classIri id name : String) : Prop :=
  StandsBehind classIri id name ∨
    (∀ other, ¬ StandsBehind classIri id other) ∧ IsLocalName id name

section

variable {classIri id name : String}

theorem StandsBehind.stripped (behind : StandsBehind classIri id name) :
    ∃ rest, Text.stripPrefix? classIri id = some rest ∧
      rest.toList.head?.any isPathMark = true ∧ rest.toList.dropWhile isPathMark = name.toList := by
  obtain ⟨⟨marks, split, some, marked⟩, filled, start⟩ := behind
  refine ⟨String.ofList (marks ++ name.toList), Text.stripPrefix?_eq_some.mpr ?_, ?_, ?_⟩
  · rw [← String.toList_inj, String.toList_append, String.toList_ofList, split]
  · obtain ⟨first, others, rfl⟩ := List.exists_cons_of_ne_nil some
    simpa using marked first List.mem_cons_self
  · rw [String.toList_ofList, List.dropWhile_append_of_pos marked]
    obtain ⟨first, others, spelled⟩ := List.exists_cons_of_ne_nil filled
    rw [spelled, List.head?_cons] at start
    rw [spelled, List.dropWhile_cons_of_neg (by simp [start first rfl])]

theorem standsBehind_dropWhile {rest : String} (stripped : Text.stripPrefix? classIri id = some rest)
    (marked : rest.toList.head?.any isPathMark = true)
    (filled : rest.toList.dropWhile isPathMark ≠ []) :
    StandsBehind classIri id (String.ofList (rest.toList.dropWhile isPathMark)) := by
  refine ⟨⟨rest.toList.takeWhile isPathMark, ?_, ?_, ?_⟩, ?_, ?_⟩
  · rw [String.toList_ofList, List.takeWhile_append_dropWhile, ← String.toList_append,
      Text.stripPrefix?_eq_some.mp stripped]
  · cases spelled : rest.toList with
    | nil => simp [spelled] at marked
    | cons first others =>
        have first : isPathMark first = true := by simpa [spelled] using marked
        simp [first]
  · intro c inside
    exact List.mem_takeWhile_imp inside
  · rwa [String.toList_ofList]
  · intro c first
    rw [String.toList_ofList, Option.mem_def] at first
    have unmarked := List.head?_dropWhile_not isPathMark rest.toList
    rw [first] at unmarked
    simpa using unmarked

theorem isIndividualName_individualName (classIri id : String) :
    IsIndividualName classIri id (individualName classIri id) := by
  have localOnly (no : ∀ rest, Text.stripPrefix? classIri id = some rest →
      rest.toList.head?.any isPathMark = true → rest.toList.dropWhile isPathMark = []) :
      IsIndividualName classIri id (Text.localName id) := by
    refine Or.inr ⟨fun other behind => ?_, Text.isLocalName_localName id⟩
    obtain ⟨rest, stripped, marked, dropped⟩ := behind.stripped
    exact behind.filled (dropped.symm.trans (no rest stripped marked))
  unfold individualName
  split
  · rename_i refused
    exact localOnly fun rest stripped _ => absurd stripped (by simp [refused])
  · rename_i rest stripped
    have only (other : String) (found : Text.stripPrefix? classIri id = some other) : other = rest :=
      Option.some.inj (found.symm.trans stripped)
    split
    · rename_i marked
      dsimp only
      split
      · rename_i bare
        exact localOnly fun other found _ => only other found ▸ List.isEmpty_iff.mp bare
      · rename_i filled
        exact Or.inl (standsBehind_dropWhile stripped marked
          (fun bare => filled (List.isEmpty_iff.mpr bare)))
    · rename_i unmarked
      exact localOnly fun other found marked => absurd (only other found ▸ marked) unmarked

theorem IsIndividualName.suffix (named : IsIndividualName classIri id name) :
    name.toList <:+ id.toList := by
  rcases named with behind | ⟨-, isLocal⟩
  · obtain ⟨marks, split, -⟩ := behind.split
    rw [← List.append_assoc] at split
    exact ⟨_, split.symm⟩
  · obtain ⟨before, split, -⟩ := isLocal.split
    exact ⟨before, split.symm⟩

theorem IsIndividualName.start (named : IsIndividualName classIri id name) :
    ∀ c ∈ name.toList.head?, c ≠ '/' ∧ c ≠ '#' := by
  intro c first
  have unmarked : isPathMark c = false := by
    rcases named with behind | ⟨-, isLocal⟩
    · exact behind.start c first
    · exact isLocal.plain c (List.mem_of_head? first)
  rw [← not_or, ← Text.isPathMark_iff, unmarked]
  exact Bool.false_ne_true

end

/-! Which individuals a class has. -/

/-- The named individuals that have a class as a type. -/
def individualsOf (graph : Graph) (resolver : Context.Resolver) (classIri : String) :
    List Individual :=
  (((graph.subjects Rdf.Vocabulary.rdfType (.iri Rdf.Vocabulary.owlNamedIndividual)).filterMap
    Term.iri?).filter fun id =>
      graph.contains (.iri id) Rdf.Vocabulary.rdfType (.iri classIri)).map
        (individualOf graph resolver classIri)

section

variable {graph : Graph} {resolver : Context.Resolver} {classIri : String}

theorem mem_filterMap_iri? {terms : List Term} {iri : String} :
    iri ∈ terms.filterMap Term.iri? ↔ .iri iri ∈ terms := by
  rw [List.mem_filterMap]
  constructor
  · rintro ⟨term, member, named⟩
    cases term <;> cases named
    exact member
  · intro member
    exact ⟨.iri iri, member, rfl⟩

theorem contains_classesOf (declared : classIri ∈ classIris graph) (id : String) :
    (classesOf graph id).contains classIri =
      graph.contains (.iri id) Rdf.Vocabulary.rdfType (.iri classIri) := by
  rw [Bool.eq_iff_iff, List.contains_iff_mem, classesOf, List.mem_filter, mem_filterMap_iri?,
    Graph.mem_objects, Graph.contains_iff]
  simp [isClass, declared]

theorem items_discoverIndividuals (declared : classIri ∈ classIris graph) :
    Keyed.items classIri (discoverIndividuals graph resolver) =
      individualsOf graph resolver classIri := by
  have distinct (id : String) : (classesOf graph id).Nodup :=
    (nodup_filterMap_iri? (graph.nodup_objects _ _)).filter _
  rw [discoverIndividuals, Keyed.items_distribute fun id _ => distinct id, individualsOf]
  simp only [contains_classesOf declared]

theorem map_id_individualsOf : (individualsOf graph resolver classIri).map Individual.id =
    ((graph.subjects Rdf.Vocabulary.rdfType (.iri Rdf.Vocabulary.owlNamedIndividual)).filterMap
      Term.iri?).filter fun id =>
        graph.contains (.iri id) Rdf.Vocabulary.rdfType (.iri classIri) := by
  rw [individualsOf, List.map_map]
  exact List.map_id _

theorem mem_map_id_individualsOf {id : String} :
    id ∈ (individualsOf graph resolver classIri).map Individual.id ↔
      ⟨.iri id, Rdf.Vocabulary.rdfType, .iri Rdf.Vocabulary.owlNamedIndividual⟩ ∈ graph.triples ∧
        ⟨.iri id, Rdf.Vocabulary.rdfType, .iri classIri⟩ ∈ graph.triples := by
  rw [map_id_individualsOf, List.mem_filter, mem_filterMap_iri?, Graph.mem_subjects,
    Graph.contains_iff]

theorem pairwise_map_id_individualsOf :
    ((individualsOf graph resolver classIri).map Individual.id).Pairwise (· < ·) := by
  have ordered : (graph.subjects Rdf.Vocabulary.rdfType
      (.iri Rdf.Vocabulary.owlNamedIndividual)).Pairwise (· < ·) := Sorted.pairwise_ofList _
  rw [map_id_individualsOf]
  refine List.Pairwise.filter _ (List.Pairwise.filterMap _ ?_ ordered)
  intro left right less first leftNamed second rightNamed
  cases left <;> cases leftNamed
  cases right <;> cases rightNamed
  exact Term.iri_lt_iff.mp less

theorem name_of_mem_individualsOf {individual : Individual}
    (member : individual ∈ individualsOf graph resolver classIri) :
    individual.name = individualName classIri individual.id := by
  obtain ⟨id, -, rfl⟩ := List.mem_map.mp member
  rfl

theorem Built.individuals {classes : List Class} {model : Model}
    (built : Built graph resolver classes model) {modelClass : Class}
    (member : modelClass ∈ model.classes) :
    modelClass.individuals = individualsOf graph resolver modelClass.id := by
  have declared := built.mem_ids.mp (List.mem_map_of_mem member)
  obtain ⟨_, _, _, taken, _⟩ := built.origin member
  exact taken.trans (items_discoverIndividuals declared)

end

/-- The individuals of a class of a model are those that the graph types as named individuals and by the
class, each once and in increasing order. Each has a name that its IRI ends in and that no path mark
begins: what stands behind the IRI of the class, or else the local name. -/
theorem individuals_exact {graph : Graph} {resolver : Context.Resolver} {model : Model}
    (succeeds : build graph resolver = .ok model) :
    ∀ modelClass ∈ model.classes,
      ((modelClass.individuals.map Individual.id).Pairwise
        fun left right => Text.bytes left < Text.bytes right) ∧
      (∀ iri, iri ∈ modelClass.individuals.map Individual.id ↔
        ⟨.iri iri, Rdf.Vocabulary.rdfType, .iri Rdf.Vocabulary.owlNamedIndividual⟩ ∈ graph.triples ∧
          ⟨.iri iri, Rdf.Vocabulary.rdfType, .iri modelClass.id⟩ ∈ graph.triples) ∧
      ∀ individual ∈ modelClass.individuals,
        individual.name.toList <:+ individual.id.toList ∧
          (∀ c ∈ individual.name.toList.head?, c ≠ '/' ∧ c ≠ '#') ∧
          IsIndividualName modelClass.id individual.id individual.name := by
  obtain ⟨classes, built⟩ := build_sound succeeds
  intro modelClass member
  rw [built.individuals member]
  refine ⟨?_, fun iri => mem_map_id_individualsOf, ?_⟩
  · exact pairwise_map_id_individualsOf.imp fun less => Text.bytes_lt_iff.mpr less
  · intro individual listed
    rw [name_of_mem_individualsOf listed]
    have named := isIndividualName_individualName modelClass.id individual.id
    exact ⟨named.suffix, named.start, named⟩

def sharedGraph : Graph :=
  .ofList [
    ⟨.iri "http://a/Kind", Rdf.Vocabulary.rdfType, .iri Rdf.Vocabulary.owlClass⟩,
    ⟨.iri "http://a/Other", Rdf.Vocabulary.rdfType, .iri Rdf.Vocabulary.owlClass⟩,
    ⟨.iri "http://a/Kind/#small", Rdf.Vocabulary.rdfType, .iri "http://a/Kind"⟩,
    ⟨.iri "http://a/Kind/#small", Rdf.Vocabulary.rdfType, .iri "http://a/Other"⟩,
    ⟨.iri "http://a/Kind/#small", Rdf.Vocabulary.rdfType, .iri Rdf.Vocabulary.owlNamedIndividual⟩,
    ⟨.iri "http://a/Kind#", Rdf.Vocabulary.rdfType, .iri Rdf.Vocabulary.owlNamedIndividual⟩,
    ⟨.iri "http://a/Kind#", Rdf.Vocabulary.rdfType, .iri "http://a/Kind"⟩]

theorem individuals_exact_shared :
    ∃ model, build sharedGraph (.ofDocuments []) = .ok model ∧
      model.classes.map (fun modelClass => (modelClass.id, modelClass.individuals.map
        fun individual => (individual.id, individual.name))) =
        [("http://a/Kind", [("http://a/Kind#", ""), ("http://a/Kind/#small", "small")]),
          ("http://a/Other", [("http://a/Kind/#small", "small")])] ∧
      ∀ modelClass ∈ model.classes, ∀ individual ∈ modelClass.individuals,
        individual.name.toList <:+ individual.id.toList := by
  have described : (build sharedGraph (.ofDocuments [])).toOption.map (fun model =>
      model.classes.map fun modelClass => (modelClass.id, modelClass.individuals.map
        fun individual => (individual.id, individual.name))) =
      some [("http://a/Kind", [("http://a/Kind#", ""), ("http://a/Kind/#small", "small")]),
        ("http://a/Other", [("http://a/Kind/#small", "small")])] := by
    decide +kernel
  obtain ⟨model, succeeds, same⟩ := Outcomes.exists_ok_of_looked described
  refine ⟨model, succeeds, same, ?_⟩
  intro modelClass member individual listed
  exact ((individuals_exact succeeds modelClass member).2.2 individual listed).1

end ShapeCompiler.Model
