import ShapeCompiler.Proofs.Rdf.TermOrder
import ShapeCompiler.Rdf.Graph

/-! What a graph keeps of the triples that are inserted into it. Of equal triples the first is kept, the
index leads from every subject to the places of its triples and to no others, and so every question is
answered as by a search through the inserted triples. -/

namespace ShapeCompiler.Rdf

theorem pairwise_placesOf (triples : List Triple) (subject : Term) :
    (placesOf triples subject).Pairwise (· < ·) := by
  have kept : (placesOf triples subject).Sublist (triples.zipIdx.map Prod.snd) :=
    List.filter_sublist.map Prod.snd
  rw [List.zipIdx_map_snd] at kept
  exact List.Pairwise.sublist kept List.pairwise_lt_range'

theorem eraseDups_append_single (triples : List Triple) (triple : Triple) :
    (triples ++ [triple]).eraseDups =
      if triple ∈ triples then triples.eraseDups else triples.eraseDups ++ [triple] := by
  rw [List.eraseDups_append]
  by_cases present : triple ∈ triples
  · simp [List.removeAll, present]
  · simp [List.removeAll, present, List.eraseDups_cons]

namespace Graph

/-- What a graph knows after a sequence of insertions, told by the inserted triples alone. -/
structure Keeps (graph : Graph) (inserted : List Triple) : Prop where
  triples : graph.triples = inserted.eraseDups
  size : graph.size = inserted.eraseDups.length
  increasing : ∀ subject, (graph.index.places subject).Pairwise (· < ·)
  places : ∀ subject place, place ∈ graph.index.places subject ↔
    ∃ triple, inserted.eraseDups[place]? = some triple ∧ triple.subject = subject
  objects : ∀ subject predicate, graph.objects subject predicate =
    (inserted.eraseDups.filter fun triple =>
      triple.subject = subject && triple.predicate = predicate).map Triple.object
  contains : ∀ subject predicate object, graph.contains subject predicate object = true ↔
    ⟨subject, predicate, object⟩ ∈ inserted
  ordered : ∀ predicate object, (graph.subjects predicate object).Pairwise Term.Precedes
  subjects : ∀ predicate object subject, subject ∈ graph.subjects predicate object ↔
    ⟨subject, predicate, object⟩ ∈ inserted

theorem keeps_of_triples {graph : Graph} {inserted : List Triple}
    (kept : graph.triples = inserted.eraseDups) : graph.Keeps inserted := by
  have covered (subject : Term) :
      graph.index.places subject = placesOf inserted.eraseDups subject := by
    rw [graph.covers subject, ← kept]
    rfl
  have member (triple : Triple) : triple ∈ graph.triples ↔ triple ∈ inserted := by
    rw [kept, List.mem_eraseDups]
  refine ⟨kept, ?_, ?_, ?_, ?_, ?_, ?_, ?_⟩
  · rw [← length_triples, kept]
  · intro subject
    rw [covered]
    exact pairwise_placesOf _ subject
  · intro subject place
    rw [covered, mem_placesOf]
  · intro subject predicate
    rw [objects_eq, kept]
  · intro subject predicate object
    rw [contains_iff, member]
  · intro predicate object
    exact (Sorted.pairwise_ofList _).imp Term.lt_iff_precedes.mp
  · intro predicate object subject
    rw [mem_subjects, member]

theorem keeps_empty : empty.Keeps [] :=
  keeps_of_triples rfl

theorem Keeps.insert {graph : Graph} {inserted : List Triple} (keeps : graph.Keeps inserted)
    (triple : Triple) : (graph.insert triple).Keeps (inserted ++ [triple]) := by
  refine keeps_of_triples ?_
  rw [triples_insert, eraseDups_append_single, keeps.triples]
  simp only [List.mem_eraseDups]

theorem Keeps.foldl_insert {graph : Graph} {inserted : List Triple} (keeps : graph.Keeps inserted)
    (triples : List Triple) : (triples.foldl Graph.insert graph).Keeps (inserted ++ triples) := by
  induction triples generalizing graph inserted with
  | nil => rwa [List.append_nil]
  | cons triple triples ih =>
      rw [List.append_cons]
      exact ih (keeps.insert triple)

/-- After any insertions a graph holds the inserted triples without their repetitions, and the index and
all answers are those of these triples. -/
theorem insertions_kept (inserted : List Triple) : (ofList inserted).Keeps inserted :=
  keeps_empty.foldl_insert inserted

end Graph

end ShapeCompiler.Rdf
