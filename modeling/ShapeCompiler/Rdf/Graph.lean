import ShapeCompiler.Rdf.SubjectIndex
import ShapeCompiler.Rdf.Vocabulary
import ShapeCompiler.Sorted

/-! Finite sets of triples that remember the order in which their members were inserted, the
questions asked of them, and the walk along a collection. -/

namespace ShapeCompiler.Rdf

/-- Triples in the order of insertion, with an index that leads from a subject to its triples. -/
structure Graph where
  rows : Array Triple
  index : SubjectIndex
  nodup_rows : rows.toList.Nodup
  covers : index.Covers rows.toList

namespace Graph

def empty : Graph := ⟨#[], .empty, List.nodup_nil, SubjectIndex.covers_nil⟩

instance : Inhabited Graph := ⟨empty⟩

def triples (graph : Graph) : List Triple :=
  graph.rows.toList

def size (graph : Graph) : Nat :=
  graph.rows.size

def objects (graph : Graph) (subject : Term) (predicate : String) : List Term :=
  let own := (graph.index.places subject).filterMap (graph.rows[·]?)
  (own.filter fun triple => triple.predicate = predicate).map Triple.object

def value? (graph : Graph) (subject : Term) (predicate : String) : Option Term :=
  (graph.objects subject predicate).head?

def subjects (graph : Graph) (predicate : String) (object : Term) : List Term :=
  Sorted.ofList ((graph.triples.filter fun triple =>
    triple.predicate = predicate && triple.object = object).map Triple.subject)

def contains (graph : Graph) (subject : Term) (predicate : String) (object : Term) : Bool :=
  (graph.objects subject predicate).contains object

@[simp] theorem triples_empty : empty.triples = [] :=
  rfl

theorem distinct (graph : Graph) : graph.triples.Nodup :=
  graph.nodup_rows

@[simp] theorem length_triples (graph : Graph) : graph.triples.length = graph.size :=
  Array.length_toList

/-- What the index leads to is what a search through all triples would find. -/
theorem objects_eq (graph : Graph) (subject : Term) (predicate : String) :
    graph.objects subject predicate =
      (graph.triples.filter fun triple =>
        triple.subject = subject && triple.predicate = predicate).map Triple.object := by
  have own : (graph.index.places subject).filterMap (graph.rows[·]?) =
      graph.triples.filter fun triple => triple.subject = subject := by
    rw [graph.covers subject, triples, ← filterMap_placesOf]
    simp only [Array.getElem?_toList]
  rw [objects, own, List.filter_filter]
  congr 1
  exact List.filter_congr fun triple _ => Bool.and_comm _ _

theorem mem_objects {graph : Graph} {subject object : Term} {predicate : String} :
    object ∈ graph.objects subject predicate ↔ ⟨subject, predicate, object⟩ ∈ graph.triples := by
  simp only [objects_eq, List.mem_map, List.mem_filter, Bool.and_eq_true, decide_eq_true_eq]
  constructor
  · rintro ⟨triple, ⟨member, rfl, rfl⟩, rfl⟩
    exact member
  · intro member
    exact ⟨_, ⟨member, rfl, rfl⟩, rfl⟩

theorem contains_iff {graph : Graph} {subject object : Term} {predicate : String} :
    graph.contains subject predicate object = true ↔
      ⟨subject, predicate, object⟩ ∈ graph.triples := by
  rw [contains, List.contains_iff_mem, mem_objects]

theorem nodup_push {rows : Array Triple} {triple : Triple} (distinct : rows.toList.Nodup)
    (fresh : triple ∉ rows.toList) : (rows.push triple).toList.Nodup := by
  rw [Array.toList_push, List.nodup_append]
  refine ⟨distinct, by simp, ?_⟩
  intro left member right last
  rw [List.mem_singleton] at last
  subst last
  intro same
  exact fresh (same ▸ member)

theorem covers_push {rows : Array Triple} {index : SubjectIndex} (covers : index.Covers rows.toList)
    (triple : Triple) :
    (index.add triple.subject rows.size).Covers (rows.push triple).toList := by
  rw [Array.toList_push, ← Array.length_toList]
  exact covers.add triple

def insert (graph : Graph) (triple : Triple) : Graph :=
  if present : graph.contains triple.subject triple.predicate triple.object = true then graph
  else {
    rows := graph.rows.push triple
    index := graph.index.add triple.subject graph.rows.size
    nodup_rows := nodup_push graph.nodup_rows fun member => present (contains_iff.mpr member)
    covers := covers_push graph.covers triple }

def ofList (triples : List Triple) : Graph :=
  triples.foldl insert empty

def ofStatements (statements : List Statement) : Graph :=
  ofList (statements.filterMap Statement.triple?)

/-- A walk along a collection stops at a node that it met before or that lacks its item or its
continuation. -/
structure ListFault where
  node : Term
deriving DecidableEq

def ListFault.message (fault : ListFault) : String :=
  "malformed RDF list at " ++ fault.node.name

/-- Walks on from `node`, having met the nodes in `seen`. Every step meets another subject, so that
the number of triples bounds the walk. -/
def listFrom (graph : Graph) : Nat → List Term → Term → Except ListFault (List Term)
  | 0, _, node => .error ⟨node⟩
  | bound + 1, seen, node =>
      if node = .iri Vocabulary.rdfNil then .ok []
      else if node ∈ seen then .error ⟨node⟩
      else match graph.value? node Vocabulary.rdfFirst, graph.value? node Vocabulary.rdfRest with
        | some first, some rest => (listFrom graph bound (node :: seen) rest).map (first :: ·)
        | _, _ => .error ⟨node⟩

def list (graph : Graph) (head : Term) : Except ListFault (List Term) :=
  graph.listFrom (graph.size + 2) [] head

theorem triples_insert (graph : Graph) (triple : Triple) :
    (graph.insert triple).triples =
      if triple ∈ graph.triples then graph.triples else graph.triples ++ [triple] := by
  by_cases present : triple ∈ graph.triples
  · rw [insert, dif_pos (contains_iff.mpr present), if_pos present]
  · rw [insert, dif_neg fun found => present (contains_iff.mp found), if_neg present]
    exact Array.toList_push

theorem mem_triples_insert {graph : Graph} {triple member : Triple} :
    member ∈ (graph.insert triple).triples ↔ member ∈ graph.triples ∨ member = triple := by
  rw [triples_insert]
  split
  · rename_i present
    refine ⟨Or.inl, fun cases => ?_⟩
    rcases cases with found | same
    · exact found
    · exact same ▸ present
  · simp

theorem mem_triples_foldl_insert {triples : List Triple} {graph : Graph} {member : Triple} :
    member ∈ (triples.foldl insert graph).triples ↔ member ∈ graph.triples ∨ member ∈ triples := by
  induction triples generalizing graph with
  | nil => simp
  | cons triple rest ih => rw [List.foldl_cons, ih, mem_triples_insert, List.mem_cons, or_assoc]

theorem mem_triples_ofList {triples : List Triple} {member : Triple} :
    member ∈ (ofList triples).triples ↔ member ∈ triples := by
  rw [ofList, mem_triples_foldl_insert]
  simp

theorem mem_subjects {graph : Graph} {subject object : Term} {predicate : String} :
    subject ∈ graph.subjects predicate object ↔ ⟨subject, predicate, object⟩ ∈ graph.triples := by
  simp only [subjects, Sorted.mem_ofList, List.mem_map, List.mem_filter, Bool.and_eq_true,
    decide_eq_true_eq]
  constructor
  · rintro ⟨triple, ⟨member, rfl, rfl⟩, rfl⟩
    exact member
  · intro member
    exact ⟨_, ⟨member, rfl, rfl⟩, rfl⟩

theorem nodup_objects (graph : Graph) (subject : Term) (predicate : String) :
    (graph.objects subject predicate).Nodup := by
  have kept := List.Pairwise.filter
    (fun triple : Triple => triple.subject = subject && triple.predicate = predicate) graph.distinct
  rw [objects_eq]
  refine List.pairwise_map.mpr (kept.imp_of_mem ?_)
  intro left right inLeft inRight different same
  simp only [List.mem_filter, Bool.and_eq_true, decide_eq_true_eq] at inLeft inRight
  obtain ⟨_, leftSubject, leftPredicate⟩ := inLeft
  obtain ⟨_, rightSubject, rightPredicate⟩ := inRight
  cases left
  cases right
  simp_all

end Graph

end ShapeCompiler.Rdf
