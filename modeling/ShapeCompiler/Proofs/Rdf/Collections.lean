import Mathlib.Data.List.Perm.Subperm
import ShapeCompiler.Proofs.Outcomes
import ShapeCompiler.Proofs.Walks
import ShapeCompiler.Rdf.Graph

/-! Walks along collections. From its head a collection is followed by first continuations; the walk ends
at the end of the collection, or at the first node that it meets again or that lacks its item or its
continuation. On every graph it ends, since every node on the way has triples of its own. -/

namespace ShapeCompiler.Rdf.Graph

/-- First continuations lead from a node over others, each with its first item, to the last node. The walk
does not go on behind the end of a collection. -/
inductive Follows (graph : Graph) : Term → List Term → List Term → Term → Prop where
  | here (node : Term) : Follows graph node [] [] node
  | onward {node item next last : Term} {nodes items : List Term}
      (inner : node ≠ .iri Vocabulary.rdfNil)
      (holds : graph.value? node Vocabulary.rdfFirst = some item)
      (leads : graph.value? node Vocabulary.rdfRest = some next)
      (further : Follows graph next nodes items last) :
      Follows graph node (node :: nodes) (item :: items) last

def HasItems (graph : Graph) (head : Term) (items : List Term) : Prop :=
  ∃ nodes, graph.Follows head nodes items (.iri Vocabulary.rdfNil) ∧ nodes.Nodup

/-- A walk that met some nodes cannot go on at a node. -/
structure Broken (graph : Graph) (met : List Term) (node : Term) : Prop where
  inner : node ≠ .iri Vocabulary.rdfNil
  cause : node ∈ met ∨ graph.value? node Vocabulary.rdfFirst = none ∨
    graph.value? node Vocabulary.rdfRest = none

/-- The walk from `head` goes over distinct nodes, each with its item and its continuation, up to a node
at which it cannot go on. -/
def BreaksAt (graph : Graph) (head node : Term) : Prop :=
  ∃ nodes items, graph.Follows head nodes items node ∧ nodes.Nodup ∧ graph.Broken nodes node

/-- A walk over distinct nodes that were not seen before. -/
structure Route (graph : Graph) (seen : List Term) (node : Term) (nodes items : List Term)
    (last : Term) : Prop where
  follows : graph.Follows node nodes items last
  distinct : nodes.Nodup
  fresh : ∀ other ∈ nodes, other ∉ seen

section

variable {graph : Graph} {seen nodes items : List Term} {node item next last : Term}

theorem Route.here (seen : List Term) (node : Term) : graph.Route seen node [] [] node :=
  ⟨.here node, .nil, nofun⟩

theorem Route.onward (inner : node ≠ .iri Vocabulary.rdfNil) (new : node ∉ seen)
    (holds : graph.value? node Vocabulary.rdfFirst = some item)
    (leads : graph.value? node Vocabulary.rdfRest = some next)
    (route : graph.Route (node :: seen) next nodes items last) :
    graph.Route seen node (node :: nodes) (item :: items) last := by
  refine ⟨.onward inner holds leads route.follows, List.nodup_cons.mpr ⟨?_, route.distinct⟩, ?_⟩
  · intro again
    exact route.fresh node again List.mem_cons_self
  · refine List.forall_mem_cons.mpr ⟨new, fun other inside known => ?_⟩
    exact route.fresh other inside (List.mem_cons_of_mem node known)

theorem Route.tail (route : graph.Route seen node (node :: nodes) items last)
    {others : List Term} (follows : graph.Follows next nodes others last) :
    graph.Route (node :: seen) next nodes others last := by
  obtain ⟨once, distinct⟩ := List.nodup_cons.mp route.distinct
  refine ⟨follows, distinct, fun other inside known => ?_⟩
  rcases List.mem_cons.mp known with same | before
  · exact once (same ▸ inside)
  · exact route.fresh other (List.mem_cons_of_mem node inside) before

theorem broken_cons : graph.Broken (nodes ++ node :: seen) last ↔
    graph.Broken (node :: nodes ++ seen) last := by
  have same : last ∈ nodes ++ node :: seen ↔ last ∈ node :: nodes ++ seen := by
    simp only [List.mem_append, List.mem_cons]
    tauto
  constructor
  · rintro ⟨inner, cause⟩
    exact ⟨inner, cause.imp_left same.mp⟩
  · rintro ⟨inner, cause⟩
    exact ⟨inner, cause.imp_left same.mpr⟩

def unseen (graph : Graph) (seen : List Term) : Nat :=
  (graph.triples.filter fun triple => triple.subject ∉ seen).length

theorem exists_triple_of_value? {predicate : String}
    (holds : graph.value? node predicate = some item) : ⟨node, predicate, item⟩ ∈ graph.triples :=
  mem_objects.mp (List.mem_of_head? holds)

theorem unseen_cons_lt (new : node ∉ seen) {predicate : String}
    (holds : graph.value? node predicate = some item) :
    graph.unseen (node :: seen) < graph.unseen seen := by
  have split := Walk.length_filter_not_mem_cons Triple.subject new graph.triples
  have own : 0 < (graph.triples.filter fun triple => triple.subject = node).length :=
    List.length_pos_of_mem
      (List.mem_filter.mpr ⟨exists_triple_of_value? holds, decide_eq_true rfl⟩)
  unfold unseen
  omega

theorem listFrom_onward {bound : Nat} (inner : node ≠ .iri Vocabulary.rdfNil) (new : node ∉ seen)
    (holds : graph.value? node Vocabulary.rdfFirst = some item)
    (leads : graph.value? node Vocabulary.rdfRest = some next) :
    graph.listFrom (bound + 1) seen node =
      (graph.listFrom bound (node :: seen) next).map (item :: ·) := by
  rw [listFrom, if_neg inner, if_neg new, holds, leads]

theorem listFrom_route {bound : Nat} (node : Term) (enough : graph.unseen seen < bound) :
    match graph.listFrom bound seen node with
    | .ok items => ∃ nodes, graph.Route seen node nodes items (.iri Vocabulary.rdfNil)
    | .error fault => ∃ nodes items, graph.Route seen node nodes items fault.node ∧
        graph.Broken (nodes ++ seen) fault.node := by
  induction bound generalizing seen node with
  | zero => omega
  | succ bound ih =>
      have here : graph.Route seen node [] [] node := .here seen node
      by_cases final : node = .iri Vocabulary.rdfNil
      · rw [listFrom, if_pos final]
        exact ⟨[], final ▸ here⟩
      by_cases known : node ∈ seen
      · rw [listFrom, if_neg final, if_pos known]
        exact ⟨[], [], here, final, Or.inl known⟩
      cases holds : graph.value? node Vocabulary.rdfFirst with
      | none =>
          rw [listFrom, if_neg final, if_neg known, holds]
          exact ⟨[], [], here, final, Or.inr (Or.inl holds)⟩
      | some item =>
          cases leads : graph.value? node Vocabulary.rdfRest with
          | none =>
              rw [listFrom, if_neg final, if_neg known, holds, leads]
              exact ⟨[], [], here, final, Or.inr (Or.inr leads)⟩
          | some next =>
              have fewer := unseen_cons_lt known holds
              have further := @ih (node :: seen) next (by omega)
              rw [listFrom_onward final known holds leads]
              cases outcome : graph.listFrom bound (node :: seen) next with
              | ok items =>
                  rw [outcome] at further
                  obtain ⟨nodes, route⟩ := further
                  exact ⟨node :: nodes, route.onward final known holds leads⟩
              | error fault =>
                  rw [outcome] at further
                  obtain ⟨nodes, items, route, broken⟩ := further
                  exact ⟨node :: nodes, item :: items, route.onward final known holds leads,
                    broken_cons.mp broken⟩

theorem Route.listFrom {bound : Nat} (route : graph.Route seen node nodes items last)
    (enough : nodes.length < bound) :
    (last = .iri Vocabulary.rdfNil → graph.listFrom bound seen node = .ok items) ∧
      (graph.Broken (nodes ++ seen) last → graph.listFrom bound seen node = .error ⟨last⟩) := by
  have follows := route.follows
  induction follows generalizing seen bound with
  | here node =>
      cases bound with
      | zero => exact absurd enough (Nat.not_lt_zero _)
      | succ bound =>
          rw [Graph.listFrom]
          constructor
          · intro final
            rw [if_pos final]
          · rintro ⟨inner, cause⟩
            rw [if_neg inner]
            split
            · rfl
            · rename_i new
              rcases cause.resolve_left new with bare | loose
              · rw [bare]
              · rw [loose]
                cases graph.value? node Vocabulary.rdfFirst <;> rfl
  | @onward node item next last nodes items inner holds leads further ih =>
      cases bound with
      | zero => exact absurd enough (Nat.not_lt_zero _)
      | succ bound =>
          have new := route.fresh node List.mem_cons_self
          obtain ⟨succeeds, fails⟩ := ih (route.tail further) (Nat.lt_of_succ_lt_succ enough)
          rw [listFrom_onward inner new holds leads]
          constructor
          · intro final
            rw [succeeds final]
            rfl
          · intro broken
            rw [fails (broken_cons.mpr broken)]
            rfl

theorem Follows.mem_subjects (follows : graph.Follows node nodes items last) :
    nodes ⊆ graph.triples.map Triple.subject := by
  induction follows with
  | here node => exact List.nil_subset _
  | onward inner holds leads further ih =>
      exact List.cons_subset.mpr
        ⟨List.mem_map_of_mem (f := Triple.subject) (exists_triple_of_value? holds), ih⟩

theorem Follows.length_le (follows : graph.Follows node nodes items last)
    (distinct : nodes.Nodup) : nodes.length ≤ graph.size := by
  have shorter := (distinct.subperm follows.mem_subjects).length_le
  rwa [List.length_map] at shorter

theorem Follows.route (follows : graph.Follows node nodes items last) (distinct : nodes.Nodup) :
    graph.Route [] node nodes items last :=
  ⟨follows, distinct, fun _ _ => List.not_mem_nil⟩

theorem unseen_nil (graph : Graph) : graph.unseen [] = graph.size := by
  simp [unseen]

end

section

variable {graph : Graph} {head : Term} {bound : Nat}

theorem listFrom_eq_ok_iff (enough : graph.size < bound) {items : List Term} :
    graph.listFrom bound [] head = .ok items ↔ graph.HasItems head items := by
  constructor
  · intro succeeds
    have route := listFrom_route head (unseen_nil graph ▸ enough)
    rw [succeeds] at route
    obtain ⟨nodes, route⟩ := route
    exact ⟨nodes, route.follows, route.distinct⟩
  · rintro ⟨nodes, follows, distinct⟩
    have shorter := follows.length_le distinct
    exact ((follows.route distinct).listFrom (by omega)).1 rfl

theorem listFrom_eq_error_iff (enough : graph.size < bound) {node : Term} :
    graph.listFrom bound [] head = .error ⟨node⟩ ↔ graph.BreaksAt head node := by
  constructor
  · intro fails
    have route := listFrom_route head (unseen_nil graph ▸ enough)
    rw [fails] at route
    obtain ⟨nodes, items, route, broken⟩ := route
    rw [List.append_nil] at broken
    exact ⟨nodes, items, route.follows, route.distinct, broken⟩
  · rintro ⟨nodes, items, follows, distinct, broken⟩
    have shorter := follows.length_le distinct
    refine ((follows.route distinct).listFrom (by omega)).2 ?_
    rwa [List.append_nil]

theorem list_eq_ok_iff {items : List Term} :
    graph.list head = .ok items ↔ graph.HasItems head items :=
  listFrom_eq_ok_iff (by omega)

theorem list_eq_error_iff {node : Term} :
    graph.list head = .error ⟨node⟩ ↔ graph.BreaksAt head node :=
  listFrom_eq_error_iff (by omega)

theorem listFrom_eq_list (enough : graph.size < bound) :
    graph.listFrom bound [] head = graph.list head := by
  cases outcome : graph.list head with
  | ok items => exact (listFrom_eq_ok_iff enough).mpr (list_eq_ok_iff.mp outcome)
  | error fault => exact (listFrom_eq_error_iff enough).mpr (list_eq_error_iff.mp outcome)

end

/-! Collections that are written. -/

def headOf : List (Term × Term) → Term
  | [] => .iri Vocabulary.rdfNil
  | cell :: _ => cell.1

def collection : List (Term × Term) → List Triple
  | [] => []
  | cell :: cells =>
      ⟨cell.1, Vocabulary.rdfFirst, cell.2⟩ :: ⟨cell.1, Vocabulary.rdfRest, headOf cells⟩ ::
        collection cells

theorem subject_mem_of_mem_collection {cells : List (Term × Term)} {triple : Triple}
    (member : triple ∈ collection cells) : triple.subject ∈ cells.map Prod.fst := by
  induction cells with
  | nil => cases member
  | cons cell cells ih =>
      rw [List.map_cons]
      simp only [collection, List.mem_cons] at member
      rcases member with rfl | rfl | later
      · exact List.mem_cons_self
      · exact List.mem_cons_self
      · exact List.mem_cons_of_mem _ (ih later)

theorem value?_eq_of_only {graph : Graph} {subject object : Term} {predicate : String}
    (only : ∀ other, ⟨subject, predicate, other⟩ ∈ graph.triples ↔ other = object) :
    graph.value? subject predicate = some object := by
  cases objects : graph.objects subject predicate with
  | nil =>
      have member := mem_objects.mpr ((only object).mpr rfl)
      rw [objects] at member
      cases member
  | cons first others =>
      have member : first ∈ graph.objects subject predicate := objects ▸ List.mem_cons_self
      rw [value?, objects, List.head?_cons, (only first).mp (mem_objects.mp member)]

def Contains (graph : Graph) (cells : List (Term × Term)) : Prop :=
  ∀ node ∈ cells.map Prod.fst, ∀ object,
    (⟨node, Vocabulary.rdfFirst, object⟩ ∈ graph.triples ↔
      ⟨node, Vocabulary.rdfFirst, object⟩ ∈ collection cells) ∧
    (⟨node, Vocabulary.rdfRest, object⟩ ∈ graph.triples ↔
      ⟨node, Vocabulary.rdfRest, object⟩ ∈ collection cells)

section

variable {graph : Graph} {cell : Term × Term} {cells : List (Term × Term)}

theorem mem_collection_own (new : cell.1 ∉ cells.map Prod.fst) {predicate : String} {object : Term} :
    ⟨cell.1, predicate, object⟩ ∈ collection (cell :: cells) ↔
      predicate = Vocabulary.rdfFirst ∧ object = cell.2 ∨
        predicate = Vocabulary.rdfRest ∧ object = headOf cells := by
  have elsewhere : (⟨cell.1, predicate, object⟩ : Triple) ∉ collection cells :=
    fun member => new (subject_mem_of_mem_collection member)
  simp [collection, elsewhere]

theorem mem_collection_other {node : Term} (different : node ≠ cell.1) {predicate : String}
    {object : Term} :
    ⟨node, predicate, object⟩ ∈ collection (cell :: cells) ↔
      ⟨node, predicate, object⟩ ∈ collection cells := by
  simp [collection, different]

theorem Contains.own (contains : graph.Contains (cell :: cells)) (new : cell.1 ∉ cells.map Prod.fst) :
    graph.value? cell.1 Vocabulary.rdfFirst = some cell.2 ∧
      graph.value? cell.1 Vocabulary.rdfRest = some (headOf cells) := by
  have apart : Vocabulary.rdfFirst ≠ Vocabulary.rdfRest := by decide
  constructor
  · refine value?_eq_of_only fun other => ?_
    rw [(contains cell.1 List.mem_cons_self other).1, mem_collection_own new]
    simp [apart]
  · refine value?_eq_of_only fun other => ?_
    rw [(contains cell.1 List.mem_cons_self other).2, mem_collection_own new]
    simp [apart.symm]

theorem Contains.tail (contains : graph.Contains (cell :: cells))
    (new : cell.1 ∉ cells.map Prod.fst) : graph.Contains cells := by
  intro node inside object
  have different : node ≠ cell.1 := fun same => new (same ▸ inside)
  have whole := contains node (List.mem_cons_of_mem cell.1 inside) object
  rwa [mem_collection_other different, mem_collection_other different] at whole

theorem Contains.follows (contains : graph.Contains cells) (distinct : (cells.map Prod.fst).Nodup)
    (inner : ∀ node ∈ cells.map Prod.fst, node ≠ .iri Vocabulary.rdfNil) :
    graph.Follows (headOf cells) (cells.map Prod.fst) (cells.map Prod.snd)
      (.iri Vocabulary.rdfNil) := by
  induction cells with
  | nil => exact .here _
  | cons cell cells ih =>
      obtain ⟨new, distinct⟩ := List.nodup_cons.mp distinct
      obtain ⟨first, inner⟩ := List.forall_mem_cons.mp inner
      obtain ⟨holds, leads⟩ := contains.own new
      exact .onward first holds leads (ih (contains.tail new) distinct inner)

end

/-- A graph holds another and beside it a collection over nodes that had neither items nor
continuations. -/
structure Extends (larger graph : Graph) (cells : List (Term × Term)) : Prop where
  triples : ∀ triple, triple ∈ larger.triples ↔ triple ∈ graph.triples ∨ triple ∈ collection cells
  distinct : (cells.map Prod.fst).Nodup
  inner : ∀ node ∈ cells.map Prod.fst, node ≠ .iri Vocabulary.rdfNil
  bare : ∀ node ∈ cells.map Prod.fst, ∀ object,
    ⟨node, Vocabulary.rdfFirst, object⟩ ∉ graph.triples ∧
      ⟨node, Vocabulary.rdfRest, object⟩ ∉ graph.triples

theorem Extends.contains {larger graph : Graph} {cells : List (Term × Term)}
    (adds : larger.Extends graph cells) : larger.Contains cells := by
  intro node inside object
  obtain ⟨noItem, noNext⟩ := adds.bare node inside object
  rw [adds.triples, adds.triples]
  exact ⟨or_iff_right noItem, or_iff_right noNext⟩

/-- A collection is read exactly if its walk comes to the end over distinct nodes, and then its items are
those met on the way; else the fault is the first node at which the walk cannot go on. More steps than
there are triples make no difference. What is written as a collection is read as it was written. -/
theorem list_walks (graph : Graph) (head : Term) :
    (∀ items, graph.list head = .ok items ↔ graph.HasItems head items) ∧
    (∀ node, graph.list head = .error ⟨node⟩ ↔ graph.BreaksAt head node) ∧
    (∀ bound, graph.size < bound → graph.listFrom bound [] head = graph.list head) ∧
    ∀ larger cells, Extends larger graph cells →
      larger.list (headOf cells) = .ok (cells.map Prod.snd) := by
  refine ⟨fun _ => list_eq_ok_iff, fun _ => list_eq_error_iff, fun _ => listFrom_eq_list, ?_⟩
  intro larger cells adds
  refine list_eq_ok_iff.mpr ⟨cells.map Prod.fst, ?_, adds.distinct⟩
  exact adds.contains.follows adds.distinct adds.inner

def loopedGraph : Graph :=
  .ofList [
    ⟨.blank "turn", Vocabulary.rdfFirst, .plain "x"⟩,
    ⟨.blank "turn", Vocabulary.rdfRest, .blank "back"⟩,
    ⟨.blank "back", Vocabulary.rdfFirst, .plain "y"⟩,
    ⟨.blank "back", Vocabulary.rdfRest, .blank "turn"⟩]

def writtenCells : List (Term × Term) :=
  [(.blank "one", .plain "a"), (.blank "two", .blank "turn")]

theorem list_walks_looped :
    loopedGraph.BreaksAt (.blank "turn") (.blank "turn") ∧
      ((collection writtenCells).foldl insert loopedGraph).list (.blank "one") =
        .ok [.plain "a", .blank "turn"] := by
  obtain ⟨_, breaks, _, written⟩ := list_walks loopedGraph (.blank "turn")
  refine ⟨(breaks _).mp (by decide +kernel), ?_⟩
  refine written _ writtenCells ⟨fun _ => mem_triples_foldl_insert, by decide, by decide, ?_⟩
  intro node inside object
  rw [loopedGraph, mem_triples_ofList, mem_triples_ofList]
  simp only [writtenCells, List.map_cons, List.map_nil, List.mem_cons, List.not_mem_nil,
    or_false] at inside
  rcases inside with rfl | rfl
  · simp
  · simp

end ShapeCompiler.Rdf.Graph
