import ShapeCompiler.Proofs.Model.Building
import ShapeCompiler.Proofs.Walks

/-! What a class inherits. The superclasses of a class are walked breadth-first, whether classes of the
model or not, so that what is found is said at the least distance at which anything is said. This holds on
every graph, also where superclasses lead back to where they came from. -/

namespace ShapeCompiler.Model

open Rdf (Graph Term)

/-- An IRI stands above a class at a distance, along superclasses that are named by IRI. The class stands
above itself at distance 0. -/
inductive Above (graph : Graph) (iri : String) : Nat → String → Prop where
  | self : Above graph iri 0 iri
  | further {distance : Nat} {between above : String} (nearer : Above graph iri distance between)
      (direct : ⟨.iri between, Rdf.Vocabulary.rdfsSubClassOf, .iri above⟩ ∈ graph.triples) :
      Above graph iri (distance + 1) above

/-- A feature that classes inherit: the value that an IRI carries, if it does, what such a value means,
if anything, and the error that is reported of a value without a meaning. -/
structure Feature (α : Type) where
  carried? : String → Option Term
  means? : Term → Option α
  fault : String → Term → BuildError

namespace Feature

def nodeKind (graph : Graph) (owner : String) : Feature NodeKind where
  carried? above := graph.value? (.iri above) Rdf.Vocabulary.shNodeKind
  means? value := value.iri?.bind NodeKind.ofIri?
  fault _ value := .unsupportedNodeKind owner value.name

def idProperty (graph : Graph) : Feature String where
  carried? above :=
    (graph.value? (.iri above) Rdf.Vocabulary.idPropertyName).filter (·.literalValue?.isSome)
  means? := Term.literalValue?
  fault above := invalidLiteral (.iri above) Rdf.Vocabulary.idPropertyName

def isExtensible (graph : Graph) : Feature Bool where
  carried? above := graph.value? (.iri above) Rdf.Vocabulary.isExtensible
  means? value := value.literalValue?.bind readTruth?
  fault above := invalidLiteral (.iri above) Rdf.Vocabulary.isExtensible

def read {α : Type} (feature : Feature α) (above : String) : Except BuildError (Option α) :=
  match feature.carried? above with
  | none => .ok none
  | some value =>
      match feature.means? value with
      | some result => .ok (some result)
      | none => .error (feature.fault above value)

section

variable {α : Type} {feature : Feature α} {above : String} {value : Term}

theorem read_bare (bare : feature.carried? above = none) : feature.read above = .ok none := by
  simp [read, bare]

theorem read_value {result : α} (carried : feature.carried? above = some value)
    (means : feature.means? value = some result) : feature.read above = .ok (some result) := by
  simp [read, carried, means]

theorem read_fault (carried : feature.carried? above = some value)
    (means : feature.means? value = none) :
    feature.read above = .error (feature.fault above value) := by
  simp [read, carried, means]

theorem read_eq_none : feature.read above = .ok none ↔ feature.carried? above = none := by
  refine ⟨fun nothing => ?_, read_bare⟩
  cases carried : feature.carried? above with
  | none => rfl
  | some value =>
      cases means : feature.means? value with
      | none => cases (read_fault carried means).symm.trans nothing
      | some result => cases (read_value carried means).symm.trans nothing

end

end Feature

section

variable {α : Type}

def NoneNearer (graph : Graph) (iri : String) (feature : Feature α) (distance : Nat) : Prop :=
  ∀ nearer < distance, ∀ other, Above graph iri nearer other → feature.carried? other = none

/-- An outcome is what the value says that is carried nearest to a class; it is nothing only if no IRI
above the class carries any. -/
inductive Nearest (graph : Graph) (iri : String) (feature : Feature α) :
    Except BuildError (Option α) → Prop where
  | value {distance : Nat} {above : String} {value : Term} {result : α}
      (stands : Above graph iri distance above) (nearest : NoneNearer graph iri feature distance)
      (carried : feature.carried? above = some value)
      (means : feature.means? value = some result) : Nearest graph iri feature (.ok (some result))
  | fault {distance : Nat} {above : String} {value : Term}
      (stands : Above graph iri distance above) (nearest : NoneNearer graph iri feature distance)
      (carried : feature.carried? above = some value) (means : feature.means? value = none) :
      Nearest graph iri feature (.error (feature.fault above value))
  | nothing (bare : ∀ distance above, Above graph iri distance above → feature.carried? above = none) :
      Nearest graph iri feature (.ok none)

def HasNearest (graph : Graph) (iri : String) (feature : Feature α) (default value : α) : Prop :=
  Nearest graph iri feature (.ok (some value)) ∨
    Nearest graph iri feature (.ok none) ∧ value = default

def firstFound {ε β : Type} (look : β → Except ε (Option α)) : List β → Except ε (Option α)
  | [] => .ok none
  | node :: nodes =>
      match look node with
      | .ok none => firstFound look nodes
      | .ok (some found) => .ok (some found)
      | .error fault => .error fault

theorem firstFound_cases {ε β : Type} (look : β → Except ε (Option α)) (nodes : List β) :
    (firstFound look nodes = .ok none ∧ ∀ node ∈ nodes, look node = .ok none) ∨
      ∃ before node after, nodes = before ++ node :: after ∧
        (∀ other ∈ before, look other = .ok none) ∧ look node = firstFound look nodes ∧
        look node ≠ .ok none := by
  induction nodes with
  | nil => exact Or.inl ⟨rfl, nofun⟩
  | cons head rest ih =>
      by_cases bare : look head = .ok none
      · have skipped : firstFound look (head :: rest) = firstFound look rest := by
          rw [firstFound, bare]
        rw [skipped]
        rcases ih with ⟨nothing, each⟩ | ⟨before, node, after, split, passed, found, some⟩
        · exact Or.inl ⟨nothing, List.forall_mem_cons.mpr ⟨bare, each⟩⟩
        · refine Or.inr ⟨head :: before, node, after, by rw [split]; rfl, ?_, found, some⟩
          exact List.forall_mem_cons.mpr ⟨bare, passed⟩
      · refine Or.inr ⟨[], head, rest, rfl, nofun, ?_, bare⟩
        rw [firstFound]
        split
        · rename_i same
          exact absurd same bare
        · assumption
        · assumption

end

theorem mem_superclasses {graph : Graph} {node parent : Term} :
    parent ∈ superclasses graph node ↔
      ∃ above, parent = .iri above ∧
        ⟨node, Rdf.Vocabulary.rdfsSubClassOf, .iri above⟩ ∈ graph.triples := by
  rw [superclasses, List.mem_filter, Graph.mem_objects]
  constructor
  · rintro ⟨stated, named⟩
    cases parent with
    | iri above => exact ⟨above, rfl, stated⟩
    | blank label => cases named
    | literal parts => cases named
  · rintro ⟨above, rfl, stated⟩
    exact ⟨stated, rfl⟩

theorem reaches_iff {graph : Graph} {iri : String} {distance : Nat} {node : Term} :
    Walk.Reaches (superclasses graph) (.iri iri) distance node ↔
      ∃ above, node = .iri above ∧ Above graph iri distance above := by
  constructor
  · intro reaches
    induction reaches with
    | start => exact ⟨iri, rfl, .self⟩
    | step _ direct ih =>
        obtain ⟨between, rfl, nearer⟩ := ih
        obtain ⟨above, rfl, stated⟩ := mem_superclasses.mp direct
        exact ⟨above, rfl, nearer.further stated⟩
  · rintro ⟨above, rfl, stands⟩
    induction stands with
    | self => exact .start
    | further _ direct ih => exact .step ih (mem_superclasses.mpr ⟨_, rfl, direct⟩)

def lineage (graph : Graph) (iri : String) : List Term :=
  Walk.within id (superclasses graph) (graph.size + 1) [] [.iri iri]

theorem length_superclasses_le (graph : Graph) (node : Term) :
    (superclasses graph node).length ≤
      (graph.triples.filter fun triple => triple.subject = node).length := by
  have fewer : (superclasses graph node).length ≤
      (graph.objects node Rdf.Vocabulary.rdfsSubClassOf).length := List.length_filter_le _ _
  rw [Graph.objects_eq, List.length_map] at fewer
  refine Nat.le_trans fewer (List.monotone_filter_right graph.triples ?_).length_le
  intro triple
  simp only [Bool.and_eq_true, decide_eq_true_eq]
  exact And.left

theorem visits_lineage (graph : Graph) (iri : String) :
    Walk.Visits id (superclasses graph) [] [.iri iri] (lineage graph iri) := by
  refine Walk.visits_within graph.triples Rdf.Triple.subject (fun _ => True)
    (fun _ _ _ _ => trivial) (fun node _ => length_superclasses_le graph node)
    (fun _ _ => trivial) ?_
  simp [Nat.add_comm]

theorem inheritedFrom_eq {α : Type} (graph : Graph) (look : Term → Except BuildError (Option α))
    (bound : Nat) (visited queue : List Term) :
    inheritedFrom graph look bound visited queue =
      firstFound look (Walk.within id (superclasses graph) bound visited queue) := by
  induction bound generalizing visited queue with
  | zero => cases queue <;> rfl
  | succ bound ih =>
      cases queue with
      | nil => rfl
      | cons node queue =>
          rw [inheritedFrom, Walk.within, id_eq, ih, ih]
          split
          · rfl
          · rw [firstFound]
            cases look node with
            | error fault => rfl
            | ok found => cases found <;> rfl

theorem inherited_eq {α : Type} (graph : Graph) (look : Term → Except BuildError (Option α))
    (iri : String) : inherited graph look iri = firstFound look (lineage graph iri) :=
  inheritedFrom_eq graph look _ _ _

theorem inherited_cases {α : Type} (graph : Graph) (look : Term → Except BuildError (Option α))
    (iri : String) :
    (inherited graph look iri = .ok none ∧
      ∀ distance above, Above graph iri distance above → look (.iri above) = .ok none) ∨
    ∃ distance above, Above graph iri distance above ∧
      (∀ nearer < distance, ∀ other, Above graph iri nearer other → look (.iri other) = .ok none) ∧
      look (.iri above) = inherited graph look iri ∧ look (.iri above) ≠ .ok none := by
  have visits := visits_lineage graph iri
  rw [inherited_eq]
  rcases firstFound_cases look (lineage graph iri) with
    ⟨nothing, each⟩ | ⟨before, node, after, split, passed, found, something⟩
  · refine Or.inl ⟨nothing, fun distance above stands => ?_⟩
    have path := (reaches_iff.mpr ⟨above, rfl, stands⟩).reflTransGen
    exact each _ ((visits.mem_iff fun _ _ _ _ same => same).mpr path)
  -- Nothing is found before the node, and all that is nearer comes before it.
  · obtain ⟨distance, reaches, nearest⟩ := visits.nearest_first split
    obtain ⟨above, rfl, stands⟩ := reaches_iff.mp reaches
    refine Or.inr ⟨distance, above, stands, fun nearer less other reached => ?_, found, something⟩
    exact passed _ (nearest nearer less _ (reaches_iff.mpr ⟨other, rfl, reached⟩))

theorem inherited_nearest {α : Type} (graph : Graph) (look : Term → Except BuildError (Option α))
    (iri : String) {feature : Feature α} (reads : ∀ above, look (.iri above) = feature.read above) :
    Nearest graph iri feature (inherited graph look iri) := by
  rcases inherited_cases graph look iri with
    ⟨nothing, each⟩ | ⟨distance, above, stands, nearest, found, something⟩
  · rw [nothing]
    refine .nothing fun distance above stands => ?_
    rw [← Feature.read_eq_none, ← reads]
    exact each distance above stands
  · have noneNearer : NoneNearer graph iri feature distance := by
      intro nearer less other reached
      rw [← Feature.read_eq_none, ← reads]
      exact nearest nearer less other reached
    rw [reads] at found something
    rw [← found]
    rw [Ne, Feature.read_eq_none] at something
    obtain ⟨value, carried⟩ := Option.ne_none_iff_exists'.mp something
    cases means : feature.means? value with
    | none =>
        rw [Feature.read_fault carried means]
        exact .fault stands noneNearer carried means
    | some result =>
        rw [Feature.read_value carried means]
        exact .value stands noneNearer carried means

/-! The features of a class. -/

theorem nodeKind?_eq_read (graph : Graph) (owner above : String) :
    nodeKind? graph owner (.iri above) = (Feature.nodeKind graph owner).read above := by
  cases carried : graph.value? (.iri above) Rdf.Vocabulary.shNodeKind with
  | none => simp [nodeKind?, Feature.read, Feature.nodeKind, carried]
  | some value =>
      cases means : value.iri?.bind NodeKind.ofIri? <;>
        simp [nodeKind?, Feature.read, Feature.nodeKind, carried, means]

theorem truth?_eq_read (graph : Graph) (above : String) :
    truth? graph (.iri above) Rdf.Vocabulary.isExtensible =
      (Feature.isExtensible graph).read above := by
  cases carried : graph.value? (.iri above) Rdf.Vocabulary.isExtensible with
  | none => simp [truth?, readValue?, Feature.read, Feature.isExtensible, carried]
  | some value =>
      cases means : value.literalValue?.bind readTruth? <;>
        simp [truth?, readValue?, Feature.read, Feature.isExtensible, carried, means]

theorem literalValue?_eq_read (graph : Graph) (above : String) :
    .ok (literalValue? graph (.iri above) Rdf.Vocabulary.idPropertyName) =
      (Feature.idProperty graph).read above := by
  cases carried : graph.value? (.iri above) Rdf.Vocabulary.idPropertyName with
  | none => simp [literalValue?, Feature.read, Feature.idProperty, carried]
  | some value =>
      cases text : value.literalValue? <;>
        simp [literalValue?, Feature.read, Feature.idProperty, Option.filter, carried, text]

theorem buildClass_inherited {graph : Graph} {resolver : Context.Resolver} {iri : String}
    {modelClass : Class} (built : buildClass graph resolver iri = .ok modelClass) :
    ∃ kind extensible,
      inherited graph (nodeKind? graph iri) iri = .ok kind ∧
      inherited graph (fun node => .ok (literalValue? graph node Rdf.Vocabulary.idPropertyName)) iri =
        .ok modelClass.idProperty ∧
      inherited graph (fun node => truth? graph node Rdf.Vocabulary.isExtensible) iri =
        .ok extensible ∧
      modelClass.nodeKind = kind.getD .blankNodeOrIri ∧
      modelClass.isExtensible = extensible.getD false := by
  obtain ⟨kind, kinds, sameKind⟩ := (buildClass_sound built).nodeKind
  obtain ⟨extensible, marked, sameTruth⟩ := (buildClass_sound built).isExtensible
  exact ⟨kind, extensible, kinds, (buildClass_sound built).idProperty, marked, sameKind, sameTruth⟩

theorem hasNearest_getD {α : Type} {graph : Graph} {iri : String} {feature : Feature α}
    {found : Option α} (nearest : Nearest graph iri feature (.ok found)) (default : α) :
    HasNearest graph iri feature default (found.getD default) := by
  cases found with
  | none => exact Or.inr ⟨nearest, rfl⟩
  | some value => exact Or.inl nearest

/-- The walk from a class ends, each of the three features is what is said nearest to the class, and a
class that is built has the default only where nothing is said. An identifying property is never wrong. -/
structure InheritsNearest (graph : Graph) (iri : String) : Prop where
  ends : ∃ order, Walk.Visits id (superclasses graph) [] [.iri iri] order ∧
    ∀ (α : Type) (look : Term → Except BuildError (Option α)),
      inherited graph look iri = firstFound look order
  nodeKind : Nearest graph iri (.nodeKind graph iri) (inherited graph (nodeKind? graph iri) iri)
  idProperty : ∃ found,
    inherited graph (fun node => .ok (literalValue? graph node Rdf.Vocabulary.idPropertyName)) iri =
      .ok found ∧
    Nearest graph iri (.idProperty graph) (.ok found)
  isExtensible : Nearest graph iri (.isExtensible graph)
    (inherited graph (fun node => truth? graph node Rdf.Vocabulary.isExtensible) iri)
  built : ∀ resolver modelClass, buildClass graph resolver iri = .ok modelClass →
    HasNearest graph iri (.nodeKind graph iri) .blankNodeOrIri modelClass.nodeKind ∧
    Nearest graph iri (.idProperty graph) (.ok modelClass.idProperty) ∧
    HasNearest graph iri (.isExtensible graph) false modelClass.isExtensible

theorem nearest_idProperty {graph : Graph} {iri : String} {outcome : Except BuildError (Option String)}
    (nearest : Nearest graph iri (.idProperty graph) outcome) : ∃ found, outcome = .ok found := by
  cases nearest with
  | value => exact ⟨_, rfl⟩
  | nothing => exact ⟨none, rfl⟩
  | fault _ _ carried means =>
      have literal := (Option.filter_eq_some_iff.mp carried).2
      change Term.literalValue? _ = none at means
      rw [means] at literal
      cases literal

/-- On every graph a class inherits what is said nearest to it. -/
theorem nearest_ancestor_wins (graph : Graph) (iri : String) : InheritsNearest graph iri := by
  have kinds := inherited_nearest graph (nodeKind? graph iri) iri (nodeKind?_eq_read graph iri)
  have named := inherited_nearest graph
    (fun node => .ok (literalValue? graph node Rdf.Vocabulary.idPropertyName)) iri
    (literalValue?_eq_read graph)
  have marked := inherited_nearest graph
    (fun node => truth? graph node Rdf.Vocabulary.isExtensible) iri (truth?_eq_read graph)
  refine ⟨?_, kinds, ?_, marked, ?_⟩
  · exact ⟨lineage graph iri, visits_lineage graph iri, fun _ look => inherited_eq graph look iri⟩
  · obtain ⟨found, same⟩ := nearest_idProperty named
    exact ⟨found, same, same ▸ named⟩
  · intro resolver modelClass built
    obtain ⟨kind, extensible, foundKind, foundName, foundTruth, sameKind, sameTruth⟩ :=
      buildClass_inherited built
    rw [foundKind] at kinds
    rw [foundName] at named
    rw [foundTruth] at marked
    rw [sameKind, sameTruth]
    exact ⟨hasNearest_getD kinds _, named, hasNearest_getD marked _⟩

def circularGraph : Graph :=
  .ofList [
    ⟨.iri "a", Rdf.Vocabulary.rdfsSubClassOf, .iri "b"⟩,
    ⟨.iri "b", Rdf.Vocabulary.rdfsSubClassOf, .iri "a"⟩,
    ⟨.iri "b", Rdf.Vocabulary.rdfsSubClassOf, .iri "c"⟩,
    ⟨.iri "c", Rdf.Vocabulary.shNodeKind, .iri Rdf.Vocabulary.shIri⟩]

example : inherited circularGraph (nodeKind? circularGraph "a") "a" = .ok (some .iri) := by
  decide +kernel

end ShapeCompiler.Model
