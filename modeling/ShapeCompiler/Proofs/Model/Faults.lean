import ShapeCompiler.Proofs.Model.Nearest
import ShapeCompiler.Proofs.Model.Values
import ShapeCompiler.Proofs.Model.WellFormed
import ShapeCompiler.Proofs.Rdf.Collections

/-! Why a model is refused. The first class that cannot be built gives its fault to the model, and every
fault of a class has its cause in the graph: a shape of the class, or a value that the class or something
above it carries. -/

namespace ShapeCompiler.Model

open Outcomes (FailsOnly failsOnly_error failsOnly_ok)
open Rdf (Graph Term)

structure ShapeOf (graph : Graph) (owner : String) (shape : Term) (path : String) : Prop where
  owned : ⟨.iri owner, Rdf.Vocabulary.shProperty, shape⟩ ∈ graph.triples
  first : graph.value? shape Rdf.Vocabulary.shPath = some (.iri path)
  untyped : path ≠ Rdf.Vocabulary.rdfType

def IsNo (accepted : String → Prop) (value : Term) : Prop :=
  ∀ parts, value = .literal parts → ¬ accepted parts.value

/-- What a graph holds where a class has a fault. -/
inductive Witnessed (graph : Graph) (iri : String) : BuildError → Prop where
  | missingPath {shape : Term} (owned : ⟨.iri iri, Rdf.Vocabulary.shProperty, shape⟩ ∈ graph.triples)
      (pathless : ∀ path, graph.value? shape Rdf.Vocabulary.shPath ≠ some (.iri path)) :
      Witnessed graph iri (.missingPath iri shape.name)
  | unknownClass {shape target : Term} {path : String} (shaped : ShapeOf graph iri shape path)
      (refers : graph.value? shape Rdf.Vocabulary.shClass = some target)
      (unknown : ∀ known ∈ classIris graph, target ≠ .iri known) :
      Witnessed graph iri (.unknownClass iri path target.name)
  | malformedList {shape head node : Term} {path : String} (shaped : ShapeOf graph iri shape path)
      (listed : graph.value? shape Rdf.Vocabulary.shIn = some head)
      (breaks : graph.BreaksAt head node) :
      Witnessed graph iri (.malformedList iri path ⟨node⟩)
  | missingRange {shape : Term} {path : String} (shaped : ShapeOf graph iri shape path)
      (classless : graph.value? shape Rdf.Vocabulary.shClass = none)
      (unlisted : graph.value? shape Rdf.Vocabulary.shIn = none)
      (typeless : ∀ datatype, graph.value? shape Rdf.Vocabulary.shDatatype ≠ some (.iri datatype))
      (rangeless : ∀ range, graph.value? (.iri path) Rdf.Vocabulary.rdfsRange ≠ some (.iri range)) :
      Witnessed graph iri (.missingRange iri path)
  | patternNotAllowed {shape : Term} {path : String} {pattern : Rdf.Literal} {range : Range}
      (shaped : ShapeOf graph iri shape path)
      (constrained : graph.value? shape Rdf.Vocabulary.shPattern = some (.literal pattern))
      (ranged : rangeOf graph iri shape path = .ok range) (ineligible : ¬ HoldsTexts range) :
      Witnessed graph iri (.patternNotAllowed iri path range.describe)
  | unsupportedNodeKind {distance : Nat} {above : String} {value : Term}
      (stands : Above graph iri distance above)
      (carried : graph.value? (.iri above) Rdf.Vocabulary.shNodeKind = some value)
      (other : value ∉ [.iri Rdf.Vocabulary.shIri, .iri Rdf.Vocabulary.shBlankNode,
        .iri Rdf.Vocabulary.shBlankNodeOrIri]) :
      Witnessed graph iri (.unsupportedNodeKind iri value.name)
  | invalidExtensible {distance : Nat} {above : String} {value : Term}
      (stands : Above graph iri distance above)
      (carried : graph.value? (.iri above) Rdf.Vocabulary.isExtensible = some value)
      (other : IsNo IsTruth value) :
      Witnessed graph iri (.invalidLiteral above Rdf.Vocabulary.isExtensible value.name)
  | invalidAbstract {value : Term}
      (carried : graph.value? (.iri iri) Rdf.Vocabulary.isAbstract = some value)
      (other : IsNo IsTruth value) :
      Witnessed graph iri (.invalidLiteral iri Rdf.Vocabulary.isAbstract value.name)
  | invalidCount {shape value : Term} {path predicate : String} (shaped : ShapeOf graph iri shape path)
      (bounds : predicate = Rdf.Vocabulary.shMinCount ∨ predicate = Rdf.Vocabulary.shMaxCount)
      (carried : graph.value? shape predicate = some value) (other : IsNo IsCount value) :
      Witnessed graph iri (.invalidLiteral shape.name predicate value.name)

section

variable {graph : Graph}

theorem bind_iri?_eq_none {found : Option Term} :
    found.bind Term.iri? = none ↔ ∀ iri, found ≠ some (.iri iri) := by
  cases found with
  | none => simp
  | some term => cases term <;> simp [Term.iri?]

theorem readValue?_failsOnly {α : Type} {read : String → Option α} {accepted : String → Prop}
    (refuses : ∀ text, read text = none ↔ ¬ accepted text) {subject : Term} {predicate : String}
    {allowed : BuildError → Prop}
    (witnessed : ∀ value, graph.value? subject predicate = some value → IsNo accepted value →
      allowed (invalidLiteral subject predicate value)) :
    FailsOnly allowed (readValue? read graph subject predicate) := by
  unfold readValue?
  split
  · exact failsOnly_ok allowed none
  · rename_i value carried
    split
    · exact failsOnly_ok allowed _
    · rename_i refused
      refine failsOnly_error (witnessed value carried ?_)
      rintro parts rfl
      exact (refuses parts.value).mp refused

theorem ofIri?_eq_none {value : Term} (refused : value.iri?.bind NodeKind.ofIri? = none) :
    value ∉ [.iri Rdf.Vocabulary.shIri, .iri Rdf.Vocabulary.shBlankNode,
      .iri Rdf.Vocabulary.shBlankNodeOrIri] := by
  intro listed
  simp only [List.mem_cons, List.not_mem_nil, or_false] at listed
  rcases listed with rfl | rfl | rfl <;> exact absurd refused (by decide)

theorem nodeKind?_failsOnly {iri above : String} {distance : Nat}
    (stands : Above graph iri distance above) :
    FailsOnly (Witnessed graph iri) (nodeKind? graph iri (.iri above)) := by
  unfold nodeKind?
  split
  · exact failsOnly_ok _ none
  · rename_i value carried
    split
    · exact failsOnly_ok _ _
    · rename_i refused
      exact failsOnly_error (.unsupportedNodeKind stands carried (ofIri?_eq_none refused))

theorem inherited_failsOnly {α : Type} {look : Term → Except BuildError (Option α)} {iri : String}
    {allowed : BuildError → Prop}
    (each : ∀ distance above, Above graph iri distance above → FailsOnly allowed (look (.iri above))) :
    FailsOnly allowed (inherited graph look iri) := by
  intro fault fails
  rcases inherited_cases graph look iri with ⟨nothing, -⟩ | ⟨distance, above, stands, -, found, -⟩
  · cases nothing.symm.trans fails
  · exact each distance above stands fault (found.trans fails)

end

/-! Faults of shapes. -/

section

variable {graph : Graph} {iri path : String} {shape : Term}

theorem rangeOf_failsOnly (shaped : ShapeOf graph iri shape path) :
    FailsOnly (Witnessed graph iri) (rangeOf graph iri shape path) := by
  unfold rangeOf
  split
  · rename_i target refers
    split
    · exact failsOnly_ok _ _
    · rename_i refused
      refine failsOnly_error (.unknownClass shaped refers fun known declared same => ?_)
      subst same
      exact Option.filter_eq_none_iff.mp refused known rfl (by simpa [isClass] using declared)
  · rename_i classless
    split
    · rename_i head listed
      split
      · exact failsOnly_ok _ _
      · rename_i fault walked
        exact failsOnly_error (.malformedList shaped listed (Graph.list_eq_error_iff.mp walked))
    · rename_i unlisted
      split
      · exact failsOnly_ok _ _
      · rename_i typeless
        split
        · exact failsOnly_ok _ _
        · rename_i rangeless
          exact failsOnly_error (.missingRange shaped classless unlisted
            (bind_iri?_eq_none.mp typeless) (bind_iri?_eq_none.mp rangeless))

theorem patternOf_failsOnly (shaped : ShapeOf graph iri shape path) {range : Range}
    (ranged : rangeOf graph iri shape path = .ok range) :
    FailsOnly (Witnessed graph iri) (patternOf graph iri shape path range) := by
  unfold patternOf
  split
  · exact failsOnly_ok _ none
  · rename_i text found
    split
    · exact failsOnly_ok _ _
    · rename_i refused
      obtain ⟨value, constrained, literal⟩ := Option.bind_eq_some_iff.mp found
      obtain ⟨pattern, rfl⟩ : ∃ pattern, value = .literal pattern := by
        cases value <;> cases literal
        exact ⟨_, rfl⟩
      exact failsOnly_error (.patternNotAllowed shaped constrained ranged
        (mt Range.allowsPattern_iff.mpr refused))

theorem count?_failsOnly (shaped : ShapeOf graph iri shape path) {predicate : String}
    (bounds : predicate = Rdf.Vocabulary.shMinCount ∨ predicate = Rdf.Vocabulary.shMaxCount) :
    FailsOnly (Witnessed graph iri) (count? graph shape predicate) :=
  readValue?_failsOnly (fun _ => readCount?_eq_none)
    fun _ carried other => .invalidCount shaped bounds carried other

theorem buildProperty_failsOnly (resolver : Context.Resolver) (shaped : ShapeOf graph iri shape path) :
    FailsOnly (Witnessed graph iri) (buildProperty graph resolver iri shape path) := by
  unfold buildProperty
  refine (rangeOf_failsOnly shaped).bind fun range ranged => ?_
  refine (patternOf_failsOnly shaped ranged).bind fun _ _ => ?_
  refine (count?_failsOnly shaped (Or.inl rfl)).bind fun _ _ => ?_
  refine (count?_failsOnly shaped (Or.inr rfl)).bind fun _ _ => ?_
  exact failsOnly_ok _ _

theorem buildShape_failsOnly (resolver : Context.Resolver)
    (owned : ⟨.iri iri, Rdf.Vocabulary.shProperty, shape⟩ ∈ graph.triples) :
    FailsOnly (Witnessed graph iri) (buildShape graph resolver iri shape) := by
  unfold buildShape
  split
  · rename_i pathless
    exact failsOnly_error (.missingPath owned (bind_iri?_eq_none.mp pathless))
  · rename_i path found
    split
    · exact failsOnly_ok _ none
    · rename_i untyped
      exact (buildProperty_failsOnly resolver
        ⟨owned, pathOf?_eq_some.mp found, untyped⟩).map some

theorem buildShapes_failsOnly (resolver : Context.Resolver) {shapes : List Term}
    (owned : ∀ shape ∈ shapes, ⟨.iri iri, Rdf.Vocabulary.shProperty, shape⟩ ∈ graph.triples) :
    FailsOnly (Witnessed graph iri) (buildShapes graph resolver iri shapes) := by
  induction shapes with
  | nil => exact failsOnly_ok _ []
  | cons shape shapes ih =>
      obtain ⟨first, later⟩ := List.forall_mem_cons.mp owned
      refine (buildShape_failsOnly resolver first).bind fun _ _ => ?_
      exact (ih later).bind fun _ _ => failsOnly_ok _ _

end

theorem buildClass_failsOnly (graph : Graph) (resolver : Context.Resolver) (iri : String) :
    FailsOnly (Witnessed graph iri) (buildClass graph resolver iri) := by
  unfold buildClass
  refine (inherited_failsOnly fun _ _ stands => nodeKind?_failsOnly stands).bind fun _ _ => ?_
  refine (inherited_failsOnly fun _ _ _ => failsOnly_ok _ _).bind fun _ _ => ?_
  refine (inherited_failsOnly fun _ _ stands => readValue?_failsOnly (fun _ => readTruth?_eq_none)
    fun _ carried other => .invalidExtensible stands carried other).bind fun _ _ => ?_
  refine (readValue?_failsOnly (fun _ => readTruth?_eq_none)
    fun _ carried other => .invalidAbstract carried other).bind fun _ _ => ?_
  refine (buildShapes_failsOnly resolver fun _ => Graph.mem_objects.mp).bind fun _ _ => ?_
  exact failsOnly_ok _ _

section

variable {graph : Graph} {resolver : Context.Resolver}

theorem buildClasses_ok_iff {found : List (String × List Individual)} {iris : List String} :
    (∃ classes, buildClasses graph resolver found iris = .ok classes) ↔
      ∀ iri ∈ iris, ∃ modelClass, buildClass graph resolver iri = .ok modelClass := by
  induction iris generalizing found with
  | nil => exact ⟨by simp, fun _ => ⟨[], rfl⟩⟩
  | cons iri iris ih =>
      rw [List.forall_mem_cons, ← @ih (Keyed.erase iri found)]
      constructor
      · rintro ⟨classes, built⟩
        obtain ⟨first, runs, built⟩ := Outcomes.bind_eq_ok.mp built
        obtain ⟨others, run, built⟩ := Outcomes.bind_eq_ok.mp built
        exact ⟨⟨first, runs⟩, others, run⟩
      · rintro ⟨⟨first, runs⟩, others, run⟩
        exact ⟨_, Outcomes.bind_eq_ok.mpr
          ⟨first, runs, Outcomes.bind_eq_ok.mpr ⟨others, run, rfl⟩⟩⟩

theorem buildClasses_eq_error {found : List (String × List Individual)} {iris : List String}
    {fault : BuildError} (fails : buildClasses graph resolver found iris = .error fault) :
    ∃ before iri after, iris = before ++ iri :: after ∧
      (∀ other ∈ before, ∃ modelClass, buildClass graph resolver other = .ok modelClass) ∧
      buildClass graph resolver iri = .error fault := by
  induction iris generalizing found with
  | nil => cases fails
  | cons iri iris ih =>
      rcases Outcomes.bind_eq_error.mp fails with early | ⟨modelClass, built, fails⟩
      · exact ⟨[], iri, iris, rfl, nofun, early⟩
      · rcases Outcomes.bind_eq_error.mp fails with late | ⟨classes, _, done⟩
        · obtain ⟨before, failing, after, rfl, each, fault⟩ := ih late
          exact ⟨iri :: before, failing, after, rfl,
            List.forall_mem_cons.mpr ⟨⟨modelClass, built⟩, each⟩, fault⟩
        · cases done

/-- The fault of the class with the least IRI among those that cannot be built. -/
structure FirstFault (graph : Graph) (resolver : Context.Resolver) (iri : String)
    (fault : BuildError) : Prop where
  declared : iri ∈ classIris graph
  fails : buildClass graph resolver iri = .error fault
  least : ∀ other ∈ classIris graph, ∀ otherFault,
    buildClass graph resolver other = .error otherFault →
      other = iri ∨ Text.bytes iri < Text.bytes other

theorem exists_firstFault {found : List (String × List Individual)} {fault : BuildError}
    (fails : buildClasses graph resolver found (classIris graph) = .error fault) :
    ∃ iri, FirstFault graph resolver iri fault := by
  obtain ⟨before, iri, after, split, built, failing⟩ := buildClasses_eq_error fails
  have increasing : (before ++ iri :: after).Pairwise (· < ·) := split ▸ Sorted.pairwise_ofList _
  have behind := (List.pairwise_cons.mp (List.pairwise_append.mp increasing).2.1).1
  refine ⟨iri, split ▸ List.mem_append_right before List.mem_cons_self, failing, ?_⟩
  intro other declared otherFault otherFails
  rw [split] at declared
  rcases List.mem_append.mp declared with earlier | here
  · obtain ⟨modelClass, succeeds⟩ := built other earlier
    cases succeeds.symm.trans otherFails
  · rcases List.mem_cons.mp here with same | later
    · exact Or.inl same
    · exact Or.inr (Text.bytes_lt_iff.mpr (behind other later))

theorem FirstFault.unique {iri other : String} {fault otherFault : BuildError}
    (first : FirstFault graph resolver iri fault)
    (second : FirstFault graph resolver other otherFault) : fault = otherFault := by
  have same : iri = other := by
    rcases first.least other second.declared otherFault second.fails with same | after
    · exact same.symm
    · rcases second.least iri first.declared fault first.fails with same | before
      · exact same
      · exact absurd before (List.lt_asymm after)
  subst same
  exact Except.error.inj (first.fails.symm.trans second.fails)

theorem FirstFault.buildClasses {iri : String} {fault : BuildError}
    (first : FirstFault graph resolver iri fault) (found : List (String × List Individual)) :
    Model.buildClasses graph resolver found (classIris graph) = .error fault := by
  cases outcome : Model.buildClasses graph resolver found (classIris graph) with
  | ok classes =>
      obtain ⟨modelClass, built⟩ := buildClasses_ok_iff.mp ⟨classes, outcome⟩ iri first.declared
      cases built.symm.trans first.fails
  | error other =>
      obtain ⟨_, second⟩ := exists_firstFault outcome
      rw [first.unique second]

theorem placeClasses_failsOnly (unplaced : List (String × Class)) (placed : List String)
    (delayed : Nat) (queue : List String) :
    FailsOnly (fun fault => ∃ stuck, fault = .inheritanceCycle stuck)
      (placeClasses unplaced placed delayed queue) := by
  fun_induction placeClasses unplaced placed delayed queue with
  | case1 unplaced placed delayed => exact failsOnly_ok _ []
  | case2 unplaced placed delayed iri queue ready accepted ih => exact ih.map _
  | case3 unplaced placed delayed iri queue refused stalled => exact failsOnly_error ⟨_, rfl⟩
  | case4 unplaced placed delayed iri queue refused moving ih => exact ih

theorem build_eq_error_iff {fault : BuildError}
    (acyclic : ∀ stuck, fault ≠ .inheritanceCycle stuck) :
    build graph resolver = .error fault ↔
      buildClasses graph resolver (discoverIndividuals graph resolver) (classIris graph) =
        .error fault := by
  constructor
  · intro fails
    rcases Outcomes.bind_eq_error.mp fails with early | ⟨classes, _, fails⟩
    · exact early
    · rcases Outcomes.bind_eq_error.mp fails with late | ⟨ordered, _, done⟩
      · obtain ⟨stuck, cycle⟩ := placeClasses_failsOnly _ _ _ _ fault late
        exact absurd cycle (acyclic stuck)
      · cases done
  · intro fails
    exact Outcomes.bind_eq_error.mpr (Or.inl fails)

end

/-- A model is refused with a fault other than a cycle exactly if it is the fault of the class with the
least IRI among those that cannot be built, and then the graph holds its cause. -/
theorem build_fault_first {graph : Graph} {resolver : Context.Resolver} {fault : BuildError}
    (acyclic : ∀ stuck, fault ≠ .inheritanceCycle stuck) :
    build graph resolver = .error fault ↔
      ∃ iri, FirstFault graph resolver iri fault ∧ Witnessed graph iri fault := by
  rw [build_eq_error_iff acyclic]
  constructor
  · intro fails
    obtain ⟨iri, first⟩ := exists_firstFault fails
    exact ⟨iri, first, buildClass_failsOnly graph resolver iri fault first.fails⟩
  · rintro ⟨iri, first, _⟩
    exact first.buildClasses (discoverIndividuals graph resolver)

def faultyGraph : Graph :=
  .ofList [
    ⟨.iri "c", Rdf.Vocabulary.rdfType, .iri Rdf.Vocabulary.owlClass⟩,
    ⟨.iri "c", Rdf.Vocabulary.shNodeKind, .plain "none"⟩,
    ⟨.iri "b", Rdf.Vocabulary.rdfType, .iri Rdf.Vocabulary.owlClass⟩,
    ⟨.iri "b", Rdf.Vocabulary.rdfsSubClassOf, .iri "a"⟩,
    ⟨.iri "b", Rdf.Vocabulary.shProperty, .blank "shape"⟩,
    ⟨.blank "shape", Rdf.Vocabulary.shPath, .iri "size"⟩,
    ⟨.blank "shape", Rdf.Vocabulary.shIn, .blank "cell"⟩,
    ⟨.blank "cell", Rdf.Vocabulary.rdfFirst, .plain "wide"⟩,
    ⟨.iri "a", Rdf.Vocabulary.rdfType, .iri Rdf.Vocabulary.owlClass⟩]

theorem build_fault_first_list :
    build faultyGraph (.ofDocuments []) = .error (.malformedList "b" "size" ⟨.blank "cell"⟩) ∧
      FirstFault faultyGraph (.ofDocuments []) "b" (.malformedList "b" "size" ⟨.blank "cell"⟩) ∧
      Witnessed faultyGraph "b" (.malformedList "b" "size" ⟨.blank "cell"⟩) := by
  have fails : build faultyGraph (.ofDocuments []) =
      .error (.malformedList "b" "size" ⟨.blank "cell"⟩) := by
    decide +kernel
  have acyclic (stuck : List String) :
      BuildError.malformedList "b" "size" ⟨.blank "cell"⟩ ≠ .inheritanceCycle stuck := by
    intro same
    cases same
  obtain ⟨iri, first, witnessed⟩ := (build_fault_first acyclic).mp fails
  obtain rfl : iri = "b" := by cases witnessed; rfl
  exact ⟨fails, first, witnessed⟩

end ShapeCompiler.Model
