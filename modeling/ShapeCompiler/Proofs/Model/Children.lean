import Mathlib.Logic.Relation
import ShapeCompiler.Proofs.Model.WellFormed

/-! Children and parents. Every class of a model knows its children, which are the classes that name it as
a parent, and below it are the classes that have it as an ancestor. -/

namespace ShapeCompiler.Model

open Rdf (Graph Term)

section

variable {graph : Graph} {resolver : Context.Resolver} {classes : List Class} {model : Model}

theorem Built.child_iff (built : Built graph resolver classes model) {parent child : Class}
    (above : parent ∈ model.classes) (below : child ∈ model.classes) :
    child.id ∈ parent.derived ↔ parent.id ∈ child.parents := by
  rw [built.mem_derived above]
  constructor
  · rintro ⟨other, inside, direct, same⟩
    rwa [← List.inj_on_of_nodup_map built.distinct inside below same]
  · intro direct
    exact ⟨child, below, direct, rfl⟩

theorem Built.derived_increasing (built : Built graph resolver classes model) {modelClass : Class}
    (member : modelClass ∈ model.classes) : modelClass.derived.Pairwise (· < ·) := by
  have once : (Keyed.items modelClass.id (childrenByParent classes)).Nodup := by
    rw [built.items_childrenByParent]
    have distinct : (classes.map Class.id).Nodup := built.ids ▸ nodup_classIris graph
    exact distinct.sublist (List.filter_sublist.map Class.id)
  rw [built.derived member, childrenOf]
  have sorted := Sorted.pairwise_byKey id (Keyed.items modelClass.id (childrenByParent classes))
  have apart := (Sorted.perm_byKey id _).nodup_iff.mpr once
  refine (sorted.and apart).imp ?_
  rintro left right ⟨atMost, different⟩
  exact Std.lt_of_le_of_ne atMost different

theorem Built.not_own_child (built : Built graph resolver classes model) {modelClass : Class}
    (member : modelClass ∈ model.classes) : modelClass.id ∉ modelClass.derived := by
  intro own
  exact (built.parents_known member ((built.child_iff member member).mp own)).1 rfl

end

/-- Children are the inverse of parents. Each class lists its children once, in the order of the bytes of
their IRIs, and all of them are other classes of the model. -/
theorem children_exact {graph : Graph} {resolver : Context.Resolver} {model : Model}
    (succeeds : build graph resolver = .ok model) :
    (∀ parent ∈ model.classes, ∀ child ∈ model.classes,
      child.id ∈ parent.derived ↔ parent.id ∈ child.parents) ∧
    ∀ modelClass ∈ model.classes,
      modelClass.derived.Pairwise (fun left right => Text.bytes left < Text.bytes right) ∧
      (∀ iri ∈ modelClass.derived, iri ∈ model.classes.map Class.id) ∧
      modelClass.id ∉ modelClass.derived := by
  obtain ⟨classes, built⟩ := build_sound succeeds
  refine ⟨fun parent above child below => built.child_iff above below, ?_⟩
  intro modelClass member
  refine ⟨?_, ?_, built.not_own_child member⟩
  · exact (built.derived_increasing member).imp Text.bytes_lt_iff.mpr
  · intro iri listed
    obtain ⟨child, inside, _, rfl⟩ := (built.mem_derived member).mp listed
    exact List.mem_map_of_mem inside

def diamondGraph : Graph :=
  .ofList [
    ⟨.iri "d", Rdf.Vocabulary.rdfType, .iri Rdf.Vocabulary.owlClass⟩,
    ⟨.iri "d", Rdf.Vocabulary.rdfsSubClassOf, .iri "c"⟩,
    ⟨.iri "d", Rdf.Vocabulary.rdfsSubClassOf, .iri "b"⟩,
    ⟨.iri "c", Rdf.Vocabulary.rdfType, .iri Rdf.Vocabulary.owlClass⟩,
    ⟨.iri "c", Rdf.Vocabulary.rdfsSubClassOf, .iri "a"⟩,
    ⟨.iri "b", Rdf.Vocabulary.rdfType, .iri Rdf.Vocabulary.owlClass⟩,
    ⟨.iri "b", Rdf.Vocabulary.rdfsSubClassOf, .iri "a"⟩,
    ⟨.iri "a", Rdf.Vocabulary.rdfType, .iri Rdf.Vocabulary.owlClass⟩,
    ⟨.iri "a", Rdf.Vocabulary.isAbstract, .plain "true"⟩]

theorem children_exact_diamond :
    ∃ model, build diamondGraph (.ofDocuments []) = .ok model ∧
      model.classes.map (fun modelClass => (modelClass.id, modelClass.derived)) =
        [("a", ["b", "c"]), ("b", ["d"]), ("c", ["d"]), ("d", [])] ∧
      ∀ parent ∈ model.classes, ∀ child ∈ model.classes,
        child.id ∈ parent.derived ↔ parent.id ∈ child.parents := by
  have listed : (build diamondGraph (.ofDocuments [])).toOption.map (fun model =>
      model.classes.map fun modelClass => (modelClass.id, modelClass.derived)) =
        some [("a", ["b", "c"]), ("b", ["d"]), ("c", ["d"]), ("d", [])] := by
    decide +kernel
  obtain ⟨model, succeeds, same⟩ := Outcomes.exists_ok_of_looked listed
  exact ⟨model, succeeds, same, (children_exact succeeds).1⟩

def ChildOf (model : Model) (parent child : Class) : Prop :=
  child ∈ model.classes ∧ parent.id ∈ child.parents

theorem Ancestor.of_parent {classes : List Class} {between child : Class} {iri : String}
    (ancestor : Ancestor classes between iri) (member : between ∈ classes)
    (direct : between.id ∈ child.parents) : Ancestor classes child iri := by
  induction ancestor with
  | parent further => exact .further (.parent direct) member further
  | further _ inside further ih => exact .further ih inside further

theorem Ancestor.reflTransGen {model : Model} {modelClass other : Class}
    (ancestor : Ancestor model.classes other modelClass.id) (inside : other ∈ model.classes) :
    Relation.ReflTransGen (ChildOf model) modelClass other := by
  -- The ancestry grows at its upper end, so the induction is for all classes there.
  generalize named : modelClass.id = iri at ancestor
  induction ancestor generalizing modelClass with
  | parent direct => exact .single ⟨inside, named ▸ direct⟩
  | @further between iri nearer member direct ih =>
      have step : ChildOf model modelClass between := ⟨member, named ▸ direct⟩
      exact .head step (ih rfl)

theorem reflTransGen_childOf_iff {model : Model} {modelClass other : Class}
    (member : modelClass ∈ model.classes) :
    Relation.ReflTransGen (ChildOf model) modelClass other ↔
      other = modelClass ∨ other ∈ model.classes ∧ Ancestor model.classes other modelClass.id := by
  constructor
  · intro path
    induction path with
    | refl => exact Or.inl rfl
    | tail _ step ih =>
        refine Or.inr ⟨step.1, ?_⟩
        rcases ih with rfl | ⟨inside, ancestor⟩
        · exact .parent step.2
        · exact ancestor.of_parent inside step.2
  · rintro (rfl | ⟨inside, ancestor⟩)
    · exact .refl
    · exact ancestor.reflTransGen inside

end ShapeCompiler.Model
